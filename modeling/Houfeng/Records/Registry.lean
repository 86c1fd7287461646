import Houfeng.Center.Syncing

/-!
# The vocabulary of records

The closed lists of record types, statuses and lifecycles, and the grammars of the identifiers that
records and their filters refer to.
-/

namespace Houfeng.Records

def builtinRecordTypes : List String :=
  ["troubleshooting", "maintenance", "migration", "provider_communication", "billing",
    "important_finding", "note"]

def canonicalStatusGroups : List String :=
  ["pending", "in_progress", "waiting", "verification", "completed", "cancelled"]

/-- `workflowRecordTypeDefinition`. -/
def workflowStatuses : List (String × String) :=
  [("planned", "pending"), ("executing", "in_progress"), ("verifying", "verification"),
    ("completed", "completed"), ("cancelled", "cancelled")]

/-- `recordTypeSpecs`: the statuses of a type with their groups. A type without statuses does not
support one. -/
def recordTypeStatuses : String → List (String × String)
  | "troubleshooting" =>
    [("pending_investigation", "pending"), ("investigating", "in_progress"),
      ("verifying", "verification"), ("resolved", "completed"), ("closed", "completed"),
      ("cancelled", "cancelled")]
  | "maintenance" => workflowStatuses
  | "migration" => workflowStatuses
  | "provider_communication" =>
    [("pending_contact", "pending"), ("waiting_provider", "waiting"),
      ("waiting_internal", "in_progress"), ("resolved", "completed"), ("closed", "completed"),
      ("cancelled", "cancelled")]
  | "billing" =>
    [("pending_review", "pending"), ("processing", "in_progress"), ("resolved", "completed"),
      ("closed", "completed"), ("cancelled", "cancelled")]
  | _ => []

def validRecordType (recordType : String) : Bool := recordType ∈ builtinRecordTypes

def validStatusGroup (group : String) : Bool := group ∈ canonicalStatusGroups

def validBusinessStatus (status : String) : Bool :=
  builtinRecordTypes.any fun recordType => (recordTypeStatuses recordType).any (·.1 = status)

/-- `ValidateLifecycle`. -/
def validLifecycle (lifecycle : String) : Bool := lifecycle ∈ ["active", "archived"]

def validSubjectKind (kind : String) : Bool := kind ∈ ["vps", "monitoring_instance", "target"]

def validRelationRole (role : String) : Bool := role ∈ ["affected", "context", "evidence_source"]

def isLowerHex (c : Char) : Bool := ('0' ≤ c && c ≤ '9') || ('a' ≤ c && c ≤ 'f')

/-- An identifier of a tag and so many hexadecimal digits. -/
def hexIdentity (tag : String) (digits : Nat) (value : String) : Bool :=
  value.toList.length = tag.length + digits && tag.toList.isPrefixOf value.toList &&
    (value.toList.drop tag.length).all isLowerHex

def validSubjectSourceID (kind value : String) : Bool :=
  match kind with
  | "vps" => hexIdentity "vps_" 16 value
  | "monitoring_instance" => hexIdentity "mi_" 16 value
  | "target" => hexIdentity "tg_" 16 value
  | _ => false

def validUserID (value : String) : Bool := hexIdentity "usr_" 24 value

/-- An identifier of a tag and up to 64 letters and digits (`validStoredRecordIdentity`). -/
def wordIdentity (tag value : String) : Bool :=
  tag.length + 1 ≤ value.length && value.length ≤ tag.length + 64 &&
    tag.toList.isPrefixOf value.toList &&
    (value.toList.drop tag.length).all fun c => ('a' ≤ c && c ≤ 'z') || ('0' ≤ c && c ≤ '9')

def validRecordRootID (value : String) : Bool := wordIdentity "rec_" value

end Houfeng.Records
