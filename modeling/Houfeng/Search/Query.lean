import Houfeng.Foundation.Framing
import Houfeng.Records.Registry

/-!
# Search queries

The normalization of a search question and the bytes its cursor is bound to. Strings are valid
UTF-8; the tables of Unicode are parameters. A time is an instant with the zone it was given in.
-/

namespace Houfeng.Search

open Center Records

/-- NFC and the lower case of a character. -/
structure Unicode where
  nfc : String → String
  toLower : Char → Char

def isControl (c : Char) : Bool := c.toNat < 32 || (127 ≤ c.toNat && c.toNat < 160)

/-- A `time.Time`: nanoseconds since the Unix epoch, and the offset of its zone in seconds. -/
structure Time where
  instant : Int
  zone : Int
deriving DecidableEq

/-- The instant of the zero `time.Time`. -/
def zeroInstant : Int := -62135596800 * 1000000000

structure TimeRange where
  start : Option Time
  stop : Option Time
deriving DecidableEq

structure SubjectFilter where
  kind : String
  role : String
  sourceID : String
  placement : String
deriving DecidableEq

/-- The query as it was requested. -/
structure QueryValues where
  text : String
  types : List String
  statuses : List String
  statusGroups : List String
  lifecycles : List String
  subjects : List SubjectFilter
  ownerIDs : List String
  participantIDs : List String
  tags : List String
  followUp : String
  action : String
  occurred : TimeRange
  updated : TimeRange
  sort : String
  pageSize : Nat
deriving DecidableEq

/-- `ErrInvalidQuery` with the field it names. -/
structure InvalidQuery where
  field : String
deriving DecidableEq

def maxQueryTextRunes : Nat := 256
def maxQueryFilterValues : Nat := 32
def maxTagRunes : Nat := 64
def defaultPageSize : Nat := 50
def maxPageSize : Nat := 100

/-! ## Text -/

/-- One character of `foldSearchText`: the text built so far, and whether a space is pending. -/
def foldCharacter (state : List Char × Bool) (c : Char) : Option (List Char × Bool) :=
  if isSpace c then some (state.1, !state.1.isEmpty)
  else if c = '�' ∨ isControl c = true then none
  else some (if state.2 then state.1 ++ [' ', c] else state.1 ++ [c], false)

variable (u : Unicode)

def foldSearchText (value : String) : Option String :=
  if value = "" then some ""
  else ((u.nfc value).toList.foldlM foldCharacter ([], false)).map fun state => String.ofList state.1

def normalizeQueryText (value : String) : Except InvalidQuery String :=
  match foldSearchText u value with
  | none => .error ⟨"text"⟩
  | some collapsed =>
    if collapsed.length > maxQueryTextRunes then .error ⟨"text length"⟩ else .ok collapsed

/-! ## Filter values -/

/-- Checked values without repetitions. -/
def collectValues {α : Type} [DecidableEq α] (check : α → Except InvalidQuery Unit) (field : String) :
    List α → List α → Except InvalidQuery (List α)
  | seen, [] => .ok seen
  | seen, value :: values => do
    check value
    if value ∈ seen then .error ⟨"duplicate " ++ field⟩
    else collectValues check field (seen ++ [value]) values

/-- The common shape of the filters: bounded, checked, without duplicates, and sorted by a key. -/
def normalizeValues {α : Type} [DecidableEq α] (field : String) (check : α → Except InvalidQuery Unit)
    (key : α → String) (values : List α) : Except InvalidQuery (List α) := do
  if values = [] then .ok []
  else if values.length > maxQueryFilterValues then .error ⟨field ++ " count"⟩
  else
    let normalized ← collectValues check field [] values
    .ok (normalized.mergeSort fun a b => key a ≤ key b)

def normalizeFilterValues (field : String) (valid : String → Bool) :
    List String → Except InvalidQuery (List String) :=
  normalizeValues field (fun value => if valid value then .ok () else .error ⟨field⟩) id

/-- A tag as it is stored: `strings.ToLower(strings.TrimSpace(value))`. -/
def foldTag (value : String) : String :=
  String.ofList ((trimSpace value).toList.map u.toLower)

def normalizeTags (values : List String) : Except InvalidQuery (List String) :=
  normalizeFilterValues "tag" (fun value => value ≠ "" && value.length ≤ maxTagRunes)
    (values.map (foldTag u))

def validSubjectPlacement (placement : String) : Bool := placement ∈ ["", "primary", "related"]

variable (filter : SubjectFilter)

def checkSubject : Except InvalidQuery Unit :=
  if validSubjectKind filter.kind = false then .error ⟨"subject kind"⟩
  else if filter.role ≠ "" ∧ validRelationRole filter.role = false then .error ⟨"subject role"⟩
  else if filter.sourceID ≠ "" ∧ validSubjectSourceID filter.kind filter.sourceID = false then
    .error ⟨"subject source id"⟩
  else if validSubjectPlacement filter.placement = false then .error ⟨"subject placement"⟩
  else .ok ()

def subjectFilterOrder : String :=
  "\x00".intercalate [filter.kind, filter.role, filter.sourceID, filter.placement]

def normalizeSubjectFilters : List SubjectFilter → Except InvalidQuery (List SubjectFilter) :=
  normalizeValues "subject" checkSubject subjectFilterOrder

/-! ## Times -/

/-- `value.UTC().Truncate(time.Microsecond)`. -/
def Time.truncated (t : Time) : Time := ⟨t.instant - t.instant % 1000, 0⟩

def normalizeRangeBound (field : String) : Option Time → Except InvalidQuery (Option Time)
  | none => .ok none
  | some t => if t.instant = zeroInstant then .error ⟨field⟩ else .ok (some t.truncated)

def normalizeTimeRange (field : String) (value : TimeRange) : Except InvalidQuery TimeRange := do
  let start ← normalizeRangeBound field value.start
  let stop ← normalizeRangeBound field value.stop
  match start, stop with
  | some a, some b => if a.instant < b.instant then .ok ⟨start, stop⟩ else .error ⟨field⟩
  | _, _ => .ok ⟨start, stop⟩

/-- `UnixMicro`, as the `uint64` it is written as. -/
def Time.unixMicro (t : Time) : Nat := (t.instant / 1000 % 2 ^ 64).toNat

/-! ## Queries -/

def validFollowUpState (state : String) : Bool := state ∈ ["", "none", "scheduled", "overdue"]

def validActionState (state : String) : Bool := state ∈ ["", "none", "open", "overdue"]

def validSort (sort : String) : Bool := sort ∈ ["updated_at_desc", "updated_at_asc"]

def encodeSubject : Framing.Bytes :=
  Framing.string filter.kind ++ (Framing.string filter.role ++
    (Framing.string filter.sourceID ++ Framing.string filter.placement))

def encodeTime (t : Time) : Framing.Bytes := Framing.bigEndian 8 t.unixMicro

/-- The bytes that a cursor is bound to. -/
def canonicalQueryBytes (q : QueryValues) : Framing.Bytes :=
  Framing.string "recordsearch.query.v1" ++ (Framing.bigEndian 8 1 ++ (Framing.string q.text ++
    (Framing.list Framing.string q.types ++ (Framing.list Framing.string q.statuses ++
    (Framing.list Framing.string q.statusGroups ++ (Framing.list Framing.string q.lifecycles ++
    (Framing.list encodeSubject q.subjects ++ (Framing.list Framing.string q.ownerIDs ++
    (Framing.list Framing.string q.participantIDs ++ (Framing.list Framing.string q.tags ++
    (Framing.string q.followUp ++ (Framing.string q.action ++
    (Framing.option encodeTime q.occurred.start ++ (Framing.option encodeTime q.occurred.stop ++
    (Framing.option encodeTime q.updated.start ++ (Framing.option encodeTime q.updated.stop ++
    (Framing.string q.sort ++ Framing.bigEndian 8 q.pageSize)))))))))))))))))

/-- The normalized values and their canonical bytes. -/
structure Query where
  values : QueryValues
  canonicalBytes : Framing.Bytes
deriving DecidableEq

/-- Checks every field and puts it in its normal form. -/
def normalizeQuery (values : QueryValues) : Except InvalidQuery Query := do
  let text ← normalizeQueryText u values.text
  let types ← normalizeFilterValues "record type" validRecordType values.types
  let statuses ← normalizeFilterValues "business status" validBusinessStatus values.statuses
  let statusGroups ← normalizeFilterValues "status group" validStatusGroup values.statusGroups
  let lifecycles ← normalizeFilterValues "lifecycle" validLifecycle values.lifecycles
  let subjects ← normalizeSubjectFilters values.subjects
  let ownerIDs ← normalizeFilterValues "owner id" validUserID values.ownerIDs
  let participantIDs ← normalizeFilterValues "participant id" validUserID values.participantIDs
  let tags ← normalizeTags u values.tags
  if validFollowUpState values.followUp = false then .error ⟨"follow up state"⟩
  else if validActionState values.action = false then .error ⟨"action state"⟩
  else
    let occurred ← normalizeTimeRange "occurred range" values.occurred
    let updated ← normalizeTimeRange "updated range" values.updated
    let sort := if values.sort = "" then "updated_at_desc" else values.sort
    if validSort sort = false then .error ⟨"sort"⟩
    else
      let pageSize := if values.pageSize = 0 then defaultPageSize else values.pageSize
      if pageSize > maxPageSize then .error ⟨"page size"⟩
      else
        let normalized : QueryValues :=
          { text, types, statuses, statusGroups, lifecycles, subjects, ownerIDs, participantIDs,
            tags, followUp := values.followUp, action := values.action, occurred, updated, sort,
            pageSize }
        .ok ⟨normalized, canonicalQueryBytes normalized⟩

end Houfeng.Search
