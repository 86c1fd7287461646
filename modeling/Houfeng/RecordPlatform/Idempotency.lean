import Houfeng.Foundation.Base64
import Houfeng.Foundation.Transaction
import Mathlib.Algebra.Group.Nat.Defs

/-!
# Idempotency keys of the record platform

The row of one idempotency key and the transactions on it: claiming the key, renewing and releasing
the claim, completing it. A transaction judges leases by the timestamp at which it began, and takes
effect under the lock of the row. A claim inserts a missing row, and reads again if another has.

Times are in microseconds, the precision of the database, and 0 is Go's zero time; durations are in
nanoseconds, as Go's are. A digest is what is stored of a fingerprint.
-/

namespace Houfeng.RecordPlatform

abbrev Digest := Vector UInt8 32

def zeroDigest : Digest := Vector.replicate 32 0

inductive PlatformError
  | invalidIdempotencyKey
  | invalidIdempotencyClaim (field : String)
  | invalidIdempotencyRecord (field : String)
  | invalidOwnerLease
  | invalidRequestFingerprint
  | idempotencyKeyReused
  | idempotencyInProgress
  | idempotencyConflictState
  | lostOwnerLease
  | database
deriving DecidableEq

/-! ## Identifiers -/

def deletionRequestTokenV1Prefix : List Char := "drt1_".toList

def deletionRequestTokenV1RawLength : Nat := 32

def deletionRequestTokenV1EncodedLength : Nat := 43

/-- A deletion token starts here. -/
def tokenTransportAt (value : List Char) : Bool :=
  deletionRequestTokenV1Prefix.isPrefixOf value &&
    match Base64.decode Base64.url
      ((value.drop deletionRequestTokenV1Prefix.length).take deletionRequestTokenV1EncodedLength) with
    | some decoded => decoded.length = deletionRequestTokenV1RawLength
    | none => false

/-- A token stands anywhere in the text. -/
def isDeletionRequestTokenTransportEncoding (value : List Char) : Bool :=
  let transportLength := deletionRequestTokenV1Prefix.length + deletionRequestTokenV1EncodedLength
  value.tails.any fun tail => transportLength ≤ tail.length && tokenTransportAt tail

def validRecordPlatformOwnerID (value : String) : Bool :=
  value.toList ≠ [] && value.utf8ByteSize ≤ 128 &&
    !isDeletionRequestTokenTransportEncoding value.toList &&
    value.toList.all fun c => ('a' ≤ c && c ≤ 'z') || ('0' ≤ c && c ≤ '9') || c = '_' || c = '-'

def validIdempotencyKeyValue (value : String) : Bool :=
  value.toList ≠ [] && value.utf8ByteSize ≤ 200 &&
    !isDeletionRequestTokenTransportEncoding value.toList &&
    value.toList.all fun c =>
      ('a' ≤ c && c ≤ 'z') || ('A' ≤ c && c ≤ 'Z') || ('0' ≤ c && c ≤ '9') ||
        c = '.' || c = '_' || c = '~' || c = '-'

def operationKinds : List String :=
  ["record_create", "record_update", "record_delete", "record_permanent_delete",
    "deletion_preview", "deletion_fence", "record_action_create", "record_action_update",
    "record_action_complete", "record_action_cancel", "record_action_reopen",
    "record_comment_create", "record_comment_edit", "record_comment_redact",
    "record_watch_preference"]

/-- The key of a request within its kind of operation. -/
structure IdempotencyKey where
  projectID : String
  operationKind : String
  key : String

def IdempotencyKey.validate (key : IdempotencyKey) : Except PlatformError Unit :=
  if key.projectID ≠ "default" then .error .invalidIdempotencyKey
  else if key.operationKind ∉ operationKinds then .error .invalidIdempotencyKey
  else if validIdempotencyKeyValue key.key = false then .error .invalidIdempotencyKey
  else .ok ()

/-- Who works on a request, and until when. -/
structure OwnerLease where
  ownerID : String
  generation : Nat
  expiresAt : Int
deriving DecidableEq

def OwnerLease.validate (lease : OwnerLease) : Except PlatformError Unit :=
  if validRecordPlatformOwnerID lease.ownerID = false ∨ lease.generation = 0 ∨
      lease.expiresAt = 0 then .error .invalidOwnerLease
  else .ok ()

/-- Only the canonical fingerprints of a request are sealed. -/
structure RequestFingerprint where
  digest : Digest
  sealed : Bool
deriving DecidableEq

def RequestFingerprint.validate (f : RequestFingerprint) : Except PlatformError Unit :=
  if f.sealed then .ok () else .error .invalidRequestFingerprint

def microseconds (duration : Int) : Int := duration.tdiv 1000

def validIdempotencyExpiryDurations (ownerLeaseDuration recordTTL : Int) : Bool :=
  0 < microseconds ownerLeaseDuration && microseconds ownerLeaseDuration < microseconds recordTTL

/-! ## Records -/

inductive IdempotencyStatus
  | inProgress
  | completed
  | conflict
deriving DecidableEq

/-- What is known of a request under its key. -/
structure IdempotencyRecord where
  key : IdempotencyKey
  requestFingerprint : Digest
  resultFingerprint : Option Digest
  status : IdempotencyStatus
  owner : Option OwnerLease
  expiresAt : Int

def IdempotencyRecord.validate (record : IdempotencyRecord) : Except PlatformError Unit :=
  if record.key.validate ≠ .ok () then .error (.invalidIdempotencyRecord "key")
  else if record.expiresAt = 0 then .error (.invalidIdempotencyRecord "expiry")
  else match record.status with
    | .inProgress =>
      match record.owner with
      | none => .error (.invalidIdempotencyRecord "in progress ownership")
      | some owner =>
        if owner.validate ≠ .ok () ∨ record.resultFingerprint ≠ none ∨
            ¬owner.expiresAt < record.expiresAt then
          .error (.invalidIdempotencyRecord "in progress ownership")
        else .ok ()
    | .completed =>
      if record.owner ≠ none ∨ record.resultFingerprint = none ∨
          record.resultFingerprint = some zeroDigest then
        .error (.invalidIdempotencyRecord "completed result")
      else .ok ()
    | .conflict => .ok ()

inductive IdempotencyResolution
  | replay (resultFingerprint : Digest)
  | takeover

/-- Whether the request is answered again, taken over, or refused. -/
def resolveIdempotency (record : IdempotencyRecord) (request : RequestFingerprint)
    (observedDBTime : Int) : Except PlatformError IdempotencyResolution := do
  record.validate
  request.validate
  if observedDBTime = 0 then .error (.invalidIdempotencyRecord "observed database time")
  else if record.status = .conflict then .error .idempotencyConflictState
  else if request.digest ≠ record.requestFingerprint then .error .idempotencyKeyReused
  else match record.status, record.resultFingerprint, record.owner with
    | .completed, some result, _ => .ok (.replay result)
    | .inProgress, _, some owner =>
      if ¬observedDBTime < owner.expiresAt then .ok .takeover else .error .idempotencyInProgress
    | _, _, _ => .error (.invalidIdempotencyRecord "status")

/-! ## The row -/

/-- The row of the key. -/
structure Row where
  requestFingerprint : Digest
  resultFingerprint : Option Digest
  status : IdempotencyStatus
  ownerID : String
  ownerGeneration : Nat
  ownerExpiresAt : Option Int
  createdAt : Int
  expiresAt : Int

variable (row : Row) (key : IdempotencyKey)

/-- The check constraints of the table. -/
def Row.checks : Bool :=
  (decide (row.status = .inProgress) = (row.ownerID ≠ "" && row.ownerExpiresAt.isSome)) &&
    row.createdAt < row.expiresAt

def Row.record : Except PlatformError IdempotencyRecord :=
  if row.ownerID ≠ "" ∨ row.ownerGeneration ≠ 0 ∨ row.ownerExpiresAt ≠ none then
    match row.ownerExpiresAt with
    | none => .error (.invalidIdempotencyRecord "observed owner")
    | some ownerExpiresAt =>
      if row.ownerGeneration < 1 then .error (.invalidIdempotencyRecord "observed owner")
      else .ok ⟨key, row.requestFingerprint, row.resultFingerprint, row.status,
        some ⟨row.ownerID, row.ownerGeneration, ownerExpiresAt⟩, row.expiresAt⟩
  else .ok ⟨key, row.requestFingerprint, row.resultFingerprint, row.status, none, row.expiresAt⟩

abbrev KeyTx := Tx PlatformError (Option Row)

def writeRow : KeyTx Unit :=
  if row.checks then set (some row) else throw .database

def scanIdempotencyOwner : KeyTx OwnerLease :=
  match row.ownerExpiresAt with
  | none => throw .database
  | some expiresAt =>
    if row.ownerGeneration < 1 then throw .invalidOwnerLease
    else
      let owner : OwnerLease := ⟨row.ownerID, row.ownerGeneration, expiresAt⟩
      match owner.validate with
      | .ok _ => pure owner
      | .error e => throw e

structure ClaimInput where
  requestFingerprint : RequestFingerprint
  ownerID : String
  ownerLeaseDuration : Int
  recordTTL : Int
deriving DecidableEq

structure RenewInput where
  owner : OwnerLease
  ownerLeaseDuration : Int
  recordTTL : Int
deriving DecidableEq

inductive ClaimResult
  | acquired (owner : OwnerLease)
  | replay (result : Digest)

variable (timestamp : Int) (input : ClaimInput)

def Row.inserted : Row where
  requestFingerprint := input.requestFingerprint.digest
  resultFingerprint := none
  status := .inProgress
  ownerID := input.ownerID
  ownerGeneration := 1
  ownerExpiresAt := some (timestamp + microseconds input.ownerLeaseDuration)
  createdAt := timestamp
  expiresAt := timestamp + microseconds input.recordTTL

/-- The row with the next owner. -/
def Row.takenOver (timestamp : Int) (input : ClaimInput) : Row :=
  { row with
    ownerID := input.ownerID
    ownerGeneration := row.ownerGeneration + 1
    ownerExpiresAt := some (timestamp + microseconds input.ownerLeaseDuration)
    expiresAt := timestamp + microseconds input.recordTTL }

def Row.renewed (timestamp : Int) (input : RenewInput) : Row :=
  { row with
    ownerExpiresAt := some (timestamp + microseconds input.ownerLeaseDuration)
    expiresAt := timestamp + microseconds input.recordTTL }

def Row.released (timestamp : Int) : Row := { row with ownerExpiresAt := some timestamp }

/-- The row with its result; the owner is gone. -/
def Row.completed (result : Digest) : Row :=
  { row with
    resultFingerprint := some result
    status := .completed
    ownerID := ""
    ownerGeneration := 0
    ownerExpiresAt := none }

/-- The first claim of a key. -/
def insertIdempotencyClaim : KeyTx OwnerLease := do
  writeRow (.inserted timestamp input)
  scanIdempotencyOwner (.inserted timestamp input)

/-- The claim of a key whose owner ran out. -/
def takeoverIdempotencyClaim (row : Row) : KeyTx OwnerLease :=
  if row.requestFingerprint = input.requestFingerprint.digest ∧ row.status = .inProgress ∧
      (∃ e ∈ row.ownerExpiresAt, e ≤ timestamp) then do
    writeRow (row.takenOver timestamp input)
    scanIdempotencyOwner (row.takenOver timestamp input)
  else throw .idempotencyInProgress

/-- The claim of a key that has a row. -/
def claimRow (timestamp : Int) (input : ClaimInput) (row : Row) : KeyTx ClaimResult := do
  let record ← liftM (row.record key)
  match ← liftM (resolveIdempotency record input.requestFingerprint timestamp) with
  | .replay result => pure (.replay result)
  | .takeover => do
    let owner ← takeoverIdempotencyClaim timestamp input row
    pure (.acquired owner)

variable (owner : OwnerLease)

/-- The condition of the owner's own updates: the exact lease, not expired. -/
def heldBy (timestamp : Int) (row : Row) : Bool :=
  row.status = .inProgress && row.ownerID = owner.ownerID &&
    row.ownerGeneration = owner.generation && row.ownerExpiresAt = some owner.expiresAt &&
    timestamp < owner.expiresAt

/-- Stores the result, if the owner still holds the key. -/
def completeIdempotency (result : Digest) : KeyTx Unit := do
  match ← get with
  | none => throw .lostOwnerLease
  | some row =>
    if heldBy owner timestamp row then writeRow (row.completed result)
    else throw .lostOwnerLease

/-- Prolongs the lease and the row. -/
def renewIdempotency (input : RenewInput) : KeyTx OwnerLease := do
  match ← get with
  | none => throw .lostOwnerLease
  | some row =>
    if heldBy input.owner timestamp row ∧
        timestamp + microseconds input.ownerLeaseDuration < row.expiresAt then do
      writeRow (row.renewed timestamp input)
      scanIdempotencyOwner (row.renewed timestamp input)
    else throw .lostOwnerLease

/-- Ends the lease now. -/
def releaseIdempotency : KeyTx Unit := do
  match ← get with
  | none => throw .lostOwnerLease
  | some row =>
    if heldBy owner timestamp row then writeRow (row.released timestamp)
    else throw .lostOwnerLease

/-! ## Transactions on one key -/

inductive Call
  | claim (input : ClaimInput)
  | renew (input : RenewInput)
  | release (owner : OwnerLease)
  | complete (owner : OwnerLease) (result : RequestFingerprint)
deriving DecidableEq

def Call.lease : Call → Option OwnerLease
  | .claim _ => none
  | .renew input => some input.owner
  | .release owner => some owner
  | .complete owner _ => some owner

def Call.validate : Call → Except PlatformError Unit
  | .claim input =>
    if key.validate ≠ .ok () then .error (.invalidIdempotencyClaim "key")
    else if input.requestFingerprint.validate ≠ .ok () then
      .error (.invalidIdempotencyClaim "request fingerprint")
    else if validRecordPlatformOwnerID input.ownerID = false ∨
        validIdempotencyExpiryDurations input.ownerLeaseDuration input.recordTTL = false then
      .error (.invalidIdempotencyClaim "owner or expiry")
    else .ok ()
  | .renew input =>
    if key.validate ≠ .ok () then .error (.invalidIdempotencyClaim "key")
    else if input.owner.validate ≠ .ok () then .error (.invalidIdempotencyClaim "owner")
    else if validIdempotencyExpiryDurations input.ownerLeaseDuration input.recordTTL = false then
      .error (.invalidIdempotencyClaim "owner or expiry")
    else .ok ()
  | .release owner => do
    key.validate
    owner.validate
  | .complete owner result => do
    key.validate
    owner.validate
    if result.validate ≠ .ok () ∨ result.digest = zeroDigest then
      .error (.invalidIdempotencyRecord "completed result")
    else .ok ()

inductive Outcome
  | claimed (result : ClaimResult)
  | renewed (owner : OwnerLease)
  | released
  | completed

/-- A transaction with its timestamp; a claim may have to insert the row it did not find. -/
structure Transaction where
  call : Call
  timestamp : Int
  inserting : Bool := false
deriving DecidableEq

/-- A transaction goes on, or ends with an outcome and the row it leaves. -/
inductive Progress
  | next (t : Transaction)
  | done (outcome : Except PlatformError Outcome) (row : Option Row)

/-- The end of a transaction: its writes are kept if it succeeds. -/
def Progress.ended {α : Type} (f : α → Outcome) (r : Except PlatformError α × Option Row) :
    Progress :=
  .done (r.1.map f) r.2

/-- What a transaction does when it can go on. -/
def Transaction.advance (t : Transaction) (row : Option Row) : Progress :=
  match t.call with
  | .claim input =>
    match t.inserting, row with
    | false, none => .next { t with inserting := true }
    | false, some r => .ended .claimed ((claimRow key t.timestamp input r).run row)
    | true, none =>
      .ended (fun owner => .claimed (.acquired owner))
        ((insertIdempotencyClaim t.timestamp input).run row)
    -- The insert met the row of another claim and did nothing.
    | true, some _ => .next { t with inserting := false }
  | .renew input => .ended .renewed ((renewIdempotency t.timestamp input).run row)
  | .release owner =>
    .ended (fun _ => .released) ((releaseIdempotency t.timestamp owner).run row)
  | .complete owner result =>
    .ended (fun _ => .completed) ((completeIdempotency t.timestamp owner result.digest).run row)

/-- The database as far as one key goes: its clock, the row and the open transactions. -/
structure KeyState where
  now : Int
  row : Option Row
  running : List Transaction

inductive KeyLabel
  | tick
  | begin (call : Call)
  | wait (t : Transaction)
  | finished (t : Transaction) (outcome : Except PlatformError Outcome)
  | aborted (t : Transaction)

/-- Transactions begin, go on in any order, and may be lost at any point. -/
inductive KeyStep (key : IdempotencyKey) : KeyState → KeyLabel → KeyState → Prop
  | tick {s : KeyState} {now : Int} (h : s.now ≤ now) : KeyStep key s .tick { s with now }
  | begin {s : KeyState} {call : Call} (h : call.validate key = .ok ()) :
      KeyStep key s (.begin call) { s with running := ⟨call, s.now, false⟩ :: s.running }
  | wait {s : KeyState} {t t' : Transaction} (ht : t ∈ s.running)
      (h : t.advance key s.row = .next t') :
      KeyStep key s (.wait t) { s with running := t' :: s.running.erase t }
  | finished {s : KeyState} {t : Transaction} {outcome : Except PlatformError Outcome}
      {row : Option Row} (ht : t ∈ s.running) (h : t.advance key s.row = .done outcome row) :
      KeyStep key s (.finished t outcome) { s with row, running := s.running.erase t }
  | aborted {s : KeyState} {t : Transaction} (ht : t ∈ s.running) :
      KeyStep key s (.aborted t) { s with running := s.running.erase t }

def KeyState.fresh (now : Int) : KeyState := ⟨now, none, []⟩

end Houfeng.RecordPlatform
