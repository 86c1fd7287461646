import Houfeng.Foundation.Fallible
import Houfeng.Foundation.Runs
import Houfeng.Records.Registry

/-!
# Saving revisions

The service that prepares a save and the transaction that commits it: the idempotency key, the fence
of a deletion, the head of the record, the published draft and the revision. Of a content it reads
the canonical hash, the author and the reason. Validation, authorization, the normalization of the
content and the digest of a request are parameters.
-/

namespace Houfeng.Records

/-! ## Requests -/

inductive ActivityKind
  | recordCreated
  | recordRevised
  | recordRestored
deriving DecidableEq

inductive OperationKind
  | recordCreate
  | recordUpdate
deriving DecidableEq

def ActivityKind.operation : ActivityKind → OperationKind
  | .recordCreated => .recordCreate
  | .recordRevised | .recordRestored => .recordUpdate

inductive Lifecycle
  | active
  | archived
deriving DecidableEq

structure SubjectReference where
  kind : String
  role : String
  sourceID : String
  primary : Bool

/-- A subject as it is captured: its identity at the moment and the digest of the authorization. -/
structure RevisionSubject where
  reference : SubjectReference
  identitySnapshot : List (String × String)
  captureDigest : String

/-- `RevisionSaveRequest`, over the type of the values that only the normalization reads. -/
structure RevisionSaveRequest (ν : Type) where
  actorID : String
  actorScope : String
  recordID : String
  baseRevisionID : String
  lockVersion : Nat
  authorizationEpoch : Nat
  draftID : String
  draftETag : String
  activityKind : ActivityKind
  idempotencyKey : String
  subjectReferences : List SubjectReference
  values : ν
  saveReason : String

/-- The content of a revision, by its hash. -/
structure RevisionInput where
  canonicalHash : String
  authorID : String
  saveReason : String
deriving DecidableEq

/-- What a save request refers to. -/
structure RequestScope where
  recordID : String
  baseRevisionID : String
  lockVersion : Nat
  authorizationEpoch : Nat
  activityKind : ActivityKind
  draftID : String
  draftETag : String
deriving DecidableEq

/-- `RequestFingerprintInputV1`, with what its digests are of. -/
structure FingerprintInput where
  operationKind : OperationKind
  actorScope : String
  scope : RequestScope
  payload : RevisionInput
deriving DecidableEq

/-- A prepared save. -/
structure RevisionCommitCommand where
  scope : RequestScope
  actorScope : String
  idempotencyKey : String
  input : RevisionInput

namespace RevisionCommitCommand

variable (c : RevisionCommitCommand)

def operationKind : OperationKind := c.scope.activityKind.operation

def fingerprintInput : FingerprintInput := ⟨c.operationKind, c.actorScope, c.scope, c.input⟩

/-- The primary key of `record_idempotency_keys`, in the only project. -/
def key : OperationKind × String := (c.operationKind, c.idempotencyKey)

end RevisionCommitCommand

inductive SaveError
  | invalidRequest (field : String)
  | invalidCommand (field : String)
  | recordNotFound
  | recordAlreadyExists
  | recordRevisionConflict
  | recordDeletionReserved
  | denied
  | subject (text : String)
  | invalidInput (field : String)
  | idempotencyKeyReused
  | idempotencyInProgress
  | idempotencyConflictState
  | draftNotFound
  | draftConflict
  | draftRevisionConflict
  | statement (text : String)

/-! ## Tables -/

/-- The row of a record: its head and its versions. -/
structure Root where
  lifecycle : Lifecycle
  currentRevisionID : Option String
  lockVersion : Nat
  authorizationEpoch : Nat

/-- A row of `record_revisions`; times are microseconds of the database. -/
structure Revision where
  recordID : String
  baseRevisionID : String
  revisionNo : Nat
  canonicalHash : String
  createdAt : Nat
deriving DecidableEq

inductive IdempotencyStatus
  | inProgress
  | completed
  | conflict
deriving DecidableEq

structure IdempotencyRow (φ : Type) where
  fingerprint : φ
  status : IdempotencyStatus
  ownerExpiresAt : Nat

structure Draft where
  authorID : String
  etag : String
  recordID : String
  baseRevisionID : String

inductive ReservationState
  | previewed
  | fenced
  | committed
deriving DecidableEq

/-- The tables a save reads and writes. -/
structure Tables (φ : Type) where
  roots : String → Option Root
  revisions : String → Option Revision
  keys : OperationKind × String → Option (IdempotencyRow φ)
  drafts : String → Option Draft
  reservations : String → List ReservationState
  fenceLeases : String → Option Nat

def put {κ α : Type} [DecidableEq κ] (table : κ → Option α) (key : κ) (row : Option α) : κ → Option α :=
  fun k => if k = key then row else table k

/-! ## Parameters -/

/-- What a save computes outside of its own logic. The fingerprint is the SHA-256 of an injective
encoding, the identifier its hexadecimal digits, and neither is assumed to collide. -/
structure Services (ν φ : Type) where
  checkRequest : RevisionSaveRequest ν → Option SaveError
  checkEvidence : RevisionSaveRequest ν → Bool
  checkCommand : RevisionSaveRequest ν → RevisionCommitCommand → Option SaveError
  normalize : ν → String → List RevisionSubject → Except SaveError String
  fingerprint : FingerprintInput → φ
  fingerprint_injective : Function.Injective fingerprint
  revisionID : φ → String
  revisionID_injective : Function.Injective revisionID

/-- The rest of the center at the moment of a save: what the subjects are and what the actor may do. -/
structure World where
  resolve : SubjectReference → Except SaveError RevisionSubject
  permitsCurrent : String → Bool
  permitsNew : RevisionInput → List RevisionSubject → Bool

variable {ν φ : Type}

/-! ## The service -/

variable (sv : Services ν φ) (request : RevisionSaveRequest ν)

/-- The shape of the head that the request names, and the rest. -/
def validateRevisionSaveRequest : Except SaveError Unit :=
  match sv.checkRequest request with
  | some e => .error e
  | none =>
    match request.activityKind.operation with
    | .recordCreate =>
      if request.baseRevisionID ≠ "" ∨ request.lockVersion ≠ 0 ∨ request.authorizationEpoch ≠ 0 then
        .error (.invalidRequest "create CAS")
      else .ok ()
    | .recordUpdate =>
      if wordIdentity "rrv_" request.baseRevisionID = false ∨ request.lockVersion = 0 ∨
          request.authorizationEpoch = 0 then .error (.invalidRequest "update CAS")
      else .ok ()

/-- The request was made on the current head. -/
def headMatches (root : Root) : Prop :=
  root.currentRevisionID = some request.baseRevisionID ∧ root.lockVersion = request.lockVersion ∧
    root.authorizationEpoch = request.authorizationEpoch ∧ root.lifecycle = .active

instance (request : RevisionSaveRequest ν) (root : Root) : Decidable (headMatches request root) := by
  unfold headMatches
  infer_instance

/-- The check of the current record, which only an update makes. -/
def checkCurrent (w : World) (db : Tables φ) (request : RevisionSaveRequest ν) : Except SaveError Unit :=
  match request.activityKind.operation with
  | .recordCreate => .ok ()
  | .recordUpdate =>
    match db.roots request.recordID with
    | none => .error .recordNotFound
    | some root =>
      if ¬ headMatches request root then .error .recordRevisionConflict
      else if w.permitsCurrent request.recordID = false then .error .denied
      else .ok ()

def resolveSubjects (w : World) : List SubjectReference → Except SaveError (List RevisionSubject)
  | [] => .ok []
  | reference :: references => do
    let subject ← w.resolve reference
    let subjects ← resolveSubjects w references
    .ok (subject :: subjects)

def prepareInput (w : World) (request : RevisionSaveRequest ν) :
    Except SaveError RevisionInput := do
  let subjects ← resolveSubjects w request.subjectReferences
  let hash ← sv.normalize request.values request.actorID subjects
  let input : RevisionInput := ⟨hash, request.actorID, Houfeng.Center.trimSpace request.saveReason⟩
  if w.permitsNew input subjects = false then .error .denied else .ok input

def RevisionSaveRequest.scope : RequestScope :=
  ⟨request.recordID, request.baseRevisionID, request.lockVersion, request.authorizationEpoch,
    request.activityKind, request.draftID, request.draftETag⟩

def RevisionSaveRequest.command (input : RevisionInput) : RevisionCommitCommand :=
  ⟨request.scope, request.actorScope, request.idempotencyKey, input⟩

/-- Checks the request against the current head, before the key is looked at. -/
def prepareRevisionCommit (w : World) (db : Tables φ) (request : RevisionSaveRequest ν) :
    Except SaveError RevisionCommitCommand := do
  validateRevisionSaveRequest sv request
  checkCurrent w db request
  if sv.checkEvidence request = false then .error (.invalidRequest "evidence preparation")
  else do
    let input ← prepareInput sv w request
    match sv.checkCommand request (request.command input) with
    | some e => .error e
    | none => .ok (request.command input)

/-! ## The transaction -/

/-- The answer to a save. -/
structure RevisionCommitResult where
  recordID : String
  revisionID : String
  revisionNo : Nat
  lockVersion : Nat
  authorizationEpoch : Nat
  lifecycle : Lifecycle
  created : Bool
  replayed : Bool
  committedAt : Nat

/-- A completed key is answered again; any other is owned by this commit. -/
inductive Claim
  | replay
  | owner

/-- `ClaimIdempotency`, with `ResolveIdempotencyV1` for a row that is there. -/
def claimIdempotency [DecidableEq φ] (now : Nat) (row : Option (IdempotencyRow φ)) (fingerprint : φ) :
    Except SaveError Claim :=
  match row with
  | none => .ok .owner
  | some row =>
    if row.status = .conflict then .error .idempotencyConflictState
    else if row.fingerprint ≠ fingerprint then .error .idempotencyKeyReused
    else match row.status with
      | .completed => .ok .replay
      | _ => if row.ownerExpiresAt ≤ now then .ok .owner else .error .idempotencyInProgress

/-- `assertRecordMutationFence`. -/
def fenced (now : Nat) (db : Tables φ) (recordID : String) : Bool :=
  (db.reservations recordID).any (fun state => state = .fenced || state = .committed) ||
    (db.fenceLeases recordID).any (now < ·)

/-- The head with its revision, as `lockRecordRoot` returns it. -/
structure LockedRoot where
  root : Root
  current : Option (String × Revision)

variable (db : Tables φ)

/-- The record with its head, unless it is missing. -/
def lockRecordRoot (recordID : String) : Except SaveError LockedRoot :=
  match db.roots recordID with
  | none => .error .recordNotFound
  | some root =>
    match root.currentRevisionID with
    | none => .ok ⟨root, none⟩
    | some id =>
      match db.revisions id with
      | none => .error .recordRevisionConflict
      | some revision =>
        if revision.recordID ≠ recordID ∨ revision.revisionNo = 0 then .error .recordRevisionConflict
        else .ok ⟨root, some (id, revision)⟩

/-- `createAndLockRecordRoot` or `lockRecordRoot`, with the check of the head. -/
def lockHead (c : RevisionCommitCommand) : Except SaveError LockedRoot :=
  match c.operationKind with
  | .recordCreate =>
    if (db.roots c.scope.recordID).isSome then .error .recordAlreadyExists
    else if 0 ≠ c.scope.lockVersion ∨ 0 ≠ c.scope.authorizationEpoch ∨ c.scope.baseRevisionID ≠ "" then
      .error .recordRevisionConflict
    else .ok ⟨⟨.active, none, 0, 0⟩, none⟩
  | .recordUpdate => do
    let locked ← lockRecordRoot db c.scope.recordID
    if locked.current.map (·.1) ≠ some c.scope.baseRevisionID ∨
        locked.root.lockVersion ≠ c.scope.lockVersion ∨
        locked.root.authorizationEpoch ≠ c.scope.authorizationEpoch then .error .recordRevisionConflict
    else .ok locked

/-- The draft that is published must be the one that was saved. -/
def lockPublishedRecordDraft (c : RevisionCommitCommand) : Except SaveError Unit :=
  if c.scope.draftID = "" then .ok ()
  else
    match db.drafts c.scope.draftID with
    | none => .error .draftNotFound
    | some draft =>
      if draft.authorID ≠ c.input.authorID then .error .draftNotFound
      else if draft.etag ≠ c.scope.draftETag then .error .draftConflict
      else match c.operationKind with
        | .recordCreate =>
          if draft.recordID ≠ "" ∨ draft.baseRevisionID ≠ "" then .error .draftRevisionConflict
          else .ok ()
        | .recordUpdate =>
          if draft.recordID ≠ c.scope.recordID ∨ draft.baseRevisionID ≠ c.scope.baseRevisionID then
            .error .draftRevisionConflict
          else .ok ()

/-- The draft was locked and found in the same transaction. -/
def cleanupPublishedRecordDraft (c : RevisionCommitCommand) : Tables φ :=
  if c.scope.draftID = "" then db else { db with drafts := put db.drafts c.scope.draftID none }

/-- Removes the draft and completes the key. -/
def finishCommit (now : Nat) (db : Tables φ) (c : RevisionCommitCommand) : Tables φ :=
  let db := cleanupPublishedRecordDraft db c
  { db with keys := put db.keys c.key (some ⟨sv.fingerprint c.fingerprintInput, .completed, now⟩) }

/-- The revision of the request, or else the base it left alone. -/
def loadRecordRevisionReplayResult (c : RevisionCommitCommand) (revisionID : String) :
    Except SaveError RevisionCommitResult :=
  let row := fun id => (db.revisions id).filter fun v => v.recordID = c.scope.recordID
  match row revisionID with
  | some v =>
    if v.revisionNo = 0 then .error .recordRevisionConflict
    else .ok ⟨c.scope.recordID, revisionID, v.revisionNo, c.scope.lockVersion + 1,
      c.scope.authorizationEpoch + 1, .active, true, true, v.createdAt⟩
  | none =>
    if c.scope.baseRevisionID = "" then .error .recordRevisionConflict
    else match row c.scope.baseRevisionID with
      | none => .error .recordRevisionConflict
      | some v =>
        if v.revisionNo = 0 ∨ c.operationKind = .recordCreate then .error .recordRevisionConflict
        else .ok ⟨c.scope.recordID, c.scope.baseRevisionID, v.revisionNo, c.scope.lockVersion,
          c.scope.authorizationEpoch, .active, false, true, v.createdAt⟩

/-- The part of `commitRevisionOnTx` for the owner of the key. `effects` is whether the participants
and the outbox accepted the revision. -/
def commitOwned (now : Nat) (effects : Bool) (db : Tables φ) (c : RevisionCommitCommand) :
    Except SaveError (Tables φ × RevisionCommitResult) := do
  let locked ← lockHead db c
  lockPublishedRecordDraft db c
  match locked.current.filter fun current => current.2.canonicalHash = c.input.canonicalHash with
  | some (id, revision) =>
    .ok (finishCommit sv now db c, ⟨c.scope.recordID, id, revision.revisionNo, locked.root.lockVersion,
      locked.root.authorizationEpoch, locked.root.lifecycle, false, false, revision.createdAt⟩)
  | none =>
    let id := sv.revisionID (sv.fingerprint c.fingerprintInput)
    let revisionNo := (locked.current.elim 0 (·.2.revisionNo)) + 1
    let lockVersion := locked.root.lockVersion + 1
    let authorizationEpoch := locked.root.authorizationEpoch + 1
    if (db.revisions id).isSome ∨ effects = false then .error (.statement "insert record revision")
    else
      let db : Tables φ := { db with
        revisions := put db.revisions id (some
          ⟨c.scope.recordID, c.scope.baseRevisionID, revisionNo, c.input.canonicalHash, now⟩)
        roots := put db.roots c.scope.recordID (some
          ⟨locked.root.lifecycle, some id, lockVersion, authorizationEpoch⟩) }
      .ok (finishCommit sv now db c, ⟨c.scope.recordID, id, revisionNo, lockVersion,
        authorizationEpoch, locked.root.lifecycle, true, false, now⟩)

/-- Answers a completed key again, or commits the revision. -/
def commitRevisionOnTx [DecidableEq φ] (sv : Services ν φ) (now : Nat) (effects : Bool) (db : Tables φ)
    (c : RevisionCommitCommand) : Except SaveError (Tables φ × RevisionCommitResult) := do
  let fingerprint := sv.fingerprint c.fingerprintInput
  let claim ← claimIdempotency now (db.keys c.key) fingerprint
  if fenced now db c.scope.recordID then .error .recordDeletionReserved
  else match claim with
    | .replay => do
      let result ← loadRecordRevisionReplayResult db c (sv.revisionID fingerprint)
      .ok (db, result)
    | .owner => commitOwned sv now effects db c

/-- Several commands in one transaction. -/
def commitRevisions [DecidableEq φ] (sv : Services ν φ) (now : Nat) (effects : Bool) :
    Tables φ → List RevisionCommitCommand → Except SaveError (Tables φ × List RevisionCommitResult)
  | db, [] => .ok (db, [])
  | db, c :: cs => do
    let (db, result) ← commitRevisionOnTx sv now effects db c
    let (db, results) ← commitRevisions sv now effects db cs
    .ok (db, result :: results)

/-! ## Other work -/

/-- `RecordLifecycleCommand`, with the fingerprint of its request. -/
structure RecordLifecycleCommand (φ : Type) where
  recordID : String
  currentRevisionID : String
  lockVersion : Nat
  authorizationEpoch : Nat
  targetLifecycle : Lifecycle
  idempotencyKey : String
  fingerprint : φ

/-- The write of `CommitRecordLifecycle` for the owner of the key. -/
def commitRecordLifecycle [DecidableEq φ] (now : Nat) (db : Tables φ) (c : RecordLifecycleCommand φ) :
    Except SaveError (Tables φ) := do
  let claim ← claimIdempotency now (db.keys (.recordUpdate, c.idempotencyKey)) c.fingerprint
  if fenced now db c.recordID then .error .recordDeletionReserved
  else match claim with
    | .replay => .ok db
    | .owner => do
      let locked ← lockRecordRoot db c.recordID
      if locked.root.currentRevisionID ≠ some c.currentRevisionID ∨
          locked.root.lockVersion ≠ c.lockVersion ∨
          locked.root.authorizationEpoch ≠ c.authorizationEpoch ∨
          locked.root.lifecycle = c.targetLifecycle then .error .recordRevisionConflict
      else .ok { db with
        roots := put db.roots c.recordID (some ⟨c.targetLifecycle, locked.root.currentRevisionID,
          locked.root.lockVersion + 1, locked.root.authorizationEpoch + 1⟩)
        keys := put db.keys (.recordUpdate, c.idempotencyKey) (some ⟨c.fingerprint, .completed, now⟩) }

/-- The transactions that may come between two saves. -/
inductive Work (φ : Type)
  | revisions (commands : List RevisionCommitCommand)
  | lifecycle (command : RecordLifecycleCommand φ)
  | purge (recordID : String)
  | other

/-- Committed work. What is neither a revision nor a lifecycle move nor a purge may change drafts,
reservations and leases, and keys that are not completed. -/
inductive Works [DecidableEq φ] (sv : Services ν φ) : Tables φ → Work φ → Tables φ → Prop
  | revisions {db db' : Tables φ} {now : Nat} {effects : Bool} {commands : List RevisionCommitCommand}
      {results : List RevisionCommitResult}
      (h : commitRevisions sv now effects db commands = .ok (db', results)) :
      Works sv db (.revisions commands) db'
  | lifecycle {db db' : Tables φ} {now : Nat} {command : RecordLifecycleCommand φ}
      (h : commitRecordLifecycle now db command = .ok db') : Works sv db (.lifecycle command) db'
  | purge {db : Tables φ} {recordID : String} : Works sv db (.purge recordID)
      { db with
        roots := put db.roots recordID none
        revisions := fun id => (db.revisions id).filter (·.recordID ≠ recordID) }
  | other {db : Tables φ} {keys : OperationKind × String → Option (IdempotencyRow φ)}
      {drafts : String → Option Draft} {reservations : String → List ReservationState}
      {fenceLeases : String → Option Nat}
      (h : ∀ key row, db.keys key = some row → row.status = .completed → keys key = some row) :
      Works sv db .other { db with keys, drafts, reservations, fenceLeases }

/-- Prepared on the tables of one moment and committed on those of a later one. -/
def saveRevision [DecidableEq φ] (sv : Services ν φ) (w : World) (prepared committed : Tables φ)
    (now : Nat) (effects : Bool) (request : RevisionSaveRequest ν) :
    Except SaveError (Tables φ × RevisionCommitResult) := do
  let c ← prepareRevisionCommit sv w prepared request
  commitRevisionOnTx sv now effects committed c

def Tables.empty : Tables φ :=
  ⟨fun _ => none, fun _ => none, fun _ => none, fun _ => none, fun _ => [], fun _ => none⟩

end Houfeng.Records
