import Houfeng.Foundation.Runs
import Houfeng.RecordPlatform.Idempotency

/-!
# External deliveries of notifications

One delivery, its outbox row and the log of its attempts, and the workers that process it: a worker
claims the outbox row for a time, prepares the delivery in a transaction, sends outside of any,
records the outcome in a second one and settles the outbox row in a third.

A transaction judges by its own timestamp and locks the rows it looks at, so it takes effect at
once. A call of the database is answered, goes unanswered, or fails without effect.
-/

namespace Houfeng.Collaboration

open RecordPlatform

inductive DeliveryError
  | invalidOutboxClaim
  | lostOwnerLease
  | invalidExternalDeliveryResult
  | invalidSafeExternalDelivery
  | externalDeliveryUnavailable
  | database

def maxNotificationDeliveryAttempts : Nat := 8

/-! ## Rows -/

/-- What an outbox row asks to be delivered. -/
structure OutboxEvent where
  projectID : String
  subjectID : String
  sourceVersion : Nat
  authorizationEpoch : Nat
  recordFenceEpoch : Nat
deriving DecidableEq

inductive OutboxStatus
  | pending
  | processing
  | sent
  | cancelled
deriving DecidableEq

/-- A row of `record_outbox`; it has an owner exactly while it is processing. -/
structure OutboxRow where
  event : OutboxEvent
  status : OutboxStatus
  ownerID : String
  ownerGeneration : Nat
  ownerExpiresAt : Option Int
  attemptCount : Nat
  nextAttemptAt : Int
  expiresAt : Int

/-- An event with the lease of the worker that claimed it. -/
structure ClaimedOutboxEvent where
  event : OutboxEvent
  owner : OwnerLease
  expiresAt : Int

variable (timestamp : Int) (claim : ClaimedOutboxEvent)

def ClaimedOutboxEvent.valid : Bool :=
  claim.owner.validate = .ok () && claim.expiresAt ≠ 0 && claim.owner.expiresAt < claim.expiresAt

/-- What a delivery is and whom it is for; an attempt repeats all of it. -/
structure DeliveryKey where
  deliveryID : String
  recordID : String
  notificationID : String
  recipientUserID : String
  channel : String
  bindingID : String
  sourceVersion : Nat
  authorizationEpoch : Nat
  recordFenceEpoch : Nat
deriving DecidableEq

inductive DeliveryState
  | pending
  | processing
  | retryWait
  | sent
  | cancelled
  | permanentFailure
  | unknownOutcome
deriving DecidableEq

/-- The state of one external delivery. -/
structure DeliveryRow where
  key : DeliveryKey
  projectID : String
  state : DeliveryState
  attemptCount : Nat
  attemptStartedAt : Option Int
  nextAttemptAt : Option Int
  reasonCode : String

/-- The attempt a worker has in hand. -/
structure Attempt where
  key : DeliveryKey
  attempt : Nat
  startedAt : Int

inductive AttemptOutcome
  | sent
  | temporaryFailure
  | permanentFailure
  | cancelled
  | unknownOutcome

/-- A row of `record_notification_delivery_attempts`; the numbers of a delivery are unique. -/
structure AttemptRow where
  attemptNo : Nat
  outcome : AttemptOutcome
  reasonCode : String
  startedAt : Int
  completedAt : Int

/-- The rows of one delivery: its event, its state and its log of attempts. -/
structure DeliveryStore where
  outbox : OutboxRow
  delivery : Option DeliveryRow
  attempts : List AttemptRow

abbrev DeliveryTx := Tx DeliveryError DeliveryStore

/-! ## The outbox -/

/-- The row is leased by exactly this claim. -/
def OutboxRow.ownedBy (row : OutboxRow) (claim : ClaimedOutboxEvent) : Bool :=
  row.status = .processing && row.ownerID = claim.owner.ownerID &&
    row.ownerGeneration = claim.owner.generation && row.ownerExpiresAt = some claim.owner.expiresAt

/-- The claim must still hold the row, with its lease running. -/
def assertOutboxClaim : DeliveryTx Unit := do
  Tx.check (claim.valid = true) .invalidOutboxClaim
  let store ← get
  Tx.check (store.outbox.ownedBy claim = true ∧ store.outbox.event = claim.event ∧
    store.outbox.expiresAt = claim.expiresAt ∧ timestamp < claim.owner.expiresAt ∧
    timestamp < claim.expiresAt) .lostOwnerLease

/-- The duration is in nanoseconds. -/
structure OutboxClaimInput where
  ownerID : String
  ownerLeaseDuration : Int

def OutboxClaimInput.valid (input : OutboxClaimInput) : Bool :=
  validRecordPlatformOwnerID input.ownerID && 0 < microseconds input.ownerLeaseDuration

/-- The row may be claimed: it waits and is due, or the lease of its owner is over; and it does not
expire before the new lease does. -/
def OutboxRow.claimable (row : OutboxRow) (timestamp : Int) (input : OutboxClaimInput) : Prop :=
  ((row.status = .pending ∧ row.nextAttemptAt ≤ timestamp) ∨
    (row.status = .processing ∧ ∃ expiresAt ∈ row.ownerExpiresAt, expiresAt ≤ timestamp)) ∧
  timestamp + microseconds input.ownerLeaseDuration < row.expiresAt

instance (row : OutboxRow) (timestamp : Int) (input : OutboxClaimInput) :
    Decidable (row.claimable timestamp input) := by
  unfold OutboxRow.claimable
  cases row.ownerExpiresAt with
  | none => exact decidable_of_iff ((row.status = .pending ∧ row.nextAttemptAt ≤ timestamp) ∧
      timestamp + microseconds input.ownerLeaseDuration < row.expiresAt) (by simp)
  | some expiresAt => exact decidable_of_iff (((row.status = .pending ∧
      row.nextAttemptAt ≤ timestamp) ∨ (row.status = .processing ∧ expiresAt ≤ timestamp)) ∧
      timestamp + microseconds input.ownerLeaseDuration < row.expiresAt) (by simp)

/-- The next claim has the next generation. -/
def OutboxRow.nextClaim (row : OutboxRow) (timestamp : Int) (input : OutboxClaimInput) :
    ClaimedOutboxEvent where
  event := row.event
  owner := ⟨input.ownerID, row.ownerGeneration + 1,
    timestamp + microseconds input.ownerLeaseDuration⟩
  expiresAt := row.expiresAt

/-- Claims the row if it is due and not leased. -/
def claimOutbox (input : OutboxClaimInput) : DeliveryTx (Option ClaimedOutboxEvent) := do
  Tx.check (input.valid = true) .invalidOutboxClaim
  let store ← get
  if store.outbox.claimable timestamp input then do
    let claim := store.outbox.nextClaim timestamp input
    Tx.check (claim.valid = true) .invalidOutboxClaim
    set { store with
      outbox := { store.outbox with
        status := .processing
        ownerID := claim.owner.ownerID
        ownerGeneration := claim.owner.generation
        ownerExpiresAt := some claim.owner.expiresAt
        attemptCount := store.outbox.attemptCount + 1 } }
    pure (some claim)
  else pure none

/-- What becomes of the outbox row after a delivery was processed. -/
inductive Settlement
  | complete
  | retry (after : Int)
  | cancel

/-- The condition of `MarkOutboxSent`, `RetryOutbox` and `CancelOutbox` on the expiry of the row. -/
def Settlement.timely (expiresAt : Int) : Settlement → Bool
  | .complete => timestamp < expiresAt
  | .retry after => timestamp + microseconds after < expiresAt
  | .cancel => true

def OutboxRow.settled (row : OutboxRow) (timestamp : Int) : Settlement → OutboxRow
  | .complete => { row with status := .sent, ownerID := "", ownerExpiresAt := none }
  | .retry after => { row with
      status := .pending
      ownerID := ""
      ownerExpiresAt := none
      nextAttemptAt := timestamp + microseconds after }
  | .cancel => { row with status := .cancelled, ownerID := "", ownerExpiresAt := none }

/-- `MarkOutboxSent`, `RetryOutbox` and `CancelOutbox`. -/
def settleOutbox (settlement : Settlement) : DeliveryTx Unit := do
  Tx.check (claim.valid = true) .invalidOutboxClaim
  let store ← get
  Tx.check (store.outbox.ownedBy claim = true ∧ timestamp < claim.owner.expiresAt ∧
    settlement.timely timestamp store.outbox.expiresAt = true) .lostOwnerLease
  set { store with outbox := store.outbox.settled timestamp settlement }

/-! ## Preparing a delivery -/

/-- What a lookup of the preparing transaction comes to. -/
inductive Lookup (α : Type)
  | found (a : α)
  | missing
  | failed

/-- The inbox item of the recipient, as `queryInboxCandidate` reads it. -/
structure InboxCandidate where
  recordID : String
  notificationID : String
  sourceVersion : Nat
  authorizationEpoch : Nat
  recordFenceEpoch : Nat

/-- The access of the recipient to the record: its current epochs, and what membership, the subject,
the source and the list of recipients decide. -/
structure RecordAccess where
  authorizationEpoch : Nat
  recordFenceEpoch : Nat
  verdict : Lookup Unit

/-- What the worker finds about the recipient when it prepares an attempt. -/
structure Observed where
  candidate : Lookup InboxCandidate
  access : Lookup RecordAccess
  /-- Whether the binding that is found is valid and the one asked for. -/
  binding : Lookup Bool
  rendered : Bool

/-- The recipient may still see the record. -/
def authorizeInboxCandidate (access : Lookup RecordAccess) (candidate : InboxCandidate) :
    Lookup InboxCandidate :=
  match access with
  | .missing => .missing
  | .failed => .failed
  | .found current =>
    if candidate.recordFenceEpoch ≠ current.recordFenceEpoch ∨
        candidate.authorizationEpoch ≠ current.authorizationEpoch then .missing
    else match current.verdict with
      | .found _ => .found candidate
      | .missing => .missing
      | .failed => .failed

variable (row : DeliveryRow)

/-- The delivery is the one of the claimed event, in the same epochs. -/
def DeliveryRow.matchesClaim (event : OutboxEvent) : Bool :=
  row.key.deliveryID = event.subjectID && row.projectID = event.projectID &&
    row.key.sourceVersion = event.sourceVersion &&
    row.key.authorizationEpoch = event.authorizationEpoch &&
    row.key.recordFenceEpoch = event.recordFenceEpoch &&
    row.attemptCount ≤ maxNotificationDeliveryAttempts

structure DeliveryConfig where
  /-- The delay after an error. -/
  retryAfter : Int
  retryBaseDelay : Int
  /-- The time a provider gets, in microseconds. -/
  sendTimeout : Int

variable (config : DeliveryConfig) (attempt : Attempt)

/-- The attempt is the last one started. -/
def DeliveryRow.matchesAttempt : Bool :=
  row.key = attempt.key && row.attemptCount = attempt.attempt &&
    row.attemptStartedAt = some attempt.startedAt

def DeliveryRow.matchesCandidate (candidate : InboxCandidate) : Bool :=
  candidate.recordID = row.key.recordID && candidate.notificationID = row.key.notificationID &&
    candidate.sourceVersion = row.key.sourceVersion &&
    candidate.authorizationEpoch = row.key.authorizationEpoch &&
    candidate.recordFenceEpoch = row.key.recordFenceEpoch

def DeliveryRow.retryDue (timestamp : Int) : Bool :=
  match row.nextAttemptAt with
  | none => true
  | some nextAttemptAt => nextAttemptAt ≤ timestamp

def loadExternalDelivery (deliveryID : String) : DeliveryTx (Option DeliveryRow) := do
  let store ← get
  match store.delivery with
  | none => pure none
  | some row =>
    if row.key.deliveryID ≠ deliveryID then pure none
    else do
      Tx.check (row.key.sourceVersion ≠ 0 ∧ row.key.authorizationEpoch ≠ 0 ∧
        row.attemptCount ≤ maxNotificationDeliveryAttempts) .invalidExternalDeliveryResult
      pure (some row)

def insertExternalDeliveryAttempt (row : AttemptRow) : DeliveryTx Unit := do
  let store ← get
  Tx.check (1 ≤ row.attemptNo ∧ row.attemptNo ≤ maxNotificationDeliveryAttempts ∧
    row.startedAt ≤ row.completedAt ∧
    row.attemptNo ∉ store.attempts.map AttemptRow.attemptNo) .database
  set { store with attempts := store.attempts ++ [row] }

def updateDelivery : DeliveryTx Unit :=
  modify fun store => { store with delivery := some row }

/-- What a preparation comes to: an attempt to send, or what becomes of the outbox row. -/
inductive Preparation
  | prepared (attempt : Attempt)
  | done (settlement : Settlement)

def DeliveryRow.started (timestamp : Int) : DeliveryRow :=
  { row with
    state := .processing
    attemptCount := row.attemptCount + 1
    attemptStartedAt := some timestamp
    nextAttemptAt := none
    reasonCode := "" }

/-- Counts a new attempt and stores when it started. -/
def startExternalDeliveryAttempt : DeliveryTx Preparation := do
  Tx.check (row.attemptCount < maxNotificationDeliveryAttempts) .invalidExternalDeliveryResult
  updateDelivery (row.started timestamp)
  pure (.prepared ⟨row.key, row.attemptCount + 1, timestamp⟩)

def DeliveryRow.ended (state : DeliveryState) (reason : String) : DeliveryRow :=
  { row with
    state := state
    attemptStartedAt := none
    nextAttemptAt := none
    reasonCode := reason }

def DeliveryRow.cancelled (reason : String) : DeliveryRow :=
  { row.ended .cancelled reason with attemptCount := row.attemptCount + 1 }

/-- Ends the delivery with a cancelled attempt. -/
def prepareCancelledExternalDelivery (reason : String) : DeliveryTx Preparation := do
  Tx.check (row.attemptCount < maxNotificationDeliveryAttempts) .invalidExternalDeliveryResult
  insertExternalDeliveryAttempt ⟨row.attemptCount + 1, .cancelled, reason, timestamp, timestamp⟩
  updateDelivery (row.cancelled reason)
  pure (.done .cancel)

/-- An attempt that another worker left open has an unknown outcome. -/
def finalizeUnknownExternalDeliveryTakeover : DeliveryTx Preparation := do
  match row.attemptStartedAt with
  | none => throw .invalidExternalDeliveryResult
  | some startedAt => do
    Tx.check (row.attemptCount ≠ 0) .invalidExternalDeliveryResult
    insertExternalDeliveryAttempt
      ⟨row.attemptCount, .unknownOutcome, "lease_takeover_unknown", startedAt, timestamp⟩
    updateDelivery (row.ended .unknownOutcome "lease_takeover_unknown")
    pure (.done .complete)

/-- A delivery that waits is started, put off or cancelled. -/
def prepareWaiting (observed : Observed) (row : DeliveryRow) : DeliveryTx Preparation :=
  match observed.candidate with
  | .failed => throw .database
  | .missing => prepareCancelledExternalDelivery timestamp row "authorization_revoked"
  | .found candidate =>
    match authorizeInboxCandidate observed.access candidate with
    | .failed => throw .externalDeliveryUnavailable
    | .missing => prepareCancelledExternalDelivery timestamp row "authorization_revoked"
    | .found candidate =>
      if row.matchesCandidate candidate = false then
        prepareCancelledExternalDelivery timestamp row "source_stale"
      else match observed.binding with
        | .failed => throw .externalDeliveryUnavailable
        | .missing => prepareCancelledExternalDelivery timestamp row "binding_unbound"
        | .found false => prepareCancelledExternalDelivery timestamp row "binding_invalid"
        | .found true => do
          Tx.check (observed.rendered = true) .invalidSafeExternalDelivery
          startExternalDeliveryAttempt timestamp row

/-- What a worker does with its claim: send, wait or end the delivery. -/
def prepareExternalDelivery (observed : Observed) (claim : ClaimedOutboxEvent) :
    DeliveryTx Preparation := do
  assertOutboxClaim timestamp claim
  let delivery ← loadExternalDelivery claim.event.subjectID
  match delivery with
  | none => pure (.done .cancel)
  | some row =>
    if row.matchesClaim claim.event = false then pure (.done .cancel)
    else match row.state with
      | .sent => pure (.done .complete)
      | .permanentFailure => pure (.done .complete)
      | .unknownOutcome => pure (.done .complete)
      | .cancelled => pure (.done .cancel)
      | .processing => finalizeUnknownExternalDeliveryTakeover timestamp row
      | .pending => prepareWaiting timestamp observed row
      | .retryWait => do
        Tx.check (row.retryDue timestamp = true) .invalidExternalDeliveryResult
        prepareWaiting timestamp observed row

/-! ## Recording the outcome -/

inductive ProviderOutcome
  | sent
  | temporaryFailure
  | permanentFailure
  | unknownOutcome
deriving DecidableEq

/-- The outcome of the attempt, the row after it and the settlement of the outbox row. -/
def DeliveryRow.concluded (attempt : Nat) (timestamp retryAfter : Int) :
    ProviderOutcome → AttemptOutcome × DeliveryRow × Settlement
  | .sent => (.sent, row.ended .sent "", .complete)
  | .temporaryFailure =>
    if attempt < maxNotificationDeliveryAttempts then
      (.temporaryFailure,
        { row.ended .retryWait "provider_temporary_failure" with
          nextAttemptAt := some (timestamp + microseconds retryAfter) }, .retry retryAfter)
    else (.temporaryFailure, row.ended .permanentFailure "attempts_exhausted", .complete)
  | .permanentFailure =>
    (.permanentFailure, row.ended .permanentFailure "provider_permanent_failure", .complete)
  | .unknownOutcome =>
    (.unknownOutcome, row.ended .unknownOutcome "provider_unknown_outcome", .complete)

variable (outcome : ProviderOutcome)

def finalizeExternalDeliveryAttempt (retryAfter : Int) : DeliveryTx Settlement := do
  let result := row.concluded attempt.attempt timestamp retryAfter outcome
  -- the attempt is recorded with the reason that the row gets
  insertExternalDeliveryAttempt
    ⟨attempt.attempt, result.1, result.2.1.reasonCode, attempt.startedAt, timestamp⟩
  updateDelivery result.2.1
  pure result.2.2

/-- The delay that `FinalizeExternalDelivery` accepts with an outcome. -/
def validRetryAfter (attempt : Nat) (outcome : ProviderOutcome) (retryAfter : Int) : Bool :=
  if outcome = .temporaryFailure ∧ attempt < maxNotificationDeliveryAttempts then
    0 < microseconds retryAfter
  else retryAfter = 0

/-- Records the outcome of the attempt, if the worker still holds its claim. -/
def finalizeExternalDelivery (retryAfter : Int) : DeliveryTx Settlement := do
  Tx.check (attempt.key.deliveryID = claim.event.subjectID ∧
    attempt.key.sourceVersion = claim.event.sourceVersion ∧
    attempt.key.authorizationEpoch = claim.event.authorizationEpoch ∧
    attempt.key.recordFenceEpoch = claim.event.recordFenceEpoch ∧
    validRetryAfter attempt.attempt outcome retryAfter = true) .invalidExternalDeliveryResult
  assertOutboxClaim timestamp claim
  let delivery ← loadExternalDelivery attempt.key.deliveryID
  match delivery with
  | none => throw .database
  | some row => do
    Tx.check (row.matchesAttempt attempt = true ∧ row.state = .processing) .lostOwnerLease
    finalizeExternalDeliveryAttempt timestamp row attempt outcome retryAfter

/-! ## Workers -/

def maxInt64Nanoseconds : Nat := 9223372036854775807

/-- The base doubled for every attempt before. -/
def externalDeliveryRetryDelay (base : Int) (attempt : Nat) : Option Int :=
  if microseconds base ≤ 0 ∨ attempt = 0 ∨ maxNotificationDeliveryAttempts ≤ attempt then none
  else if maxInt64Nanoseconds / (1 <<< (attempt - 1)) < base.toNat then none
  else some (base * (1 <<< (attempt - 1) : Nat))

/-- `externalDeliveryLeaseSafetyMargin`, in microseconds. -/
def leaseSafetyMargin : Int := 1000

/-- Where a worker is. The deadline is that of the context a provider is called with. -/
inductive Phase
  | idle
  | claimed (claim : ClaimedOutboxEvent)
  | prepared (claim : ClaimedOutboxEvent) (attempt : Attempt)
  | cleared (claim : ClaimedOutboxEvent) (attempt : Attempt) (deadline : Int)
  | sending (claim : ClaimedOutboxEvent) (attempt : Attempt)
  | answered (claim : ClaimedOutboxEvent) (attempt : Attempt) (outcome : ProviderOutcome)
  | settling (claim : ClaimedOutboxEvent) (settlement : Settlement)

inductive Fate
  | answered
  | unanswered
  | failed

/-- A call of the database as its caller sees it, and what it does to the store. -/
def call {α : Type} (fate : Fate) (x : DeliveryTx α) (store : DeliveryStore) :
    Except DeliveryError α × DeliveryStore :=
  match fate with
  | .answered => x.run store
  | .unanswered => (.error .database, (x.run store).2)
  | .failed => (.error .database, store)

/-- What a step of a worker meets: the timestamp of its transaction and the fate of the call, what
the transaction observes, the two readings of the local clock and the answer of the provider. -/
structure Encounter where
  timestamp : Int
  fate : Fate
  input : OutboxClaimInput
  observed : Observed
  guardClock : Int
  sendClock : Int
  outcome : ProviderOutcome

/-- The deadline of the provider call, if the lease leaves time for one. -/
def clearance (e : Encounter) (claim : ClaimedOutboxEvent) : Option Int :=
  if e.guardClock < claim.owner.expiresAt ∧
      e.sendClock < claim.owner.expiresAt - leaseSafetyMargin then
    some (if claim.owner.expiresAt - leaseSafetyMargin < e.sendClock + config.sendTimeout then
        claim.owner.expiresAt - leaseSafetyMargin
      else e.sendClock + config.sendTimeout)
  else none

/-- The delay that goes with an outcome; `none` if there is none to give. -/
def retryAfterOutcome : Option Int :=
  if outcome = .temporaryFailure ∧ attempt.attempt < maxNotificationDeliveryAttempts then
    externalDeliveryRetryDelay config.retryBaseDelay attempt.attempt
  else some 0

/-- The settlement after a call: its result, or a retry after an error. -/
def settlementOf : Except DeliveryError Settlement → Settlement
  | .ok settlement => settlement
  | .error _ => .retry config.retryAfter

/-- One step of a worker. -/
def advance (e : Encounter) : Phase → DeliveryStore → Phase × DeliveryStore
  | .idle, store =>
    let result := call e.fate (claimOutbox e.timestamp e.input) store
    match result.1 with
    | .ok (some claim) => (.claimed claim, result.2)
    | _ => (.idle, result.2)
  | .claimed claim, store =>
    let result := call e.fate (prepareExternalDelivery e.timestamp e.observed claim) store
    match result.1 with
    | .ok (.prepared attempt) => (.prepared claim attempt, result.2)
    | .ok (.done settlement) => (.settling claim settlement, result.2)
    | .error _ => (.settling claim (.retry config.retryAfter), result.2)
  | .prepared claim attempt, store =>
    match clearance config e claim with
    | some deadline => (.cleared claim attempt deadline, store)
    | none => (.settling claim (.retry config.retryAfter), store)
  | .cleared claim attempt _, store => (.sending claim attempt, store)
  | .sending claim attempt, store => (.answered claim attempt e.outcome, store)
  | .answered claim attempt outcome, store =>
    match retryAfterOutcome config attempt outcome with
    | none => (.settling claim (.retry config.retryAfter), store)
    | some retryAfter =>
      let result := call e.fate
        (finalizeExternalDelivery e.timestamp claim attempt outcome retryAfter) store
      (.settling claim (settlementOf config result.1), result.2)
  | .settling claim settlement, store =>
    (.idle, (call e.fate (settleOutbox e.timestamp claim settlement) store).2)

/-- The clock, the rows and any number of workers. -/
structure DeliverySystem where
  now : Int
  store : DeliveryStore
  workers : Nat → Phase

inductive DeliveryLabel
  | tick
  | work (w : Nat) (e : Encounter)
  | crash (w : Nat)

/-- Time passes, a worker takes a step, or a worker is lost. A worker stalls by taking no step. -/
inductive DeliveryStep (config : DeliveryConfig) :
    DeliverySystem → DeliveryLabel → DeliverySystem → Prop
  | tick {s : DeliverySystem} {now : Int} (h : s.now ≤ now) :
      DeliveryStep config s .tick { s with now }
  | work {s : DeliverySystem} {w : Nat} {e : Encounter} (h : e.timestamp ≤ s.now) :
      DeliveryStep config s (.work w e)
        { s with
          store := (advance config e (s.workers w) s.store).2
          workers := Function.update s.workers w (advance config e (s.workers w) s.store).1 }
  | crash {s : DeliverySystem} {w : Nat} :
      DeliveryStep config s (.crash w) { s with workers := Function.update s.workers w .idle }

/-- A delivery as it is scheduled: it waits, and so does its outbox row. -/
structure Scheduled (s : DeliverySystem) : Prop where
  outbox : s.store.outbox.status = .pending
  delivery : ∀ row ∈ s.store.delivery, row.state = .pending ∧ row.attemptCount = 0 ∧
    row.attemptStartedAt = none
  attempts : s.store.attempts = []
  workers : ∀ w, s.workers w = .idle

end Houfeng.Collaboration
