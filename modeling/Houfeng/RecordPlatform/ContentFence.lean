import Houfeng.Foundation.Table
import Houfeng.RecordPlatform.Idempotency

/-!
# Serving leases and deletion fences

The rows of one object and the transactions on them: its delivery epoch, its content lease, its
deletion fence lease and the reservations of its deletion. A transaction judges expiry by the
timestamp at which it began. It locks every row it judges, and rows of an object are inserted only
under the lock of its epoch, so that it takes effect at once.
-/

namespace Houfeng.RecordPlatform

inductive LeaseError
  | invalidObjectRef (field : String)
  | invalidLease (field : String)
  | invalidReservationFence (field : String)
  | invalidOwnerLease
  | leaseAlreadyHeld
  | lostOwnerLease
  | contentDeliveryEpochMissing
  | deletionFenceLeaseLive
  | deletionReservationUnavailable
  | deletionSafetyUnavailable
  | database
deriving DecidableEq

def maxInt64 : Nat := 9223372036854775807

/-! ## Objects, leases and reservations -/

/-- The object that is served or deleted. -/
structure ObjectRef where
  projectID : String
  objectKind : String
  objectID : String
deriving DecidableEq

def validObjectText (limit : Nat) (value : String) : Bool :=
  value.toList ≠ [] && value.utf8ByteSize ≤ limit &&
    !isDeletionRequestTokenTransportEncoding value.toList &&
    value.toList.all fun c => ('a' ≤ c && c ≤ 'z') || ('0' ≤ c && c ≤ '9') || c = '_'

def validRecordPlatformObjectKind : String → Bool := validObjectText 64

def validRecordPlatformObjectID : String → Bool := validObjectText 128

variable (object : ObjectRef)

def ObjectRef.validate : Except LeaseError Unit :=
  if object.projectID ≠ "default" then .error (.invalidObjectRef "project")
  else if validRecordPlatformObjectKind object.objectKind = false then
    .error (.invalidObjectRef "object kind")
  else if validRecordPlatformObjectID object.objectID = false then
    .error (.invalidObjectRef "object id")
  else .ok ()

def validDeletionReservationID (value : String) : Bool :=
  "drs_".toList.isPrefixOf value.toList && 5 ≤ value.utf8ByteSize && value.utf8ByteSize ≤ 68 &&
    (value.toList.drop 4).all fun c => ('a' ≤ c && c ≤ 'z') || ('0' ≤ c && c ≤ '9')

/-- The duration is in nanoseconds. -/
structure LeaseClaimInput where
  ownerID : String
  leaseDuration : Int
deriving DecidableEq

def LeaseClaimInput.valid (input : LeaseClaimInput) : Bool :=
  validRecordPlatformOwnerID input.ownerID && 0 < microseconds input.leaseDuration

def expiryAt (timestamp duration : Int) : Int := timestamp + microseconds duration

/-- The right to serve the content, taken in an epoch. -/
structure ServingLease where
  owner : OwnerLease
  capturedEpoch : Nat
deriving DecidableEq

/-- The right to delete the object, which raised the epoch. -/
structure DeletionReservationFence where
  reservationID : String
  fenceEpoch : Nat
  owner : OwnerLease
deriving DecidableEq

def DeletionReservationFence.valid (fence : DeletionReservationFence) : Bool :=
  validDeletionReservationID fence.reservationID && fence.fenceEpoch ≠ 0 &&
    fence.owner.validate = .ok ()

/-- A row of `deletion_fence_leases` or `object_content_leases`. -/
structure LeaseRow where
  owner : OwnerLease
  createdAt : Int

/-- The lease has not run out. -/
def LeaseRow.live (timestamp : Int) (row : LeaseRow) : Bool := timestamp < row.owner.expiresAt

inductive ReservationState
  | previewed
  | fenced
  | committed
  | notCommitted
  | released
deriving DecidableEq

/-- A row of `deletion_reservations`. -/
structure Reservation where
  object : ObjectRef
  state : ReservationState
  fenceEpoch : Nat
  releaseEpoch : Nat
  ownerID : String
  ownerGeneration : Nat
  ownerExpiresAt : Option Int
  expiresAt : Int

/-- The row has exactly this owner. -/
def Reservation.ownedBy (row : Reservation) (owner : OwnerLease) : Bool :=
  row.ownerID = owner.ownerID && row.ownerGeneration = owner.generation &&
    row.ownerExpiresAt = some owner.expiresAt

def Reservation.withOwner (row : Reservation) (owner : OwnerLease) : Reservation :=
  { row with
    ownerID := owner.ownerID
    ownerGeneration := owner.generation
    ownerExpiresAt := some owner.expiresAt }

def Reservation.withoutOwner (row : Reservation) : Reservation :=
  { row with ownerID := "", ownerGeneration := 0, ownerExpiresAt := none }

inductive LeaseTable
  | deletionFence
  | objectContent
deriving DecidableEq

/-- Everything the transactions read and write about one object. -/
structure ObjectRows where
  deliveryEpoch : Option Nat
  fenceLease : Option LeaseRow
  contentLease : Option LeaseRow
  reservations : Table String Reservation

def ObjectRows.lease (s : ObjectRows) : LeaseTable → Option LeaseRow
  | .deletionFence => s.fenceLease
  | .objectContent => s.contentLease

def ObjectRows.withLease (s : ObjectRows) (table : LeaseTable) (row : LeaseRow) : ObjectRows :=
  match table with
  | .deletionFence => { s with fenceLease := some row }
  | .objectContent => { s with contentLease := some row }

abbrev FenceTx := Tx LeaseError ObjectRows

variable (timestamp : Int) (table : LeaseTable) (input : LeaseClaimInput)
  (fence : DeletionReservationFence) (owner : OwnerLease) (duration : Int) (row : Reservation)

/-! ## Statements on a lease -/

/-- A lease is written, unless a constraint of the table forbids it. -/
def writeLease (row : LeaseRow) : FenceTx Unit := do
  Tx.check (row.createdAt < row.owner.expiresAt ∧ row.owner.generation ≤ maxInt64) .database
  modify fun s => s.withLease table row

/-- `scanLiveOwnerLease`, of what a statement returned. -/
def scanLiveOwnerLease : FenceTx OwnerLease := do
  Tx.check (owner.validate = .ok ()) .invalidOwnerLease
  return owner

/-- Takes a lease that is free or has run out, with the next generation. -/
def claimObjectLease : FenceTx OwnerLease := do
  match (← get).lease table with
  | none =>
    let owner : OwnerLease := ⟨input.ownerID, 1, expiryAt timestamp input.leaseDuration⟩
    writeLease table ⟨owner, timestamp⟩
    scanLiveOwnerLease owner
  | some row =>
    Tx.check (row.owner.expiresAt ≤ timestamp) .leaseAlreadyHeld
    let owner : OwnerLease :=
      ⟨input.ownerID, row.owner.generation + 1, expiryAt timestamp input.leaseDuration⟩
    writeLease table { row with owner }
    scanLiveOwnerLease owner

/-- Moves the end of a lease that the owner still holds. -/
def setLeaseExpiry (expiresAt : Int) : FenceTx OwnerLease := do
  match (← get).lease table with
  | none => throw .lostOwnerLease
  | some row =>
    Tx.check (row.owner = owner ∧ timestamp < row.owner.expiresAt) .lostOwnerLease
    writeLease table { row with owner := { owner with expiresAt } }
    return { owner with expiresAt }

def renewLease : FenceTx OwnerLease := do
  let renewed ← setLeaseExpiry timestamp table owner (expiryAt timestamp duration)
  scanLiveOwnerLease renewed

def releaseLease : FenceTx Unit := do
  let _ ← setLeaseExpiry timestamp table owner timestamp

/-! ## Locking reads -/

/-- The callers answer a missing row differently. -/
def lockContentDeliveryEpochForFence (missing : LeaseError) : FenceTx Nat := do
  match (← get).deliveryEpoch with
  | none => throw missing
  | some epoch =>
    Tx.check (epoch ≠ maxInt64) (.invalidReservationFence "observed delivery epoch")
    return epoch

def validLeaseRow (row : LeaseRow) : Bool :=
  row.owner.generation ≠ 0 && row.owner.expiresAt ≠ 0 && validRecordPlatformOwnerID row.owner.ownerID

/-- The generation, and whether the lease is live. -/
def lockDeletionFenceLeaseForFence : FenceTx (Nat × Bool) := do
  match (← get).fenceLease with
  | none => return (0, false)
  | some row =>
    Tx.check (validLeaseRow row = true) (.invalidReservationFence "observed deletion fence lease")
    return (row.owner.generation, row.live timestamp)

/-- The owner, and whether the lease is live. -/
def lockObjectContentLeaseForFence : FenceTx (Option OwnerLease × Bool) := do
  match (← get).contentLease with
  | none => return (none, false)
  | some row =>
    Tx.check (validLeaseRow row = true) (.invalidReservationFence "observed object content lease")
    return (some row.owner, row.live timestamp)

variable (reservationID : String)

/-- The reservation, if it may still be fenced. -/
def lockPreviewedDeletionReservationForFence : FenceTx Reservation := do
  match (← get).reservations.lookup reservationID with
  | none => throw .deletionReservationUnavailable
  | some row =>
    Tx.check (row.state = .previewed ∧ timestamp < row.expiresAt) .deletionReservationUnavailable
    Tx.check (row.ownerExpiresAt = none ∧ row.expiresAt ≠ 0)
      (.invalidReservationFence "observed preview reservation")
    Tx.check (row.object.validate = .ok ()) (.invalidReservationFence "observed reservation object")
    return row

/-- One more than the larger of both generations. -/
def nextReservationFenceGeneration (reservationGeneration fenceGeneration : Nat) : FenceTx Nat := do
  Tx.check (reservationGeneration ≠ maxInt64 ∧ fenceGeneration ≠ maxInt64)
    (.invalidReservationFence "owner generation")
  return max reservationGeneration fenceGeneration + 1

/-! ## Serving -/

/-- The content is still leased to the server, in the epoch it captured. -/
def assertServingLease (serving : ServingLease) : FenceTx Unit := do
  let s ← get
  Tx.check (∃ row ∈ s.contentLease, row.owner = serving.owner ∧ timestamp < row.owner.expiresAt)
    .lostOwnerLease
  Tx.check (s.deliveryEpoch = some serving.capturedEpoch) .lostOwnerLease
  Tx.check (¬ ∃ row ∈ s.fenceLease, row.live timestamp = true) .lostOwnerLease

/-- Captures the epoch and leases the content. -/
def acquireServingLease : FenceTx ServingLease := do
  Tx.check (input.valid = true) (.invalidLease "owner or duration")
  let epoch ← lockContentDeliveryEpochForFence .contentDeliveryEpochMissing
  let (_, live) ← lockDeletionFenceLeaseForFence timestamp
  Tx.check (live = false) .deletionFenceLeaseLive
  let owner ← claimObjectLease timestamp .objectContent input
  assertServingLease timestamp ⟨owner, epoch⟩
  return ⟨owner, epoch⟩

/-- Prolongs a serving lease that still holds. -/
def renewServingLease (serving : ServingLease) (duration : Int) : FenceTx ServingLease := do
  Tx.check (serving.owner.validate = .ok ()) (.invalidLease "owner")
  Tx.check (0 < microseconds duration) (.invalidLease "duration")
  let epoch ← lockContentDeliveryEpochForFence .lostOwnerLease
  Tx.check (epoch = serving.capturedEpoch) .lostOwnerLease
  let (_, live) ← lockDeletionFenceLeaseForFence timestamp
  Tx.check (live = false) .lostOwnerLease
  let (owner, held) ← lockObjectContentLeaseForFence timestamp
  Tx.check (held = true ∧ owner = some serving.owner) .lostOwnerLease
  let renewed ← renewLease timestamp .objectContent serving.owner duration
  assertServingLease timestamp ⟨renewed, serving.capturedEpoch⟩
  return ⟨renewed, serving.capturedEpoch⟩

def acquireObjectContentLease : FenceTx OwnerLease := do
  Tx.check (input.valid = true) (.invalidLease "owner or duration")
  let _ ← lockContentDeliveryEpochForFence .contentDeliveryEpochMissing
  let (_, live) ← lockDeletionFenceLeaseForFence timestamp
  Tx.check (live = false) .deletionFenceLeaseLive
  claimObjectLease timestamp .objectContent input

def acquireDeletionFenceLease : FenceTx OwnerLease := do
  Tx.check (input.valid = true) (.invalidLease "owner or duration")
  let _ ← lockContentDeliveryEpochForFence .contentDeliveryEpochMissing
  claimObjectLease timestamp .deletionFence input

def renewObjectLease : FenceTx OwnerLease := do
  Tx.check (owner.validate = .ok ()) .invalidOwnerLease
  Tx.check (0 < microseconds duration) (.invalidLease "duration")
  renewLease timestamp table owner duration

def releaseObjectLease : FenceTx Unit := do
  Tx.check (owner.validate = .ok ()) .invalidOwnerLease
  releaseLease timestamp table owner

/-! ## Fencing a reservation -/

structure ReservationFenceInput where
  reservationID : String
  owner : LeaseClaimInput
deriving DecidableEq

def setReservation (row : Reservation) : FenceTx Unit :=
  modify fun s => { s with reservations := s.reservations.insert reservationID row }

/-- Gives the lease of the fence to the owner, if it is free or has run out. -/
def fenceDeletionFenceLease : FenceTx Unit := do
  match (← get).fenceLease with
  | none => writeLease .deletionFence ⟨owner, timestamp⟩
  | some row =>
    Tx.check (row.owner.expiresAt ≤ timestamp) .lostOwnerLease
    writeLease .deletionFence { row with owner }

/-- `fenceDeletionReservationInTransaction`. The reservation and the fence lease are bound to the
same owner; the update of the reservation repeats the condition of its lock. -/
def fenceDeletionReservation (timestamp : Int) (input : ReservationFenceInput) :
    FenceTx DeletionReservationFence := do
  Tx.check (validDeletionReservationID input.reservationID = true)
    (.invalidReservationFence "reservation id")
  Tx.check (input.owner.valid = true) (.invalidReservationFence "owner")
  let reservation ← lockPreviewedDeletionReservationForFence timestamp input.reservationID
  Tx.check (reservation.object = object) (.invalidReservationFence "reservation object")
  let epoch ← lockContentDeliveryEpochForFence .contentDeliveryEpochMissing
  let (fenceGeneration, live) ← lockDeletionFenceLeaseForFence timestamp
  Tx.check (live = false) .deletionFenceLeaseLive
  -- The content lease is only locked: the worker waits for it to run out before it goes on.
  let _ ← lockObjectContentLeaseForFence timestamp
  let generation ← nextReservationFenceGeneration reservation.ownerGeneration fenceGeneration
  modify fun s => { s with deliveryEpoch := some (epoch + 1) }
  let owner ← scanLiveOwnerLease
    ⟨input.owner.ownerID, generation, expiryAt timestamp input.owner.leaseDuration⟩
  setReservation input.reservationID
    { reservation.withOwner owner with state := .fenced, fenceEpoch := epoch + 1 }
  fenceDeletionFenceLease timestamp owner
  return ⟨input.reservationID, epoch + 1, owner⟩

/-- The reservation is fenced, by this fence, and its lease runs. -/
def fencedBy : Bool :=
  row.state = .fenced && row.ownedBy fence.owner && row.fenceEpoch = fence.fenceEpoch &&
    timestamp < fence.owner.expiresAt

/-- Prolongs the reservation and the lease of its fence. -/
def renewDeletionReservationFence : FenceTx DeletionReservationFence := do
  Tx.check (fence.valid = true) (.invalidReservationFence "fence")
  Tx.check (0 < microseconds duration) (.invalidLease "duration")
  match (← get).reservations.lookup fence.reservationID with
  | none => throw .lostOwnerLease
  | some row =>
    Tx.check (fencedBy timestamp fence row = true) .lostOwnerLease
    let owner ← scanLiveOwnerLease { fence.owner with expiresAt := expiryAt timestamp duration }
    setReservation fence.reservationID (row.withOwner owner)
    let fenceOwner ← renewLease timestamp .deletionFence fence.owner duration
    Tx.check (owner = fenceOwner) (.invalidReservationFence "divergent renewed owners")
    return { fence with owner }

/-- Gives the reservation up; the lease of its fence ends now. -/
def releaseDeletionReservationFence : FenceTx Unit := do
  Tx.check (fence.valid = true) (.invalidReservationFence "fence")
  match (← get).reservations.lookup fence.reservationID with
  | none => throw .lostOwnerLease
  | some row =>
    Tx.check (fencedBy timestamp fence row = true) .lostOwnerLease
    setReservation fence.reservationID { row.withoutOwner with state := .released }
    releaseLease timestamp .deletionFence fence.owner

/-- The same live owner keeps its generation, an expired one is superseded. -/
def nextRecordDeletionOwner (oldOwner : OwnerLease) (input : LeaseClaimInput) :
    FenceTx OwnerLease := do
  Tx.check (oldOwner.validate = .ok () ∧ timestamp ≠ 0 ∧ input.valid = true)
    .deletionSafetyUnavailable
  if oldOwner.ownerID ≠ input.ownerID ∨ oldOwner.expiresAt ≤ timestamp then
    Tx.check (oldOwner.expiresAt ≤ timestamp ∧ oldOwner.generation < maxInt64) .lostOwnerLease
    return ⟨input.ownerID, oldOwner.generation + 1, expiryAt timestamp input.leaseDuration⟩
  else
    return ⟨input.ownerID, oldOwner.generation, expiryAt timestamp input.leaseDuration⟩

/-- The part of `ClaimDeletionWork` that takes over a fenced reservation with its fence lease. The
operation has the owner of its reservation, or the claim fails; an operation that is only
provisionally fenced is claimed when no content lease is live. -/
def takeOverDeletionReservation (provisional : Bool) (input : LeaseClaimInput) :
    FenceTx OwnerLease := do
  Tx.check (input.valid = true) (.invalidLease "owner or duration")
  match (← get).reservations.lookup reservationID with
  | none => throw .lostOwnerLease
  | some row =>
    match row.ownerExpiresAt with
    | none => throw .deletionSafetyUnavailable
    | some ownerExpiresAt =>
      let oldOwner : OwnerLease := ⟨row.ownerID, row.ownerGeneration, ownerExpiresAt⟩
      Tx.check (row.state = .fenced) .deletionSafetyUnavailable
      Tx.check (oldOwner.ownerID = input.ownerID ∨ oldOwner.expiresAt ≤ timestamp) .lostOwnerLease
      let s ← get
      Tx.check (provisional = true → ¬ ∃ lease ∈ s.contentLease, lease.live timestamp = true)
        .lostOwnerLease
      let newOwner ← nextRecordDeletionOwner timestamp oldOwner input
      match s.fenceLease with
      | none => throw .lostOwnerLease
      | some lease =>
        Tx.check (lease.owner = oldOwner) .lostOwnerLease
        setReservation reservationID (row.withOwner newOwner)
        writeLease .deletionFence { lease with owner := newOwner }
        scanLiveOwnerLease newOwner

/-- `finalizeNotCommittedFenceSQL`. -/
def expireDeletionFenceLease : FenceTx Unit := do
  match (← get).fenceLease with
  | none => throw .lostOwnerLease
  | some lease =>
    Tx.check (lease.owner = owner) .lostOwnerLease
    writeLease .deletionFence { lease with owner := { lease.owner with expiresAt := timestamp } }

/-- What `FinalizeNotCommitted` does to the reservation and the fence lease of its operation. The
owner is compared, its expiry is not judged. -/
def finalizeNotCommitted (releaseEpoch : Nat) : FenceTx Unit := do
  match (← get).reservations.lookup fence.reservationID with
  | none => throw .lostOwnerLease
  | some row =>
    Tx.check (row.state = .fenced ∧ row.fenceEpoch = fence.fenceEpoch ∧ row.releaseEpoch = 0 ∧
      row.ownedBy fence.owner = true) .lostOwnerLease
    setReservation fence.reservationID
      { row.withoutOwner with state := .notCommitted, releaseEpoch }
    expireDeletionFenceLease timestamp fence.owner

/-! ## Transactions on one object -/

inductive FenceCall
  | acquireServing (input : LeaseClaimInput)
  | renewServing (serving : ServingLease) (duration : Int)
  | assertServing (serving : ServingLease)
  | acquireContent (input : LeaseClaimInput)
  | acquireFence (input : LeaseClaimInput)
  | renewLease (table : LeaseTable) (owner : OwnerLease) (duration : Int)
  | releaseLease (table : LeaseTable) (owner : OwnerLease)
  | fenceReservation (input : ReservationFenceInput)
  | renewReservation (fence : DeletionReservationFence) (duration : Int)
  | releaseReservation (fence : DeletionReservationFence)
  | takeOver (reservationID : String) (provisional : Bool) (input : LeaseClaimInput)
  | finalize (fence : DeletionReservationFence) (releaseEpoch : Nat)
deriving DecidableEq

inductive FenceOutcome
  | serving (lease : ServingLease)
  | fenced (fence : DeletionReservationFence)
  | owned (owner : OwnerLease)
  | done

def FenceCall.body (timestamp : Int) : FenceCall → FenceTx FenceOutcome
  | .acquireServing input => return .serving (← acquireServingLease timestamp input)
  | .renewServing serving duration =>
    return .serving (← renewServingLease timestamp serving duration)
  | .assertServing serving => do
    Tx.check (serving.owner.validate = .ok ()) (.invalidLease "owner")
    assertServingLease timestamp serving
    return .serving serving
  | .acquireContent input => return .owned (← acquireObjectContentLease timestamp input)
  | .acquireFence input => return .owned (← acquireDeletionFenceLease timestamp input)
  | .renewLease table owner duration =>
    return .owned (← renewObjectLease timestamp table owner duration)
  | .releaseLease table owner => do
    releaseObjectLease timestamp table owner
    return .done
  | .fenceReservation input => return .fenced (← fenceDeletionReservation object timestamp input)
  | .renewReservation fence duration =>
    return .owned (← renewDeletionReservationFence timestamp fence duration).owner
  | .releaseReservation fence => do
    releaseDeletionReservationFence timestamp fence
    return .done
  | .takeOver reservationID provisional input =>
    return .owned (← takeOverDeletionReservation timestamp reservationID provisional input)
  | .finalize fence releaseEpoch => do
    finalizeNotCommitted timestamp fence releaseEpoch
    return .done

/-- A transaction that has begun; its time is fixed. -/
structure FenceTransaction where
  call : FenceCall
  timestamp : Int
deriving DecidableEq

/-- The database as far as one object goes: its clock, the rows and the open transactions. -/
structure FenceState where
  now : Int
  rows : ObjectRows
  running : List FenceTransaction

inductive FenceLabel
  | tick
  | begin (t : FenceTransaction)
  | finished (t : FenceTransaction) (outcome : Except LeaseError FenceOutcome)
  | aborted (t : FenceTransaction)

/-- Transactions begin, take effect in any order, and may be lost before they do. -/
inductive FenceStep (object : ObjectRef) : FenceState → FenceLabel → FenceState → Prop
  | tick {s : FenceState} {now : Int} (h : s.now ≤ now) : FenceStep object s .tick { s with now }
  | begin {s : FenceState} (call : FenceCall) :
      FenceStep object s (.begin ⟨call, s.now⟩) { s with running := ⟨call, s.now⟩ :: s.running }
  | finished {s : FenceState} {t : FenceTransaction} (ht : t ∈ s.running) :
      FenceStep object s (.finished t ((t.call.body object t.timestamp).run s.rows).1)
        { s with
          rows := ((t.call.body object t.timestamp).run s.rows).2
          running := s.running.erase t }
  | aborted {s : FenceState} {t : FenceTransaction} (ht : t ∈ s.running) :
      FenceStep object s (.aborted t) { s with running := s.running.erase t }

def FenceState.idle (now : Int) (rows : ObjectRows) : FenceState := ⟨now, rows, []⟩

end Houfeng.RecordPlatform
