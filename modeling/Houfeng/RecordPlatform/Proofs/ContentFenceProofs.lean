import Houfeng.Foundation.Runs
import Houfeng.RecordPlatform.ContentFence

/-!
# Serving never survives a fence

`LeaseChange` says what a transaction can do to a lease, and `FenceEffect` what one that succeeds
has done to the rows of its object. The rest is read off these two. A transaction judges a fence
lease by its own timestamp, but as the lease is recorded when it takes effect.
-/

namespace Houfeng.RecordPlatform

open Option Tx

variable {ts : Int} {s s' : ObjectRows} {table : LeaseTable}

/-! ## What happens to a lease -/

/-- A lease is claimed only when it has run out. -/
inductive LeaseChange (ts : Int) : Option LeaseRow → Option LeaseRow → Prop
  | kept (r : Option LeaseRow) : LeaseChange ts r r
  | moved (row : LeaseRow) (expiresAt : Int) (hle : ts ≤ expiresAt) :
      LeaseChange ts (some row) (some { row with owner := { row.owner with expiresAt } })
  | claimed (r : Option LeaseRow) (row' : LeaseRow)
      (hexpired : ∀ row, r = some row → row.owner.expiresAt ≤ ts)
      (hnewer : ∀ row, r = some row → row.owner.generation < row'.owner.generation)
      (hle : ts ≤ row'.owner.expiresAt) : LeaseChange ts r (some row')

variable {row row' : LeaseRow}

theorem LeaseChange.claimed_none (hle : ts ≤ row'.owner.expiresAt) :
    LeaseChange ts none (some row') :=
  .claimed _ _ nofun nofun hle

theorem LeaseChange.claimed_some (hexpired : row.owner.expiresAt ≤ ts)
    (hnewer : row.owner.generation < row'.owner.generation) (hle : ts ≤ row'.owner.expiresAt) :
    LeaseChange ts (some row) (some row') := by
  refine .claimed _ _ ?_ ?_ hle
  · rintro _ ⟨⟩
    exact hexpired
  · rintro _ ⟨⟩
    exact hnewer

variable {r' : Option LeaseRow} {τ : Int}

/-- The generation never falls, and rises when the owner changes; an owner is replaced only when
its lease has expired. -/
theorem LeaseChange.generation (h : LeaseChange ts (some row) r') :
    ∃ row', r' = some row' ∧ row.owner.generation ≤ row'.owner.generation ∧
      (row.owner.ownerID ≠ row'.owner.ownerID →
        row.owner.generation < row'.owner.generation ∧ row.owner.expiresAt ≤ ts) := by
  cases h with
  | kept => exact ⟨_, rfl, le_refl _, fun h => absurd rfl h⟩
  | moved => exact ⟨_, rfl, le_refl _, fun h => absurd rfl h⟩
  | claimed _ _ hexpired hnewer =>
    have hlt := hnewer row rfl
    exact ⟨_, rfl, hlt.le, fun _ => ⟨hlt, hexpired row rfl⟩⟩

/-- A lease that was live at a time is live at that time still, unless a transaction that had begun
no later has moved its expiry. -/
theorem LeaseChange.live (h : LeaseChange ts (some row) r') (hlive : τ < row.owner.expiresAt) :
    ∃ row', r' = some row' ∧ (τ < row'.owner.expiresAt ∨
      ts ≤ τ ∧ row'.owner.expiresAt ≤ τ ∧ row'.owner.ownerID = row.owner.ownerID ∧
        row'.owner.generation = row.owner.generation) := by
  cases h with
  | kept => exact ⟨row, rfl, .inl hlive⟩
  | moved _ expiresAt hle =>
    refine ⟨_, rfl, ?_⟩
    by_cases hτ : τ < expiresAt
    · exact .inl hτ
    · exact .inr ⟨by omega, by simpa using hτ, rfl, rfl⟩
  | claimed _ row' hexpired _ hle =>
    have := hexpired row rfl
    exact ⟨row', rfl, .inl (by omega)⟩

/-- What a transaction that does not fence can do to the rows. -/
structure Moves (ts : Int) (s s' : ObjectRows) : Prop where
  epoch : s'.deliveryEpoch = s.deliveryEpoch
  leases : ∀ table, LeaseChange ts (s.lease table) (s'.lease table)

theorem Moves.refl : Moves ts s s := ⟨rfl, fun table => .kept (s.lease table)⟩

theorem Moves.withLease (h : LeaseChange ts (s.lease table) (some row)) :
    Moves ts s (s.withLease table row) := by
  refine ⟨?_, fun table' => ?_⟩
  · cases table <;> rfl
  · cases table <;> cases table' <;> first | exact h | exact .kept _

/-- The reservations are no part of what `Moves` speaks of. -/
theorem Moves.of_reservations {reservations : Table String Reservation}
    (h : Moves ts { s with reservations } s') : Moves ts s s' :=
  ⟨h.epoch, fun table => by
    have hlease := h.leases table
    cases table <;> exact hlease⟩

theorem reservations_withLease : (s.withLease table row).reservations = s.reservations := by
  cases table <;> rfl

/-! ## Statements on a lease -/

variable {u : Unit}

theorem writeLease_eq_ok (h : writeLease table row s = .ok (u, s')) :
    s' = s.withLease table row := by
  obtain ⟨-, h⟩ := check_bind_eq_ok h
  cases h
  rfl

variable {owner a : OwnerLease}

theorem scanLiveOwnerLease_eq_ok (h : scanLiveOwnerLease owner s = .ok (a, s')) :
    s' = s ∧ a = owner := by
  obtain ⟨-, h⟩ := check_bind_eq_ok h
  cases h
  exact ⟨rfl, rfl⟩

variable {duration : Int}

theorem lt_expiryAt (h : 0 < microseconds duration) : ts < expiryAt ts duration := by
  rw [expiryAt]
  omega

variable {input : LeaseClaimInput}

theorem LeaseClaimInput.duration_pos (h : input.valid = true) :
    0 < microseconds input.leaseDuration := by
  simp only [LeaseClaimInput.valid, Bool.and_eq_true, decide_eq_true_eq] at h
  exact h.2

theorem claimObjectLease_eq_ok (hvalid : input.valid = true)
    (h : claimObjectLease ts table input s = .ok (owner, s')) :
    Moves ts s s' := by
  have hlt : ts < expiryAt ts input.leaseDuration :=
    lt_expiryAt (LeaseClaimInput.duration_pos hvalid)
  replace h := get_bind_eq_ok h
  cases hlease : s.lease table with
  | none =>
    simp only [hlease] at h
    obtain ⟨_, s1, hwrite, hscan⟩ := bind_eq_ok h
    obtain ⟨rfl, -⟩ := scanLiveOwnerLease_eq_ok hscan
    rw [writeLease_eq_ok hwrite]
    refine .withLease ?_
    rw [hlease]
    exact .claimed_none hlt.le
  | some row =>
    simp only [hlease] at h
    obtain ⟨hexpired, h⟩ := check_bind_eq_ok h
    obtain ⟨_, s1, hwrite, hscan⟩ := bind_eq_ok h
    obtain ⟨rfl, -⟩ := scanLiveOwnerLease_eq_ok hscan
    rw [writeLease_eq_ok hwrite]
    refine .withLease ?_
    rw [hlease]
    exact .claimed_some hexpired (Nat.lt_succ_self _) hlt.le

theorem setLeaseExpiry_eq_ok {expiresAt : Int} (hle : ts ≤ expiresAt)
    (h : setLeaseExpiry ts table owner expiresAt s = .ok (a, s')) :
    Moves ts s s' ∧ s'.reservations = s.reservations := by
  replace h := get_bind_eq_ok h
  rcases hlease : s.lease table with _ | row <;> simp only [hlease] at h
  · cases h
  obtain ⟨⟨rfl, -⟩, h⟩ := check_bind_eq_ok h
  obtain ⟨_, s1, hwrite, h⟩ := bind_eq_ok h
  cases h
  rw [writeLease_eq_ok hwrite]
  refine ⟨.withLease ?_, reservations_withLease⟩
  rw [hlease]
  exact .moved row expiresAt hle

theorem renewLease_eq_ok (hpos : 0 < microseconds duration)
    (h : renewLease ts table owner duration s = .ok (a, s')) :
    Moves ts s s' ∧ s'.reservations = s.reservations := by
  obtain ⟨_, s1, hset, hscan⟩ := bind_eq_ok h
  obtain ⟨rfl, -⟩ := scanLiveOwnerLease_eq_ok hscan
  exact setLeaseExpiry_eq_ok (lt_expiryAt hpos).le hset

theorem releaseLease_eq_ok (h : releaseLease ts table owner s = .ok (u, s')) : Moves ts s s' := by
  obtain ⟨_, s1, hset, h⟩ := bind_eq_ok h
  cases h
  exact (setLeaseExpiry_eq_ok le_rfl hset).1

/-! ## Locking reads -/

theorem lockContentDeliveryEpochForFence_eq_ok {missing : LeaseError} {epoch : Nat}
    (h : lockContentDeliveryEpochForFence missing s = .ok (epoch, s')) :
    s' = s ∧ s.deliveryEpoch = some epoch := by
  replace h := get_bind_eq_ok h
  rcases hepoch : s.deliveryEpoch with _ | n <;> simp only [hepoch] at h
  · cases h
  obtain ⟨-, h⟩ := check_bind_eq_ok h
  cases h
  exact ⟨rfl, rfl⟩

theorem lockDeletionFenceLeaseForFence_eq_ok {p : Nat × Bool}
    (h : lockDeletionFenceLeaseForFence ts s = .ok (p, s')) :
    s' = s ∧ ∀ row, s.fenceLease = some row → p = (row.owner.generation, row.live ts) := by
  replace h := get_bind_eq_ok h
  rcases hlease : s.fenceLease with _ | row <;> simp only [hlease] at h
  · cases h
    exact ⟨rfl, nofun⟩
  obtain ⟨-, h⟩ := check_bind_eq_ok h
  cases h
  refine ⟨rfl, fun row' hrow => ?_⟩
  cases hrow
  rfl

theorem lockObjectContentLeaseForFence_eq_ok {p : Option OwnerLease × Bool}
    (h : lockObjectContentLeaseForFence ts s = .ok (p, s')) :
    s' = s ∧ ∀ row, s.contentLease = some row → p = (some row.owner, row.live ts) := by
  replace h := get_bind_eq_ok h
  rcases hlease : s.contentLease with _ | row <;> simp only [hlease] at h
  · cases h
    exact ⟨rfl, nofun⟩
  obtain ⟨-, h⟩ := check_bind_eq_ok h
  cases h
  refine ⟨rfl, fun row' hrow => ?_⟩
  cases hrow
  rfl

variable {reservationID : String}

theorem lockPreviewedDeletionReservationForFence_eq_ok {row : Reservation}
    (h : lockPreviewedDeletionReservationForFence ts reservationID s = .ok (row, s')) :
    s' = s ∧ s.reservations.lookup reservationID = some row := by
  replace h := get_bind_eq_ok h
  rcases hlookup : s.reservations.lookup reservationID with _ | found <;> simp only [hlookup] at h
  · cases h
  obtain ⟨-, h⟩ := check_bind_eq_ok h
  obtain ⟨-, h⟩ := check_bind_eq_ok h
  obtain ⟨-, h⟩ := check_bind_eq_ok h
  cases h
  exact ⟨rfl, rfl⟩

variable {n : Nat}

theorem nextReservationFenceGeneration_eq_ok {m generation : Nat}
    (h : nextReservationFenceGeneration m n s = .ok (generation, s')) :
    s' = s ∧ n < generation := by
  obtain ⟨-, h⟩ := check_bind_eq_ok h
  cases h
  exact ⟨rfl, by omega⟩

/-! ## Serving -/

/-- What a serving lease rests on when it is given: the epoch it captured is the current one, and
no fence is live. -/
structure Serves (ts : Int) (serving : ServingLease) (s : ObjectRows) : Prop where
  epoch : s.deliveryEpoch = some serving.capturedEpoch
  unfenced : ∀ row, s.fenceLease = some row → row.owner.expiresAt ≤ ts

theorem expired_of_not_live (h : row.live ts = false) : row.owner.expiresAt ≤ ts := by
  simpa [LeaseRow.live] using h

variable {serving : ServingLease}

theorem assertServingLease_eq_ok (h : assertServingLease ts serving s = .ok (u, s')) :
    s' = s ∧ Serves ts serving s := by
  replace h := get_bind_eq_ok h
  obtain ⟨-, h⟩ := check_bind_eq_ok h
  obtain ⟨hepoch, h⟩ := check_bind_eq_ok h
  obtain ⟨hfence, rfl⟩ := check_eq_ok h
  refine ⟨rfl, hepoch, fun row hrow => expired_of_not_live ?_⟩
  by_contra hlive
  exact hfence ⟨row, hrow, by simpa using hlive⟩

theorem acquireServingLease_eq_ok (h : acquireServingLease ts input s = .ok (serving, s')) :
    Moves ts s s' ∧ Serves ts serving s := by
  obtain ⟨hvalid, h⟩ := check_bind_eq_ok h
  obtain ⟨epoch, hepoch, h⟩ := read_bind_eq_ok lockContentDeliveryEpochForFence_eq_ok h
  obtain ⟨⟨g, live⟩, hfence, h⟩ := read_bind_eq_ok lockDeletionFenceLeaseForFence_eq_ok h
  obtain ⟨hlive, h⟩ := check_bind_eq_ok h
  obtain ⟨owner, s1, hclaim, h⟩ := bind_eq_ok h
  obtain ⟨_, -, h⟩ := read_bind_eq_ok assertServingLease_eq_ok h
  cases h
  refine ⟨claimObjectLease_eq_ok hvalid hclaim, hepoch, fun row hrow => expired_of_not_live ?_⟩
  exact (congrArg Prod.snd (hfence row hrow)).symm.trans hlive

theorem renewServingLease_eq_ok {renewed : ServingLease}
    (h : renewServingLease ts serving duration s = .ok (renewed, s')) :
    Moves ts s s' ∧ Serves ts renewed s := by
  obtain ⟨-, h⟩ := check_bind_eq_ok h
  obtain ⟨hpos, h⟩ := check_bind_eq_ok h
  obtain ⟨epoch, hepoch, h⟩ := read_bind_eq_ok lockContentDeliveryEpochForFence_eq_ok h
  obtain ⟨hsame, h⟩ := check_bind_eq_ok h
  obtain ⟨⟨g, live⟩, hfence, h⟩ := read_bind_eq_ok lockDeletionFenceLeaseForFence_eq_ok h
  obtain ⟨hlive, h⟩ := check_bind_eq_ok h
  obtain ⟨_, -, h⟩ := read_bind_eq_ok lockObjectContentLeaseForFence_eq_ok h
  obtain ⟨-, h⟩ := check_bind_eq_ok h
  obtain ⟨owner, s1, hrenew, h⟩ := bind_eq_ok h
  obtain ⟨_, -, h⟩ := read_bind_eq_ok assertServingLease_eq_ok h
  cases h
  refine ⟨(renewLease_eq_ok hpos hrenew).1, hepoch.trans (congrArg some hsame), fun row hrow =>
    expired_of_not_live ?_⟩
  exact (congrArg Prod.snd (hfence row hrow)).symm.trans hlive

theorem acquireObjectContentLease_eq_ok (h : acquireObjectContentLease ts input s = .ok (owner, s')) :
    Moves ts s s' := by
  obtain ⟨hvalid, h⟩ := check_bind_eq_ok h
  obtain ⟨_, -, h⟩ := read_bind_eq_ok lockContentDeliveryEpochForFence_eq_ok h
  obtain ⟨_, -, h⟩ := read_bind_eq_ok lockDeletionFenceLeaseForFence_eq_ok h
  obtain ⟨-, h⟩ := check_bind_eq_ok h
  exact claimObjectLease_eq_ok hvalid h

theorem acquireDeletionFenceLease_eq_ok (h : acquireDeletionFenceLease ts input s = .ok (owner, s')) :
    Moves ts s s' := by
  obtain ⟨hvalid, h⟩ := check_bind_eq_ok h
  obtain ⟨_, -, h⟩ := read_bind_eq_ok lockContentDeliveryEpochForFence_eq_ok h
  exact claimObjectLease_eq_ok hvalid h

theorem renewObjectLease_eq_ok (h : renewObjectLease ts table owner duration s = .ok (a, s')) :
    Moves ts s s' := by
  obtain ⟨-, h⟩ := check_bind_eq_ok h
  obtain ⟨hpos, h⟩ := check_bind_eq_ok h
  exact (renewLease_eq_ok hpos h).1

theorem releaseObjectLease_eq_ok (h : releaseObjectLease ts table owner s = .ok (u, s')) :
    Moves ts s s' := by
  obtain ⟨-, h⟩ := check_bind_eq_ok h
  exact releaseLease_eq_ok h

/-! ## Fencing -/

def WritesReservation (id : String) (s s' : ObjectRows) : Prop :=
  ∃ row, s'.reservations = s.reservations.insert id row

structure Fences (ts : Int) (fence : DeletionReservationFence) (s s' : ObjectRows) : Prop where
  epoch : ∃ n, s.deliveryEpoch = some n ∧ s'.deliveryEpoch = some (n + 1) ∧ fence.fenceEpoch = n + 1
  leases : ∀ table, LeaseChange ts (s.lease table) (s'.lease table)

theorem fenceDeletionFenceLease_eq_ok (hlt : ts < owner.expiresAt)
    (hnewer : ∀ row, s.fenceLease = some row → row.owner.generation < owner.generation)
    (h : fenceDeletionFenceLease ts owner s = .ok (u, s')) :
    Moves ts s s' ∧ s'.reservations = s.reservations := by
  replace h := get_bind_eq_ok h
  cases hlease : s.fenceLease with
  | none =>
    simp only [hlease] at h
    rw [writeLease_eq_ok h]
    refine ⟨.withLease ?_, reservations_withLease⟩
    rw [show s.lease .deletionFence = none from hlease]
    exact .claimed_none hlt.le
  | some row =>
    simp only [hlease] at h
    obtain ⟨hexpired, h⟩ := check_bind_eq_ok h
    rw [writeLease_eq_ok h]
    refine ⟨.withLease ?_, reservations_withLease⟩
    rw [show s.lease .deletionFence = some row from hlease]
    exact .claimed_some hexpired (hnewer row hlease) hlt.le

variable {fence : DeletionReservationFence}

theorem fenceDeletionReservation_eq_ok {object : ObjectRef} {input : ReservationFenceInput}
    (h : fenceDeletionReservation object ts input s = .ok (fence, s')) :
    Fences ts fence s s' ∧ WritesReservation input.reservationID s s' := by
  obtain ⟨-, h⟩ := check_bind_eq_ok h
  obtain ⟨hvalid, h⟩ := check_bind_eq_ok h
  obtain ⟨reservation, -, h⟩ := read_bind_eq_ok lockPreviewedDeletionReservationForFence_eq_ok h
  obtain ⟨-, h⟩ := check_bind_eq_ok h
  obtain ⟨epoch, hepoch, h⟩ := read_bind_eq_ok lockContentDeliveryEpochForFence_eq_ok h
  obtain ⟨⟨g, live⟩, hfence, h⟩ := read_bind_eq_ok lockDeletionFenceLeaseForFence_eq_ok h
  obtain ⟨hlive, h⟩ := check_bind_eq_ok h
  obtain ⟨_, -, h⟩ := read_bind_eq_ok lockObjectContentLeaseForFence_eq_ok h
  obtain ⟨generation, hnext, h⟩ := read_bind_eq_ok nextReservationFenceGeneration_eq_ok h
  obtain ⟨_, _, hmodify, h⟩ := bind_eq_ok h
  cases hmodify
  obtain ⟨owner, rfl, h⟩ := read_bind_eq_ok scanLiveOwnerLease_eq_ok h
  obtain ⟨_, _, hset, h⟩ := bind_eq_ok h
  cases hset
  obtain ⟨_, s1, hlease, h⟩ := bind_eq_ok h
  cases h
  have hnewer : ∀ row, s.fenceLease = some row → row.owner.generation < generation := by
    intro row hrow
    have hg : g = row.owner.generation := congrArg Prod.fst (hfence row hrow)
    omega
  obtain ⟨hmoves, hreservations⟩ := fenceDeletionFenceLease_eq_ok (lt_expiryAt (LeaseClaimInput.duration_pos hvalid))
    hnewer hlease
  refine ⟨⟨⟨epoch, hepoch, hmoves.epoch, rfl⟩, fun table => ?_⟩, _, hreservations⟩
  have hchange := hmoves.leases table
  cases table <;> exact hchange

theorem renewDeletionReservationFence_eq_ok {renewed : DeletionReservationFence}
    (h : renewDeletionReservationFence ts fence duration s = .ok (renewed, s')) :
    Moves ts s s' ∧ WritesReservation fence.reservationID s s' := by
  obtain ⟨-, h⟩ := check_bind_eq_ok h
  obtain ⟨hpos, h⟩ := check_bind_eq_ok h
  replace h := get_bind_eq_ok h
  rcases hlookup : s.reservations.lookup fence.reservationID with _ | row <;>
  simp only [hlookup] at h
  · cases h
  obtain ⟨-, h⟩ := check_bind_eq_ok h
  obtain ⟨owner, rfl, h⟩ := read_bind_eq_ok scanLiveOwnerLease_eq_ok h
  obtain ⟨_, _, hset, h⟩ := bind_eq_ok h
  cases hset
  obtain ⟨_, s1, hrenew, h⟩ := bind_eq_ok h
  obtain ⟨-, h⟩ := check_bind_eq_ok h
  cases h
  obtain ⟨hmoves, hreservations⟩ := renewLease_eq_ok hpos hrenew
  exact ⟨hmoves.of_reservations, _, hreservations⟩

theorem releaseDeletionReservationFence_eq_ok
    (h : releaseDeletionReservationFence ts fence s = .ok (u, s')) : Moves ts s s' := by
  obtain ⟨-, h⟩ := check_bind_eq_ok h
  replace h := get_bind_eq_ok h
  rcases hlookup : s.reservations.lookup fence.reservationID with _ | row <;>
  simp only [hlookup] at h
  · cases h
  obtain ⟨-, h⟩ := check_bind_eq_ok h
  obtain ⟨_, _, hset, h⟩ := bind_eq_ok h
  cases hset
  exact (releaseLease_eq_ok h).of_reservations

theorem nextRecordDeletionOwner_eq_ok {oldOwner : OwnerLease}
    (h : nextRecordDeletionOwner ts oldOwner input s = .ok (owner, s')) :
    s' = s ∧ ∀ row : LeaseRow, row.owner = oldOwner →
      LeaseChange ts (some row) (some { row with owner }) := by
  obtain ⟨⟨-, -, hvalid⟩, h⟩ := check_bind_eq_ok h
  have hlt : ts < expiryAt ts input.leaseDuration :=
    lt_expiryAt (LeaseClaimInput.duration_pos hvalid)
  split_ifs at h with hother
  · obtain ⟨⟨hexpired, -⟩, h⟩ := check_bind_eq_ok h
    cases h
    refine ⟨rfl, fun row hrow => ?_⟩
    subst hrow
    exact .claimed_some hexpired (Nat.lt_succ_self _) hlt.le
  · cases h
    push Not at hother
    refine ⟨rfl, fun row hrow => ?_⟩
    subst hrow
    rw [← hother.1]
    exact .moved row _ hlt.le

theorem takeOverDeletionReservation_eq_ok {provisional : Bool}
    (h : takeOverDeletionReservation ts reservationID provisional input s = .ok (owner, s')) :
    Moves ts s s' ∧ WritesReservation reservationID s s' := by
  obtain ⟨-, h⟩ := check_bind_eq_ok h
  replace h := get_bind_eq_ok h
  cases hlookup : s.reservations.lookup reservationID with
  | none =>
    simp only [hlookup] at h
    cases h
  | some reservation =>
    cases hexp : reservation.ownerExpiresAt with
    | none =>
      simp only [hlookup, hexp] at h
      cases h
    | some expiresAt =>
      simp only [hlookup, hexp] at h
      obtain ⟨-, h⟩ := check_bind_eq_ok h
      obtain ⟨-, h⟩ := check_bind_eq_ok h
      replace h := get_bind_eq_ok h
      obtain ⟨-, h⟩ := check_bind_eq_ok h
      obtain ⟨newOwner, hnext, h⟩ := read_bind_eq_ok nextRecordDeletionOwner_eq_ok h
      rcases hlease : s.fenceLease with _ | lease <;> simp only [hlease] at h
      · cases h
      obtain ⟨hsame, h⟩ := check_bind_eq_ok h
      have hchange := hnext lease hsame
      obtain ⟨_, _, hset, h⟩ := bind_eq_ok h
      cases hset
      obtain ⟨_, s2, hwrite, hscan⟩ := bind_eq_ok h
      obtain ⟨rfl, -⟩ := scanLiveOwnerLease_eq_ok hscan
      rw [writeLease_eq_ok hwrite]
      refine ⟨Moves.of_reservations (.withLease ?_), _, reservations_withLease⟩
      rw [← hlease] at hchange
      exact hchange

theorem expireDeletionFenceLease_eq_ok (h : expireDeletionFenceLease ts owner s = .ok (u, s')) :
    Moves ts s s' := by
  replace h := get_bind_eq_ok h
  rcases hlease : s.fenceLease with _ | lease <;> simp only [hlease] at h
  · cases h
  obtain ⟨-, h⟩ := check_bind_eq_ok h
  rw [writeLease_eq_ok h]
  refine .withLease ?_
  have hmoved := LeaseChange.moved lease ts (le_refl ts)
  rw [← hlease] at hmoved
  exact hmoved

theorem finalizeNotCommitted_eq_ok {releaseEpoch : Nat}
    (h : finalizeNotCommitted ts fence releaseEpoch s = .ok (u, s')) : Moves ts s s' := by
  replace h := get_bind_eq_ok h
  rcases hlookup : s.reservations.lookup fence.reservationID with _ | row <;>
  simp only [hlookup] at h
  · cases h
  obtain ⟨-, h⟩ := check_bind_eq_ok h
  obtain ⟨_, _, hset, h⟩ := bind_eq_ok h
  cases hset
  exact (expireDeletionFenceLease_eq_ok h).of_reservations

/-! ## Transactions -/

/-- All that a transaction that succeeded has done to the rows of its object, and what the serving
lease it answered with rests on. -/
structure FenceEffect (ts : Int) (s : ObjectRows) (out : FenceOutcome) (s' : ObjectRows) : Prop where
  leases : ∀ table, LeaseChange ts (s.lease table) (s'.lease table)
  fenced : ∀ fence, out = .fenced fence → ∃ n, s.deliveryEpoch = some n ∧
    s'.deliveryEpoch = some (n + 1) ∧ fence.fenceEpoch = n + 1
  unfenced : (∀ fence, out ≠ .fenced fence) → s'.deliveryEpoch = s.deliveryEpoch
  serving : ∀ serving, out = .serving serving → Serves ts serving s

variable {out : FenceOutcome} (h : Moves ts s s')
include h

theorem Moves.effect (hfenced : ∀ fence, out ≠ .fenced fence)
    (hserving : ∀ serving, out = .serving serving → Serves ts serving s) :
    FenceEffect ts s out s' where
  leases := h.leases
  fenced := fun fence hout => absurd hout (hfenced fence)
  unfenced := fun _ => h.epoch
  serving := hserving

theorem Moves.effect_serving (hserves : Serves ts serving s) :
    FenceEffect ts s (.serving serving) s' := by
  refine h.effect nofun fun serving' hout => ?_
  cases hout
  exact hserves

theorem Moves.effect_owned : FenceEffect ts s (.owned owner) s' :=
  h.effect nofun nofun

theorem Moves.effect_done : FenceEffect ts s .done s' :=
  h.effect nofun nofun

omit h

theorem Fences.effect (h : Fences ts fence s s') :
    FenceEffect ts s (.fenced fence) s' where
  leases := h.leases
  fenced := fun fence' hout => by
    cases hout
    exact h.epoch
  unfenced := fun hout => absurd rfl (hout fence)
  serving := nofun

theorem body_effect {object : ObjectRef} {call : FenceCall}
    (h : call.body object ts s = .ok (out, s')) : FenceEffect ts s out s' := by
  cases call with
  | acquireServing input =>
    obtain ⟨serving, _, hx, h⟩ := bind_eq_ok h
    cases h
    obtain ⟨hmoves, hserves⟩ := acquireServingLease_eq_ok hx
    exact hmoves.effect_serving hserves
  | renewServing serving duration =>
    obtain ⟨renewed, _, hx, h⟩ := bind_eq_ok h
    cases h
    obtain ⟨hmoves, hserves⟩ := renewServingLease_eq_ok hx
    exact hmoves.effect_serving hserves
  | assertServing serving =>
    obtain ⟨-, h⟩ := check_bind_eq_ok h
    obtain ⟨_, hserves, h⟩ := read_bind_eq_ok assertServingLease_eq_ok h
    cases h
    exact Moves.refl.effect_serving hserves
  | acquireContent input =>
    obtain ⟨owner, _, hx, h⟩ := bind_eq_ok h
    cases h
    exact (acquireObjectContentLease_eq_ok hx).effect_owned
  | acquireFence input =>
    obtain ⟨owner, _, hx, h⟩ := bind_eq_ok h
    cases h
    exact (acquireDeletionFenceLease_eq_ok hx).effect_owned
  | renewLease table owner duration =>
    obtain ⟨renewed, _, hx, h⟩ := bind_eq_ok h
    cases h
    exact (renewObjectLease_eq_ok hx).effect_owned
  | releaseLease table owner =>
    obtain ⟨_, _, hx, h⟩ := bind_eq_ok h
    cases h
    exact (releaseObjectLease_eq_ok hx).effect_done
  | fenceReservation input =>
    obtain ⟨fence, _, hx, h⟩ := bind_eq_ok h
    cases h
    exact (fenceDeletionReservation_eq_ok hx).1.effect
  | renewReservation fence duration =>
    obtain ⟨renewed, _, hx, h⟩ := bind_eq_ok h
    cases h
    exact (renewDeletionReservationFence_eq_ok hx).1.effect_owned
  | releaseReservation fence =>
    obtain ⟨_, _, hx, h⟩ := bind_eq_ok h
    cases h
    exact (releaseDeletionReservationFence_eq_ok hx).effect_done
  | takeOver reservationID provisional input =>
    obtain ⟨owner, _, hx, h⟩ := bind_eq_ok h
    cases h
    exact (takeOverDeletionReservation_eq_ok hx).1.effect_owned
  | finalize fence releaseEpoch =>
    obtain ⟨_, _, hx, h⟩ := bind_eq_ok h
    cases h
    exact (finalizeNotCommitted_eq_ok hx).effect_done

/-! ## Steps -/

variable {object : ObjectRef} {w w' : FenceState} {l : FenceLabel} {t : FenceTransaction}

theorem FenceStep.effect (h : FenceStep object w (.finished t (.ok out)) w') :
    FenceEffect t.timestamp w.rows out w'.rows := by
  generalize hl : FenceLabel.finished t (.ok out) = l at h
  cases h with
  | tick | begin | aborted => cases hl
  | @finished t' ht =>
    injection hl with htrans hout
    subst htrans
    exact body_effect (run_eq_ok (Prod.ext hout.symm rfl))

/-- A step changes the rows only by a transaction that succeeds. -/
theorem FenceStep.rows_eq (h : FenceStep object w l w') :
    w'.rows = w.rows ∨ ∃ t out, l = .finished t (.ok out) := by
  cases h with
  | tick | begin | aborted => exact .inl rfl
  | @finished t ht =>
    generalize hrun : (t.call.body object t.timestamp).run w.rows = r
    obtain ⟨outcome, rows⟩ := r
    cases outcome with
    | ok out => exact .inr ⟨t, out, rfl⟩
    | error e => exact .inl (run_eq_error hrun)

def FenceState.Timely (w : FenceState) : Prop := ∀ t ∈ w.running, t.timestamp ≤ w.now

theorem FenceStep.timely (h : FenceStep object w l w') (hw : w.Timely) : w'.Timely := by
  cases h with
  | tick hle => exact fun t ht => (hw t ht).trans hle
  | begin call =>
    intro t ht
    rcases List.mem_cons.mp ht with rfl | ht
    · exact le_refl _
    · exact hw t ht
  | finished ht => exact fun t ht => hw t (List.mem_of_mem_erase ht)
  | aborted ht => exact fun t ht => hw t (List.mem_of_mem_erase ht)

variable {outcome : Except LeaseError FenceOutcome}

theorem FenceStep.timestamp_le (h : FenceStep object w (.finished t outcome) w') (hw : w.Timely) :
    t.timestamp ≤ w.now := by
  cases h with
  | finished ht => exact hw _ ht

theorem FenceStep.epoch (h : FenceStep object w l w') (hn : w.rows.deliveryEpoch = some n) :
    ∃ n', w'.rows.deliveryEpoch = some n' ∧ n ≤ n' := by
  rcases h.rows_eq with hsame | ⟨t, out, rfl⟩
  · exact ⟨n, by rw [hsame, hn], le_refl n⟩
  · by_cases hfenced : ∃ fence, out = .fenced fence
    · obtain ⟨fence, rfl⟩ := hfenced
      obtain ⟨m, hm, hm', -⟩ := h.effect.fenced fence rfl
      obtain rfl : m = n := some.inj (hm.symm.trans hn)
      exact ⟨m + 1, hm', Nat.le_succ m⟩
    · push Not at hfenced
      exact ⟨n, (h.effect.unfenced hfenced).trans hn, le_refl n⟩

theorem FenceStep.lease (h : FenceStep object w l w') (table : LeaseTable) :
    w'.rows.lease table = w.rows.lease table ∨ ∃ t out, l = .finished t (.ok out) ∧
      LeaseChange t.timestamp (w.rows.lease table) (w'.rows.lease table) := by
  rcases h.rows_eq with hsame | ⟨t, out, rfl⟩
  · exact .inl (by rw [hsame])
  · exact .inr ⟨t, out, rfl, h.effect.leases table⟩

/-! ## Runs -/

def FencesObject (fence : DeletionReservationFence) (e : RunStep FenceState FenceLabel) : Prop :=
  ∃ t, e.label = .finished t (.ok (.fenced fence))

def GrantsServing (t : FenceTransaction) (serving : ServingLease)
    (e : RunStep FenceState FenceLabel) : Prop :=
  e.label = .finished t (.ok (.serving serving))

/-- A step ends a fence lease that was live at a time, by a transaction that had begun no later and
that keeps the owner. -/
def EndsFence (τ : Int) (e : RunStep FenceState FenceLabel) : Prop :=
  ∃ t out row row', e.label = .finished t (.ok out) ∧ t.timestamp ≤ τ ∧
    e.before.rows.fenceLease = some row ∧ e.after.rows.fenceLease = some row' ∧
    τ < row.owner.expiresAt ∧ row'.owner.expiresAt ≤ τ ∧
    row'.owner.ownerID = row.owner.ownerID ∧ row'.owner.generation = row.owner.generation

def EpochAdvances (e : RunStep FenceState FenceLabel) : Prop :=
  (∀ fence, FencesObject fence e → ∃ n, e.before.rows.deliveryEpoch = some n ∧
    e.after.rows.deliveryEpoch = some (n + 1) ∧ fence.fenceEpoch = n + 1) ∧
  ((∀ fence, ¬ FencesObject fence e) → e.after.rows.deliveryEpoch = e.before.rows.deliveryEpoch)

/-- The generation of a lease never falls, and rises with a change of owner, which happens only when
the recorded lease has expired. -/
def OwnersSucceed (e : RunStep FenceState FenceLabel) : Prop :=
  ∀ table row, e.before.rows.lease table = some row →
    ∃ row', e.after.rows.lease table = some row' ∧
      row.owner.generation ≤ row'.owner.generation ∧
      (row.owner.ownerID ≠ row'.owner.ownerID →
        row.owner.generation < row'.owner.generation ∧ row.owner.expiresAt ≤ e.before.now)

theorem FenceStep.epochAdvances (h : FenceStep object w l w') : EpochAdvances ⟨w, l, w'⟩ := by
  refine ⟨?_, fun hnone => ?_⟩
  · rintro fence ⟨t, hl⟩
    simp only at hl
    subst hl
    exact h.effect.fenced fence rfl
  · rcases h.rows_eq with hsame | ⟨t, out, rfl⟩
    · exact congrArg ObjectRows.deliveryEpoch hsame
    · refine h.effect.unfenced fun fence hout => hnone fence ⟨t, ?_⟩
      rw [hout]

theorem FenceStep.ownersSucceed (h : FenceStep object w l w') (hw : w.Timely) :
    OwnersSucceed ⟨w, l, w'⟩ := by
  intro table row hrow
  simp only at hrow
  rcases h.lease table with hsame | ⟨t, out, rfl, hchange⟩
  · exact ⟨row, hsame.trans hrow, le_refl _, fun hne => absurd rfl hne⟩
  · rw [hrow] at hchange
    obtain ⟨row', hrow', hle, hchanged⟩ := hchange.generation
    refine ⟨row', hrow', hle, fun hne => ?_⟩
    obtain ⟨hlt, hexpired⟩ := hchanged hne
    exact ⟨hlt, hexpired.trans (h.timestamp_le hw)⟩

/-- A fence lease that was live at a time is live at that time still at the end of a run, or a step
of the run has ended it. -/
theorem fence_live_or_ended {hist : List (RunStep FenceState FenceLabel)}
    (h : Run (FenceStep object) w hist w') (hrow : w.rows.fenceLease = some row)
    (hlive : τ < row.owner.expiresAt) :
    (∃ row', w'.rows.fenceLease = some row' ∧ τ < row'.owner.expiresAt) ∨
      ∃ e ∈ hist, EndsFence τ e := by
  induction h generalizing row with
  | nil => exact .inl ⟨row, hrow, hlive⟩
  | @cons s m s' l t hs _ ih =>
    rcases hs.lease .deletionFence with hsame | ⟨t', out, rfl, hchange⟩
    · have hm : m.rows.fenceLease = some row := Eq.trans hsame hrow
      rcases ih hm hlive with hend | ⟨e, he, hends⟩
      · exact .inl hend
      · exact .inr ⟨e, List.mem_cons_of_mem _ he, hends⟩
    · have hchange : LeaseChange t'.timestamp (some row) m.rows.fenceLease := by
        rw [← hrow]
        exact hchange
      obtain ⟨row', hrow', hlive' | ⟨hbegun, hended, howner, hgeneration⟩⟩ := hchange.live hlive
      · rcases ih hrow' hlive' with hend | ⟨e, he, hends⟩
        · exact .inl hend
        · exact .inr ⟨e, List.mem_cons_of_mem _ he, hends⟩
      · refine .inr ⟨_, List.mem_cons_self, t', out, row, row', rfl, hbegun, hrow, hrow', hlive,
          hended, howner, hgeneration⟩

variable {rows : ObjectRows}

theorem timely_idle {now : Int} : (FenceState.idle now rows).Timely :=
  nofun

/-- For every interleaving of the transactions on an object. A transaction that began under a live
fence gets a serving lease only if one that had begun no later has ended that fence meanwhile. -/
theorem serving_never_survives_fence (object : ObjectRef) (now : Int) (rows : ObjectRows)
    (hist : List (RunStep FenceState FenceLabel)) (w : FenceState)
    (h : Run (FenceStep object) (.idle now rows) hist w) :
    hist.Pairwise (fun e e' => ∀ fence t serving, FencesObject fence e → GrantsServing t serving e' →
        fence.fenceEpoch ≤ serving.capturedEpoch) ∧
      (∀ e ∈ hist, ∀ t serving row, GrantsServing t serving e →
        e.before.rows.fenceLease = some row → row.owner.expiresAt ≤ t.timestamp) ∧
      (∀ pre b mid e post t serving row, hist = pre ++ b :: (mid ++ e :: post) →
        b.label = .begin t → GrantsServing t serving e → b.before.rows.fenceLease = some row →
        t.timestamp < row.owner.expiresAt → ∃ e' ∈ mid, EndsFence t.timestamp e') ∧
      (∀ e ∈ hist, EpochAdvances e) ∧ ∀ e ∈ hist, OwnersSucceed e := by
  have hentry := h.forall_entry (I := FenceState.Timely) (fun _ _ _ hw hs => hs.timely hw)
    timely_idle
  have hgrant : ∀ {w w' : FenceState} {t serving}, FenceStep object w
      (.finished t (.ok (.serving serving))) w' → Serves t.timestamp serving w.rows :=
    fun hs => hs.effect.serving _ rfl
  refine ⟨?_, ?_, ?_, fun e he => (hentry e he).2.epochAdvances,
    fun e he => (hentry e he).2.ownersSucceed (hentry e he).1⟩
  · -- The epoch of the object stays at least that of the fence.
    refine h.pairwise (I := fun _ => True)
      (Q := fun e w => ∀ fence, FencesObject fence e →
        ∃ n, w.rows.deliveryEpoch = some n ∧ fence.fenceEpoch ≤ n) (fun _ _ _ _ _ => trivial)
      ?_ ?_ ?_ trivial
    · rintro s l s' - hs fence ⟨t, hl⟩
      simp only at hl
      subst hl
      obtain ⟨n, -, hn, hfence⟩ := hs.effect.fenced fence rfl
      exact ⟨n + 1, hn, hfence.le⟩
    · intro e s l s' _ hQ hs fence hfences
      obtain ⟨n, hn, hle⟩ := hQ fence hfences
      obtain ⟨n', hn', hle'⟩ := hs.epoch hn
      exact ⟨n', hn', hle.trans hle'⟩
    · intro e s l s' _ hQ hs fence t serving hfences hserving
      obtain ⟨n, hn, hle⟩ := hQ fence hfences
      simp only [GrantsServing] at hserving
      subst hserving
      have hcaptured := (hgrant hs).epoch
      obtain rfl : n = serving.capturedEpoch := some.inj (hn.symm.trans hcaptured)
      exact hle
  · intro e he t serving row hserving hrow
    obtain ⟨-, hs⟩ := hentry e he
    rw [hserving] at hs
    exact (hgrant hs).unfenced row hrow
  · intro pre b mid e post t serving row hsplit hbegin hserving hrow hlive
    rw [hsplit] at h
    obtain ⟨-, hb, hrest⟩ := h.split
    obtain ⟨hmid, hs, -⟩ := hrest.split
    rw [hserving] at hs
    have hkept : b.after.rows = b.before.rows := by
      rcases hb.rows_eq with hsame | ⟨t', out, hl⟩
      · exact hsame
      · rw [hbegin] at hl
        cases hl
    rcases fence_live_or_ended hmid ((congrArg ObjectRows.fenceLease hkept).trans hrow) hlive with
      ⟨row', hrow', hlive'⟩ | hended
    · have := (hgrant hs).unfenced row' hrow'
      omega
    · exact hended

/-! ## A run -/

section Sample

def sampleObject : ObjectRef := ⟨"default", "record", "a"⟩

def samplePreview : Reservation := ⟨sampleObject, .previewed, 0, 0, "", 0, none, 1000⟩

def sampleRows : ObjectRows := ⟨some 0, none, none, AList.singleton "drs_a" samplePreview⟩

def sampleFencing : FenceTransaction := ⟨.fenceReservation ⟨"drs_a", ⟨"w", 100000⟩⟩, 1⟩

def sampleFence : DeletionReservationFence := ⟨"drs_a", 1, ⟨"w", 1, 101⟩⟩

def sampleFenced : ObjectRows :=
  ⟨some 1, some ⟨⟨"w", 1, 101⟩, 1⟩, none,
    AList.singleton "drs_a" ⟨sampleObject, .fenced, 1, 0, "w", 1, some 101, 1000⟩⟩

/-- The fence is released, and a serving lease is asked for, at the same moment. -/
def sampleRelease : FenceTransaction := ⟨.releaseReservation sampleFence, 10⟩

def sampleAcquisition : FenceTransaction := ⟨.acquireServing ⟨"c", 5000⟩, 10⟩

def sampleReleased : ObjectRows :=
  ⟨some 1, some ⟨⟨"w", 1, 10⟩, 1⟩, none,
    AList.singleton "drs_a" ⟨sampleObject, .released, 1, 0, "", 0, none, 1000⟩⟩

def sampleServing : ServingLease := ⟨⟨"c", 1, 15⟩, 1⟩

def sampleServed : ObjectRows := { sampleReleased with contentLease := some ⟨⟨"c", 1, 15⟩, 10⟩ }

def sampleSteps : List (RunStep FenceState FenceLabel) :=
  let s₀ := FenceState.idle 1 sampleRows
  let s₁ : FenceState := ⟨1, sampleRows, [sampleFencing]⟩
  let s₂ : FenceState := ⟨1, sampleFenced, []⟩
  let s₃ : FenceState := ⟨10, sampleFenced, []⟩
  let s₄ : FenceState := ⟨10, sampleFenced, [sampleRelease]⟩
  let s₅ : FenceState := ⟨10, sampleFenced, [sampleAcquisition, sampleRelease]⟩
  let s₆ : FenceState := ⟨10, sampleReleased, [sampleAcquisition]⟩
  [⟨s₀, .begin sampleFencing, s₁⟩, ⟨s₁, .finished sampleFencing (.ok (.fenced sampleFence)), s₂⟩,
    ⟨s₂, .tick, s₃⟩, ⟨s₃, .begin sampleRelease, s₄⟩, ⟨s₄, .begin sampleAcquisition, s₅⟩,
    ⟨s₅, .finished sampleRelease (.ok .done), s₆⟩,
    ⟨s₆, .finished sampleAcquisition (.ok (.serving sampleServing)), ⟨10, sampleServed, []⟩⟩]

theorem FenceStep.of_run {s : FenceState} (ht : t ∈ s.running)
    (h : (t.call.body object t.timestamp).run s.rows = (outcome, rows)) :
    FenceStep object s (.finished t outcome) { s with rows, running := s.running.erase t } := by
  have hstep : FenceStep object s _ _ := FenceStep.finished ht
  rw [h] at hstep
  exact hstep

theorem sampleSteps_run : Run (FenceStep sampleObject) (.idle 1 sampleRows) sampleSteps
    ⟨10, sampleServed, []⟩ := by
  have hfence : (sampleFencing.call.body sampleObject 1).run sampleRows =
      (.ok (.fenced sampleFence), sampleFenced) := rfl
  have hrelease : (sampleRelease.call.body sampleObject 10).run sampleFenced =
      (.ok .done, sampleReleased) := rfl
  have hacquire : (sampleAcquisition.call.body sampleObject 10).run sampleReleased =
      (.ok (.serving sampleServing), sampleServed) := rfl
  exact .cons (.begin _) (.cons (.of_run (by simp) hfence) (.cons (.tick (by decide))
    (.cons (.begin _) (.cons (.begin _) (.cons (.of_run (by simp) hrelease)
      (.cons (.of_run (by simp) hacquire) (.nil _)))))))

theorem serving_never_survives_fence_sample :
    Run (FenceStep sampleObject) (.idle 1 sampleRows) sampleSteps ⟨10, sampleServed, []⟩ ∧
      (∀ e ∈ sampleSteps, EpochAdvances e) ∧ ∀ e ∈ sampleSteps, OwnersSucceed e :=
  ⟨sampleSteps_run,
    (serving_never_survives_fence sampleObject 1 sampleRows _ _ sampleSteps_run).2.2.2⟩

/-- A transaction that began while the fence lease was live acquires a serving lease, after a
release that had begun with it. -/
theorem serving_acquired_from_under_fence :
    ∃ hist w, Run (FenceStep sampleObject) (.idle 1 sampleRows) hist w ∧
      ∃ pre b mid e post t serving row, hist = pre ++ b :: (mid ++ e :: post) ∧
        b.label = .begin t ∧ GrantsServing t serving e ∧ b.before.rows.fenceLease = some row ∧
        t.timestamp < row.owner.expiresAt := by
  refine ⟨sampleSteps, _, sampleSteps_run, sampleSteps.take 4, _, [_], _, [], sampleAcquisition,
    sampleServing, ⟨⟨"w", 1, 101⟩, 1⟩, rfl, rfl, rfl, rfl, by decide⟩

end Sample

end Houfeng.RecordPlatform
