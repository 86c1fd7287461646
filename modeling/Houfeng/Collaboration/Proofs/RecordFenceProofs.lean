import Houfeng.Collaboration.RecordFence
import Houfeng.RecordPlatform.Proofs.ContentFenceProofs

/-!
# What an abandoned deletion leaves behind

Fencing raises the delivery epoch of the record, and nothing lowers it when the deletion is given
up. The revision, the indexed action counts and the edits do not depend on the epoch. The readers of
comments, actions and followers no longer find the rows of the earlier epoch.
-/

namespace Houfeng.Collaboration

open RecordPlatform List AList Keyset

/-! ## The reservations -/

section Reservations

variable {ts : Int} {s s' : ObjectRows} {u : Unit} {owner : OwnerLease}
  {fence : DeletionReservationFence}

theorem expireDeletionFenceLease_spec (h : expireDeletionFenceLease ts owner s = .ok (u, s')) :
    s'.reservations = s.reservations ∧
      ∃ row, s'.fenceLease = some row ∧ row.owner.expiresAt = ts := by
  replace h := Tx.get_bind_eq_ok h
  rcases hlease : s.fenceLease with _ | lease <;> simp only [hlease] at h
  · cases h
  obtain ⟨-, h⟩ := Tx.check_bind_eq_ok h
  rw [writeLease_eq_ok h]
  exact ⟨rfl, _, rfl, rfl⟩

theorem finalizeNotCommitted_spec {releaseEpoch : Nat}
    (h : finalizeNotCommitted ts fence releaseEpoch s = .ok (u, s')) :
    (∃ row, row.state = .notCommitted ∧
      s'.reservations = s.reservations.insert fence.reservationID row) ∧
      ∃ row, s'.fenceLease = some row ∧ row.owner.expiresAt = ts := by
  replace h := Tx.get_bind_eq_ok h
  rcases hlookup : s.reservations.lookup fence.reservationID with _ | row <;>
  simp only [hlookup] at h
  · cases h
  obtain ⟨-, h⟩ := Tx.check_bind_eq_ok h
  obtain ⟨_, _, hset, h⟩ := Tx.bind_eq_ok h
  cases hset
  obtain ⟨hreservations, hlease⟩ := expireDeletionFenceLease_spec h
  exact ⟨⟨_, rfl, hreservations⟩, hlease⟩

end Reservations

/-! ## The fence after the attempt -/

section Attempt

variable {object : ObjectRef} {before after s s' : ObjectRows} {finalizedAt ts : Int} {id : String}

theorem WorkerStep.spec (h : WorkerStep id s () s') :
    s'.deliveryEpoch = s.deliveryEpoch ∧
      ∀ k, k ≠ id → s'.reservations.lookup k = s.reservations.lookup k := by
  have other : ∀ {s s' : ObjectRows}, WritesReservation id s s' → ∀ k, k ≠ id →
      s'.reservations.lookup k = s.reservations.lookup k := by
    rintro s s' ⟨row, hrow⟩ k hk
    rw [hrow, lookup_insert_ne hk]
  cases h with
  | claimed h =>
    obtain ⟨hmoves, hwrites⟩ := takeOverDeletionReservation_eq_ok h
    exact ⟨hmoves.epoch, other hwrites⟩
  | renewed hid h =>
    subst hid
    obtain ⟨hmoves, hwrites⟩ := renewDeletionReservationFence_eq_ok h
    exact ⟨hmoves.epoch, other hwrites⟩
  | failed => exact ⟨rfl, fun _ _ => rfl⟩

/-- All that is left of an abandoned deletion in the rows of the fence: the epoch has risen, the
reservation is not committed, the other reservations are as they were, and the fence lease has
ended. -/
structure Leftover (before after : ObjectRows) (finalizedAt : Int) : Prop where
  epoch : ∃ n, before.deliveryEpoch = some n ∧ after.deliveryEpoch = some (n + 1)
  reservations : ∀ k row, after.reservations.lookup k = some row →
    row.state = .notCommitted ∨ before.reservations.lookup k = some row
  kept : ∀ k row, before.reservations.lookup k = some row →
    after.reservations.lookup k = some row
  lease : ∃ row, after.fenceLease = some row ∧ row.owner.expiresAt = finalizedAt

theorem Abandoned.leftover (h : Abandoned object before finalizedAt after) :
    Leftover before after finalizedAt := by
  obtain ⟨id, preview, fencedAt, input, fence, final, releaseEpoch, fenced, worked, work, hnew, -, -,
    hinput, hfence, hwork, hfinal, hfinalize⟩ := h.attempt
  obtain ⟨hfences, fencedRow, hfencedRow⟩ := fenceDeletionReservation_eq_ok hfence
  obtain ⟨n, hn, hn', -⟩ := hfences.epoch
  have hworked : worked.deliveryEpoch = fenced.deliveryEpoch ∧
      ∀ k, k ≠ id → worked.reservations.lookup k = fenced.reservations.lookup k := by
    refine hwork.rel (I := fun _ => True) (R := fun s s' => s'.deliveryEpoch = s.deliveryEpoch ∧
      ∀ k, k ≠ id → s'.reservations.lookup k = s.reservations.lookup k)
      (fun s => ⟨rfl, fun _ _ => rfl⟩) ?_ (fun s l s' _ hs => ⟨trivial, hs.spec⟩) trivial
    rintro a b c ⟨hab, hab'⟩ ⟨hbc, hbc'⟩
    exact ⟨hbc.trans hab, fun k hk => (hbc' k hk).trans (hab' k hk)⟩
  obtain ⟨⟨row, hstate, hrow⟩, hlease⟩ := finalizeNotCommitted_spec hfinalize
  rw [hfinal] at hrow
  rw [hinput] at hfencedRow
  -- Away from the reservation of the attempt nothing has changed.
  have hother : ∀ k, k ≠ id → after.reservations.lookup k = before.reservations.lookup k := by
    intro k hk
    rw [hrow, lookup_insert_ne hk, hworked.2 k hk, hfencedRow, lookup_insert_ne hk,
      lookup_insert_ne hk]
  refine ⟨⟨n, hn, ?_⟩, ?_, ?_, hlease⟩
  · rw [(finalizeNotCommitted_eq_ok hfinalize).epoch, hworked.1, hn']
  · intro k row' hk
    by_cases hid : k = id
    · subst hid
      rw [hrow, lookup_insert] at hk
      cases hk
      exact .inl hstate
    · exact .inr ((hother k hid).symm.trans hk)
  · intro k row' hk
    have hid : k ≠ id := by
      rintro rfl
      exact hnew (lookup_isSome.mp (by rw [hk]; rfl))
    exact (hother k hid).trans hk

theorem deletionReserved_iff : deletionReserved object s = true ↔
    ∃ k row, s.reservations.lookup k = some row ∧ row.object = object ∧
      (row.state = .fenced ∨ row.state = .committed) := by
  rw [deletionReserved, any_eq_true]
  constructor
  · rintro ⟨⟨k, row⟩, hmem, hrow⟩
    refine ⟨k, row, Table.lookup_eq_some_iff.mpr hmem, ?_⟩
    simpa using hrow
  · rintro ⟨k, row, hlookup, hrow⟩
    refine ⟨⟨k, row⟩, Table.lookup_eq_some_iff.mp hlookup, ?_⟩
    simpa using hrow

theorem Leftover.deletionReserved (h : Leftover before after finalizedAt) :
    deletionReserved object after = deletionReserved object before := by
  rw [Bool.eq_iff_iff, deletionReserved_iff, deletionReserved_iff]
  constructor
  · rintro ⟨k, row, hk, hobject, hstate⟩
    rcases h.reservations k row hk with hfinal | hbefore
    · rw [hfinal] at hstate
      simp at hstate
    · exact ⟨k, row, hbefore, hobject, hstate⟩
  · rintro ⟨k, row, hk, hobject, hstate⟩
    exact ⟨k, row, h.kept k row hk, hobject, hstate⟩

theorem Leftover.assertRecordReadFence {n : Nat} (h : Leftover before after finalizedAt)
    (hts : finalizedAt ≤ ts) (hread : assertRecordReadFence object ts before = .ok n) :
    before.deliveryEpoch = some n ∧
      Collaboration.assertRecordReadFence object ts after = .ok (n + 1) := by
  obtain ⟨m, hm, hm'⟩ := h.epoch
  obtain ⟨row, hrow, hexpired⟩ := h.lease
  obtain ⟨hreserved, hread⟩ := except_guard_eq_ok hread
  rw [hm] at hread
  obtain ⟨-, hread⟩ := except_guard_eq_ok hread
  cases hread
  refine ⟨hm, ?_⟩
  rw [Collaboration.assertRecordReadFence, h.deletionReserved, if_neg hreserved, hm']
  simp [hrow, LeaseRow.live, hexpired, hts]

theorem assertRecordMutationFence_of_read {n : Nat}
    (hread : assertRecordReadFence object ts s = .ok n) :
    assertRecordMutationFence object ts s = .ok n := by
  obtain ⟨hreserved, hread⟩ := except_guard_eq_ok hread
  split at hread
  · cases hread
  next epoch hepoch =>
    obtain ⟨hlive, hread⟩ := except_guard_eq_ok hread
    cases hread
    rw [assertRecordMutationFence, if_neg hreserved, if_neg hlive, hepoch]
    rfl

end Attempt

/-! ## Edits -/

section Edits

variable {μ ρ : Type} {object : ObjectRef} {ts : Int} {s s' : ObjectRows} {n n' : Nat}
  {rows : CollaborationRows ρ}

theorem editRecordComment_epoch (command : CommentCommand) (row : CommentRow) :
    (editRecordComment rows n ts command row).map (fun _ => ()) =
      (editRecordComment rows n' ts command row).map (fun _ => ()) := by
  rw [editRecordComment, editRecordComment]
  exact except_bind_map_congr fun _ => except_bind_map_congr fun _ => rfl

theorem commitComment_edit_result (h : assertRecordMutationFence object ts s = .ok n)
    (h' : assertRecordMutationFence object ts s' = .ok n') (command : CommentCommand) :
    (commitComment object ts .edit command s rows).map Prod.fst =
      (commitComment object ts .edit command s' rows).map Prod.fst := by
  rw [commitComment, commitComment, h, h']
  refine except_bind_map_congr (x := command.expectation.grant _ _) fun _ =>
    except_bind_map_congr fun row => except_bind_map_congr fun _ => except_bind_map_congr fun _ =>
      except_bind_map_congr fun _ => ?_
  exact except_bind_map_const (fun _ => rfl) (fun _ => rfl) (editRecordComment_epoch command row)

theorem commitAction_result (h : assertRecordMutationFence object ts s = .ok n)
    (h' : assertRecordMutationFence object ts s' = .ok n') (kind : ActionMutationKind)
    (command : ActionCommand) :
    (commitAction object ts kind command s rows).map Prod.fst =
      (commitAction object ts kind command s' rows).map Prod.fst := by
  rw [commitAction, commitAction, h, h']
  exact except_bind_map_congr (x := command.expectation.grant _ _) fun _ =>
    except_bind_map_congr fun _ => except_bind_map_congr fun _ => except_bind_map_congr fun _ =>
      except_bind_map_congr fun _ => except_bind_map_congr fun _ => rfl

theorem redactRecordComment_eq_ok {row : CommentRow} {rows' : CollaborationRows ρ}
    (hversion : row.version ≠ 0) (h : redactRecordComment rows n ts row = .ok rows') :
    ∃ r ∈ rows.commentRevisions, r.fenceEpoch = n := by
  rw [redactRecordComment] at h
  obtain ⟨_, hguard, h⟩ := except_bind_eq_ok h
  have hepochs := ensure_eq_ok hguard
  obtain ⟨_, hguard, -⟩ := except_bind_eq_ok h
  have hlength := ensure_eq_ok hguard
  obtain ⟨r, hr⟩ := exists_mem_of_length_pos (by rw [hlength]; exact Nat.pos_of_ne_zero hversion)
  exact ⟨r, (mem_filter.mp hr).1, hepochs r hr⟩

theorem commitComment_redact_fails (h : assertRecordMutationFence object ts s = .ok n)
    (hnone : ∀ r ∈ rows.commentRevisions, r.fenceEpoch ≠ n) (command : CommentCommand)
    (p : CommentMutationResult × CollaborationRows ρ) :
    commitComment object ts .redact command s rows ≠ .ok p := by
  intro hcommit
  rw [commitComment, h] at hcommit
  obtain ⟨_, hepoch, hcommit⟩ := except_bind_eq_ok hcommit
  cases hepoch
  obtain ⟨_, -, hcommit⟩ := except_bind_eq_ok hcommit
  obtain ⟨row, hrow, hcommit⟩ := except_bind_eq_ok hcommit
  obtain ⟨_, -, hcommit⟩ := except_bind_eq_ok hcommit
  obtain ⟨_, -, hcommit⟩ := except_bind_eq_ok hcommit
  obtain ⟨_, -, hcommit⟩ := except_bind_eq_ok hcommit
  obtain ⟨rows', hredact, -⟩ := except_bind_eq_ok hcommit
  have hversion : row.version ≠ 0 := by
    rw [lockRecordComment] at hrow
    split at hrow
    · cases hrow
    · obtain ⟨hne, hrow⟩ := except_guard_eq_ok hrow
      cases hrow
      exact hne
  obtain ⟨r, hr, hepoch⟩ := redactRecordComment_eq_ok hversion hredact
  exact hnone r hr hepoch

end Edits

/-! ## Readers -/

section Readers

variable {μ ρ : Type} {object : ObjectRef} {ts : Int} {s : ObjectRows} {n limit : Nat}
  {rows : CollaborationRows ρ} {services : Services μ} {command : Expectation}

theorem listComments_of_granted (hs : assertRecordReadFence object ts s = .ok n)
    (hgrant : command.grant .commentConflict rows.root = .ok ()) :
    listComments services object ts command limit s rows =
      listRecordComments services rows n limit := by
  simp only [listComments, hs, hgrant, bind, Except.bind]

theorem listActions_of_granted (hs : assertRecordReadFence object ts s = .ok n)
    (hgrant : command.grant .actionConflict rows.root = .ok ()) :
    listActions services object ts command limit s rows =
      listRecordActions services rows n limit := by
  simp only [listActions, hs, hgrant, bind, Except.bind]

variable {userID : String}

theorem getWatch_of_granted (hs : assertRecordReadFence object ts s = .ok n)
    (hgrant : command.grant .watchConflict rows.root = .ok ()) :
    getWatch services object ts command userID s rows =
      loadRecordWatchStatus services rows n userID := by
  simp only [getWatch, hs, hgrant, bind, Except.bind]

theorem listRecordComments_eq_nil (hlimit : 0 < limit) :
    listRecordComments services rows n limit = .ok [] ↔
      ∀ row ∈ rows.comments, row.fenceEpoch ≠ n := by
  rw [listRecordComments, mapM_eq_ok_nil]
  simp [hlimit.ne', eq_nil_iff_forall_not_mem (l := sorted ..), mem_sorted]

theorem listRecordActions_eq_nil (hlimit : 0 < limit) :
    listRecordActions services rows n limit = .ok [] ↔
      ∀ row ∈ rows.actions, row.fenceEpoch ≠ n := by
  rw [listRecordActions, mapM_eq_ok_nil]
  simp [hlimit.ne', eq_nil_iff_forall_not_mem (l := sorted ..), mem_sorted]

/-- A follower whose row is of another epoch is a conflict; without a row there is nothing to tell
about them. -/
theorem loadRecordWatchStatus_of_ne (h : ∀ row ∈ rows.followers, row.fenceEpoch ≠ n) :
    loadRecordWatchStatus services rows n userID =
      if (rows.followers.find? (·.userID = userID)).isSome then .error .watchConflict
      else .ok ⟨userID, 0, .default, ⟨false, false, false, false, false, false⟩, n, 0⟩ := by
  rw [loadRecordWatchStatus]
  cases hfind : rows.followers.find? (·.userID = userID) with
  | none => rfl
  | some row => simp [h row (mem_of_find?_eq_some hfind)]

/-- The following of a user is told in the same way at a later epoch exactly when they had none to
tell of. -/
theorem watch_same_iff {n' : Nat} (h : ∀ row ∈ rows.followers, row.fenceEpoch ≠ n') :
    (loadRecordWatchStatus services rows n' userID).map WatchStatus.following =
        (loadRecordWatchStatus services rows n userID).map WatchStatus.following ↔
      ∀ status, loadRecordWatchStatus services rows n userID = .ok status → status.version = 0 := by
  rw [loadRecordWatchStatus_of_ne h, loadRecordWatchStatus]
  cases hfind : rows.followers.find? (·.userID = userID) with
  | none =>
    simp only [Option.isSome_none, Bool.false_eq_true, if_false]
    refine ⟨fun _ status hstatus => ?_, fun _ => rfl⟩
    cases hstatus
    rfl
  | some row =>
    simp only [Option.isSome_some, if_true]
    split_ifs with hconflict hvalid
    · exact ⟨nofun, fun _ => rfl⟩
    · exact ⟨nofun, fun _ => rfl⟩
    · refine ⟨nofun, fun hnone => ?_⟩
      have hzero : row.version = 0 := hnone _ rfl
      exact absurd (.inl hzero) hconflict

end Readers

/-! ## The record after an abandoned deletion -/

variable {μ ρ : Type}

/-- After a deletion of a record that could be read is abandoned, its revision, its indexed action
counts and the edits are as they were; no comment can be redacted any more. A reader finds the
comments, the actions and the followers as they were exactly when there were none to be found. -/
theorem abandoned_deletion_hides_collaboration {object : ObjectRef} (r : Record ρ)
    (finalizedAt ts : Int) (after : ObjectRows)
    (habandoned : Abandoned object r.fence finalizedAt after) (hts : finalizedAt ≤ ts)
    (hread : assertRecordReadFence object ts r.fence = .ok r.epoch) :
    (∀ request, readRecordRevision object ts request after r.rows =
        readRecordRevision object ts request r.fence r.rows) ∧
      indexedActionCounts object after r.rows = indexedActionCounts object r.fence r.rows ∧
      (∀ command, (commitComment object ts .edit command after r.rows).map Prod.fst =
        (commitComment object ts .edit command r.fence r.rows).map Prod.fst) ∧
      (∀ kind command, (commitAction object ts kind command after r.rows).map Prod.fst =
        (commitAction object ts kind command r.fence r.rows).map Prod.fst) ∧
      (∀ command p, commitComment object ts .redact command after r.rows ≠ .ok p) ∧
      openActionCount r.rows (r.epoch + 1) = 0 ∧
      ∀ (services : Services μ) (command : Expectation) (limit : Nat), 0 < limit →
        (∀ conflict, command.grant conflict r.rows.root = .ok ()) →
        ((listComments services object ts command limit after r.rows =
              listComments services object ts command limit r.fence r.rows ∧
            listActions services object ts command limit after r.rows =
              listActions services object ts command limit r.fence r.rows ∧
            ∀ userID, (getWatch services object ts command userID after r.rows).map
                WatchStatus.following =
              (getWatch services object ts command userID r.fence r.rows).map
                WatchStatus.following) ↔
          (∀ row ∈ r.rows.comments, row.fenceEpoch ≠ r.epoch) ∧
            (∀ row ∈ r.rows.actions, row.fenceEpoch ≠ r.epoch) ∧
            ∀ userID status, getWatch services object ts command userID r.fence r.rows =
              .ok status → status.version = 0) := by
  have hleft := habandoned.leftover
  obtain ⟨-, hafter⟩ := hleft.assertRecordReadFence hts hread
  have hmutate := assertRecordMutationFence_of_read hread
  have hmutate' := assertRecordMutationFence_of_read hafter
  -- Nothing was written at the epoch that the fence has introduced.
  have hlater : ∀ {e : Nat}, e ≤ r.epoch → e ≠ r.epoch + 1 := fun h => by omega
  have hcomments : ∀ row ∈ r.rows.comments, row.fenceEpoch ≠ r.epoch + 1 :=
    fun row hrow => hlater (r.written.comments row hrow)
  have hactions : ∀ row ∈ r.rows.actions, row.fenceEpoch ≠ r.epoch + 1 :=
    fun row hrow => hlater (r.written.actions row hrow)
  have hfollowers : ∀ row ∈ r.rows.followers, row.fenceEpoch ≠ r.epoch + 1 :=
    fun row hrow => hlater (r.written.followers row hrow)
  have hrevisions : ∀ row ∈ r.rows.commentRevisions, row.fenceEpoch ≠ r.epoch + 1 :=
    fun row hrow => hlater (r.written.commentRevisions row hrow)
  refine ⟨fun request => ?_, ?_, fun command => commitComment_edit_result hmutate' hmutate command,
    fun kind command => commitAction_result hmutate' hmutate kind command,
    fun command p => commitComment_redact_fails hmutate' hrevisions command p, ?_, ?_⟩
  · rw [readRecordRevision, readRecordRevision, hread, hafter]
    rfl
  · rw [indexedActionCounts, indexedActionCounts, hleft.deletionReserved]
  · rw [openActionCount, length_eq_zero_iff, filter_eq_nil_iff]
    intro row hrow
    simp [hactions row hrow]
  · intro services command limit hlimit hgrant
    rw [listComments_of_granted hread (hgrant _), listComments_of_granted hafter (hgrant _),
      listActions_of_granted hread (hgrant _), listActions_of_granted hafter (hgrant _),
      (listRecordComments_eq_nil hlimit).mpr hcomments,
      (listRecordActions_eq_nil hlimit).mpr hactions, eq_comm, listRecordComments_eq_nil hlimit]
    refine and_congr_right fun _ => ?_
    rw [eq_comm, listRecordActions_eq_nil hlimit]
    refine and_congr_right fun _ => forall_congr' fun userID => ?_
    rw [getWatch_of_granted hread (hgrant _), getWatch_of_granted hafter (hgrant _)]
    exact watch_same_iff hfollowers

/-! ## An example -/

section Sample

def sampleBefore : ObjectRows := ⟨some 0, none, none, ∅⟩

/-- The rows of the fence after a deletion that was fenced at 1 and finalized at 2. -/
def sampleAfter : ObjectRows :=
  ⟨some 1, some ⟨⟨"w", 1, 2⟩, 1⟩, none,
    AList.singleton "drs_a" ⟨sampleObject, .notCommitted, 1, 1, "", 0, none, 1000⟩⟩

theorem sample_abandoned : Abandoned sampleObject sampleBefore 2 sampleAfter := by
  have hfence : fenceDeletionReservation sampleObject 1 ⟨"drs_a", ⟨"w", 100000⟩⟩
      { sampleBefore with reservations := sampleBefore.reservations.insert "drs_a" samplePreview } =
      .ok (sampleFence, sampleFenced) := rfl
  have hfinalize : finalizeNotCommitted 2 sampleFence 1 sampleFenced = .ok ((), sampleAfter) := rfl
  exact ⟨"drs_a", samplePreview, 1, _, sampleFence, sampleFence, 1, sampleFenced, sampleFenced, [],
    by simp [sampleBefore], rfl, rfl, rfl, hfence, .nil _, rfl, hfinalize⟩

def bareRows : CollaborationRows String :=
  ⟨⟨some "rrv_a", 1, 1, .active⟩, [("rrv_a", "text")], [], [], [], [], [], [], []⟩

def bareRecord : Record String where
  fence := sampleBefore
  rows := bareRows
  epoch := 0
  deliveryEpoch := rfl
  written := ⟨by simp [bareRows], by simp [bareRows], by simp [bareRows], by simp [bareRows]⟩

def lenientServices : Services Unit := ⟨fun _ => some (), fun _ => true, fun _ => true, fun _ => true⟩

def sampleExpectation : Expectation := ⟨"rrv_a", 1, 1, .ok ()⟩

theorem abandoned_deletion_hides_collaboration_bare :
    Abandoned sampleObject bareRecord.fence 2 sampleAfter ∧
      assertRecordReadFence sampleObject 3 bareRecord.fence = .ok bareRecord.epoch ∧
      listComments lenientServices sampleObject 3 sampleExpectation 1 sampleAfter bareRows =
        listComments lenientServices sampleObject 3 sampleExpectation 1 sampleBefore bareRows := by
  have hread : assertRecordReadFence sampleObject 3 bareRecord.fence = .ok bareRecord.epoch := rfl
  have h := @abandoned_deletion_hides_collaboration Unit String sampleObject bareRecord 2 3
    sampleAfter sample_abandoned (by decide) hread
  obtain ⟨-, -, -, -, -, -, hview⟩ := h
  refine ⟨sample_abandoned, hread, ((hview lenientServices sampleExpectation 1 (by decide)
    (fun _ => rfl)).mpr ⟨by simp [bareRecord, bareRows], by simp [bareRecord, bareRows], ?_⟩).1⟩
  intro userID status hstatus
  cases hstatus
  rfl

def sampleCollaboration : CollaborationRows String :=
  { bareRows with
    comments := [⟨"rcm_a", "usr_a", 1, .active, some "hello", some "", 1, 1, none, 0⟩]
    commentRevisions := [⟨"rcm_a", 1, none, 0⟩]
    actions := [⟨"ract_a", 1, .open, "call", "", none, none, none, none, 1, 1, 0⟩]
    followers := [⟨"usr_a", 1, .watching, ⟨true, false, false, true, false, true⟩, 1, 0⟩]
    documents := [⟨1, 1, none, 0⟩] }

def sampleRecord : Record String where
  fence := sampleBefore
  rows := sampleCollaboration
  epoch := 0
  deliveryEpoch := rfl
  written := ⟨by simp [sampleCollaboration], by simp [sampleCollaboration],
    by simp [sampleCollaboration], by simp [sampleCollaboration]⟩

/-- After a deletion is abandoned the comment and the action are gone, and the follower is in
conflict. -/
theorem collaboration_lost_after_abandoned_deletion :
    Abandoned sampleObject sampleRecord.fence 2 sampleAfter ∧
      listComments lenientServices sampleObject 3 sampleExpectation 1 sampleBefore
        sampleCollaboration ≠ .ok [] ∧
      listComments lenientServices sampleObject 3 sampleExpectation 1 sampleAfter
        sampleCollaboration = .ok [] ∧
      listActions lenientServices sampleObject 3 sampleExpectation 1 sampleBefore
        sampleCollaboration ≠ .ok [] ∧
      listActions lenientServices sampleObject 3 sampleExpectation 1 sampleAfter
        sampleCollaboration = .ok [] ∧
      (getWatch lenientServices sampleObject 3 sampleExpectation "usr_a" sampleBefore
        sampleCollaboration).isOk = true ∧
      getWatch lenientServices sampleObject 3 sampleExpectation "usr_a" sampleAfter
        sampleCollaboration = .error .watchConflict := by
  have hbefore : assertRecordReadFence sampleObject 3 sampleBefore = .ok 0 := rfl
  have hafter : assertRecordReadFence sampleObject 3 sampleAfter = .ok 1 := rfl
  refine ⟨sample_abandoned, ?_, ?_, ?_, ?_, rfl, rfl⟩
  · rw [listComments_of_granted hbefore rfl, ne_eq, listRecordComments_eq_nil (by decide)]
    simp [sampleCollaboration]
  · rw [listComments_of_granted hafter rfl, listRecordComments_eq_nil (by decide)]
    simp [sampleCollaboration]
  · rw [listActions_of_granted hbefore rfl, ne_eq, listRecordActions_eq_nil (by decide)]
    simp [sampleCollaboration]
  · rw [listActions_of_granted hafter rfl, listRecordActions_eq_nil (by decide)]
    simp [sampleCollaboration]

end Sample

end Houfeng.Collaboration
