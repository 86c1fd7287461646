import Houfeng.Records.Revisions

/-!
# Retrying a save

What one commit does to the tables is said once. From it: completed keys and revisions are stable
under all other work, and the lock version only grows. Whether a retry gets to the idempotency key
is decided by the check of the head and by the fingerprint.
-/

namespace Houfeng.Records

open List Option

variable {ν φ : Type} {sv : Services ν φ} {db db' : Tables φ} {now : Nat}
  {effects : Bool} {c d : RevisionCommitCommand} {result : RevisionCommitResult}

/-! ## Tables -/

@[simp] theorem put_self {κ α : Type} [DecidableEq κ] (table : κ → Option α) (key : κ) (row : Option α) :
    put table key row key = row := if_pos rfl

theorem put_of_ne {κ α : Type} [DecidableEq κ] {table : κ → Option α} {key k : κ} {row : Option α}
    (h : k ≠ key) : put table key row k = table k := if_neg h

@[simp] theorem finishCommit_roots : (finishCommit sv now db c).roots = db.roots := by
  unfold finishCommit cleanupPublishedRecordDraft
  split_ifs <;> rfl

@[simp] theorem finishCommit_revisions : (finishCommit sv now db c).revisions = db.revisions := by
  unfold finishCommit cleanupPublishedRecordDraft
  split_ifs <;> rfl

theorem finishCommit_keys : (finishCommit sv now db c).keys =
    put db.keys c.key (some ⟨sv.fingerprint c.fingerprintInput, .completed, now⟩) := by
  unfold finishCommit cleanupPublishedRecordDraft
  split_ifs <;> rfl

/-! ## One commit -/

/-- The head of an update, as it is locked. -/
structure AtHead (db : Tables φ) (c : RevisionCommitCommand) (root : Root) (v : Revision) : Prop where
  stored : db.roots c.scope.recordID = some root
  revision : db.revisions c.scope.baseRevisionID = some v
  record : v.recordID = c.scope.recordID
  number : v.revisionNo ≠ 0
  lockVersion : root.lockVersion = c.scope.lockVersion
  epoch : root.authorizationEpoch = c.scope.authorizationEpoch

variable {recordID : String} {locked : LockedRoot}

theorem lockRecordRoot_ok (h : lockRecordRoot db recordID = .ok locked) :
    db.roots recordID = some locked.root ∧
      ∀ id v, locked.current = some (id, v) →
        db.revisions id = some v ∧ v.recordID = recordID ∧ v.revisionNo ≠ 0 := by
  unfold lockRecordRoot at h
  split at h
  · cases h
  rename_i root hroot
  split at h
  · cases h
    exact ⟨hroot, by simp⟩
  · split at h
    · cases h
    · rename_i v hv
      obtain ⟨hchecks, h⟩ := except_guard_eq_ok h
      cases h
      rw [not_or, not_not] at hchecks
      refine ⟨hroot, fun id' v' heq => ?_⟩
      cases heq
      exact ⟨hv, hchecks⟩

theorem lockHead_ok (h : lockHead db c = .ok locked) :
    (c.operationKind = .recordCreate ∧ db.roots c.scope.recordID = none ∧ c.scope.lockVersion = 0 ∧
      c.scope.authorizationEpoch = 0 ∧ locked = ⟨⟨.active, none, 0, 0⟩, none⟩) ∨
    (c.operationKind = .recordUpdate ∧ ∃ v, AtHead db c locked.root v ∧
      locked.current = some (c.scope.baseRevisionID, v)) := by
  unfold lockHead at h
  split at h
  · rename_i hoperation
    obtain ⟨hnone, h⟩ := except_guard_eq_ok h
    obtain ⟨hcas, h⟩ := except_guard_eq_ok h
    cases h
    simp only [not_or, not_not] at hcas
    exact .inl ⟨hoperation, by simpa using hnone, hcas.1.symm, hcas.2.1.symm, rfl⟩
  · rename_i hoperation
    obtain ⟨locked', hlock, h⟩ := except_bind_eq_ok h
    obtain ⟨hcas, h⟩ := except_guard_eq_ok h
    cases h
    simp only [not_or, not_not] at hcas
    obtain ⟨hroot, hrevision⟩ := lockRecordRoot_ok hlock
    obtain ⟨⟨id, v⟩, hsome, hid⟩ := map_eq_some_iff.mp hcas.1
    obtain rfl : id = c.scope.baseRevisionID := hid
    obtain ⟨hv, hrecord, hnumber⟩ := hrevision _ _ hsome
    exact .inr ⟨hoperation, v, ⟨hroot, hv, hrecord, hnumber, hcas.2.1, hcas.2.2⟩, hsome⟩

def newID (sv : Services ν φ) (c : RevisionCommitCommand) : String :=
  sv.revisionID (sv.fingerprint c.fingerprintInput)

/-- The save changes nothing: the head has the content already. -/
structure Unchanged (sv : Services ν φ) (now : Nat) (db : Tables φ) (c : RevisionCommitCommand)
    (db' : Tables φ) (result : RevisionCommitResult) (root : Root) (v : Revision) : Prop where
  update : c.operationKind = .recordUpdate
  head : AtHead db c root v
  content : v.canonicalHash = c.input.canonicalHash
  tables : db' = finishCommit sv now db c
  result : result = ⟨c.scope.recordID, c.scope.baseRevisionID, v.revisionNo, c.scope.lockVersion,
    c.scope.authorizationEpoch, root.lifecycle, false, false, v.createdAt⟩

structure Added (sv : Services ν φ) (now : Nat) (db : Tables φ) (c : RevisionCommitCommand)
    (db' : Tables φ) (result : RevisionCommitResult) (lifecycle : Lifecycle) (no : Nat) : Prop where
  head : (c.operationKind = .recordCreate ∧ db.roots c.scope.recordID = none ∧ lifecycle = .active) ∨
    (c.operationKind = .recordUpdate ∧ ∃ root v, AtHead db c root v ∧
      v.canonicalHash ≠ c.input.canonicalHash ∧ lifecycle = root.lifecycle)
  fresh : db.revisions (newID sv c) = none
  number : no ≠ 0
  tables : db' = finishCommit sv now { db with
    revisions := put db.revisions (newID sv c) (some
      ⟨c.scope.recordID, c.scope.baseRevisionID, no, c.input.canonicalHash, now⟩)
    roots := put db.roots c.scope.recordID (some ⟨lifecycle, some (newID sv c),
      c.scope.lockVersion + 1, c.scope.authorizationEpoch + 1⟩) } c
  result : result = ⟨c.scope.recordID, newID sv c, no, c.scope.lockVersion + 1,
    c.scope.authorizationEpoch + 1, lifecycle, true, false, now⟩

theorem commitOwned_ok (h : commitOwned sv now effects db c = .ok (db', result)) :
    (∃ root v, Unchanged sv now db c db' result root v) ∨
      ∃ lifecycle no, Added sv now db c db' result lifecycle no := by
  obtain ⟨locked, hlock, h⟩ := except_bind_eq_ok h
  obtain ⟨-, -, h⟩ := except_bind_eq_ok h
  split at h
  · rename_i id v hsome
    cases h
    obtain ⟨hcurrent, hcontent⟩ := filter_eq_some_iff.mp hsome
    rcases lockHead_ok hlock with ⟨-, -, -, -, rfl⟩ | ⟨hupdate, v', hhead, hcurrent'⟩
    · cases hcurrent
    · cases hcurrent.symm.trans hcurrent'
      refine .inl ⟨locked.root, v, hupdate, hhead, by simpa using hcontent, rfl, ?_⟩
      rw [hhead.lockVersion, hhead.epoch]
  · rename_i hnone
    obtain ⟨hfresh, h⟩ := except_guard_eq_ok h
    cases h
    rw [not_or, Bool.not_eq_true, isSome_eq_false_iff, isNone_iff_eq_none] at hfresh
    rcases lockHead_ok hlock with ⟨hcreate, hroot, hlv, hepoch, rfl⟩ | ⟨hupdate, v, hhead, hcurrent⟩
    · refine .inr ⟨.active, 1, .inl ⟨hcreate, hroot, rfl⟩, hfresh.1, Nat.one_ne_zero, ?_, ?_⟩
      · rw [hlv, hepoch]
        rfl
      · rw [hlv, hepoch]
        rfl
    · rw [hcurrent] at hnone ⊢
      refine .inr ⟨locked.root.lifecycle, v.revisionNo + 1, .inr ⟨hupdate, locked.root, v, hhead,
        by simpa using hnone, rfl⟩, hfresh.1, Nat.succ_ne_zero _, ?_, ?_⟩
      · rw [hhead.lockVersion, hhead.epoch]
        rfl
      · rw [hhead.lockVersion, hhead.epoch]
        rfl

/-! ## What other work leaves alone -/

/-- What a step that does not purge a record keeps: completed keys and the record's revisions; a new
revision is one that its command needed; and the head only moves forward. -/
structure Keeps (sv : Services ν φ) (recordID : String) (db db' : Tables φ) : Prop where
  keys : ∀ key row, db.keys key = some row → row.status = .completed → db'.keys key = some row
  revisions : ∀ id v, db.revisions id = some v → v.recordID = recordID → db'.revisions id = some v
  added : ∀ id, db.revisions id = none → db'.revisions id = none ∨
    ∃ d : RevisionCommitCommand, id = newID sv d ∧ ∀ v, d.operationKind = .recordUpdate →
      db.revisions d.scope.baseRevisionID = some v → v.canonicalHash ≠ d.input.canonicalHash
  advances : ∀ root, db.roots recordID = some root → ∃ root', db'.roots recordID = some root' ∧
    (root' = root ∨ root.lockVersion < root'.lockVersion)

theorem Keeps.refl (sv : Services ν φ) (recordID : String) (db : Tables φ) : Keeps sv recordID db db :=
  ⟨fun _ _ h _ => h, fun _ _ h _ => h, fun _ h => .inl h, fun root h => ⟨root, h, .inl rfl⟩⟩

theorem put_completed {keys : OperationKind × String → Option (IdempotencyRow φ)}
    {key k : OperationKind × String} {row row' : IdempotencyRow φ}
    (hfree : ∀ row, keys key = some row → row.status ≠ .completed) (h : keys k = some row)
    (hcompleted : row.status = .completed) : put keys key (some row') k = some row := by
  rw [put_of_ne, h]
  rintro rfl
  exact hfree row h hcompleted

/-! ## Where revisions come from -/

/-- Every revision was added by a command at a head that its record has left. -/
def Derived (sv : Services ν φ) (db : Tables φ) : Prop :=
  ∀ id v, db.revisions id = some v → ∃ d root, id = newID sv d ∧ v.recordID = d.scope.recordID ∧
    db.roots v.recordID = some root ∧ d.scope.lockVersion < root.lockVersion

variable {v : Revision}

/-- Heads that only move forward keep what is known of revisions. -/
theorem Derived.advance {id : String} (hdb : Derived sv db) (hkeeps : Keeps sv v.recordID db db')
    (hv : db.revisions id = some v) :
    ∃ d root, id = newID sv d ∧ v.recordID = d.scope.recordID ∧
      db'.roots v.recordID = some root ∧ d.scope.lockVersion < root.lockVersion := by
  obtain ⟨d, root, hid, hrecord, hroot, hlt⟩ := hdb id v hv
  obtain ⟨root', hroot', rfl | hadvance⟩ := hkeeps.advances root hroot
  · exact ⟨d, root', hid, hrecord, hroot', hlt⟩
  · exact ⟨d, root', hid, hrecord, hroot', Nat.lt_trans hlt hadvance⟩

theorem newID_injective (h : newID sv c = newID sv d) : c.scope = d.scope ∧ c.input = d.input := by
  have hinput := sv.fingerprint_injective (sv.revisionID_injective h)
  exact ⟨congrArg FingerprintInput.scope hinput, congrArg FingerprintInput.payload hinput⟩

theorem Derived.fresh {root : Root} (hdb : Derived sv db) (hhead : AtHead db c root v) :
    db.revisions (newID sv c) = none := by
  refine eq_none_iff_forall_ne_some.mpr fun v' hv' => ?_
  obtain ⟨d, root', hid, hrecord, hroot, hlt⟩ := hdb _ v' hv'
  obtain ⟨hscope, -⟩ := newID_injective hid
  rw [hrecord, ← hscope] at hroot
  cases hroot.symm.trans hhead.stored
  rw [hhead.lockVersion, hscope] at hlt
  exact Nat.lt_irrefl _ hlt

/-! ## After a save -/

def Recorded (sv : Services ν φ) (c : RevisionCommitCommand) (no at' : Nat) (db : Tables φ) : Prop :=
  ∃ v, db.revisions (newID sv c) = some v ∧ v.recordID = c.scope.recordID ∧ v.revisionNo = no ∧
    v.createdAt = at'

def Needless (sv : Services ν φ) (c : RevisionCommitCommand) (no at' : Nat) (db : Tables φ) : Prop :=
  db.revisions (newID sv c) = none ∧ ∃ v, db.revisions c.scope.baseRevisionID = some v ∧
    v.recordID = c.scope.recordID ∧ v.canonicalHash = c.input.canonicalHash ∧ v.revisionNo = no ∧
    v.createdAt = at'

def Completed (sv : Services ν φ) (c : RevisionCommitCommand) (db : Tables φ) : Prop :=
  ∃ t, db.keys c.key = some ⟨sv.fingerprint c.fingerprintInput, .completed, t⟩

theorem Completed.keeps (hkeeps : Keeps sv recordID db db') (h : Completed sv c db) :
    Completed sv c db' := by
  obtain ⟨t, ht⟩ := h
  exact ⟨t, hkeeps.keys _ _ ht rfl⟩

theorem Recorded.keeps {no t : Nat} (hkeeps : Keeps sv c.scope.recordID db db')
    (h : Recorded sv c no t db) : Recorded sv c no t db' := by
  obtain ⟨v, hv, hrecord, hno, ht⟩ := h
  exact ⟨v, hkeeps.revisions _ _ hv hrecord, hrecord, hno, ht⟩

/-- A revision that was not needed stays away: the same request, whatever its key, finds the same base
with the same content. -/
theorem Needless.keeps {no t : Nat} (hupdate : c.operationKind = .recordUpdate)
    (hkeeps : Keeps sv c.scope.recordID db db') (h : Needless sv c no t db) : Needless sv c no t db' := by
  obtain ⟨hnone, v, hv, hrecord, hcontent, hno, ht⟩ := h
  refine ⟨?_, v, hkeeps.revisions _ _ hv hrecord, hrecord, hcontent, hno, ht⟩
  rcases hkeeps.added _ hnone with hnone' | ⟨d, hd, hneeded⟩
  · exact hnone'
  · obtain ⟨hscope, hinput⟩ := newID_injective hd
    have hupdate' : d.operationKind = .recordUpdate := by
      rwa [RevisionCommitCommand.operationKind, ← hscope]
    exact absurd (hinput ▸ hcontent) (hneeded v hupdate' (hscope ▸ hv))

def Left (sv : Services ν φ) (c : RevisionCommitCommand) (result : RevisionCommitResult)
    (db : Tables φ) : Prop :=
  Completed sv c db ∧ ∃ no t, no ≠ 0 ∧
    ((result = ⟨c.scope.recordID, newID sv c, no, c.scope.lockVersion + 1,
        c.scope.authorizationEpoch + 1, .active, true, false, t⟩ ∧ Recorded sv c no t db) ∨
      (c.operationKind = .recordUpdate ∧ result = ⟨c.scope.recordID, c.scope.baseRevisionID, no,
        c.scope.lockVersion, c.scope.authorizationEpoch, .active, false, false, t⟩ ∧
        Needless sv c no t db))

theorem Left.keeps (db db' : Tables φ) (hkeeps : Keeps sv c.scope.recordID db db')
    (h : Left sv c result db) : Left sv c result db' := by
  obtain ⟨hcompleted, no, t, hno, hleft⟩ := h
  refine ⟨hcompleted.keeps hkeeps, no, t, hno, ?_⟩
  exact hleft.imp (fun h => ⟨h.1, h.2.keeps hkeeps⟩)
    fun h => ⟨h.1, h.2.1, h.2.2.keeps h.1 hkeeps⟩

/-! ## What is prepared -/

variable {request : RevisionSaveRequest ν} {w : World}

theorem prepareRevisionCommit_ok (h : prepareRevisionCommit sv w db request = .ok c) :
    validateRevisionSaveRequest sv request = .ok () ∧ checkCurrent w db request = .ok () ∧
      sv.checkEvidence request = true ∧ ∃ input, prepareInput sv w request = .ok input ∧
      sv.checkCommand request (request.command input) = none ∧ c = request.command input := by
  obtain ⟨⟨⟩, hvalid, h⟩ := except_bind_eq_ok h
  obtain ⟨⟨⟩, hcurrent, h⟩ := except_bind_eq_ok h
  obtain ⟨hevidence, h⟩ := except_guard_eq_ok h
  obtain ⟨input, hinput, h⟩ := except_bind_eq_ok h
  split at h
  · cases h
  · rename_i hcommand
    cases h
    exact ⟨hvalid, hcurrent, by simpa using hevidence, input, hinput, hcommand, rfl⟩

theorem checkCurrent_ok (h : checkCurrent w db request = .ok ()) :
    request.activityKind.operation = .recordCreate ∨
      ∃ root, db.roots request.recordID = some root ∧ headMatches request root := by
  unfold checkCurrent at h
  split at h
  · rename_i hcreate
    exact .inl hcreate
  · split at h
    · cases h
    · rename_i root hroot
      obtain ⟨hhead, -⟩ := except_guard_eq_ok h
      exact .inr ⟨root, hroot, not_not.mp hhead⟩

theorem baseRevisionID_ne (h : validateRevisionSaveRequest sv request = .ok ())
    (hupdate : request.activityKind.operation = .recordUpdate) : request.baseRevisionID ≠ "" := by
  rintro hempty
  unfold validateRevisionSaveRequest at h
  rw [hupdate, hempty] at h
  split at h
  · cases h
  · obtain ⟨hchecks, -⟩ := except_guard_eq_ok h
    exact hchecks (.inl (by decide))

variable {input : RevisionInput}

theorem prepareRevisionCommit_eq (hvalid : validateRevisionSaveRequest sv request = .ok ())
    (hcurrent : checkCurrent w db request = .ok ()) (hevidence : sv.checkEvidence request = true)
    (hinput : prepareInput sv w request = .ok input)
    (hcommand : sv.checkCommand request (request.command input) = none) :
    prepareRevisionCommit sv w db request = .ok (request.command input) := by
  simp [prepareRevisionCommit, hvalid, hcurrent, hevidence, hinput, hcommand, bind, Except.bind]

theorem checkCurrent_eq (hpermits : w.permitsCurrent request.recordID = true)
    (h : request.activityKind.operation = .recordCreate ∨
      ∃ root, db.roots request.recordID = some root ∧ headMatches request root) :
    checkCurrent w db request = .ok () := by
  unfold checkCurrent
  split
  · rfl
  · rename_i hupdate
    rcases h with hcreate | ⟨root, hroot, hhead⟩
    · exact absurd (hcreate.symm.trans hupdate) (by decide)
    · simp [hroot, hhead, hpermits]

/-! ## Commits -/

section

variable [DecidableEq φ]

theorem claimIdempotency_owner {row : Option (IdempotencyRow φ)} {fingerprint : φ}
    (h : claimIdempotency now row fingerprint = .ok .owner) :
    ∀ r, row = some r → r.status ≠ .completed := by
  rintro r rfl hcompleted
  unfold claimIdempotency at h
  obtain ⟨-, h⟩ := except_guard_eq_ok h
  obtain ⟨-, h⟩ := except_guard_eq_ok h
  rw [hcompleted] at h
  cases h

theorem commitRevisionOnTx_ok (h : commitRevisionOnTx sv now effects db c = .ok (db', result)) :
    (db' = db ∧ result.replayed = true) ∨
      ((∀ r, db.keys c.key = some r → r.status ≠ .completed) ∧
        commitOwned sv now effects db c = .ok (db', result)) := by
  obtain ⟨claim, hclaim, h⟩ := except_bind_eq_ok h
  obtain ⟨-, h⟩ := except_guard_eq_ok h
  cases claim with
  | replay =>
    obtain ⟨result', hload, h⟩ := except_bind_eq_ok h
    cases h
    refine .inl ⟨rfl, ?_⟩
    unfold loadRecordRevisionReplayResult at hload
    dsimp only at hload
    split at hload
    · obtain ⟨-, hload⟩ := except_guard_eq_ok hload
      cases hload
      rfl
    · obtain ⟨-, hload⟩ := except_guard_eq_ok hload
      split at hload
      · cases hload
      · obtain ⟨-, hload⟩ := except_guard_eq_ok hload
        cases hload
        rfl
  | owner => exact .inr ⟨claimIdempotency_owner hclaim, h⟩

theorem keeps_commit (recordID : String)
    (h : commitRevisionOnTx sv now effects db c = .ok (db', result)) : Keeps sv recordID db db' := by
  rcases commitRevisionOnTx_ok h with ⟨rfl, -⟩ | ⟨hfree, h⟩
  · exact .refl sv recordID db'
  rcases commitOwned_ok h with ⟨root, v, hunchanged⟩ | ⟨lifecycle, no, hadded⟩
  · rw [hunchanged.tables]
    refine ⟨fun key row hrow hcompleted => ?_, fun id v hv _ => ?_, fun id hid => .inl ?_,
      fun root hroot => ⟨root, ?_, .inl rfl⟩⟩
    · rw [finishCommit_keys]
      exact put_completed hfree hrow hcompleted
    · rwa [finishCommit_revisions]
    · rwa [finishCommit_revisions]
    · rwa [finishCommit_roots]
  · rw [hadded.tables]
    refine ⟨fun key row hrow hcompleted => ?_, fun id v hv _ => ?_, fun id hid => ?_,
      fun root hroot => ?_⟩
    · rw [finishCommit_keys]
      exact put_completed hfree hrow hcompleted
    · rw [finishCommit_revisions]
      refine (put_of_ne ?_).trans hv
      rintro rfl
      rw [hadded.fresh] at hv
      cases hv
    · by_cases hnew : id = newID sv c
      · refine .inr ⟨c, hnew, fun v hupdate hv => ?_⟩
        rcases hadded.head with ⟨hcreate, -⟩ | ⟨-, root, v', hhead, hcontent, -⟩
        · rw [hcreate] at hupdate
          cases hupdate
        · cases hv.symm.trans hhead.revision
          exact hcontent
      · rw [finishCommit_revisions]
        exact .inl ((put_of_ne hnew).trans hid)
    · rw [finishCommit_roots]
      by_cases hrecord : recordID = c.scope.recordID
      · subst hrecord
        refine ⟨_, put_self .., .inr ?_⟩
        rcases hadded.head with ⟨-, hnone, -⟩ | ⟨-, root', v, hhead, -, -⟩
        · rw [hnone] at hroot
          cases hroot
        · cases hroot.symm.trans hhead.stored
          exact hhead.lockVersion ▸ Nat.lt_succ_self _
      · exact ⟨root, (put_of_ne hrecord).trans hroot, .inl rfl⟩

theorem keeps_lifecycle (recordID : String) {command : RecordLifecycleCommand φ}
    (h : commitRecordLifecycle now db command = .ok db') : Keeps sv recordID db db' := by
  obtain ⟨claim, hclaim, h⟩ := except_bind_eq_ok h
  obtain ⟨-, h⟩ := except_guard_eq_ok h
  cases claim with
  | replay =>
    cases h
    exact .refl sv recordID db
  | owner =>
    obtain ⟨locked, hlock, h⟩ := except_bind_eq_ok h
    obtain ⟨-, h⟩ := except_guard_eq_ok h
    cases h
    refine ⟨fun key row => put_completed (claimIdempotency_owner hclaim), fun id v hv _ => hv,
      fun id hid => .inl hid, fun root hroot => ?_⟩
    by_cases hrecord : recordID = command.recordID
    · subst hrecord
      obtain ⟨hstored, -⟩ := lockRecordRoot_ok hlock
      cases hroot.symm.trans hstored
      exact ⟨_, put_self .., .inr (Nat.lt_succ_self _)⟩
    · exact ⟨root, (put_of_ne hrecord).trans hroot, .inl rfl⟩

variable {P : Tables φ → Prop}

theorem commitRevisions_stable {commands : List RevisionCommitCommand}
    {results : List RevisionCommitResult}
    (hP : ∀ db db' c result, commitRevisionOnTx sv now effects db c = .ok (db', result) → P db → P db')
    (h : commitRevisions sv now effects db commands = .ok (db', results)) (hdb : P db) : P db' := by
  induction commands generalizing db results with
  | nil =>
    cases h
    exact hdb
  | cons c commands ih =>
    obtain ⟨⟨db1, result⟩, hone, h⟩ := except_bind_eq_ok h
    obtain ⟨⟨db2, results'⟩, hrest, h⟩ := except_bind_eq_ok h
    cases h
    exact ih hrest (hP _ _ _ _ hone hdb)

/-- A property that every such step keeps is kept by committed work that does not purge the record. -/
theorem works_stable {work : Work φ} (hP : ∀ db db', Keeps sv recordID db db' → P db → P db')
    (h : Works sv db work db') (hwork : work ≠ .purge recordID) (hdb : P db) : P db' := by
  cases h with
  | revisions h =>
    exact commitRevisions_stable (fun _ _ _ _ hone => hP _ _ (keeps_commit recordID hone)) h hdb
  | lifecycle h => exact hP _ _ (keeps_lifecycle recordID h) hdb
  | @purge purged =>
    have hne : recordID ≠ purged := fun heq => hwork (heq ▸ rfl)
    refine hP db _ ⟨fun _ _ hrow _ => hrow, fun id v hv hrecord => ?_, fun id hid => .inl ?_,
      fun root hroot => ⟨root, ?_, .inl rfl⟩⟩ hdb
    · simp [hv, hrecord, hne]
    · simp [hid]
    · exact (put_of_ne hne).trans hroot
  | other h =>
    exact hP db _ ⟨h, fun _ _ hv _ => hv, fun _ hid => .inl hid,
      fun root hroot => ⟨root, hroot, .inl rfl⟩⟩ hdb

variable {t : List (RunStep (Tables φ) (Work φ))}

theorem run_stable (hP : ∀ db db', Keeps sv recordID db db' → P db → P db')
    (h : Run (Works sv) db t db') (ht : ∀ e ∈ t, e.label ≠ .purge recordID) (hdb : P db) :
    P db' := by
  induction h with
  | nil => exact hdb
  | cons hs _ ih =>
    exact ih (fun e he => ht e (mem_cons_of_mem _ he))
      (works_stable hP hs (ht _ (mem_cons_self ..)) hdb)

/-- Until a record is purged, its revisions and all completed keys stay as they are, and its head
never moves back. -/
theorem revisions_kept_until_purge (hrun : Run (Works sv) db t db')
    (ht : ∀ e ∈ t, e.label ≠ .purge recordID) :
    (∀ key row, db.keys key = some row → row.status = .completed → db'.keys key = some row) ∧
    (∀ id v, db.revisions id = some v → v.recordID = recordID → db'.revisions id = some v) ∧
    ∀ root, db.roots recordID = some root →
      ∃ root', db'.roots recordID = some root' ∧ root.lockVersion ≤ root'.lockVersion := by
  refine ⟨fun key row h hstatus => ?_, fun id v h hv => ?_, fun root h => ?_⟩
  · exact run_stable (P := fun db => db.keys key = some row)
      (fun _ _ hkeeps h => hkeeps.keys key row h hstatus) hrun ht h
  · exact run_stable (P := fun db => db.revisions id = some v)
      (fun _ _ hkeeps h => hkeeps.revisions id v h hv) hrun ht h
  · refine run_stable (P := fun db => ∃ root', db.roots recordID = some root' ∧
      root.lockVersion ≤ root'.lockVersion) ?_ hrun ht ⟨root, h, Nat.le_refl _⟩
    rintro _ _ hkeeps ⟨root', h', hle⟩
    obtain ⟨last, hlast, rfl | hlt⟩ := hkeeps.advances root' h'
    · exact ⟨last, hlast, hle⟩
    · exact ⟨last, hlast, Nat.le_trans hle (Nat.le_of_lt hlt)⟩

theorem Derived.commit (db db' : Tables φ) (c : RevisionCommitCommand) (result : RevisionCommitResult)
    (h : commitRevisionOnTx sv now effects db c = .ok (db', result)) (hdb : Derived sv db) :
    Derived sv db' := by
  intro id v hv
  by_cases hold : db.revisions id = some v
  · exact hdb.advance (keeps_commit v.recordID h) hold
  · rcases commitRevisionOnTx_ok h with ⟨rfl, -⟩ | ⟨-, h⟩
    · exact absurd hv hold
    rcases commitOwned_ok h with ⟨root, v', hunchanged⟩ | ⟨lifecycle, no, hadded⟩
    · rw [hunchanged.tables, finishCommit_revisions] at hv
      exact absurd hv hold
    · rw [hadded.tables] at hv ⊢
      rw [finishCommit_revisions] at hv
      rw [finishCommit_roots]
      by_cases hnew : id = newID sv c
      · subst hnew
        obtain rfl := some.inj ((put_self ..).symm.trans hv)
        exact ⟨c, _, rfl, rfl, put_self .., Nat.lt_succ_self _⟩
      · exact absurd ((put_of_ne hnew).symm.trans hv) hold

theorem Derived.works (db : Tables φ) (work : Work φ) (db' : Tables φ) (hdb : Derived sv db)
    (h : Works sv db work db') : Derived sv db' := by
  cases h with
  | revisions h => exact commitRevisions_stable Derived.commit h hdb
  | lifecycle h =>
    intro id v hv
    refine hdb.advance (keeps_lifecycle v.recordID h) ?_
    obtain ⟨claim, -, h⟩ := except_bind_eq_ok h
    obtain ⟨-, h⟩ := except_guard_eq_ok h
    cases claim with
    | replay =>
      cases h
      exact hv
    | owner =>
      obtain ⟨locked, -, h⟩ := except_bind_eq_ok h
      obtain ⟨-, h⟩ := except_guard_eq_ok h
      cases h
      exact hv
  | @purge purged =>
    intro id v hv
    obtain ⟨hv, hne⟩ := filter_eq_some_iff.mp hv
    obtain ⟨d, root, hid, hrecord, hroot, hlt⟩ := hdb id v hv
    exact ⟨d, root, hid, hrecord, (put_of_ne (by simpa using hne)).trans hroot, hlt⟩
  | other h => exact hdb

/-- A stored revision has the id of a command that was committed at a head its record has since
left. -/
theorem revisions_derived (hrun : Run (Works sv) .empty t db) :
    ∀ id v, db.revisions id = some v → ∃ d root, id = newID sv d ∧ v.recordID = d.scope.recordID ∧
      db.roots v.recordID = some root ∧ d.scope.lockVersion < root.lockVersion :=
  hrun.inv Derived.works nofun

def ActiveHead (c : RevisionCommitCommand) (db : Tables φ) : Prop :=
  c.operationKind = .recordUpdate → ∀ root, db.roots c.scope.recordID = some root →
    root.lockVersion = c.scope.lockVersion → root.lifecycle = .active

theorem commit_left (hdb : Derived sv db) (hactive : ActiveHead c db)
    (h : commitRevisionOnTx sv now effects db c = .ok (db', result))
    (hfirst : result.replayed = false) : Left sv c result db' := by
  rcases commitRevisionOnTx_ok h with ⟨-, hreplayed⟩ | ⟨-, h⟩
  · rw [hreplayed] at hfirst
    cases hfirst
  rcases commitOwned_ok h with ⟨root, v, hunchanged⟩ | ⟨lifecycle, no, hadded⟩
  · have hhead := hunchanged.head
    refine ⟨⟨now, ?_⟩, v.revisionNo, v.createdAt, hhead.number, .inr ⟨hunchanged.update, ?_, ?_, v, ?_,
      hhead.record, hunchanged.content, rfl, rfl⟩⟩
    · rw [hunchanged.tables, finishCommit_keys, put_self]
    · rw [hunchanged.result, hactive hunchanged.update root hhead.stored hhead.lockVersion]
    · rw [hunchanged.tables, finishCommit_revisions]
      exact hdb.fresh hhead
    · rw [hunchanged.tables, finishCommit_revisions]
      exact hhead.revision
  · have hlifecycle : lifecycle = .active := by
      rcases hadded.head with ⟨-, -, hlifecycle⟩ | ⟨hupdate, root, v, hhead, -, hlifecycle⟩
      · exact hlifecycle
      · rw [hlifecycle, hactive hupdate root hhead.stored hhead.lockVersion]
    refine ⟨⟨now, ?_⟩, no, now, hadded.number, .inl ⟨hlifecycle ▸ hadded.result,
      ⟨c.scope.recordID, c.scope.baseRevisionID, no, c.input.canonicalHash, now⟩, ?_, rfl, rfl, rfl⟩⟩
    · rw [hadded.tables, finishCommit_keys, put_self]
    · rw [hadded.tables, finishCommit_revisions]
      exact put_self ..

/-! ## The retry -/

/-- A command with the key of a completed save is answered with the original result when its
fingerprint is the save's, and refused when it is not. -/
theorem commit_retry (hbase : c.operationKind = .recordUpdate → c.scope.baseRevisionID ≠ "")
    (h : Left sv c result db) (hfence : fenced now db c.scope.recordID = false)
    (hscope : d.scope = c.scope) (hkey : d.key = c.key) :
    commitRevisionOnTx sv now effects db d =
      if d.fingerprintInput = c.fingerprintInput then .ok (db, { result with replayed := true })
      else .error .idempotencyKeyReused := by
  obtain ⟨⟨t, hrow⟩, no, t', hno, hleft⟩ := h
  by_cases hsame : d.fingerprintInput = c.fingerprintInput
  · rw [if_pos hsame]
    have hoperation : d.operationKind = c.operationKind := by
      rw [RevisionCommitCommand.operationKind, RevisionCommitCommand.operationKind, hscope]
    have hload : loadRecordRevisionReplayResult db d (newID sv c) =
        .ok { result with replayed := true } := by
      have hrow : ∀ v : Revision, v.recordID = c.scope.recordID →
          (some v).filter (fun v => decide (v.recordID = c.scope.recordID)) = some v :=
        fun v hrecord => by simp [Option.filter, hrecord]
      rcases hleft with ⟨rfl, v, hv, hrecord, rfl, rfl⟩ |
        ⟨hupdate, rfl, hnone, v, hv, hrecord, -, rfl, rfl⟩
      · simp [loadRecordRevisionReplayResult, hv, hrow v hrecord, hscope, hno]
      · simp [loadRecordRevisionReplayResult, hnone, hv, hrow v hrecord, hscope, hno, hoperation,
          hupdate, hbase hupdate]
    simp only [commitRevisionOnTx, hkey, hrow, hsame, hscope, hfence, claimIdempotency]
    rw [newID] at hload
    simp [hload, bind, Except.bind]
  · rw [if_neg hsame]
    have hne : sv.fingerprint c.fingerprintInput ≠ sv.fingerprint d.fingerprintInput :=
      fun heq => hsame (sv.fingerprint_injective heq).symm
    simp [commitRevisionOnTx, hkey, hrow, claimIdempotency, hne, bind, Except.bind]

theorem activeHead_of_run (hcurrent : checkCurrent w db request = .ok ())
    (hrun : Run (Works sv) db t db') (ht : ∀ e ∈ t, e.label ≠ .purge request.recordID) :
    ActiveHead (request.command input) db' := by
  intro hupdate root' hroot' hlv
  rcases checkCurrent_ok hcurrent with hcreate | ⟨root, hroot, hhead⟩
  · exact absurd (hcreate.symm.trans hupdate) (by decide)
  · obtain ⟨later, hlater, hadvance⟩ : ∃ later, db'.roots request.recordID = some later ∧
        (later = root ∨ root.lockVersion < later.lockVersion) := by
      refine run_stable (P := fun db => ∃ later, db.roots request.recordID = some later ∧
        (later = root ∨ root.lockVersion < later.lockVersion)) (fun db1 db2 hkeeps hP => ?_) hrun ht
        ⟨root, hroot, .inl rfl⟩
      obtain ⟨later, hlater, hadvance⟩ := hP
      obtain ⟨last, hlast, hadvance'⟩ := hkeeps.advances later hlater
      refine ⟨last, hlast, ?_⟩
      rcases hadvance' with rfl | hlt
      · exact hadvance
      · rcases hadvance with rfl | hlt'
        · exact .inr hlt
        · exact .inr (Nat.lt_trans hlt' hlt)
    cases hroot'.symm.trans hlater
    rcases hadvance with rfl | hlt
    · exact hhead.2.2.2
    · have hsame : root'.lockVersion = root.lockVersion := hlv.trans hhead.2.1.symm
      omega

/-- A save that committed is sent again, after any committed work that does not purge the record.
The answer is the original result exactly when the save created the record or its head is still the
one that the request names, and the content with the subjects as they are now is the one that was
saved. In no case does the retry write anything. -/
theorem retried_save_replays_iff (sv : Services ν φ) {db₀ db₁ db₂ db₃ db₄ : Tables φ}
    {t₀ t₁ t₂ t₃ : List (RunStep (Tables φ) (Work φ))} {w w' : World} {now now' : Nat}
    {effects effects' : Bool} {request : RevisionSaveRequest ν} {result : RevisionCommitResult}
    {input' : RevisionInput} (hreach : Run (Works sv) Tables.empty t₀ db₀)
    (hrun₁ : Run (Works sv) db₀ t₁ db₁) (ht₁ : ∀ e ∈ t₁, e.label ≠ .purge request.recordID)
    (hsave : saveRevision sv w db₀ db₁ now effects request = .ok (db₂, result))
    (hfirst : result.replayed = false)
    (hrun₂ : Run (Works sv) db₂ t₂ db₃) (ht₂ : ∀ e ∈ t₂, e.label ≠ .purge request.recordID)
    (hrun₃ : Run (Works sv) db₃ t₃ db₄) (ht₃ : ∀ e ∈ t₃, e.label ≠ .purge request.recordID)
    (hinput : prepareInput sv w' request = .ok input')
    (hpermits : w'.permitsCurrent request.recordID = true)
    (hfence : fenced now' db₄ request.recordID = false) :
    (saveRevision sv w' db₃ db₄ now' effects' request = .ok (db₄, { result with replayed := true }) ↔
      (request.activityKind.operation = .recordCreate ∨
        ∃ root, db₃.roots request.recordID = some root ∧ headMatches request root) ∧
      prepareInput sv w request = .ok input') ∧
    ∀ db r, saveRevision sv w' db₃ db₄ now' effects' request = .ok (db, r) → db = db₄ := by
  obtain ⟨c, hprepare, hcommit⟩ := except_bind_eq_ok hsave
  obtain ⟨hvalid, hcurrent, hevidence, input, hinput₀, hcommand, rfl⟩ :=
    prepareRevisionCommit_ok hprepare
  have hderived : Derived sv db₁ := by
    refine Run.inv Derived.works (hreach.append hrun₁) fun id v hv => ?_
    cases hv
  have hleft : Left sv (request.command input) result db₄ := by
    refine run_stable Left.keeps (hrun₂.append hrun₃) (fun e he => ?_)
      (commit_left hderived (activeHead_of_run hcurrent hrun₁ ht₁) hcommit hfirst)
    exact (mem_append.mp he).elim (ht₂ e) (ht₃ e)
  have hretry : commitRevisionOnTx sv now' effects' db₄ (request.command input') =
      if (request.command input').fingerprintInput = (request.command input).fingerprintInput then
        .ok (db₄, { result with replayed := true })
      else .error .idempotencyKeyReused :=
    commit_retry (fun hupdate => baseRevisionID_ne hvalid hupdate) hleft hfence rfl rfl
  have hsame : (request.command input').fingerprintInput = (request.command input).fingerprintInput ↔
      prepareInput sv w request = .ok input' := by
    rw [hinput₀, Except.ok.injEq]
    exact ⟨fun h => (congrArg FingerprintInput.payload h).symm, fun h => by rw [h]⟩
  constructor
  · constructor
    · intro h
      obtain ⟨d, hprepare', hcommit'⟩ := except_bind_eq_ok h
      obtain ⟨-, hcurrent', -, input'', hinput'', -, rfl⟩ := prepareRevisionCommit_ok hprepare'
      cases hinput.symm.trans hinput''
      refine ⟨checkCurrent_ok hcurrent', hsame.mp ?_⟩
      by_contra hne
      rw [hretry, if_neg hne] at hcommit'
      cases hcommit'
    · rintro ⟨hhead, hcontent⟩
      cases hinput₀.symm.trans hcontent
      rw [saveRevision, prepareRevisionCommit_eq hvalid (checkCurrent_eq hpermits hhead) hevidence
        hinput hcommand]
      exact hretry.trans (if_pos rfl)
  · intro db r h
    obtain ⟨d, hprepare', hcommit'⟩ := except_bind_eq_ok h
    obtain ⟨-, -, -, input'', hinput'', -, rfl⟩ := prepareRevisionCommit_ok hprepare'
    cases hinput.symm.trans hinput''
    rw [hretry] at hcommit'
    split at hcommit'
    · cases hcommit'
      rfl
    · cases hcommit'

end

/-! ### A record that is created and revised -/

def sampleText (text : String) : List Char := text.toList.flatMap (fun c => ['a', c]) ++ ['b']

def sampleNumber (n : Nat) : List Char := replicate n 'a' ++ ['b']

variable {r r' : List Char}

theorem sampleText_append {x y : String} :
    sampleText x ++ r = sampleText y ++ r' ↔ x = y ∧ r = r' := by
  have general (xs ys : List Char) : xs.flatMap (fun c => ['a', c]) ++ 'b' :: r =
      ys.flatMap (fun c => ['a', c]) ++ 'b' :: r' ↔ xs = ys ∧ r = r' := by
    induction xs generalizing ys with
    | nil => cases ys <;> simp
    | cons x xs ih => cases ys <;> simp [ih, and_assoc]
  simpa [sampleText, String.toList_inj] using general x.toList y.toList

theorem sampleNumber_append {m n : Nat} :
    sampleNumber m ++ r = sampleNumber n ++ r' ↔ m = n ∧ r = r' := by
  induction m generalizing n with
  | zero => cases n <;> simp [sampleNumber, replicate_succ]
  | succ m ih =>
    cases n with
    | zero => simp [sampleNumber, replicate_succ]
    | succ n => simpa [sampleNumber, replicate_succ] using @ih n

def ActivityKind.sample : ActivityKind → String
  | .recordCreated => "c"
  | .recordRevised => "r"
  | .recordRestored => "s"

/-- The letters of a request; the operation follows from the activity for the requests of commands. -/
def sampleLetters (f : FingerprintInput) : List Char :=
  sampleText (if f.operationKind = .recordCreate then "c" else "u") ++ (sampleText f.actorScope ++
    (sampleText f.scope.recordID ++ (sampleText f.scope.baseRevisionID ++
    (sampleNumber f.scope.lockVersion ++ (sampleNumber f.scope.authorizationEpoch ++
    (sampleText f.scope.activityKind.sample ++ (sampleText f.scope.draftID ++
    (sampleText f.scope.draftETag ++ (sampleText f.payload.canonicalHash ++
    (sampleText f.payload.authorID ++ (sampleText f.payload.saveReason ++ [])))))))))))

theorem sampleLetters_injective : Function.Injective sampleLetters := by
  rintro ⟨op, actor, ⟨r, b, lv, ep, k, d, e⟩, h, a, s⟩ ⟨op', actor', ⟨r', b', lv', ep', k', d', e'⟩, h', a', s'⟩
  intro heq
  simp only [sampleLetters, sampleText_append, sampleNumber_append] at heq
  obtain ⟨hop, rfl, rfl, rfl, rfl, rfl, hk, rfl, rfl, rfl, rfl, rfl, -⟩ := heq
  have hop' : op = op' := by
    cases op <;> cases op' <;> simp at hop <;> rfl
  have hk' : k = k' := by
    cases k <;> cases k' <;> simp [ActivityKind.sample] at hk <;> rfl
  rw [hop', hk']

def sampleRequest (base : String) (version : Nat) (kind : ActivityKind) (key hash : String) :
    RevisionSaveRequest String :=
  ⟨"usr_a", "", "rec_a", base, version, version, "", "", kind, key, [], hash, ""⟩

def sampleCreate : RevisionSaveRequest String := sampleRequest "" 0 .recordCreated "first" "one"

def sampleRevise : RevisionSaveRequest String := sampleRequest "rrv_a" 1 .recordRevised "second" "two"

def sampleCommand : RevisionCommitCommand := sampleCreate.command ⟨"one", "usr_a", ""⟩

def sampleRevisionID (f : FingerprintInput) : String :=
  if f = sampleCommand.fingerprintInput then "rrv_a" else String.ofList ('x' :: sampleLetters f)

theorem sampleRevisionID_injective : Function.Injective sampleRevisionID := by
  have hother : ∀ f, "rrv_a" ≠ String.ofList ('x' :: sampleLetters f) := by
    intro f heq
    have hletters : "rrv_a".toList = ['r', 'r', 'v', '_', 'a'] := by decide
    have hlist := congrArg String.toList heq
    rw [hletters, String.toList_ofList] at hlist
    simp at hlist
  intro f g h
  unfold sampleRevisionID at h
  split_ifs at h with hf hg hg
  · rw [hf, hg]
  · exact absurd h (hother g)
  · exact absurd h.symm (hother f)
  · exact sampleLetters_injective (cons.inj (String.ofList_inj.mp h)).2

/-- Every request is well formed, and the values are the hash of the content. -/
def sampleServices : Services String FingerprintInput where
  checkRequest _ := none
  checkEvidence _ := true
  checkCommand _ _ := none
  normalize hash _ _ := .ok hash
  fingerprint := id
  fingerprint_injective := Function.injective_id
  revisionID := sampleRevisionID
  revisionID_injective := sampleRevisionID_injective

def sampleWorld : World := ⟨fun _ => .error .recordNotFound, fun _ => true, fun _ _ => true⟩

def sampleTables : Tables FingerprintInput :=
  finishCommit sampleServices 5 { Tables.empty with
    revisions := put (fun _ => none) "rrv_a" (some ⟨"rec_a", "", 1, "one", 5⟩)
    roots := put (fun _ => none) "rec_a" (some ⟨.active, some "rrv_a", 1, 1⟩) } sampleCommand

theorem saveRevision_create : saveRevision sampleServices sampleWorld Tables.empty Tables.empty 5 true
    sampleCreate = .ok (sampleTables, ⟨"rec_a", "rrv_a", 1, 1, 1, .active, true, false, 5⟩) := by
  rfl

theorem revisions_derived_created : ∃ t, Run (Works sampleServices) .empty t sampleTables ∧
    ∃ d root, "rrv_a" = newID sampleServices d ∧ sampleTables.roots d.scope.recordID = some root := by
  have hcommit : commitRevisions sampleServices 5 true .empty [sampleCommand] =
      .ok (sampleTables, [⟨"rec_a", "rrv_a", 1, 1, 1, .active, true, false, 5⟩]) := rfl
  have hrun := Run.cons (Works.revisions hcommit) (.nil _)
  obtain ⟨d, root, hid, hrecord, hroot, -⟩ := revisions_derived hrun "rrv_a" _ rfl
  exact ⟨_, hrun, d, root, hid, hrecord ▸ hroot⟩

/-- The creation of another record. -/
def otherCommand : RevisionCommitCommand :=
  { sampleCommand with
    scope := { sampleCommand.scope with recordID := "rec_b" }
    idempotencyKey := "other" }

theorem works_other : ∃ db, Works sampleServices sampleTables (.revisions [otherCommand]) db ∧
    (db.roots "rec_b").isSome = true ∧ fenced 6 db "rec_a" = false := by
  have hcommit : commitRevisions sampleServices 5 true sampleTables [otherCommand] = .ok (_, _) := rfl
  exact ⟨_, .revisions hcommit, rfl, rfl⟩

/-- Another record is created and purged. -/
theorem revisions_kept_until_purge_other :
    ∃ db db', Works sampleServices sampleTables (.revisions [otherCommand]) db ∧
      (db.roots "rec_b").isSome = true ∧ Works sampleServices db (.purge "rec_b") db' ∧
      db'.roots "rec_b" = none ∧ db'.revisions "rrv_a" = some ⟨"rec_a", "", 1, "one", 5⟩ := by
  obtain ⟨db, hother, hstored, -⟩ := works_other
  have hpurge : Works sampleServices db (.purge "rec_b") _ := .purge
  refine ⟨db, _, hother, hstored, hpurge, by simp [put], ?_⟩
  exact (revisions_kept_until_purge (.cons hother (.cons hpurge (.nil _))) (by simp)).2.1 _ _ rfl rfl

/-- The save that created the record is answered again, after another record was created. -/
theorem retried_save_replays_iff_create :
    ∃ db, Works sampleServices sampleTables (.revisions [otherCommand]) db ∧
      saveRevision sampleServices sampleWorld db db 6 true sampleCreate =
        .ok (db, ⟨"rec_a", "rrv_a", 1, 1, 1, .active, true, true, 5⟩) := by
  obtain ⟨db, hother, -, hfence⟩ := works_other
  have hinput : prepareInput sampleServices sampleWorld sampleCreate = .ok ⟨"one", "usr_a", ""⟩ := rfl
  refine ⟨db, hother, (retried_save_replays_iff sampleServices (w := sampleWorld) (.nil _) (.nil _)
    (by simp) saveRevision_create rfl (.cons hother (.nil _)) (by simp) (.nil _) (by simp) hinput rfl
    hfence).1.mpr ?_⟩
  exact ⟨.inl rfl, rfl⟩

/-- A revision is saved, and the same request is refused when it is sent again. -/
theorem retried_revision_conflicts :
    ∃ (db : Tables FingerprintInput) (result : RevisionCommitResult),
      saveRevision sampleServices sampleWorld Tables.empty Tables.empty 5 true sampleCreate =
        .ok (sampleTables, ⟨"rec_a", "rrv_a", 1, 1, 1, .active, true, false, 5⟩) ∧
      saveRevision sampleServices sampleWorld sampleTables sampleTables 6 true sampleRevise =
        .ok (db, result) ∧ result.created = true ∧ result.replayed = false ∧
      fenced 7 db "rec_a" = false ∧
      saveRevision sampleServices sampleWorld db db 7 true sampleRevise =
        .error .recordRevisionConflict :=
  ⟨_, _, saveRevision_create, rfl, rfl, rfl, rfl, rfl⟩

end Houfeng.Records
