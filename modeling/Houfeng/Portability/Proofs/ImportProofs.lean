import Houfeng.Portability.Import

/-!
# An archive is imported at most once

The last transaction of an `Apply` cannot commit beside an origin of its archive, and an origin is
deleted only together with a tombstone. So a second import needs a tombstone that appears after the
call has looked for one.
-/

namespace Houfeng.Portability

open List Option Function ImportState

variable {A : Type} {archives : Archives A} {s s' : ImportState A} {l : ImportLabel}

/-! ## The tables -/

variable {d : Digest}

theorem purged_tombstone {db db' : ImportTables A} {recordID : String} (h : Purged recordID db db')
    (hd : db.tombstones d = true) : db'.tombstones d = true :=
  (h.tombstones d).mpr (.inl hd)

theorem importStep_tombstones (h : ImportStep archives s l s') (hl : ∀ x, l ≠ .purged x) :
    s'.tables.tombstones = s.tables.tombstones := by
  cases h with
  | purge recordID _ => exact absurd rfl (hl recordID)
  | dryRun h => cases h <;> rfl
  | apply h => cases h <;> rfl
  | fail => rfl
  | crash => rfl

theorem importStep_tombstoned (h : ImportStep archives s l s') (hd : s.tables.tombstones d = true) :
    s'.tables.tombstones d = true := by
  cases h with
  | purge _ h => exact purged_tombstone h hd
  | dryRun h => cases h <;> exact hd
  | apply h => cases h <;> exact hd
  | fail => exact hd
  | crash => exact hd

def Known (s : ImportState A) (d : Digest) : Prop :=
  s.tables.origins d ≠ none ∨ s.tables.tombstones d = true

theorem Known.step (hknown : Known s d) (h : ImportStep archives s l s') : Known s' d := by
  cases h with
  | dryRun h => cases h <;> exact hknown
  | apply h =>
    cases h with
    | @commit id process r cached job first rest =>
      rcases hknown with horigin | htomb
      · left
        by_cases hd : d = cached.archiveDigest
        · simp [goOn, withTables, hd]
        · simpa [goOn, withTables, hd] using horigin
      · exact .inr htomb
    | _ => exact hknown
  | fail => exact hknown
  | crash => exact hknown
  | purge recordID h =>
    rcases hknown with horigin | htomb
    · by_cases hd : s.tables.origins d = some recordID
      · exact .inr ((h.tombstones d).mpr (.inr (.inr hd)))
      · left
        show _ ≠ none
        simp only [withTables]
        rw [h.origins, if_neg hd]
        exact horigin
    · exact .inr (purged_tombstone h htomb)

variable {jobID : String}

/-- A job changes only by a compare-and-set of its version. -/
theorem importStep_job {row row' : ImportJob} (h : ImportStep archives s l s')
    (hrow : s.tables.jobs jobID = some row) (hrow' : s'.tables.jobs jobID = some row') :
    row' = row ∨
    (∃ id, l = .advanced id jobID row.lockVersion ∧
      row' = { row with jobState := .planned, lockVersion := row.lockVersion + 1 }) ∨
    ∃ id cached, l = .committed id cached ∧ cached.jobID = jobID ∧
      cached.lockVersion = row.lockVersion ∧ row.jobState = .planned ∧
      row' = { row with jobState := .applied, lockVersion := row.lockVersion + 1 } := by
  have hsame : s.tables.jobs jobID = some row' → row' = row := fun h =>
    some.inj (h.symm.trans hrow)
  cases h with
  | fail => exact .inl (hsame hrow')
  | crash => exact .inl (hsame hrow')
  | purge recordID h =>
    by_cases hdeleted : ∃ planID plan, s.tables.plans planID = some plan ∧
        plan.importJobID = jobID ∧ ImportTables.emptied plan recordID = true
    · obtain ⟨planID, plan, hplan, rfl, hemptied⟩ := hdeleted
      exact absurd ((h.deleted planID plan hplan hemptied).1.symm.trans hrow') (by simp)
    · refine .inl (hsame ?_)
      rw [← (h.kept jobID fun planID plan hplan hjob => ?_).1]
      · exact hrow'
      · by_contra hemptied
        exact hdeleted ⟨planID, plan, hplan, hjob, by simpa using hemptied⟩
  | dryRun h =>
    cases h with
    | @claimNew id process r planned newID hcall hnone hfresh =>
      by_cases hid : jobID = newID
      · rw [hid, hfresh] at hrow
        cases hrow
      · refine .inl (hsame ?_)
        simpa [goOn, withTables, hid] using hrow'
    | @advance id process planned advancedID planID job found hcall hfound hversion =>
      by_cases hid : jobID = advancedID
      · subst hid
        obtain rfl : found = row := some.inj (hfound.symm.trans hrow)
        right
        left
        refine ⟨id, by rw [hversion], ?_⟩
        simpa [goOn, withTables, ImportTables.advanceJob] using hrow'.symm
      · refine .inl (hsame ?_)
        simpa [goOn, withTables, ImportTables.advanceJob, hid] using hrow'
    | _ => exact .inl (hsame hrow')
  | apply h =>
    cases h with
    | @commit id process r cached job first rest hcall horigin hjob hstate hactor hversion =>
      by_cases hid : jobID = cached.jobID
      · subst hid
        obtain rfl : job = row := some.inj (hjob.symm.trans hrow)
        right
        right
        refine ⟨id, cached, rfl, rfl, hversion.symm, hstate, ?_⟩
        simpa [goOn, withTables, ImportTables.advanceJob] using hrow'.symm
      · refine .inl (hsame ?_)
        simpa [goOn, withTables, ImportTables.advanceJob, hid] using hrow'
    | _ => exact .inl (hsame hrow')

/-! ## Calls that have passed the checks -/

/-- The plan of an `Apply` that has seen no tombstone, and whether it has seen no origin either. -/
def ImportCall.cleared : ImportCall A → Option (CachedImportPlan × Bool)
  | .applyOrigin _ cached => some (cached, false)
  | .applyRestore _ cached => some (cached, true)
  | .applyCommit _ cached => some (cached, true)
  | _ => none

def Cleared (s : ImportState A) (id : Nat) (c : CachedImportPlan × Bool) : Prop :=
  ∃ run, s.calls id = some run ∧ run.call.cleared = some c

section Calls

variable {i id : Nat} {c : CachedImportPlan × Bool} {x : Option (Running A)}

theorem Cleared.update_cases (hcalls : s'.calls = Function.update s.calls i x)
    (h : Cleared s' id c) :
    (id = i ∧ ∃ run, x = some run ∧ run.call.cleared = some c) ∨ Cleared s id c := by
  obtain ⟨run, hrun, hc⟩ := h
  by_cases hid : id = i
  · rw [hcalls, hid, update_self] at hrun
    exact .inl ⟨hid, run, hrun, hc⟩
  · rw [hcalls, update_of_ne hid] at hrun
    exact .inr ⟨run, hrun, hc⟩

theorem Cleared.of_update (hcalls : s'.calls = Function.update s.calls i x)
    (hx : ∀ run, x = some run → run.call.cleared = none) (h : Cleared s' id c) :
    Cleared s id c := by
  rcases h.update_cases hcalls with ⟨-, run, hrun, hc⟩ | h
  · rw [hx run hrun] at hc
    cases hc
  · exact h

inductive ClearedBy (s : ImportState A) (l : ImportLabel) (id : Nat) :
    CachedImportPlan × Bool → Prop
  | before {c : CachedImportPlan × Bool} (h : Cleared s id c) : ClearedBy s l id c
  | tombstone {cached : CachedImportPlan} (hl : l = .checked id cached)
    (h : s.tables.tombstones cached.archiveDigest = false) : ClearedBy s l id (cached, false)
  | origin {cached : CachedImportPlan} (hbefore : Cleared s id (cached, false))
    (h : s.tables.origins cached.archiveDigest = none) : ClearedBy s l id (cached, true)

theorem dryRunStep_cleared (hstep : DryRunStep archives s l s') (h : Cleared s' id c) :
    Cleared s id c := by
  cases hstep with
  | stage hcall =>
    refine h.of_update rfl fun run hrun => ?_
    obtain rfl := some.inj hrun
    dsimp only
    split <;> rfl
  | cache hcall => exact h.of_update rfl fun run hrun => by cases hrun
  | _ =>
    refine h.of_update rfl fun run hrun => ?_
    obtain rfl := some.inj hrun
    rfl

variable {process : Nat} {call : ImportCall A}

theorem Cleared.goOn_cases (hcalls : s'.calls = Function.update s.calls i (some ⟨process, call⟩))
    (h : Cleared s' id c) : (id = i ∧ call.cleared = some c) ∨ Cleared s id c := by
  rcases h.update_cases hcalls with ⟨hid, run, hrun, hc⟩ | h
  · cases hrun
    exact .inl ⟨hid, hc⟩
  · exact .inr h

theorem applyStep_cleared (hstep : ApplyStep archives s l s') (h : Cleared s' id c) :
    ClearedBy s l id c := by
  cases hstep with
  | @tombstone i process r cached hcall hnone =>
    rcases h.goOn_cases rfl with ⟨rfl, hc⟩ | h
    · obtain rfl : (cached, false) = c := some.inj hc
      exact .tombstone rfl hnone
    · exact .before h
  | @origin i process r cached hcall hnone =>
    rcases h.goOn_cases rfl with ⟨rfl, hc⟩ | h
    · obtain rfl : (cached, true) = c := some.inj hc
      exact .origin ⟨_, hcall, rfl⟩ hnone
    · exact .before h
  | restore hcall =>
    rcases h.goOn_cases rfl with ⟨rfl, hc⟩ | h
    · exact .before ⟨_, hcall, hc⟩
    · exact .before h
  | applied hcall => exact .before (h.of_update rfl fun run hrun => by cases hrun)
  | cache hcall => exact .before (h.of_update rfl fun run hrun => by cases hrun)
  | _ =>
    refine .before (h.of_update rfl fun run hrun => ?_)
    obtain rfl := some.inj hrun
    rfl

theorem importStep_cleared (hstep : ImportStep archives s l s') (h : Cleared s' id c) :
    ClearedBy s l id c := by
  cases hstep with
  | dryRun hstep => exact .before (dryRunStep_cleared hstep h)
  | apply hstep => exact applyStep_cleared hstep h
  | fail i => exact .before (h.of_update rfl fun run hrun => by cases hrun)
  | crash process =>
    obtain ⟨run, hrun, hc⟩ := h
    exact .before ⟨run, (filter_eq_some_iff.mp hrun).1, hc⟩
  | purge => exact .before h

variable {cached : CachedImportPlan}

/-- A step that writes for an `Apply` is one of a call that has passed both checks. -/
theorem importStep_writes (hstep : ImportStep archives s l s')
    (hl : l = .restored id cached ∨ l = .committed id cached) : Cleared s id (cached, true) := by
  cases hstep with
  | dryRun h => cases h <;> simp at hl
  | apply h =>
    cases h with
    | restore hcall =>
      obtain ⟨rfl, rfl⟩ : _ ∧ _ := by simpa using hl
      exact ⟨_, hcall, rfl⟩
    | commit hcall =>
      obtain ⟨rfl, rfl⟩ : _ ∧ _ := by simpa using hl
      exact ⟨_, hcall, rfl⟩
    | _ => simp at hl
  | fail => simp at hl
  | crash => simp at hl
  | purge => simp at hl

/-! ## Histories -/

abbrev ImportHistory (A : Type) := List (RunStep (ImportState A) ImportLabel)

variable {t : ImportHistory A}

/-- In the history the call has seen no tombstone at some step and, with `origin`, no origin
later. -/
def SeenClear (t : ImportHistory A) (id : Nat) (c : CachedImportPlan × Bool) : Prop :=
  ∃ pre e mid, t = pre ++ e :: mid ∧ e.label = .checked id c.1 ∧
    e.before.tables.tombstones c.1.archiveDigest = false ∧
    (c.2 = true → ∃ o ∈ mid, o.before.tables.origins c.1.archiveDigest = none)

theorem SeenClear.extend (h : SeenClear t id c) (e : RunStep (ImportState A) ImportLabel) :
    SeenClear (t ++ [e]) id c := by
  obtain ⟨pre, e', mid, rfl, hlabel, htomb, horigin⟩ := h
  refine ⟨pre, e', mid ++ [e], by simp, hlabel, htomb, fun hc => ?_⟩
  obtain ⟨o, ho, hnone⟩ := horigin hc
  exact ⟨o, mem_append_left _ ho, hnone⟩

/-- What the history says about a state: every cleared call has seen what it was cleared by, and
every imported archive is known. -/
structure ImportSound (t : ImportHistory A) (s : ImportState A) : Prop where
  cleared : ∀ id c, Cleared s id c → SeenClear t id c
  imported : ∀ e ∈ t, ∀ id cached, e.label = .committed id cached → Known s cached.archiveDigest

theorem known_of_committed (h : ImportStep archives s (.committed id cached) s') :
    Known s' cached.archiveDigest := by
  cases h with
  | dryRun h => cases h
  | apply h =>
    cases h with
    | commit => simp [Known, goOn, withTables]

theorem ImportSound.step (h : ImportSound t s) (hstep : ImportStep archives s l s') :
    ImportSound (t ++ [⟨s, l, s'⟩]) s' where
  cleared := by
    intro id c hc
    cases importStep_cleared hstep hc with
    | before hbefore => exact (h.cleared id c hbefore).extend _
    | tombstone hl htomb => exact ⟨t, _, [], rfl, hl, htomb, by simp⟩
    | origin hbefore hnone =>
      obtain ⟨pre, e, mid, rfl, hlabel, htomb, -⟩ := h.cleared id _ hbefore
      exact ⟨pre, e, mid ++ [⟨s, l, s'⟩], by simp, hlabel, htomb,
        fun _ => ⟨_, mem_append_right _ (mem_singleton_self _), hnone⟩⟩
  imported := by
    intro e he id cached hlabel
    rcases mem_append.mp he with he | he
    · exact (h.imported e he id cached hlabel).step hstep
    · obtain rfl := mem_singleton.mp he
      obtain rfl : l = .committed id cached := hlabel
      exact known_of_committed hstep

def ImportState.Quiet (s : ImportState A) : Prop := ∀ id, s.calls id = none

theorem ImportSound.run (hquiet : s.Quiet) (h : Run (ImportStep archives) s t s') :
    ImportSound t s' := by
  refine h.history (fun _ _ _ _ h hstep => h.step hstep) ⟨?_, by simp⟩
  rintro id c ⟨run, hrun, -⟩
  rw [hquiet id] at hrun
  cases hrun

theorem run_tombstoned (h : Run (ImportStep archives) s t s') (hd : s.tables.tombstones d = true) :
    s'.tables.tombstones d = true :=
  h.inv (I := fun s => s.tables.tombstones d = true)
    (fun _ _ _ hd hstep => importStep_tombstoned hstep hd) hd

theorem run_known (h : Run (ImportStep archives) s t s') (hd : Known s d) : Known s' d :=
  h.inv (I := fun s => Known s d) (fun _ _ _ hd hstep => hd.step hstep) hd

/-- No import and no tombstone is forgotten. -/
theorem imports_never_forgotten (hquiet : s.Quiet) (hrun : Run (ImportStep archives) s t s') :
    (∀ e ∈ t, ∀ id cached, e.label = .committed id cached →
      s'.tables.origins cached.archiveDigest ≠ none ∨
        s'.tables.tombstones cached.archiveDigest = true) ∧
    ∀ d, s.tables.tombstones d = true → s'.tables.tombstones d = true :=
  ⟨(ImportSound.run hquiet hrun).imported, fun _ => run_tombstoned hrun⟩

/-- No purge between a look for a tombstone and a write of the same call tombstones the archive of
the call. -/
def Undisturbed (t : ImportHistory A) : Prop :=
  ∀ pre e mid e' post, t = pre ++ e :: (mid ++ e' :: post) → ∀ id cached,
    e.label = .checked id cached →
    (e'.label = .restored id cached ∨ e'.label = .committed id cached) →
    ∀ p ∈ mid, ∀ recordID, p.label = .purged recordID →
      p.after.tables.tombstones cached.archiveDigest = false

theorem run_untombstoned (h : Run (ImportStep archives) s t s') (hd : s.tables.tombstones d = false)
    (hpurges : ∀ p ∈ t, ∀ recordID, p.label = .purged recordID →
      p.after.tables.tombstones d = false) : s'.tables.tombstones d = false := by
  induction h with
  | nil => exact hd
  | @cons s m s' l t hstep _ ih =>
    obtain ⟨hhead, htail⟩ := forall_mem_cons.mp hpurges
    refine ih ?_ htail
    by_cases hl : ∃ recordID, l = .purged recordID
    · obtain ⟨recordID, rfl⟩ := hl
      exact hhead recordID rfl
    · rw [importStep_tombstones hstep fun x hx => hl ⟨x, hx⟩]
      exact hd

/-- In an undisturbed run a call that writes has looked for a tombstone before its archive was
imported, and there is none yet. -/
theorem writes_cleared {pre post : ImportHistory A} {e : RunStep (ImportState A) ImportLabel}
    (hquiet : s.Quiet) (h : Run (ImportStep archives) s (pre ++ e :: post) s')
    (hundisturbed : Undisturbed (pre ++ e :: post))
    (hl : e.label = .restored id cached ∨ e.label = .committed id cached) :
    e.before.tables.tombstones cached.archiveDigest = false ∧
    ∃ a check b, pre = a ++ check :: b ∧ check.label = .checked id cached ∧
      ∀ x ∈ a, ∀ id' cached', x.label = .committed id' cached' →
        cached'.archiveDigest ≠ cached.archiveDigest := by
  obtain ⟨hpre, hstep, -⟩ := h.split
  obtain ⟨a, check, b, rfl, hcheck, htomb, horigin⟩ :=
    (ImportSound.run hquiet hpre).cleared id _ (importStep_writes hstep hl)
  obtain ⟨ha, hcheckStep, hb⟩ := hpre.split
  have hnone : e.before.tables.tombstones cached.archiveDigest = false := by
    refine run_untombstoned (.cons hcheckStep hb) htomb fun p hp recordID hlabel => ?_
    rcases mem_cons.mp hp with rfl | hp
    · rw [hcheck] at hlabel
      cases hlabel
    · exact hundisturbed a check b e post (by simp) id cached hcheck hl p hp recordID hlabel
  refine ⟨hnone, a, check, b, rfl, hcheck, fun x hx id' cached' hx' hdigest => ?_⟩
  -- The archive was known when the call looked for an origin, and had neither it nor a tombstone.
  obtain ⟨o, ho, hoNone⟩ := horigin rfl
  obtain ⟨b1, b2, rfl⟩ := append_of_mem ho
  have hknown := (ImportSound.run hquiet ha).imported x hx id' cached' hx'
  rw [hdigest] at hknown
  obtain ⟨hb1, hoStep, hb2⟩ := hb.split
  rcases run_known (.cons hcheckStep hb1) hknown with hknown | hknown
  · exact hknown hoNone
  · have := run_tombstoned (.cons hoStep hb2) hknown
    rw [hnone] at this
    cases this

theorem committed_origin (h : ImportStep archives s (.committed id cached) s') :
    s.tables.origins cached.archiveDigest = none := by
  cases h with
  | dryRun h => cases h
  | apply h =>
    cases h with
    | commit _ hnone => exact hnone

/-- An `Apply` changes the tables only where it restores and where it commits. -/
theorem applyStep_tables (h : ApplyStep archives s l s') :
    (∃ id cached, l = .restored id cached ∨ l = .committed id cached) ∨ s'.tables = s.tables := by
  cases h with
  | restore => exact .inl ⟨_, _, .inl rfl⟩
  | commit => exact .inl ⟨_, _, .inr rfl⟩
  | _ => exact .inr rfl

/-- In every run in which no purge tombstones an archive between the look of an `Apply` for a
tombstone and its writes, an archive is imported at most once and never after a purge that
tombstoned it. -/
theorem archive_imported_at_most_once (hquiet : s.Quiet) (hrun : Run (ImportStep archives) s t s')
    (hundisturbed : Undisturbed t) :
    (∀ pre e post, t = pre ++ e :: post → ∀ id cached, e.label = .committed id cached →
      (∀ x ∈ pre, ∀ id' cached', x.label = .committed id' cached' →
        cached'.archiveDigest ≠ cached.archiveDigest) ∧
      ∀ x ∈ pre, ∀ recordID, x.label = .purged recordID →
        x.after.tables.tombstones cached.archiveDigest = false) ∧
    (∀ pre e post, t = pre ++ e :: post → ∀ id cached,
      e.label = .restored id cached ∨ e.label = .committed id cached →
      ∃ a check b, pre = a ++ check :: b ∧ check.label = .checked id cached ∧
        ∀ x ∈ a, ∀ id' cached', x.label = .committed id' cached' →
          cached'.archiveDigest ≠ cached.archiveDigest) ∧
    (∀ e ∈ t, ApplyStep archives e.before e.label e.after →
      (∃ id cached, e.label = .restored id cached ∨ e.label = .committed id cached) ∨
        e.after.tables = e.before.tables) ∧
    ∀ e ∈ t, ∀ jobID row row', e.before.tables.jobs jobID = some row →
      e.after.tables.jobs jobID = some row' → row' = row ∨
      (∃ id, e.label = .advanced id jobID row.lockVersion ∧
        row' = { row with jobState := .planned, lockVersion := row.lockVersion + 1 }) ∨
      ∃ id cached, e.label = .committed id cached ∧ cached.jobID = jobID ∧
        cached.lockVersion = row.lockVersion ∧ row.jobState = .planned ∧
        row' = { row with jobState := .applied, lockVersion := row.lockVersion + 1 } := by
  refine ⟨?_, ?_, fun e _ h => applyStep_tables h, ?_⟩
  · rintro pre e post rfl id cached hl
    obtain ⟨hpre, hstep, -⟩ := hrun.split
    obtain ⟨htomb, -⟩ := writes_cleared hquiet hrun hundisturbed (.inr hl)
    refine ⟨fun x hx id' cached' hx' hdigest => ?_, fun x hx recordID hx' => ?_⟩
    · have hknown := (ImportSound.run hquiet hpre).imported x hx id' cached' hx'
      rw [hdigest] at hknown
      rcases hknown with horigin | htomb'
      · rw [hl] at hstep
        exact horigin (committed_origin hstep)
      · simp [htomb] at htomb'
    · obtain ⟨a, b, rfl⟩ := append_of_mem hx
      by_contra htrue
      have hlater := run_tombstoned hpre.split.2.2 (by simpa using htrue)
      simp [htomb] at hlater
  · rintro pre e post rfl id cached hl
    exact (writes_cleared hquiet hrun hundisturbed hl).2
  · intro e he jobID row row' hrow hrow'
    obtain ⟨pre, post, rfl⟩ := append_of_mem he
    exact importStep_job hrun.split.2.1 hrow hrow'

end Calls

/-! ## Sample runs -/

section Samples

variable {t : ImportHistory A} {process : Nat} {cached : CachedImportPlan}

/-- The state after a `DryRun` of an archive without a job, with the ids it draws. -/
def dryRunState (archives : Archives A) (s : ImportState A) (process : Nat) (r : DryRunRequest A)
    (planned : PlannedArchive) (jobID planID : String) : ImportState A :=
  let id := s.started
  let job := newImportJob archives r
  let s₁ := s.start process (.dryTombstone r planned)
  let s₂ := s₁.goOn id process (.dryOrigin r planned)
  let s₃ := s₂.goOn id process (.dryClaim r planned)
  let s₄ := (s₃.withTables { s₃.tables with
    jobs := Function.update s₃.tables.jobs jobID (some job) }).goOn id process
      (.dryPlan r planned jobID job none)
  let s₅ := (s₄.withTables { s₄.tables with
    plans := Function.update s₄.tables.plans planID
      (some ⟨jobID, planned.digest, planned.remaps⟩) }).goOn id process
        (.dryStage r planned jobID job planID true)
  let s₆ := (s₅.withTables { s₅.tables with
    staged := Function.update s₅.tables.staged jobID (some r.archive) }).goOn id process
      (.dryAdvance planned jobID job planID)
  let s₇ := (s₆.withTables (s₆.tables.advanceJob jobID job .planned)).goOn id process
    (.dryCache planned jobID { job with jobState := .planned, lockVersion := 2 } planID)
  (s₇.cache process planID (cachedImportPlan jobID
    { job with jobState := .planned, lockVersion := 2 } planned)).return_ id

def NoPurge (t : ImportHistory A) : Prop := ∀ e ∈ t, ∀ recordID, e.label ≠ .purged recordID

/-- A purge at the end of a run comes between no check and its commit. -/
theorem NoPurge.undisturbed {e : RunStep (ImportState A) ImportLabel} (h : NoPurge t) :
    Undisturbed (t ++ [e]) := by
  rintro pre check mid e' post ht id cached - - p hp recordID hlabel
  have hcut := congrArg dropLast ht
  rw [dropLast_concat, ← cons_append, ← append_assoc,
    dropLast_append_of_ne_nil (cons_ne_nil e' post)] at hcut
  exact absurd hlabel (h p (by simp [hcut, hp]) recordID)

def Leads (archives : Archives A) (s s' : ImportState A) : Prop :=
  ∃ t, Run (ImportStep archives) s t s' ∧ NoPurge t

theorem Leads.refl (s : ImportState A) : Leads archives s s := ⟨[], .nil s, by simp [NoPurge]⟩

variable {m : ImportState A}

theorem Leads.head (hstep : ImportStep archives s l m) (hl : ∀ x, l ≠ .purged x)
    (h : Leads archives m s') : Leads archives s s' := by
  obtain ⟨t, hrun, hpurge⟩ := h
  refine ⟨_, .cons hstep hrun, fun e he => ?_⟩
  rcases mem_cons.mp he with rfl | he
  · exact hl
  · exact hpurge e he

theorem Leads.trans (h : Leads archives s m) (h' : Leads archives m s') : Leads archives s s' := by
  obtain ⟨t, hrun, hpurge⟩ := h
  obtain ⟨t', hrun', hpurge'⟩ := h'
  refine ⟨t ++ t', hrun.append hrun', fun e he => ?_⟩
  rcases mem_append.mp he with he | he
  · exact hpurge e he
  · exact hpurge' e he

theorem calls_goOn (s : ImportState A) (id process : Nat) (call : ImportCall A) :
    (s.goOn id process call).calls id = some ⟨process, call⟩ :=
  update_self id _ _

theorem calls_start (s : ImportState A) (process : Nat) (call : ImportCall A) :
    (s.start process call).calls s.started = some ⟨process, call⟩ :=
  calls_goOn s s.started process call

theorem leads_dryRun (process : Nat) {r : DryRunRequest A} {planned : PlannedArchive}
    {planID : String} (hplanned : archives.planArchive r.archive r.destination planned)
    (htomb : s.tables.tombstones (archives.sha256 r.archive) = false)
    (horigin : s.tables.origins (archives.sha256 r.archive) = none)
    (hjobs : ∀ x job, s.tables.jobs x = some job →
      ¬ (job.actorID = r.actorID ∧ job.idempotencyKey = r.idempotencyKey))
    (hjob : s.tables.jobs jobID = none) (hplan : s.tables.plans planID = none)
    (hunique : ∀ x plan, s.tables.plans x = some plan → plan.importJobID ≠ jobID) :
    Leads archives s (dryRunState archives s process r planned jobID planID) := by
  refine .head (.dryRun (.start process r planned hplanned)) (by simp) ?_
  refine .head (.dryRun (.tombstone (calls_start s process _) htomb)) (by simp) ?_
  refine .head (.dryRun (.origin (calls_goOn _ _ process _) horigin)) (by simp) ?_
  refine .head (.dryRun (.claimNew (calls_goOn _ _ process _) hjobs hjob)) (by simp) ?_
  refine .head (.dryRun (.savePlan (calls_goOn _ _ process _) (update_self jobID _ _) rfl
    hplan hunique)) (by simp) ?_
  refine .head (.dryRun (.stage (calls_goOn _ _ process _))) (by simp) ?_
  refine .head (.dryRun (.advance (calls_goOn _ _ process _) (update_self jobID _ _) rfl))
    (by simp) ?_
  refine .head (.dryRun (.cache (calls_goOn _ _ process _))) (by simp) ?_
  exact .refl _

def checkedState (s : ImportState A) (process : Nat) (r : ApplyRequest)
    (cached : CachedImportPlan) : ImportState A :=
  let id := s.started
  let s₁ := s.start process (.applyResolve r)
  let s₂ := s₁.goOn id process (.applyDecide r cached)
  let s₃ := s₂.goOn id process (.applyTombstone r cached)
  let s₄ := s₃.goOn id process (.applyOrigin r cached)
  s₄.goOn id process (.applyRestore r cached)

variable {r : ApplyRequest}

theorem leads_checked (process : Nat) (hcached : s.caches process r.planID = some cached)
    (hactor : cached.actorID = r.actorID) (hstate : cached.jobState = .planned)
    (hversion : r.lockVersion = cached.lockVersion)
    (htomb : s.tables.tombstones cached.archiveDigest = false)
    (horigin : s.tables.origins cached.archiveDigest = none) :
    Leads archives s (checkedState s process r cached) := by
  refine .head (.apply (.start process r)) (by simp) ?_
  refine .head (.apply (.cached (calls_start s process _) hcached)) (by simp) ?_
  refine .head (.apply (.planned (cached.expiresAt - 1) (calls_goOn _ _ process _) hactor hstate
    (by omega) hversion)) (by simp) ?_
  refine .head (.apply (.tombstone (calls_goOn _ _ process _) htomb)) (by simp) ?_
  refine .head (.apply (.origin (calls_goOn _ _ process _) horigin)) (by simp) ?_
  exact .refl _

/-- The state after an `Apply` that has passed its checks has restored and committed. -/
def importedState (s : ImportState A) (id process : Nat) (r : ApplyRequest)
    (cached : CachedImportPlan) (job : ImportJob) (first : String) (rest : List String) :
    ImportState A :=
  let s₁ := (s.withTables { s.tables with
    writes := .restored r.planID :: s.tables.writes }).goOn id process (.applyCommit r cached)
  (s₁.withTables { s₁.tables.advanceJob cached.jobID job .applied with
    origins := Function.update s₁.tables.origins cached.archiveDigest (some first)
    writes := .revisions (first :: rest) :: s₁.tables.writes }).goOn id process
      (.applyCache r cached)

theorem leads_imported {id : Nat} {job : ImportJob} {first : String} {rest : List String}
    (hcall : s.calls id = some ⟨process, .applyRestore r cached⟩)
    (horigin : s.tables.origins cached.archiveDigest = none)
    (hjob : s.tables.jobs cached.jobID = some job) (hstate : job.jobState = .planned)
    (hactor : job.actorID = r.actorID) (hversion : job.lockVersion = cached.lockVersion)
    (hdocuments : cached.documents = first :: rest) :
    Leads archives s (importedState s id process r cached job first rest) := by
  refine .head (.apply (.restore hcall)) (by simp) ?_
  refine .head (.apply (.commit (calls_goOn _ _ process _) horigin hjob hstate hactor hversion
    hdocuments)) (by simp) ?_
  exact .refl _

open Classical ImportTables in
noncomputable def purgeTables (recordID : String) (db : ImportTables A) : ImportTables A :=
  let deleted := fun jobID => ∃ planID plan, db.plans planID = some plan ∧
    plan.importJobID = jobID ∧ emptied plan recordID = true
  { jobs := fun jobID => if deleted jobID then none else db.jobs jobID
    plans := fun planID => (db.plans planID).bind fun plan =>
      if emptied plan recordID then none else some { plan with remaps := unmapped plan recordID }
    staged := fun jobID => if deleted jobID then none else db.staged jobID
    origins := fun d => if db.origins d = some recordID then none else db.origins d
    tombstones := fun d => decide (db.tombstones d = true ∨
      (∃ planID plan job, db.plans planID = some plan ∧ mapsRecord plan recordID = true ∧
        db.jobs plan.importJobID = some job ∧ job.archiveDigest = d) ∨
      db.origins d = some recordID)
    writes := db.writes }

theorem purged_purgeTables (recordID : String) (db : ImportTables A) :
    Purged recordID db (purgeTables recordID db) where
  tombstones := fun d => by simp [purgeTables]
  origins := fun d => by simp [purgeTables]
  plans := fun planID => rfl
  deleted := fun planID plan hplan hemptied => by
    have hdeleted : ∃ planID' plan', db.plans planID' = some plan' ∧
        plan'.importJobID = plan.importJobID ∧ ImportTables.emptied plan' recordID = true :=
      ⟨planID, plan, hplan, rfl, hemptied⟩
    exact ⟨if_pos hdeleted, if_pos hdeleted⟩
  kept := fun jobID hkept => by
    have hdeleted : ¬ ∃ planID plan, db.plans planID = some plan ∧
        plan.importJobID = jobID ∧ ImportTables.emptied plan recordID = true := by
      rintro ⟨planID, plan, hplan, hjob, hemptied⟩
      simp [hkept planID plan hplan hjob] at hemptied
    exact ⟨if_neg hdeleted, if_neg hdeleted⟩
  writes := rfl

def sampleArchives : Archives String where
  sha256 := id
  planArchive := fun _ _ planned => planned.documents ≠ []
  rebindArchive := fun _ _ _ => none

def sampleDryRun (idempotencyKey : String) : DryRunRequest String :=
  ⟨"user", idempotencyKey, "archive", "vps", 10⟩

def samplePlanned (recordID : String) : PlannedArchive :=
  ⟨"plan", [recordID], [⟨"record", "source", recordID⟩]⟩

def sampleJob (idempotencyKey : String) : ImportJob :=
  ⟨"user", idempotencyKey, .planned, "archive", "vps", 2, 10⟩

def sampleCached (idempotencyKey jobID recordID : String) : CachedImportPlan :=
  cachedImportPlan jobID (sampleJob idempotencyKey) (samplePlanned recordID)

def plannedOnce : ImportState String :=
  dryRunState sampleArchives .empty 0 (sampleDryRun "first") (samplePlanned "rec_a") "rij_a" "rip_a"

def plannedTwice : ImportState String :=
  dryRunState sampleArchives plannedOnce 1 (sampleDryRun "second") (samplePlanned "rec_b") "rij_b"
    "rip_b"

theorem plannedOnce_jobs : plannedOnce.tables.jobs =
    Function.update (fun _ => none) "rij_a" (some (sampleJob "first")) :=
  update_idem _ _ _

theorem plannedTwice_jobs : plannedTwice.tables.jobs =
    Function.update plannedOnce.tables.jobs "rij_b" (some (sampleJob "second")) :=
  update_idem _ _ _

theorem leads_plannedOnce : Leads sampleArchives .empty plannedOnce :=
  leads_dryRun 0 (cons_ne_nil _ _) rfl rfl nofun rfl rfl nofun

theorem leads_plannedTwice : Leads sampleArchives .empty plannedTwice := by
  refine leads_plannedOnce.trans (leads_dryRun 1 (cons_ne_nil _ _) rfl rfl ?_ ?_ rfl ?_)
  · intro x job hjob
    rw [plannedOnce_jobs] at hjob
    by_cases hx : x = "rij_a"
    · rw [hx, update_self] at hjob
      cases hjob
      decide
    · rw [update_of_ne hx] at hjob
      cases hjob
  · rw [plannedOnce_jobs]
    rfl
  · intro x plan hplan
    have hplans : plannedOnce.tables.plans = Function.update (fun _ => none) "rip_a"
        (some ⟨"rij_a", "plan", [⟨"record", "source", "rec_a"⟩]⟩) := rfl
    rw [hplans] at hplan
    by_cases hx : x = "rip_a"
    · rw [hx, update_self] at hplan
      cases hplan
      decide
    · rw [update_of_ne hx] at hplan
      cases hplan

def firstCached : CachedImportPlan := sampleCached "first" "rij_a" "rec_a"
def secondCached : CachedImportPlan := sampleCached "second" "rij_b" "rec_b"
def firstApply : ApplyRequest := ⟨"user", "rip_a", 2⟩
def secondApply : ApplyRequest := ⟨"user", "rip_b", 2⟩

def bothChecked : ImportState String :=
  checkedState (checkedState plannedTwice 1 secondApply secondCached) 0 firstApply firstCached

def firstImported : ImportState String :=
  importedState bothChecked 3 0 firstApply firstCached (sampleJob "first") "rec_a" []

theorem leads_firstImported : Leads sampleArchives .empty firstImported := by
  have hsecond : Leads sampleArchives plannedTwice
      (checkedState plannedTwice 1 secondApply secondCached) :=
    leads_checked 1 rfl rfl rfl rfl rfl rfl
  have hfirst : Leads sampleArchives (checkedState plannedTwice 1 secondApply secondCached)
      bothChecked := leads_checked 0 rfl rfl rfl rfl rfl rfl
  have hjob : bothChecked.tables.jobs "rij_a" = some (sampleJob "first") := by
    show plannedTwice.tables.jobs "rij_a" = _
    rw [plannedTwice_jobs, plannedOnce_jobs]
    rfl
  have himport : Leads sampleArchives bothChecked firstImported :=
    leads_imported rfl rfl hjob rfl rfl rfl rfl
  exact leads_plannedTwice.trans (hsecond.trans (hfirst.trans himport))

noncomputable def firstPurged : ImportState String :=
  firstImported.withTables (purgeTables "rec_a" firstImported.tables)

noncomputable def secondRestored : ImportState String :=
  (firstPurged.withTables { firstPurged.tables with
    writes := .restored "rip_b" :: firstPurged.tables.writes }).goOn 2 1
      (.applyCommit secondApply secondCached)

theorem firstPurged_archive : firstPurged.tables.tombstones "archive" = true ∧
    firstPurged.tables.origins "archive" = none := by
  have horigin : firstImported.tables.origins "archive" = some "rec_a" := rfl
  simp [firstPurged, withTables, purgeTables, horigin]

theorem firstPurged_job : firstPurged.tables.jobs "rij_b" = some (sampleJob "second") := by
  have hjobs : firstImported.tables.jobs "rij_b" = some (sampleJob "second") := by
    have himported : firstImported.tables.jobs = Function.update plannedTwice.tables.jobs "rij_a"
        (some { sampleJob "first" with jobState := .applied, lockVersion := 3 }) := rfl
    rw [himported, plannedTwice_jobs]
    rfl
  have hplans : firstImported.tables.plans = Function.update (Function.update (fun _ => none)
      "rip_a" (some ⟨"rij_a", "plan", [⟨"record", "source", "rec_a"⟩]⟩))
      "rip_b" (some ⟨"rij_b", "plan", [⟨"record", "source", "rec_b"⟩]⟩) := rfl
  have hkept := (purged_purgeTables "rec_a" firstImported.tables).kept "rij_b" ?_
  · exact hkept.1.trans hjobs
  intro planID plan hplan hjob
  rw [hplans] at hplan
  by_cases hb : planID = "rip_b"
  · rw [hb, update_self] at hplan
    cases hplan
    decide
  · rw [update_of_ne hb] at hplan
    by_cases ha : planID = "rip_a"
    · rw [ha, update_self] at hplan
      cases hplan
      exact absurd hjob (by decide)
    · rw [update_of_ne ha] at hplan
      cases hplan

/-- An archive planned twice is imported by the first plan after the second `Apply` has looked for
a tombstone; the record is purged, which tombstones the archive and deletes its origin; and the
second `Apply` commits its import. -/
theorem import_commits_after_tombstone :
    ∃ t s id cached s', Run (ImportStep sampleArchives) .empty t s ∧
      (∃ e ∈ t, ∃ recordID, e.label = .purged recordID ∧
        e.after.tables.tombstones cached.archiveDigest = true) ∧
      ImportStep sampleArchives s (.committed id cached) s' := by
  obtain ⟨t, hrun, -⟩ := leads_firstImported
  have hpurge : ImportStep sampleArchives firstImported (.purged "rec_a") firstPurged :=
    .purge "rec_a" (purged_purgeTables _ _)
  have hrestore : ImportStep sampleArchives firstPurged (.restored 2 secondCached)
      secondRestored :=
    .apply (@ApplyStep.restore String sampleArchives firstPurged 2 1 secondApply secondCached rfl)
  have hcommit := @ApplyStep.commit String sampleArchives secondRestored 2 1 secondApply
    secondCached (sampleJob "second") "rec_b" [] (calls_goOn _ 2 1 _) firstPurged_archive.2
    firstPurged_job rfl rfl rfl rfl
  refine ⟨_, _, 2, secondCached, _, (hrun.snoc hpurge).snoc hrestore,
    ⟨⟨firstImported, .purged "rec_a", firstPurged⟩, ?_, "rec_a", rfl, ?_⟩, .apply hcommit⟩
  · exact mem_append_left _ (mem_append_right _ (mem_singleton_self _))
  · exact firstPurged_archive.1

theorem imports_never_forgotten_sample :
    ∃ t, Run (ImportStep sampleArchives) .empty t firstImported ∧
      ∀ e ∈ t, ∀ id cached, e.label = .committed id cached →
        firstImported.tables.origins cached.archiveDigest ≠ none ∨
          firstImported.tables.tombstones cached.archiveDigest = true := by
  obtain ⟨t, hrun, -⟩ := leads_firstImported
  exact ⟨t, hrun, (imports_never_forgotten (fun _ => rfl) hrun).1⟩

/-- The import of the first process is the only one; the record is purged after it, and the archive
has a tombstone from then on. -/
theorem archive_imported_at_most_once_purged :
    ∃ t e, Run (ImportStep sampleArchives) .empty (t ++ [e]) firstPurged ∧
      firstImported.tables.origins "archive" = some "rec_a" ∧ e.label = .purged "rec_a" ∧
      firstPurged.tables.tombstones "archive" = true ∧
      ∀ pre x post, t ++ [e] = pre ++ x :: post → ∀ id cached, x.label = .committed id cached →
        ∀ x' ∈ pre, ∀ id' cached', x'.label = .committed id' cached' →
          cached'.archiveDigest ≠ cached.archiveDigest := by
  obtain ⟨t, hrun, hpurge⟩ := leads_firstImported
  have hpurged := hrun.snoc (.purge "rec_a" (purged_purgeTables "rec_a" firstImported.tables))
  have honce := (archive_imported_at_most_once (fun _ => rfl) hpurged hpurge.undisturbed).1
  exact ⟨t, _, hpurged, rfl, rfl, firstPurged_archive.1,
    fun pre x post ht id cached hl => (honce pre x post ht id cached hl).1⟩

end Samples

end Houfeng.Portability
