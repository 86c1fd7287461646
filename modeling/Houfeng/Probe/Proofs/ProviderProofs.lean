import Houfeng.Probe.Provider

/-!
# What a run of `CollectDue` loses

A call that fails returns nothing, though its earlier probes have run and set their last runs, and
it leaves the rest of the plan. Two observations of an item keep their distance in every run.
-/

namespace Houfeng.Probe

open List Function

variable {r : Runners} {now d : Int} {last : String → Option Int} {c : Collected}
  {a : ProbeAssignment} {o : ProbeObservation} {plan done : List ProbeAssignment}

theorem duration_pos (h : a.duration = some d) : 0 < d := by
  unfold ProbeAssignment.duration frequencyTierDuration second at h
  split at h <;> simp only [Option.some.injEq, reduceCtorEq] at h <;> omega

theorem collectAssignment_ok (h : collectAssignment r a now = .ok o) :
    o.probeItemID = a.probeItemID ∧ o.observedAt = now := by
  unfold collectAssignment failureObservation at h
  grind

/-- The assignment is due by the last runs `last`. -/
def ProbeAssignment.Due (last : String → Option Int) (now : Int) (a : ProbeAssignment) : Prop :=
  ∃ d ∈ a.duration, ∀ t ∈ last a.probeItemID, t + d ≤ now

/-- The assignment is of a supported kind, and an HTTP probe that got a response can decode the
configuration. -/
def ProbeAssignment.Sound (r : Runners) (a : ProbeAssignment) : Prop :=
  a.supported ∧ (a.probeKind = "http" → (r.httpRun a).isOk → (r.decodeHTTPConfig a).isOk)

theorem collectAssignment_isOk (a : ProbeAssignment) (now : Int) :
    (collectAssignment r a now).isOk ↔ a.Sound r := by
  unfold collectAssignment ProbeAssignment.Sound ProbeAssignment.supported
  split
  · rename_i hkind
    split <;> simp [hkind, Except.isOk, Except.toBool]
  · rename_i hkind
    split
    · rename_i hrun
      simp [hkind, hrun, Except.isOk, Except.toBool]
    · rename_i hrun
      split
      · rename_i hdecode
        simp [hkind, hrun, hdecode, Except.isOk, Except.toBool]
      · rename_i hdecode
        split_ifs <;> simp [hkind, hdecode, Except.isOk, Except.toBool]
  · rename_i hkind
    split <;> simp [hkind, Except.isOk, Except.toBool]
  · rename_i htcp hhttp htls
    refine iff_of_false nofun fun hsound => ?_
    have hkind := hsound.1
    simp only [mem_cons, not_mem_nil, or_false, decide_eq_true_eq] at hkind
    exact hkind.elim htcp (·.elim hhttp htls)

/-- What the loop keeps: `last` are the last runs at the call's start, `done` is the plan so far. -/
structure Loop (now : Int) (last : String → Option Int) (done : List ProbeAssignment)
    (c : Collected) : Prop where
  ran : c.err = none → c.executed = c.observations.map Prod.fst
  mem_ran : ∀ x ∈ c.observations, x.1 ∈ c.executed
  observed : ∀ x ∈ c.observations, x.2.probeItemID = x.1.probeItemID ∧ x.2.observedAt = now ∧
    c.lastRun x.1.probeItemID = some now
  due : ∀ x ∈ c.observations, ∀ d ∈ x.1.duration, ∀ t ∈ last x.1.probeItemID, t + d ≤ now
  distinct : c.observations.Pairwise fun x y => x.1.probeItemID ≠ y.1.probeItemID
  lastRun : ∀ i, c.lastRun i = last i ∨
    c.lastRun i = some now ∧ ∃ x ∈ c.observations, x.1.probeItemID = i
  complete : c.err = none → ∀ a ∈ done, ∀ d ∈ a.duration,
    a ∈ c.executed ∨ ∃ t ∈ c.lastRun a.probeItemID, now < t + d

theorem Loop.skip (h : Loop now last done c)
    (hskip : ∀ d ∈ a.duration, ∃ t ∈ c.lastRun a.probeItemID, now < t + d) :
    Loop now last (done ++ [a]) c where
  __ := h
  complete herr := by
    simpa [or_imp, forall_and] using ⟨h.complete herr, fun d hd => .inr (by simpa using hskip d hd)⟩

theorem Loop.ok (h : Loop now last done c) (herr : c.err = none) (hd : a.duration = some d)
    (hdue : ∀ t ∈ c.lastRun a.probeItemID, t + d ≤ now) (ho : collectAssignment r a now = .ok o) :
    Loop now last (done ++ [a]) { c with
      lastRun := update c.lastRun a.probeItemID (some now)
      executed := c.executed ++ [a]
      observations := c.observations ++ [(a, o)] } := by
  have hpos := duration_pos hd
  obtain ⟨hitem, hat⟩ := collectAssignment_ok ho
  have hfresh : ∀ x ∈ c.observations, x.1.probeItemID ≠ a.probeItemID := by
    intro x hx heq
    have := hdue now (heq ▸ (h.observed x hx).2.2)
    omega
  have hlast : c.lastRun a.probeItemID = last a.probeItemID := by
    rcases h.lastRun a.probeItemID with h' | ⟨-, x, hx, heq⟩
    · exact h'
    · exact absurd heq (hfresh x hx)
  obtain ⟨hran, hmem, hobserved, hstart, hdistinct, hkept, hcomplete⟩ := h
  simp only [Option.mem_def] at hdue hstart hcomplete
  refine ⟨fun _ => by simp [hran herr], ?_, ?_, ?_, ?_, fun i => ?_, fun _ => ?_⟩
  · grind
  · grind [update_apply]
  · simp only [Option.mem_def]
    grind
  · grind
  · rcases eq_or_ne i a.probeItemID with rfl | hne
    · exact .inr ⟨by simp, (a, o), by simp, rfl⟩
    · simpa [update_of_ne hne, hne.symm, or_and_right, exists_or] using hkept i
  · replace hcomplete := hcomplete herr
    simp only [Option.mem_def]
    grind [duration_pos, update_apply]

theorem collectFrom_skip {rest : List ProbeAssignment} (h : ¬ a.Due c.lastRun now) :
    collectFrom r now (a :: rest) c = collectFrom r now rest c := by
  rw [collectFrom]
  split
  · rfl
  · rename_i d hd
    rw [if_pos]
    simpa [ProbeAssignment.Due, hd, Option.any_eq_true] using h

theorem collectFrom_due {rest : List ProbeAssignment} (h : a.Due c.lastRun now) :
    collectFrom r now (a :: rest) c =
      match collectAssignment r a now with
      | .error e => { c with
          executed := if a.supported then c.executed ++ [a] else c.executed
          err := some e }
      | .ok o => collectFrom r now rest { c with
          lastRun := update c.lastRun a.probeItemID (some now)
          executed := c.executed ++ [a]
          observations := c.observations ++ [(a, o)] } := by
  obtain ⟨d, hd, hdue⟩ := h
  rw [Option.mem_def] at hd
  rw [collectFrom, hd]
  dsimp only
  exact if_neg (by simpa [Option.any_eq_true] using hdue)

theorem collectFrom_loop (plan : List ProbeAssignment) (h : Loop now last done c)
    (herr : c.err = none) : Loop now last (done ++ plan) (collectFrom r now plan c) := by
  induction plan generalizing c done with
  | nil => simpa [collectFrom] using h
  | cons a rest ih =>
    rw [append_cons]
    by_cases hdue : a.Due c.lastRun now
    · rw [collectFrom_due hdue]
      obtain ⟨d, hd, hdue⟩ := hdue
      split
      · refine ⟨?_, fun x hx => ?_, h.observed, h.due, h.distinct, h.lastRun, ?_⟩
        · intro hnone
          cases hnone
        · have hmem := h.mem_ran x hx
          dsimp only
          split_ifs
          · exact mem_append_left _ hmem
          · exact hmem
        · intro hnone
          cases hnone
      · rename_i o ho
        exact ih (h.ok herr hd hdue ho) herr
    · rw [collectFrom_skip hdue]
      exact ih (h.skip (by simpa [ProbeAssignment.Due] using hdue)) herr

/-- Of the assignments of one item only the first that is due is run; each of these is sound. -/
def SoundPlan (r : Runners) (last : String → Option Int) (now : Int)
    (plan : List ProbeAssignment) : Prop :=
  ∀ before a after, plan = before ++ a :: after → a.Due last now →
    (∀ b ∈ before, b.Due last now → b.probeItemID ≠ a.probeItemID) → a.Sound r

/-- An item that has run now is not due. -/
theorem due_update {i : String} :
    a.Due (update last i (some now)) now ↔ a.probeItemID ≠ i ∧ a.Due last now := by
  unfold ProbeAssignment.Due
  rcases eq_or_ne a.probeItemID i with rfl | hne
  · refine iff_of_false ?_ (by simp)
    rintro ⟨d, hd, hdue⟩
    have hpos := duration_pos hd
    have hnow := hdue now (by simp)
    omega
  · simp [hne]

theorem soundPlan_cons_skip {rest : List ProbeAssignment} (hdue : ¬ a.Due last now) :
    SoundPlan r last now (a :: rest) ↔ SoundPlan r last now rest := by
  constructor
  · intro h before a' after heq hdue' hfirst
    refine h (a :: before) a' after (heq ▸ rfl) hdue' ?_
    simpa [hdue] using hfirst
  · rintro h (_ | ⟨b, before⟩) a' after heq hdue' hfirst
    · cases heq
      exact absurd hdue' hdue
    · cases heq
      exact h before a' after rfl hdue' fun b hb => hfirst b (mem_cons_of_mem _ hb)

/-- An assignment that is due has to be sound; the rest of the plan goes on after its run. -/
theorem soundPlan_cons_due {rest : List ProbeAssignment} (hdue : a.Due last now) :
    SoundPlan r last now (a :: rest) ↔
      a.Sound r ∧ SoundPlan r (update last a.probeItemID (some now)) now rest := by
  constructor
  · intro h
    refine ⟨h [] a rest rfl hdue (by simp), ?_⟩
    intro before a' after heq hdue' hfirst
    obtain ⟨hne, hdue'⟩ := due_update.mp hdue'
    refine h (a :: before) a' after (heq ▸ rfl) hdue' ?_
    rw [forall_mem_cons]
    refine ⟨fun _ => hne.symm, fun b hb hb' heq' => ?_⟩
    exact hfirst b hb (due_update.mpr ⟨heq' ▸ hne, hb'⟩) heq'
  · rintro ⟨hsound, h⟩ (_ | ⟨b, before⟩) a' after heq hdue' hfirst
    · cases heq
      exact hsound
    · cases heq
      rw [forall_mem_cons] at hfirst
      exact h before a' after rfl (due_update.mpr ⟨(hfirst.1 hdue).symm, hdue'⟩)
        fun b hb hb' => hfirst.2 b hb (due_update.mp hb').2

/-- The loop ends without an error exactly if the plan is sound. -/
theorem collectFrom_err (plan : List ProbeAssignment) (herr : c.err = none) :
    (collectFrom r now plan c).err = none ↔ SoundPlan r c.lastRun now plan := by
  induction plan generalizing c with
  | nil => simp [collectFrom, herr, SoundPlan]
  | cons a rest ih =>
    by_cases hdue : a.Due c.lastRun now
    · rw [collectFrom_due hdue, soundPlan_cons_due hdue, ← collectAssignment_isOk a now]
      split
      · rename_i e he
        rw [he]
        exact iff_of_false (by simp) fun h => by cases h.1
      · rename_i o ho
        rw [ho]
        refine (ih ?_).trans (and_iff_right rfl).symm
        exact herr
    · rw [collectFrom_skip hdue, ih herr, soundPlan_cons_skip hdue]

/-- No probe is run if no assignment of a supported kind is due. -/
theorem collectFrom_idle (plan : List ProbeAssignment)
    (h : ∀ a ∈ plan, a.supported → ¬ a.Due c.lastRun now) :
    (collectFrom r now plan c).executed = c.executed := by
  induction plan with
  | nil => rfl
  | cons a rest ih =>
    rw [forall_mem_cons] at h
    by_cases hdue : a.Due c.lastRun now
    · have hkind : ¬ a.supported := fun hs => h.1 hs hdue
      rw [collectFrom_due hdue]
      split
      · simp [hkind]
      · rename_i o ho
        have hsound : a.Sound r := (collectAssignment_isOk a now).mp (by rw [ho]; rfl)
        exact absurd hsound.1 hkind
    · rw [collectFrom_skip hdue, ih h.2]

theorem Collected.returned_sublist (c : Collected) : c.returned.Sublist c.observations := by
  unfold returned
  split <;> simp

/-! ## Runs -/

/-- A provider between two calls: its last runs, the time of the last call and what the calls have
returned. -/
structure Provider where
  lastRun : String → Option Int
  clock : Int
  returned : Observations

/-- The next call of a provider. -/
structure Call where
  provider : Provider
  runners : Runners
  plan : List ProbeAssignment
  now : Int
  later : provider.clock ≤ now

namespace Call

variable (call : Call)

def result : Collected := collectDue call.runners call.provider.lastRun call.plan call.now

def next : Provider where
  lastRun := call.result.lastRun
  clock := call.now
  returned := call.provider.returned ++ call.result.returned

/-- The item of `a` is observed in `xs` within its tier. -/
def Fresh (xs : Observations) (a : ProbeAssignment) : Prop :=
  ∃ x ∈ xs, x.2.probeItemID = a.probeItemID ∧ ∀ d ∈ a.duration, call.now < x.2.observedAt + d

/-- Each probe that was run has its observation returned. -/
def Lossless : Prop := ∀ a ∈ call.result.executed, ∃ o, (a, o) ∈ call.result.returned

/-- Each assignment of a supported kind and tier that was not observed within its tier is run. -/
def Independent : Prop :=
  ∀ a ∈ call.plan, a.supported → a.duration.isSome →
    a ∈ call.result.executed ∨ call.Fresh call.next.returned a

/-- The plan is sound, or no assignment of a supported kind is due. -/
def Sound : Prop :=
  SoundPlan call.runners call.provider.lastRun call.now call.plan ∨
    ∀ a ∈ call.plan, a.supported → ¬ a.Due call.provider.lastRun call.now

theorem loop : Loop call.now call.provider.lastRun call.plan call.result := by
  have h : Loop call.now call.provider.lastRun [] { lastRun := call.provider.lastRun } :=
    ⟨fun _ => rfl, by simp, by simp, by simp, .nil, fun _ => .inl rfl, by simp⟩
  exact collectFrom_loop call.plan h rfl

variable {call}

theorem Lossless.executed (h : call.Lossless) (herr : call.result.err ≠ none) :
    call.result.executed = [] := by
  refine eq_nil_iff_forall_not_mem.mpr fun a ha => ?_
  obtain ⟨o, ho⟩ := h a ha
  rw [Collected.returned, if_neg herr] at ho
  cases ho

end Call

/-- The providers that calls with the property `P` lead to. -/
inductive Reached (P : Call → Prop) : Provider → Prop
  | new (clock : Int) : Reached P ⟨fun _ => none, clock, []⟩
  | call {call : Call} (h : Reached P call.provider) (hcall : P call) : Reached P call.next

def Spaced (x y : ProbeAssignment × ProbeObservation) : Prop :=
  x.2.probeItemID = y.2.probeItemID → ∀ d ∈ y.1.duration, x.2.observedAt + d ≤ y.2.observedAt

variable {P : Call → Prop} {p : Provider} {call : Call}

/-- No observation is after the last run of its item, and observations are spaced. -/
theorem Reached.spaced (h : Reached P p) :
    p.returned.Pairwise Spaced ∧ ∀ x ∈ p.returned, x.2.observedAt ≤ p.clock ∧
      ∃ t ∈ p.lastRun x.2.probeItemID, x.2.observedAt ≤ t := by
  induction h with
  | new => simp
  | @call call _ _ ih =>
    obtain ⟨hspaced, hseen⟩ := ih
    have hloop := call.loop
    have hsub := call.result.returned_sublist.subset
    have hlater := call.later
    refine ⟨pairwise_append.mpr ⟨hspaced, ?_, fun x hx y hy heq d hd => ?_⟩, fun x hx => ?_⟩
    · have hdistinct := hloop.distinct.sublist call.result.returned_sublist
      refine hdistinct.imp_of_mem fun {x y} hx hy hne heq => ?_
      grind [hloop.observed x (hsub hx), hloop.observed y (hsub hy)]
    · obtain ⟨-, t, ht, hle⟩ := hseen x hx
      have hy' := hloop.observed y (hsub hy)
      have := hloop.due y (hsub hy) d hd t (by rwa [← hy'.1, ← heq])
      omega
    · rcases mem_append.mp hx with hx | hx
      · obtain ⟨hclock, t, ht, hle⟩ := hseen x hx
        have hnow : x.2.observedAt ≤ call.now := by omega
        rcases hloop.lastRun x.2.probeItemID with hl | ⟨hl, -⟩
        · exact ⟨hnow, t, hl.trans ht, hle⟩
        · exact ⟨hnow, call.now, hl, hnow⟩
      · obtain ⟨hitem, hat, hl⟩ := hloop.observed x (hsub hx)
        have hnow : x.2.observedAt ≤ call.now := by omega
        exact ⟨hnow, call.now, hitem ▸ hl, hnow⟩

/-- While failing calls run nothing, a last run is an observation that was returned. -/
theorem Reached.lastRun_returned (h : Reached Call.Lossless p) {i : String} {t : Int}
    (ht : t ∈ p.lastRun i) : ∃ x ∈ p.returned, x.2.probeItemID = i ∧ x.2.observedAt = t := by
  induction h with
  | new => cases ht
  | @call call _ hlossless ih =>
    have hloop := call.loop
    rcases hloop.lastRun i with hl | ⟨hl, x, hx, hi⟩
    · obtain ⟨x, hx, hxt⟩ := ih (hl ▸ ht)
      exact ⟨x, mem_append_left _ hx, hxt⟩
    · have herr : call.result.err = none := by
        by_contra herr
        have hran := hloop.mem_ran x hx
        rw [hlossless.executed herr] at hran
        cases hran
      have hret : x ∈ call.result.returned := by simpa [Collected.returned, herr] using hx
      obtain ⟨hitem, hat, -⟩ := hloop.observed x hx
      exact ⟨x, mem_append_right _ hret, hitem.trans hi, hat.trans (Option.mem_unique hl ht)⟩

theorem Call.ok_lossless (herr : call.result.err = none) : call.Lossless := by
  intro a ha
  rw [call.loop.ran herr] at ha
  simpa [Collected.returned, herr] using ha

theorem Reached.ok_independent (h : Reached Call.Lossless call.provider)
    (herr : call.result.err = none) : call.Independent := by
  intro a ha _ htier
  obtain ⟨d, hd⟩ := Option.isSome_iff_exists.mp htier
  refine (call.loop.complete herr a ha d hd).imp_right fun ⟨t, ht, hlt⟩ => ?_
  obtain ⟨x, hx, hi, rfl⟩ := (h.call (Call.ok_lossless herr)).lastRun_returned ht
  exact ⟨x, hx, hi, fun d' hd' => Option.mem_unique hd hd' ▸ hlt⟩

theorem Call.err_eq_none :
    call.result.err = none ↔ SoundPlan call.runners call.provider.lastRun call.now call.plan :=
  collectFrom_err call.plan rfl

theorem Call.Sound.lossless (h : call.Sound) : call.Lossless := by
  rcases h with h | h
  · exact Call.ok_lossless (Call.err_eq_none.mpr h)
  · have hidle : call.result.executed = [] := collectFrom_idle call.plan h
    simp [Call.Lossless, hidle]

theorem Reached.lossless (h : Reached Call.Sound p) : Reached Call.Lossless p := by
  induction h with
  | new clock => exact .new clock
  | call _ hcall ih => exact .call ih hcall.lossless

/-- An item observed within the tier of an assignment is not due. -/
theorem Reached.not_due_of_fresh (h : Reached P call.provider)
    (hfresh : call.Fresh call.provider.returned a) :
    ¬ a.Due call.provider.lastRun call.now := by
  rintro ⟨d, hd, hdue⟩
  obtain ⟨x, hx, hitem, hwithin⟩ := hfresh
  obtain ⟨-, t, ht, hle⟩ := h.spaced.2 x hx
  have hnow := hdue t (hitem ▸ ht)
  have hlate := hwithin d hd
  omega

theorem Reached.fresh_of_not_due (h : Reached Call.Lossless call.provider)
    (htier : a.duration.isSome) (hdue : ¬ a.Due call.provider.lastRun call.now) :
    call.Fresh call.provider.returned a := by
  obtain ⟨d, hd⟩ := Option.isSome_iff_exists.mp htier
  simp only [ProbeAssignment.Due, hd, Option.mem_def, Option.some.injEq, exists_eq_left', not_forall,
    Int.not_le] at hdue
  obtain ⟨t, ht, hlt⟩ := hdue
  obtain ⟨x, hx, hitem, rfl⟩ := h.lastRun_returned ht
  exact ⟨x, hx, hitem, fun d' hd' => Option.mem_unique hd hd' ▸ hlt⟩

/-- Observations of one item keep the distance of their tier. After sound calls, the next call is
lossless and independent exactly if it is sound. -/
theorem collectDue_spaced_lossless_independent (p : Provider) :
    (Reached (fun _ => True) p → p.returned.Pairwise Spaced) ∧
      (Reached Call.Sound p → ∀ call : Call, call.provider = p →
        (call.Lossless ∧ call.Independent ↔ call.Sound)) := by
  refine ⟨fun h => h.spaced.1, ?_⟩
  rintro h call rfl
  have hreached := h.lossless
  refine ⟨fun ⟨hlossless, hrun⟩ => ?_, fun hsound => ⟨hsound.lossless, ?_⟩⟩
  · by_cases herr : call.result.err = none
    · exact .inl (Call.err_eq_none.mp herr)
    · refine .inr fun a ha hs hdue => ?_
      have hnone : call.next.returned = call.provider.returned := by
        simp [Call.next, Collected.returned, herr]
      have hfresh := hrun a ha hs (Option.isSome_iff_exists.mpr ⟨_, hdue.choose_spec.1⟩)
      rw [hlossless.executed herr, hnone] at hfresh
      exact hreached.not_due_of_fresh (hfresh.resolve_left not_mem_nil) hdue
  · rcases hsound with hplan | hidle
    · exact hreached.ok_independent (Call.err_eq_none.mpr hplan)
    · intro a ha hs htier
      obtain ⟨x, hx, hxa⟩ := hreached.fresh_of_not_due htier (hidle a ha hs)
      exact .inr ⟨x, mem_append_left _ hx, hxa⟩

def sampleAssignment (item kind : String) : ProbeAssignment := ⟨"t1", item, kind, "1m", false⟩

/-- The first call of a provider. -/
def sampleCall (plan : List ProbeAssignment) : Call where
  provider := ⟨fun _ => none, 0, []⟩
  runners := ⟨fun _ => .ok 3, fun _ => .ok (3, 200), fun _ => .ok (3, 30), fun _ => .ok []⟩
  plan
  now := 0
  later := Int.le_refl 0

/-- The TCP probe of the first call has run and is not returned; in the second call, five seconds
later, it is not run, though its item was never observed. -/
theorem collectDue_loses_executed :
    let plan := [sampleAssignment "a" "tcp", sampleAssignment "b" "icmp"]
    let first := sampleCall plan
    first.result.executed = plan.take 1 ∧ first.result.returned = [] ∧
      (collectDue first.runners first.next.lastRun (plan.take 1) (5 * second)).executed = [] :=
  ⟨rfl, rfl, rfl⟩

/-- Two calls with plans of three kinds. Half a minute later only the item of the tier `5s` is
run. -/
theorem collectDue_lossless_sample :
    let plan := [sampleAssignment "a" "tcp", sampleAssignment "b" "http",
      ⟨"t1", "c", "tls", "5s", false⟩]
    let first := sampleCall plan
    let second : Call := ⟨first.next, first.runners, plan, 30 * second, by decide⟩
    first.result.executed = plan ∧ second.result.executed = plan.drop 2 ∧
      first.Lossless ∧ first.Independent ∧ second.Lossless ∧ second.Independent := by
  intro plan first second
  have hfirst : first.Sound := .inl (Call.err_eq_none.mp rfl)
  have hsecond : second.Sound := .inl (Call.err_eq_none.mp rfl)
  have h₁ := ((collectDue_spaced_lossless_independent _).2 (.new 0) first rfl).mpr hfirst
  have h₂ := ((collectDue_spaced_lossless_independent _).2 (.call (.new 0) hfirst) second rfl).mpr
    hsecond
  exact ⟨rfl, rfl, h₁.1, h₁.2, h₂⟩

end Houfeng.Probe
