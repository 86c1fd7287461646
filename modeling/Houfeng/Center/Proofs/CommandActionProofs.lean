import Houfeng.Center.Proofs.ManagementProofs
import Houfeng.Center.Proofs.ReplayProofs

/-!
# Commands are handed out once

The commands of an instance as a small machine: the action queued for it and the last action stored,
in flight or done. `managedStep_actions` says which of its moves a transaction makes. Along a run the
ids queued so far and the ids handed out so far are the ghost state of the invariant.
-/

namespace Houfeng.Center

open AgentApi List Option Function Transaction Database

variable {db db' : Database}

/-! ## The machine -/

/-- The queued and the last command of an instance. -/
structure Actions where
  queued : Option PendingAction
  last : Option LastAction

def Instance.actions (row : Instance) : Actions := ⟨queuedAction row, row.lastAction⟩

def Database.actions (db : Database) (i : String) : Option Actions :=
  (db.assets.instances.lookup i).map Instance.actions

namespace Actions

variable {a a' : Actions}

/-- The last command is pending. -/
def InFlight (a : Actions) (actionID commandID : String) : Prop :=
  ∃ l, a.last = some l ∧ l.status = "pending" ∧ l.actionID = actionID ∧ l.commandID = commandID

def Mentions (a : Actions) (actionID : String) : Prop := ∃ l, a.last = some l ∧ l.actionID = actionID

def clear (a : Actions) : Actions := ⟨none, a.last.filter fun l => l.status ≠ "pending"⟩

def expire (a : Actions) (now : Int) : Actions := { a with last := a.last.map (·.expireOutput now) }

def dispatch (env : Env) (a : Actions) : Actions :=
  match a.queued with
  | some p => ⟨none, some (dispatchedLastAction env p.actionID p.commandID a.last)⟩
  | none => a

/-- The moves that hand nothing out and complete nothing. -/
inductive Kept (a : Actions) : Actions → Prop
  | same : Kept a a
  | cleared : Kept a a.clear
  | expired (now : Int) : Kept a (a.expire now)

/-- What the results of a batch do: nothing, or the action in flight is completed by one. -/
inductive Reported (env : Env) (results : List CommandResult) (a : Actions) :
    Actions → List CommandResult → Prop
  | unmatched : Reported env results a a []
  | matched {r : CommandResult} (hr : r ∈ results) (h : a.InFlight r.actionID r.commandID) :
      Reported env results a { a with last := some (completedLastAction env r) } [r]

end Actions

def completion? : Fact → Option CommandActionAudit
  | .commandAudit event => if event.eventType = "completed" then some event else none
  | _ => none

def Database.completions (db : Database) : List CommandActionAudit := db.facts.filterMap completion?

def Transaction.queuedID : Transaction → Option String
  | .manage _ (.queueCommandAction _ input) (.ok _) => some input.actionID
  | _ => none

def Transaction.handedOut : Transaction → Option String
  | .sync _ _ (.ok r) =>
    if r.disposition = .recorded then r.plan.pendingAction.map (·.actionID) else none
  | _ => none

/-- What a transaction can do to the commands. -/
inductive ActionStep (db db' : Database) : Transaction → Prop
  | kept {env : ManagementEnv} {operation : Operation}
      {answer : Except ManagementError (Option String)}
      (hactions : ∀ i a', db'.actions i = some a' → ∃ a, db.actions i = some a ∧ a.Kept a')
      (hcompletions : db'.completions = db.completions)
      (hqueued : (Transaction.manage env operation answer).queuedID = none) :
      ActionStep db db' (.manage env operation answer)
  | queued {env : ManagementEnv} {i : String} {input : QueueCommandActionInput} {l : LastAction}
      {answer : Option String}
      (hid : l.actionID = input.actionID) (hcommand : l.commandID = input.commandID)
      (hstatus : l.status = "pending")
      (hactions : db'.actions = Function.update db.actions i
        (some ⟨some ⟨input.commandID, input.actionID⟩, some l⟩))
      (hcompletions : db'.completions = db.completions) :
      ActionStep db db' (.manage env (.queueCommandAction i input) (.ok answer))
  | unrecorded {env : Env} {batch : Batch} {answer : Except SyncError Result}
      (hactions : db'.actions = db.actions) (hcompletions : db'.completions = db.completions)
      (hhanded : (sync env batch answer).handedOut = none) :
      ActionStep db db' (.sync env batch answer)
  | recorded {env : Env} {batch : Batch} {r : Result} {a mid : Actions}
      {completing : List CommandResult} (hrecorded : r.disposition = .recorded)
      (ha : db.actions batch.monitoringInstanceID = some a)
      (hmid : a.Reported env batch.commandResults mid completing)
      (hhanded : r.plan.pendingAction = mid.queued)
      (hactions : db'.actions = Function.update db.actions batch.monitoringInstanceID
        (some (mid.dispatch env)))
      (hcompletions : db'.completions = db.completions ++
        completing.map (completedEvent env batch.monitoringInstanceID)) :
      ActionStep db db' (.sync env batch (.ok r))

/-! ## Transactions make these moves -/

theorem actions_setInstance (db : Database) (i : String) (row : Instance) :
    (db.setInstance i row).actions = Function.update db.actions i (some row.actions) := by
  funext k
  by_cases hk : k = i
  · subst hk
    simp [actions, Database.setInstance]
  · simp [actions, Database.setInstance, AList.lookup_insert_ne hk, update_of_ne hk]

theorem kept_of_related
    (h : Table.Related (fun row row' : Instance => row.actions.Kept row'.actions)
      db.assets.instances db'.assets.instances) :
    ∀ i a', db'.actions i = some a' → ∃ a, db.actions i = some a ∧ a.Kept a' := by
  intro i a' ha'
  obtain ⟨row', hrow', rfl⟩ := map_eq_some_iff.mp ha'
  obtain ⟨row, hrow, hkept⟩ := h.to_lookup hrow'
  exact ⟨row.actions, by rw [actions, hrow]; rfl, hkept⟩

theorem completions_append {added : List Fact} (h : db'.facts = db.facts ++ added)
    (hadded : ∀ f ∈ added, completion? f = none) : db'.completions = db.completions := by
  have hnone : added.filterMap completion? = [] := filterMap_eq_nil_iff.mpr hadded
  rw [completions, h, filterMap_append, hnone, append_nil]
  rfl

theorem Cancelled.completion_eq_none {f : Fact} (h : Cancelled f) : completion? f = none := by
  obtain ⟨event, rfl, hevent⟩ := h
  simp [completion?, hevent]

theorem actions_resolveEnrollmentBindingTransition (row : Instance) (fp : String) (now : Int) :
    (resolveEnrollmentBindingTransition row fp now).actions = row.actions := by
  unfold resolveEnrollmentBindingTransition
  split
  · rfl
  · split <;> rfl
  · split
    · rfl
    · split <;> rfl

variable {row' : Instance}

theorem Instance.RetiredFrom.actions {row : Instance} (h : row.RetiredFrom row') :
    row.actions.Kept row'.actions := by
  cases h with
  | kept => exact .same
  | cleared => exact .cleared
  | retired => exact .cleared

theorem Instance.TouchedFrom.actions {row : Instance} (h : row.TouchedFrom row') :
    row'.actions = row.actions := by
  cases h <;> rfl

variable {operation : Operation} {env : ManagementEnv}

theorem ActionStep.ofRow {answer : Except ManagementError (Option String)}
    {i : String} {row : Instance} (hrow : db.assets.instances.lookup i = some row)
    (hinstances : db'.assets.instances = db.assets.instances.insert i row')
    (hkept : row.actions.Kept row'.actions) (hcompletions : db'.completions = db.completions)
    (hqueued : (Transaction.manage env operation answer).queuedID = none) :
    ActionStep db db' (.manage env operation answer) := by
  refine .kept (kept_of_related ?_) hcompletions hqueued
  rw [hinstances]
  exact .insert (fun _ => .same) hrow hkept

theorem enrollmentRow_lookup {assets : Assets} {token i : String}
    {row : Instance} (h : enrollmentRow env assets token = some ⟨i, row⟩) :
    assets.instances.lookup i = some row :=
  Table.lookup_eq_some_iff.mpr (mem_of_find?_eq_some h)

theorem Managed.actions {r : Option String}
    (h : Managed env db operation r db') : ActionStep db db' (.manage env operation (.ok r)) := by
  have hcancelled : ∀ {i : String} {row : Instance} {d : Database},
      d.facts = db.facts ++ cancelAudits env i row → d.completions = db.completions :=
    fun hd => completions_append hd fun _ hf => (Retiring.cancelled_of_mem hf).completion_eq_none
  cases h with
  | issuedToken hrow => exact .ofRow hrow rfl .same rfl rfl
  | enrolled hrow hbound =>
    refine .ofRow (enrollmentRow_lookup hrow) rfl ?_ rfl rfl
    exact (actions_resolveEnrollmentBindingTransition _ _ _).symm ▸ .same
  | proposed hrow hbound =>
    refine .ofRow (enrollmentRow_lookup hrow) rfl ?_ rfl rfl
    exact (actions_resolveEnrollmentBindingTransition _ _ _).symm ▸ .same
  | issuedSyncToken hrow => exact .ofRow hrow rfl .same rfl rfl
  | confirmed hrow => exact .ofRow hrow rfl .cleared (hcancelled rfl) rfl
  | rejected hrow => exact .ofRow hrow rfl .same rfl rfl
  | reset hrow => exact .ofRow hrow rfl .cleared (hcancelled rfl) rfl
  | controlled hrow => exact .ofRow hrow rfl .same rfl rfl
  | alreadyRetired hrow => exact .kept (kept_of_related (.refl (fun _ => .same) _)) rfl rfl
  | retired hrow => exact .ofRow hrow rfl .cleared (hcancelled rfl) rfl
  | queued hrow hid =>
    refine .queued rfl rfl rfl (actions_setInstance _ _ _) (completions_append rfl ?_)
    intro f hf
    rw [mem_singleton.mp hf]
    rfl
  | archived hretiring vps =>
    obtain ⟨added, hadded, hfacts⟩ := hretiring.facts
    exact .kept (kept_of_related (hretiring.instances.mono fun _ _ h => h.actions))
      (completions_append hfacts fun f hf => (hadded f hf).completion_eq_none) rfl
  | restored vps hretiring =>
    obtain ⟨added, hadded, hfacts⟩ := hretiring.facts
    exact .kept (kept_of_related (hretiring.instances.mono fun _ _ h => h.actions))
      (completions_append hfacts fun f hf => (hadded f hf).completion_eq_none) rfl
  | @expired now =>
    exact .kept (kept_of_related (.mapRows (fun _ _ => .expired now) _)) rfl rfl

theorem CommandResult.reports_iff {r : CommandResult} {row : Instance} :
    r.reports row = true ↔
      r.actionID ≠ "" ∧ r.commandID ≠ "" ∧ row.actions.InFlight r.actionID r.commandID := by
  simp [CommandResult.reports, Actions.InFlight, Instance.actions, Option.any_eq_true, and_assoc]

variable {results completing : List CommandResult} {env : Env} {a mid : Actions}

theorem Actions.Reported.cons (h : a.Reported env results mid completing) (r : CommandResult) :
    a.Reported env (r :: results) mid completing := by
  cases h with
  | unmatched => exact .unmatched
  | matched hmem h => exact .matched (mem_cons_of_mem _ hmem) h

theorem completions_done {i : String} {row : Instance} {l : LastAction}
    (hl : row.lastAction = some l) (hdone : l.status ≠ "pending") (results : List CommandResult) :
    results.foldl (completeRow env) row = row ∧ completionAudits env i row results = [] := by
  induction results with
  | nil => exact ⟨rfl, rfl⟩
  | cons r rest ih =>
    have hr : r.reports row = false := by simp [CommandResult.reports, hl, hdone]
    rw [foldl_cons, completionAudits, completeRow, hr]
    simpa using ih

theorem reported_results (env : Env) (i : String) (row : Instance) (results : List CommandResult) :
    ∃ completing,
      row.actions.Reported env results (results.foldl (completeRow env) row).actions completing ∧
      completionAudits env i row results = completing.map (completedAudit env i) := by
  induction results with
  | nil => exact ⟨[], .unmatched, rfl⟩
  | cons r rest ih =>
    by_cases hr : r.reports row = true
    · obtain ⟨hrow, haudits⟩ := @completions_done env i
        { row with lastAction := some (completedLastAction env r) } _ rfl
        (show "done" ≠ "pending" by decide) rest
      refine ⟨[r], ?_, ?_⟩
      · rw [foldl_cons, completeRow, if_pos hr, hrow]
        exact .matched mem_cons_self (CommandResult.reports_iff.mp hr).2.2
      · rw [completionAudits, completeRow, if_pos hr, if_pos hr, haudits]
        rfl
    · obtain ⟨completing, hreported, haudits⟩ := ih
      refine ⟨completing, ?_, ?_⟩
      · rw [foldl_cons, completeRow, if_neg hr]
        exact hreported.cons r
      · rw [completionAudits, completeRow, if_neg hr, if_neg hr, haudits]
        rfl

theorem actions_dispatchRow (env : Env) (row : Instance) :
    (dispatchRow env row).actions = row.actions.dispatch env := by
  have hactions : row.actions.queued = queuedAction row := rfl
  rw [dispatchRow, Actions.dispatch, hactions]
  cases queuedAction row <;> rfl

variable {batch : Batch}

theorem Recording.completions {measured : List Fact}
    (hmeasured : ∀ g ∈ measured, MeasuredFrom env batch g) :
    ∀ g ∈ measured, completion? g = none := by
  intro g hg
  cases hmeasured g hg <;> rfl

theorem completions_dispatchAudits (env : Env) (i : String) (row : Instance) :
    (dispatchAudits env i row).filterMap completion? = [] := by
  rw [dispatchAudits]
  cases queuedAction row <;> simp [completion?]

theorem completions_completedAudits (env : Env) (i : String) (completing : List CommandResult) :
    (completing.map (completedAudit env i)).filterMap completion? =
      completing.map (completedEvent env i) := by
  induction completing with
  | nil => rfl
  | cons r rest ih =>
    have hr : completion? (completedAudit env i r) = some (completedEvent env i r) := rfl
    rw [map_cons, map_cons, filterMap_cons_some hr, ih]

theorem applyBatch_actions {r : Result} (h : applyBatch env batch db = .ok (r, db')) :
    ActionStep db db' (.sync env batch (.ok r)) := by
  obtain ⟨state, session, inst, vps, live, touched, heffect⟩ := applyBatch_effect h
  have htouched : touched.actions = db.actions := by
    funext k
    have hk := heffect.evidence.instances k
    rw [actions, actions]
    generalize db.assets.instances.lookup k = o at hk ⊢
    generalize touched.assets.instances.lookup k = o' at hk ⊢
    cases hk with
    | none => rfl
    | some hrow => exact congrArg some hrow.actions
  have hcompletions : touched.completions = db.completions := by
    rw [completions, heffect.facts, completions]
  cases heffect.disposal with
  | kept hkept =>
    refine .unrecorded htouched hcompletions ?_
    rw [handedOut, if_neg hkept]
  | recorded hsuppress hrecording =>
    obtain ⟨row, lastHeartbeatAt, measured, hmeasured, hplan, hwrote⟩ := hrecording.wrote
    obtain ⟨completing, hreported, haudits⟩ := reported_results env batch.monitoringInstanceID
      (syncedRow env lastHeartbeatAt (lifecycleStatusAfterAcceptedSync state.lifecycleStatus live)
        row) batch.commandResults
    refine .recorded hrecording.disposition ?_ hreported hplan ?_ ?_
    · rw [← htouched, actions]
      exact congrArg (Option.map _) hwrote.before
    · rw [← htouched, ← actions_dispatchRow]
      funext k
      by_cases hk : k = batch.monitoringInstanceID
      · rw [hk, update_self, actions, hwrote.after]
        rfl
      · rw [update_of_ne hk, actions, hwrote.others k hk]
        rfl
    · rw [completions, hwrote.facts, haudits, ← hcompletions]
      simp only [filterMap_append, completions_dispatchAudits, completions_completedAudits,
        filterMap_eq_nil_iff.mpr (Recording.completions hmeasured), append_nil,
        nil_append]
      rfl

variable {t : Transaction}

theorem managedStep_actions (h : managedStep db t db') : ActionStep db db' t := by
  cases t with
  | sync env batch answer =>
    cases answer with
    | error e =>
      obtain rfl := Tx.run_eq_error h
      exact .unrecorded rfl rfl rfl
    | ok r => exact applyBatch_actions (Tx.run_eq_ok h)
  | manage env operation answer =>
    cases answer with
    | error e =>
      obtain rfl := Tx.run_eq_error h
      refine .kept (fun _ a ha => ⟨a, ha, .same⟩) rfl ?_
      cases operation <;> rfl
    | ok r => exact (manage_ok (Tx.run_eq_ok h)).actions

/-! ## What the moves keep -/

namespace Actions

variable {env : Env} {a a' : Actions} {p : PendingAction} {actionID commandID : String}

theorem InFlight.mentions (h : a.InFlight actionID commandID) : a.Mentions actionID := by
  obtain ⟨l, hl, -, hid, -⟩ := h
  exact ⟨l, hl, hid⟩

theorem Mentions.unique {actionID' : String} (h : a.Mentions actionID) (h' : a.Mentions actionID') :
    actionID = actionID' := by
  obtain ⟨l, hl, rfl⟩ := h
  obtain ⟨l', hl', rfl⟩ := h'
  cases hl.symm.trans hl'
  rfl

theorem expireOutput_ids (l : LastAction) (now : Int) :
    (l.expireOutput now).status = l.status ∧ (l.expireOutput now).actionID = l.actionID ∧
      (l.expireOutput now).commandID = l.commandID := by
  rw [LastAction.expireOutput]
  split_ifs <;> exact ⟨rfl, rfl, rfl⟩

namespace Kept

theorem queued_of (h : a.Kept a') (hq : a'.queued = some p) : a.queued = some p := by
  cases h with
  | same => exact hq
  | cleared => cases hq
  | expired now => exact hq

theorem last_of (h : a.Kept a') {l : LastAction} (hl : a'.last = some l) :
    ∃ l0, a.last = some l0 ∧ l.status = l0.status ∧ l.actionID = l0.actionID ∧
      l.commandID = l0.commandID := by
  cases h with
  | same => exact ⟨l, hl, rfl, rfl, rfl⟩
  | cleared => exact ⟨l, (filter_eq_some_iff.mp hl).1, rfl, rfl, rfl⟩
  | expired now =>
    obtain ⟨l0, hl0, rfl⟩ := map_eq_some_iff.mp hl
    exact ⟨l0, hl0, expireOutput_ids l0 now⟩

theorem mentions_of (h : a.Kept a') (hm : a'.Mentions actionID) : a.Mentions actionID := by
  obtain ⟨l, hl, rfl⟩ := hm
  obtain ⟨l0, hl0, -, hid, -⟩ := h.last_of hl
  exact ⟨l0, hl0, hid.symm⟩

theorem inFlight_of (h : a.Kept a') (hf : a'.InFlight actionID commandID) :
    a.InFlight actionID commandID := by
  obtain ⟨l, hl, hids⟩ := hf
  obtain ⟨l0, hl0, hstatus, hid, hcommand⟩ := h.last_of hl
  rw [hstatus, hid, hcommand] at hids
  exact ⟨l0, hl0, hids⟩

theorem inFlight (h : a.Kept a') (hq : a'.queued = some p) (hf : a.InFlight actionID commandID) :
    a'.InFlight actionID commandID := by
  cases h with
  | same => exact hf
  | cleared => cases hq
  | expired now =>
    obtain ⟨l, hl, hids⟩ := hf
    obtain ⟨hstatus, hid, hcommand⟩ := expireOutput_ids l now
    refine ⟨l.expireOutput now, by simp [expire, hl], ?_⟩
    rw [hstatus, hid, hcommand]
    exact hids

end Kept

theorem dispatch_of_none (hq : a.queued = none) : a.dispatch env = a := by
  rw [dispatch, hq]

@[simp] theorem queued_dispatch : (a.dispatch env).queued = none := by
  rw [dispatch]
  cases hq : a.queued with
  | none => exact hq
  | some p => rfl

theorem inFlight_dispatch (hq : a.queued = some p) :
    (a.dispatch env).InFlight p.actionID p.commandID := by
  rw [dispatch, hq]
  refine ⟨_, rfl, ?_⟩
  cases a.last with
  | none => exact ⟨rfl, rfl, rfl⟩
  | some l =>
    rw [dispatchedLastAction]
    split <;> exact ⟨rfl, rfl, rfl⟩

theorem Reported.queued {mid : Actions} (h : a.Reported env results mid completing) :
    mid.queued = a.queued := by
  cases h <;> rfl

theorem Reported.mentions {mid : Actions} (h : a.Reported env results mid completing)
    (hm : mid.Mentions actionID) :
    a.Mentions actionID := by
  cases h with
  | unmatched => exact hm
  | matched hr hflight =>
    obtain ⟨l, hl, rfl⟩ := hm
    cases hl
    exact hflight.mentions

end Actions

/-! ## The invariant of hand-outs -/

/-- `used` are the ids queued so far and `handed` those handed out so far: what is queued has not
been handed out, it is the last action of its instance, and no two instances have an id in common. -/
structure ActionInvariant (used handed : List String) (db : Database) : Prop where
  known : ∀ {i a id}, db.actions i = some a → a.Mentions id → id ∈ used
  current : ∀ {i a p}, db.actions i = some a → a.queued = some p →
    a.InFlight p.actionID p.commandID
  unhanded : ∀ {i a p}, db.actions i = some a → a.queued = some p → p.actionID ∉ handed
  unique : ∀ {i j a b id}, db.actions i = some a → db.actions j = some b → a.Mentions id →
    b.Mentions id → i = j
  handed_used : ∀ id ∈ handed, id ∈ used

theorem update_eq_some {α β : Type} [DecidableEq α] {f : α → Option β} {i k : α} {x y : β}
    (h : Function.update f i (some x) k = some y) : k = i ∧ y = x ∨ k ≠ i ∧ f k = some y := by
  by_cases hk : k = i
  · rw [hk, update_self] at h
    exact .inl ⟨hk, (some.inj h).symm⟩
  · rw [update_of_ne hk] at h
    exact .inr ⟨hk, h⟩

namespace ActionInvariant

variable {used handed : List String} (h : ActionInvariant used handed db)
include h

theorem kept (hkept : ∀ i a', db'.actions i = some a' → ∃ a, db.actions i = some a ∧ a.Kept a') :
    ActionInvariant used handed db' where
  known ha' hm := by
    obtain ⟨a, ha, hk⟩ := hkept _ _ ha'
    exact h.known ha (hk.mentions_of hm)
  current ha' hq := by
    obtain ⟨a, ha, hk⟩ := hkept _ _ ha'
    exact hk.inFlight hq (h.current ha (hk.queued_of hq))
  unhanded ha' hq := by
    obtain ⟨a, ha, hk⟩ := hkept _ _ ha'
    exact h.unhanded ha (hk.queued_of hq)
  unique ha' hb' hma hmb := by
    obtain ⟨a, ha, hka⟩ := hkept _ _ ha'
    obtain ⟨b, hb, hkb⟩ := hkept _ _ hb'
    exact h.unique ha hb (hka.mentions_of hma) (hkb.mentions_of hmb)
  handed_used := h.handed_used

theorem queue {i : String} {x : Actions} {p : PendingAction}
    (hnew : p.actionID ∉ used) (hx : x.queued = some p) (hflight : x.InFlight p.actionID p.commandID)
    (hactions : db'.actions = Function.update db.actions i (some x)) :
    ActionInvariant (used ++ [p.actionID]) handed db' where
  known ha hm := by
    rcases update_eq_some (hactions ▸ ha) with ⟨rfl, rfl⟩ | ⟨hk, ha⟩
    · rw [hm.unique hflight.mentions]
      simp
    · exact mem_append_left _ (h.known ha hm)
  current ha hq := by
    rcases update_eq_some (hactions ▸ ha) with ⟨rfl, rfl⟩ | ⟨hk, ha⟩
    · cases hx.symm.trans hq
      exact hflight
    · exact h.current ha hq
  unhanded ha hq := by
    rcases update_eq_some (hactions ▸ ha) with ⟨rfl, rfl⟩ | ⟨hk, ha⟩
    · cases hx.symm.trans hq
      exact fun hmem => hnew (h.handed_used _ hmem)
    · exact h.unhanded ha hq
  unique ha hb hma hmb := by
    -- a new id is on no other instance
    have hother : ∀ {k b}, db.actions k = some b → b.Mentions p.actionID → False :=
      fun hb hm => hnew (h.known hb hm)
    rcases update_eq_some (hactions ▸ ha) with ⟨rfl, rfl⟩ | ⟨hk, ha⟩ <;>
      rcases update_eq_some (hactions ▸ hb) with ⟨rfl, rfl⟩ | ⟨hk', hb⟩
    · rfl
    · exact (hother hb (hma.unique hflight.mentions ▸ hmb)).elim
    · exact (hother ha (hmb.unique hflight.mentions ▸ hma)).elim
    · exact h.unique ha hb hma hmb
  handed_used id hid := mem_append_left _ (h.handed_used id hid)

theorem mentions_recorded {i : String}
    (ha : db.actions i = some a) (hmid : a.Reported env results mid completing)
    {id : String} (hm : (mid.dispatch env).Mentions id) : a.Mentions id := by
  cases hq : mid.queued with
  | none =>
    rw [Actions.dispatch_of_none hq] at hm
    exact hmid.mentions hm
  | some p =>
    rw [hm.unique (Actions.inFlight_dispatch hq).mentions]
    exact (h.current ha (hmid.queued ▸ hq)).mentions

theorem record {i : String}
    (ha : db.actions i = some a) (hmid : a.Reported env results mid completing)
    (hactions : db'.actions = Function.update db.actions i (some (mid.dispatch env))) :
    ActionInvariant used (handed ++ (mid.queued.map (·.actionID)).toList) db' ∧
      ∀ id ∈ mid.queued.map (·.actionID), id ∉ handed := by
  have hmentions : ∀ {k b id}, db'.actions k = some b → b.Mentions id →
      ∃ b', db.actions k = some b' ∧ b'.Mentions id := by
    intro k b id hb hm
    rcases update_eq_some (hactions ▸ hb) with ⟨rfl, rfl⟩ | ⟨-, hb⟩
    · exact ⟨a, ha, h.mentions_recorded ha hmid hm⟩
    · exact ⟨b, hb, hm⟩
  have hqueued : ∀ {p}, mid.queued = some p → a.queued = some p := fun hq => hmid.queued ▸ hq
  refine ⟨⟨?_, ?_, ?_, ?_, ?_⟩, ?_⟩
  · intro k b id hb hm
    obtain ⟨b', hb', hm'⟩ := hmentions hb hm
    exact h.known hb' hm'
  · intro k b p hb hq
    rcases update_eq_some (hactions ▸ hb) with ⟨rfl, rfl⟩ | ⟨-, hb⟩
    · simp at hq
    · exact h.current hb hq
  · intro k b q hb hq
    rcases update_eq_some (hactions ▸ hb) with ⟨rfl, rfl⟩ | ⟨hk, hb⟩
    · simp at hq
    · simp only [mem_append, mem_toList, map_eq_some_iff, not_or]
      refine ⟨h.unhanded hb hq, ?_⟩
      rintro ⟨p, hp, hid⟩
      -- an id queued for two instances
      refine hk (h.unique hb ha (h.current hb hq).mentions ?_)
      rw [← hid]
      exact (h.current ha (hqueued hp)).mentions
  · intro k j b c id hb hc hmb hmc
    obtain ⟨b', hb', hmb'⟩ := hmentions hb hmb
    obtain ⟨c', hc', hmc'⟩ := hmentions hc hmc
    exact h.unique hb' hc' hmb' hmc'
  · intro id hid
    simp only [mem_append, mem_toList, map_eq_some_iff] at hid
    rcases hid with hid | ⟨p, hp, rfl⟩
    · exact h.handed_used id hid
    · exact h.known ha (h.current ha (hqueued hp)).mentions
  · intro id hid
    simp only [mem_def, map_eq_some_iff] at hid
    obtain ⟨p, hp, rfl⟩ := hid
    exact h.unhanded ha (hqueued hp)

theorem step (ht : ActionStep db db' t) (hnew : ∀ id ∈ t.queuedID, id ∉ used) :
    ActionInvariant (used ++ t.queuedID.toList) (handed ++ t.handedOut.toList) db' ∧
      ∀ id ∈ t.handedOut, id ∉ handed := by
  cases ht with
  | kept hkept hcompletions hqueued =>
    rw [hqueued]
    simpa [handedOut] using h.kept hkept
  | unrecorded hactions hcompletions hhanded =>
    rw [hhanded]
    simpa [queuedID] using
      h.kept fun i a ha => ⟨a, (congrFun hactions i).symm.trans ha, .same⟩
  | queued hid hcommand hstatus hactions hcompletions =>
    refine ⟨?_, fun _ hnone => nomatch hnone⟩
    simpa [queuedID, handedOut] using
      h.queue (hnew _ rfl) rfl ⟨_, rfl, hstatus, hid, hcommand⟩ hactions
  | recorded hrecorded ha hmid hhanded hactions hcompletions =>
    rw [handedOut, if_pos hrecorded, hhanded]
    simpa [queuedID] using h.record ha hmid hactions

end ActionInvariant

/-! ## The invariant of completions -/

/-- No recorded batch reports a result for an action that is still queued for its instance. -/
def NoEarlyResult (e : RunStep Database Transaction) : Prop :=
  ∀ env batch r row p, e.label = .sync env batch (.ok r) → r.disposition = .recorded →
    e.before.assets.instances.lookup batch.monitoringInstanceID = some row →
    queuedAction row = some p → ∀ result ∈ batch.commandResults, result.actionID ≠ p.actionID

/-- Completed actions have been queued, are completed once, and are in flight nowhere. -/
structure CompletionInvariant (used : List String) (db : Database) : Prop where
  nodup : (db.completions.map (·.actionID)).Nodup
  known : ∀ id ∈ db.completions.map (·.actionID), id ∈ used
  settled : ∀ {i a id c}, db.actions i = some a → a.InFlight id c →
    id ∉ db.completions.map (·.actionID)

namespace CompletionInvariant

variable {used handed : List String}

theorem record (h : CompletionInvariant used db) (hinv : ActionInvariant used handed db)
    (hearly : ∀ p, a.queued = some p → ∀ r ∈ batch.commandResults, r.actionID ≠ p.actionID)
    (ha : db.actions batch.monitoringInstanceID = some a)
    (hmid : a.Reported env batch.commandResults mid completing)
    (hactions : db'.actions = Function.update db.actions batch.monitoringInstanceID
      (some (mid.dispatch env))) (hcompletions : db'.completions = db.completions ++
      completing.map (completedEvent env batch.monitoringInstanceID)) :
    CompletionInvariant used db' := by
  cases hmid with
  | unmatched =>
    rw [map_nil, append_nil] at hcompletions
    refine ⟨hcompletions ▸ h.nodup, hcompletions ▸ h.known, ?_⟩
    intro k b id c hb hflight
    rw [hcompletions]
    rcases update_eq_some (hactions ▸ hb) with ⟨rfl, rfl⟩ | ⟨-, hb⟩
    · cases hq : a.queued with
      | none =>
        rw [Actions.dispatch_of_none hq] at hflight
        exact h.settled ha hflight
      | some p =>
        rw [hflight.mentions.unique (Actions.inFlight_dispatch hq).mentions]
        exact h.settled ha (hinv.current ha hq)
    · exact h.settled hb hflight
  | @matched r hr hdone =>
    have hqueued : a.queued = none := by
      refine eq_none_iff_forall_not_mem.mpr fun p hq => hearly p hq r hr ?_
      exact hdone.mentions.unique (hinv.current ha hq).mentions
    have hids : db'.completions.map (·.actionID) =
        db.completions.map (·.actionID) ++ [r.actionID] := by
      rw [hcompletions, map_append]
      rfl
    refine ⟨?_, ?_, ?_⟩
    · rw [hids, nodup_append]
      refine ⟨h.nodup, nodup_singleton _, ?_⟩
      intro x hx y hy hxy
      rw [mem_singleton.mp hy] at hxy
      exact h.settled ha hdone (hxy ▸ hx)
    · rw [hids]
      intro id hid
      rcases mem_append.mp hid with hid | hid
      · exact h.known id hid
      · rw [mem_singleton.mp hid]
        exact hinv.known ha hdone.mentions
    · intro k b id c hb hflight
      rw [hids, mem_append, mem_singleton, not_or]
      rcases update_eq_some (hactions ▸ hb) with ⟨rfl, rfl⟩ | ⟨hk, hb⟩
      · -- the completed action is done, and nothing was queued behind it
        have hkept : ({ a with last := some (completedLastAction env r) } : Actions).dispatch env =
            { a with last := some (completedLastAction env r) } :=
          Actions.dispatch_of_none hqueued
        obtain ⟨l, hl, hpending, -⟩ := hkept ▸ hflight
        cases hl
        exact absurd hpending (show "done" ≠ "pending" by decide)
      · refine ⟨h.settled hb hflight, fun hid => hk ?_⟩
        exact hinv.unique hb ha hflight.mentions (hid ▸ hdone.mentions)

theorem step (h : CompletionInvariant used db) (hinv : ActionInvariant used handed db)
    (ht : ActionStep db db' t) (hnew : ∀ id ∈ t.queuedID, id ∉ used)
    (hearly : NoEarlyResult ⟨db, t, db'⟩) :
    CompletionInvariant (used ++ t.queuedID.toList) db' := by
  cases ht with
  | unrecorded hactions hcompletions hhanded =>
    have hqueued : ∀ {env batch answer}, (sync env batch answer).queuedID = none := rfl
    rw [hqueued, toList_none, append_nil]
    refine ⟨hcompletions ▸ h.nodup, hcompletions ▸ h.known, ?_⟩
    rw [hactions, hcompletions]
    exact h.settled
  | kept hkept hcompletions hqueued =>
    rw [hqueued, toList_none, append_nil]
    refine ⟨hcompletions ▸ h.nodup, hcompletions ▸ h.known, ?_⟩
    intro i a' id c ha' hflight
    obtain ⟨a, ha, hk⟩ := hkept i a' ha'
    rw [hcompletions]
    exact h.settled ha (hk.inFlight_of hflight)
  | @queued env i input l answer hid hcommand hstatus hactions hcompletions =>
    refine ⟨hcompletions ▸ h.nodup, ?_, ?_⟩
    · rw [hcompletions]
      exact fun id hmem => mem_append_left _ (h.known id hmem)
    · intro k a id c ha hflight
      rw [hcompletions]
      rcases update_eq_some (hactions ▸ ha) with ⟨rfl, rfl⟩ | ⟨-, ha⟩
      · obtain ⟨l', hl', -, rfl, -⟩ := hflight
        cases hl'
        rw [hid]
        exact fun hmem => hnew _ rfl (h.known _ hmem)
      · exact h.settled ha hflight
  | @recorded env batch r a mid completing hrecorded ha hmid hhanded hactions hcompletions =>
    have hqueued : (sync env batch (.ok r)).queuedID = none := rfl
    rw [hqueued, toList_none, append_nil]
    refine h.record hinv ?_ ha hmid hactions hcompletions
    obtain ⟨row, hrow, rfl⟩ := map_eq_some_iff.mp ha
    exact fun p hp => hearly env batch r row p rfl hrecorded hrow hp

end CompletionInvariant

/-! ## Runs -/

def queuedIDs (t : List (RunStep Database Transaction)) : List String :=
  t.filterMap (·.label.queuedID)

def handedOutIDs (t : List (RunStep Database Transaction)) : List String :=
  t.filterMap (·.label.handedOut)

/-! ## Commands are handed out once and results stay in their place -/

/-- What the results of a batch can do to the stored last actions. -/
structure ResultsGuarded (env : Env) (batch : Batch) (db db' : Database) : Prop where
  /-- A last action changes only for the batch's instance: it was in flight and one of the results
  reports it, or the action queued for the instance takes its place. -/
  changed : ∀ i row row', db.assets.instances.lookup i = some row →
    db'.assets.instances.lookup i = some row' → row'.lastAction ≠ row.lastAction →
    i = batch.monitoringInstanceID ∧
      ((∃ result ∈ batch.commandResults,
          row.actions.InFlight result.actionID result.commandID ∧
          row'.lastAction = some (completedLastAction env result)) ∨
        ∃ p, queuedAction row = some p ∧ row'.actions.InFlight p.actionID p.commandID)
  /-- A completion is recorded only for an action in flight that one of the results reports. -/
  completed : ∃ added, db'.completions = db.completions ++ added ∧
    ∀ event ∈ added, ∃ row, db.assets.instances.lookup batch.monitoringInstanceID = some row ∧
      ∃ result ∈ batch.commandResults,
        row.actions.InFlight result.actionID result.commandID ∧
        event = completedEvent env batch.monitoringInstanceID result
  /-- Results of other actions leave a queued action in flight and complete nothing. -/
  newer : ∀ row p, db.assets.instances.lookup batch.monitoringInstanceID = some row →
    queuedAction row = some p → (∀ result ∈ batch.commandResults, result.actionID ≠ p.actionID) →
    db'.completions = db.completions ∧
      ∃ row', db'.assets.instances.lookup batch.monitoringInstanceID = some row' ∧
        row'.actions.InFlight p.actionID p.commandID

theorem actions_eq_some {i : String} {row : Instance}
    (h : db.assets.instances.lookup i = some row) : db.actions i = some row.actions := by
  rw [actions, h]
  rfl

theorem ActionStep.guarded {used handed : List String}
    {answer : Except SyncError Result} (hinv : ActionInvariant used handed db)
    (h : ActionStep db db' (.sync env batch answer)) : ResultsGuarded env batch db db' := by
  cases h with
  | unrecorded hactions hcompletions hhanded =>
    refine ⟨?_, ⟨[], by rw [hcompletions, append_nil], by simp⟩, ?_⟩
    · intro i row row' hrow hrow' hne
      have hsame := congrFun hactions i
      rw [actions_eq_some hrow, actions_eq_some hrow'] at hsame
      exact absurd (congrArg Actions.last (some.inj hsame)) hne
    · intro row p hrow hq _
      have hafter := congrFun hactions batch.monitoringInstanceID
      rw [actions_eq_some hrow] at hafter
      obtain ⟨row', hrow', hsame⟩ := map_eq_some_iff.mp hafter
      exact ⟨hcompletions, row', hrow', hsame ▸ hinv.current (actions_eq_some hrow) hq⟩
  | @recorded _ _ r a mid completing hrecorded ha hmid hhanded hactions hcompletions =>
    obtain ⟨row0, hrow0, rfl⟩ := map_eq_some_iff.mp ha
    have hafter : db'.actions batch.monitoringInstanceID = some (mid.dispatch env) := by
      rw [hactions, update_self]
    refine ⟨?_, ⟨_, hcompletions, ?_⟩, ?_⟩
    · intro i row row' hrow hrow' hne
      rcases update_eq_some (hactions ▸ actions_eq_some hrow') with ⟨rfl, hx⟩ | ⟨hk, hold⟩
      · cases hrow0.symm.trans hrow
        refine ⟨rfl, ?_⟩
        cases hq : mid.queued with
        | some p =>
          refine .inr ⟨p, hmid.queued.symm.trans hq, ?_⟩
          rw [hx]
          exact Actions.inFlight_dispatch hq
        | none =>
          rw [Actions.dispatch_of_none hq] at hx
          have hlast : row'.lastAction = mid.last := congrArg Actions.last hx
          cases hmid with
          | unmatched => exact absurd hlast hne
          | matched hr hflight => exact .inl ⟨_, hr, hflight, hlast⟩
      · rw [actions_eq_some hrow] at hold
        exact absurd (congrArg Actions.last (some.inj hold)).symm hne
    · intro event hevent
      obtain ⟨result, hresult, rfl⟩ := List.mem_map.mp hevent
      cases hmid with
      | unmatched => cases hresult
      | matched hr hflight =>
        rw [mem_singleton.mp hresult]
        exact ⟨row0, hrow0, _, hr, hflight, rfl⟩
    · intro row p hrow hq hothers
      cases hrow0.symm.trans hrow
      obtain ⟨row', hrow', hx⟩ := map_eq_some_iff.mp hafter
      refine ⟨?_, row', hrow', ?_⟩
      · cases hmid with
        | unmatched => rw [hcompletions, map_nil, append_nil]
        | matched hr hflight =>
          exact absurd (hflight.mentions.unique (hinv.current ha hq).mentions) (hothers _ hr)
      · rw [hx]
        exact Actions.inFlight_dispatch (hmid.queued.trans hq)

def Database.WithoutActions (db : Database) : Prop :=
  (∀ i row, db.assets.instances.lookup i = some row →
    row.pendingActionID = none ∧ row.lastAction = none) ∧ db.completions = []

theorem Database.WithoutActions.invariant (h : db.WithoutActions) :
    ActionInvariant [] [] db ∧ CompletionInvariant [] db := by
  have hempty : ∀ {i a}, db.actions i = some a → a = ⟨none, none⟩ := by
    intro i a ha
    obtain ⟨row, hrow, rfl⟩ := map_eq_some_iff.mp ha
    obtain ⟨hid, hlast⟩ := h.1 i row hrow
    rw [Instance.actions, queuedAction, hid, hlast]
  have hmentions : ∀ {i a id}, db.actions i = some a → ¬a.Mentions id := by
    rintro i a id ha ⟨l, hl, -⟩
    cases (hempty ha) ▸ hl
  refine ⟨⟨?_, ?_, ?_, ?_, by simp⟩, ⟨?_, ?_, ?_⟩⟩
  · exact fun ha hm => (hmentions ha hm).elim
  · intro i a p ha hq
    cases (hempty ha) ▸ hq
  · intro i a p ha hq
    cases (hempty ha) ▸ hq
  · exact fun ha _ hm _ => (hmentions ha hm).elim
  · simp [h.2]
  · simp [h.2]
  · simp [h.2]

theorem filterMap_snoc {α β : Type} (f : α → Option β) (l : List α) (x : α) :
    (l ++ [x]).filterMap f = l.filterMap f ++ (f x).toList := by
  rw [filterMap_append]
  cases hx : f x <;> simp [hx]

theorem run_actions {db₀ : Database} {t : List (RunStep Database Transaction)}
    (hrun : Run managedStep db₀ t db) (hstart : db₀.WithoutActions) :
    (queuedIDs t).Nodup → ActionInvariant (queuedIDs t) (handedOutIDs t) db ∧
      (handedOutIDs t).Nodup ∧
      ((∀ e ∈ t, NoEarlyResult e) → CompletionInvariant (queuedIDs t) db) := by
  refine hrun.history (I := fun hist d => (queuedIDs hist).Nodup →
    ActionInvariant (queuedIDs hist) (handedOutIDs hist) d ∧ (handedOutIDs hist).Nodup ∧
      ((∀ e ∈ hist, NoEarlyResult e) → CompletionInvariant (queuedIDs hist) d)) ?_ ?_
  · intro hist d l d' ih hs hnodup
    rw [queuedIDs, filterMap_snoc] at hnodup ⊢
    rw [handedOutIDs, filterMap_snoc]
    obtain ⟨hbefore, -, hdisjoint⟩ := nodup_append.mp hnodup
    obtain ⟨hinv, hhanded, hcompletions⟩ := ih hbefore
    have hstep := managedStep_actions hs
    have hnew : ∀ id ∈ l.queuedID, id ∉ queuedIDs hist := fun id hid hused =>
      hdisjoint id hused id (mem_toList.mpr hid) rfl
    obtain ⟨hnext, hfresh⟩ := hinv.step hstep hnew
    refine ⟨hnext, nodup_append.mpr ⟨hhanded, by cases l.handedOut <;> simp, ?_⟩, fun hearly => ?_⟩
    · rintro id hid _ hout rfl
      exact hfresh id (mem_toList.mp hout) hid
    · rw [forall_mem_append, forall_mem_singleton] at hearly
      exact (hcompletions hearly.1).step hinv hstep hnew hearly.2
  · exact fun _ => ⟨hstart.invariant.1, nodup_nil, fun _ => hstart.invariant.2⟩

/-- In every interleaving of syncs and management transactions that queues distinct ids: no id is
handed out twice; results change last actions and record completions only for actions in flight; and
where no result is reported for an action still queued, no id is completed twice. -/
theorem commands_handed_out_once {db₀ : Database} {t : List (RunStep Database Transaction)}
    (hrun : Run managedStep db₀ t db) (hstart : db₀.WithoutActions) (hdistinct : (queuedIDs t).Nodup) :
    (handedOutIDs t).Nodup ∧
      (∀ e ∈ t, ∀ env batch answer, e.label = .sync env batch answer →
        ResultsGuarded env batch e.before e.after) ∧
      ((∀ e ∈ t, NoEarlyResult e) → (db.completions.map (·.actionID)).Nodup) := by
  obtain ⟨-, hhanded, hcompleted⟩ := run_actions hrun hstart hdistinct
  refine ⟨hhanded, ?_, fun hearly => (hcompleted hearly).nodup⟩
  intro e he env batch answer hlabel
  obtain ⟨pre, post, rfl⟩ := append_of_mem he
  obtain ⟨hpre, hstep, -⟩ := hrun.split
  rw [queuedIDs, filterMap_append] at hdistinct
  rw [hlabel] at hstep
  exact (managedStep_actions hstep).guarded (run_actions hpre hstart hdistinct.of_append_left).1

/-- A queued command was never handed out, and its id is known to one instance only. -/
theorem queued_commands_unshared {db₀ : Database} {t : List (RunStep Database Transaction)}
    (hrun : Run managedStep db₀ t db) (hstart : db₀.WithoutActions) (hdistinct : (queuedIDs t).Nodup) :
    (∀ i a p, db.actions i = some a → a.queued = some p →
      a.InFlight p.actionID p.commandID ∧ p.actionID ∉ handedOutIDs t) ∧
    ∀ i j a b id, db.actions i = some a → db.actions j = some b → a.Mentions id →
      b.Mentions id → i = j := by
  obtain ⟨hinv, -⟩ := run_actions hrun hstart hdistinct
  exact ⟨fun _ _ _ ha hp => ⟨hinv.current ha hp, hinv.unhanded ha hp⟩, fun _ _ _ _ _ => hinv.unique⟩

def syncStep (env : Env) (batch : Batch) (db : Database) : RunStep Database Transaction :=
  ⟨db, .sync env batch ((applyBatch env batch).run db).1, ((applyBatch env batch).run db).2⟩

def manageStep (env : ManagementEnv) (operation : Operation) (db : Database) :
    RunStep Database Transaction :=
  ⟨db, .manage env operation ((manage env operation).run db).1, ((manage env operation).run db).2⟩

def sampleManagement : ManagementEnv where
  hasher := ⟨("enrollment:" ++ ·), ("sync:" ++ ·), ("opaque:" ++ ·)⟩
  sensitivityForKnownCommand := fun _ => ""
  now := 1
  clockTimestamp := 1
  processNow := 1

def resultBatch (n : Int) (results : List CommandResult) : Batch :=
  { sampleBatch sampleProducer n (Vector.replicate 32 0) none with commandResults := results }

def uptimeResult : CommandResult := ⟨"a1", "uptime", "up", "", 0⟩

def queueStep : RunStep Database Transaction :=
  manageStep sampleManagement (.queueCommandAction "instance" ⟨"a1", "uptime", "standard", 5⟩)
    sampleCenter

def dispatchStep (results : List CommandResult) : RunStep Database Transaction :=
  syncStep sampleEnv (resultBatch 1 results) queueStep.after

def reportStep (results : List CommandResult) : RunStep Database Transaction :=
  syncStep sampleEnv (resultBatch 2 [uptimeResult]) (dispatchStep results).after

theorem reportRun (results : List CommandResult) :
    Run managedStep sampleCenter [queueStep, dispatchStep results, reportStep results]
      (reportStep results).after :=
  .cons rfl (.cons rfl (.cons rfl (.nil _)))

theorem sampleCenter_withoutActions : sampleCenter.WithoutActions := by
  refine ⟨?_, rfl⟩
  intro i row hrow
  obtain ⟨rfl, rfl⟩ : i = "instance" ∧ row = sampleInstance := by
    simpa [sampleCenter, sampleAssets] using Table.lookup_eq_some_iff.mp hrow
  exact ⟨rfl, rfl⟩

theorem queued_commands_unshared_queued :
    ∃ a p, queueStep.after.actions "instance" = some a ∧ a.queued = some p ∧
      p.actionID ∉ handedOutIDs [queueStep] := by
  have hqueued := queued_commands_unshared (t := [queueStep]) (.cons rfl (.nil _))
    sampleCenter_withoutActions (by decide)
  have hp : (queueStep.after.actions "instance").bind (·.queued) = some ⟨"uptime", "a1"⟩ := rfl
  obtain ⟨a, ha, hp⟩ := bind_eq_some_iff.mp hp
  exact ⟨a, _, ha, hp, (hqueued.1 _ _ _ ha hp).2⟩

/-- An action queued, handed out, and then reported is handed out once and completed once. -/
theorem commands_handed_out_once_reported :
    handedOutIDs [queueStep, dispatchStep [], reportStep []] = ["a1"] ∧
      (handedOutIDs [queueStep, dispatchStep [], reportStep []]).Nodup ∧
      (reportStep []).after.completions.map (·.actionID) = ["a1"] ∧
      ((reportStep []).after.completions.map (·.actionID)).Nodup := by
  obtain ⟨hhanded, -, hcompleted⟩ := commands_handed_out_once (reportRun [])
    sampleCenter_withoutActions (by decide)
  refine ⟨by decide +kernel, hhanded, by decide +kernel, hcompleted ?_⟩
  simp only [forall_mem_cons, not_mem_nil, false_imp_iff, implies_true, and_true]
  refine ⟨?_, ?_, ?_⟩
  · intro env batch r row p hlabel
    cases hlabel
  · intro env batch r row p hlabel _ _ _ result hresult
    obtain ⟨-, rfl, -⟩ := sync.inj hlabel
    cases hresult
  · intro env batch r row p hlabel _ hrow hqueued
    obtain ⟨-, rfl, -⟩ := sync.inj hlabel
    have hnone : ((dispatchStep []).after.assets.instances.lookup "instance").bind queuedAction =
        none := by decide
    have hrow' : (dispatchStep []).after.assets.instances.lookup "instance" = some row := hrow
    rw [hrow', bind_some, hqueued] at hnone
    cases hnone

/-- A result reported for an action still queued completes it, the same transaction hands it out, and
its result completes it again. -/
theorem early_result_completes_twice :
    Run managedStep sampleCenter
        [queueStep, dispatchStep [uptimeResult], reportStep [uptimeResult]]
        (reportStep [uptimeResult]).after ∧
      sampleCenter.WithoutActions ∧
      (queuedIDs [queueStep, dispatchStep [uptimeResult], reportStep [uptimeResult]]).Nodup ∧
      (reportStep [uptimeResult]).after.completions.map (·.actionID) = ["a1", "a1"] :=
  ⟨reportRun _, sampleCenter_withoutActions, by decide, by decide +kernel⟩

end Houfeng.Center
