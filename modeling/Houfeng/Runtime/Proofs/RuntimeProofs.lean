import Houfeng.Runtime.Proofs.TransmitProofs
import Houfeng.Runtime.Simulation

/-!
# The runtime performs only permitted operations

Flushing, queueing, collecting and the loop, one lemma for every function; then the invariant of the
agent, which every step keeps.
-/

namespace Houfeng.Runtime

open AgentApi SyncQueue Routine List Option

variable {cfg : Config} {fixed : Option String} {authority : Option SyncAuthority}
  {s s' : AgentState}

/-! ## Flushing -/

variable {entry : Entry} {response : SyncResponse}

/-- An acknowledged entry may be deleted unless the answer deferred it. -/
theorem Acked.deleteReason (h : Acked cfg s entry.request response) (hknown : Known s entry)
    (hdeferred : response.disposition ≠ Disposition.deferred.text) :
    DeleteReason cfg authority s.log entry.request := by
  obtain ⟨r, hlast, hcheck, hdocument⟩ := h
  have hdoc := hdocument hknown.positive
  obtain ⟨hsession, hproducer, hsequence, -⟩ := identity_eq_of_document_eq hdoc
  obtain ⟨-, hvalid⟩ := validateSyncAcknowledgement_ok hcheck
  refine .acknowledged hlast hcheck (hvalid.session.trans hsession)
    (hvalid.producer.trans hproducer) (hvalid.sequence.trans hsequence) ?_ ?_
  · rw [hvalid.digest, canonicalSyncBatchDigest, hdoc, canonicalSyncBatchDigest]
  · have := hvalid.disposition
    simp only [mem_cons, not_mem_nil, or_false] at this ⊢
    rcases this with hd | hd | hd | hd
    · exact .inl hd
    · exact .inr (.inl hd)
    · exact .inr (.inr hd)
    · exact absurd hd hdeferred

theorem Rejected.deleteReason (h : Rejected s entry.request) (hknown : Known s entry) :
    DeleteReason cfg authority s.log entry.request := by
  obtain ⟨r, code, retryAfter, hlast, hcode, hdocument⟩ := h
  exact .rejected hlast hcode (hdocument hknown.positive)

theorem permitted_delete (hknown : Known s entry)
    (hreason : DeleteReason cfg authority s.log entry.request) :
    Permitted cfg fixed authority s (.deleteMany [entry.id]) := by
  intro state hvisible e he hid
  rw [(hknown.found state hvisible).2 e he (mem_singleton.mp hid)]
  exact hreason

theorem purgeStopped_fine (hinv : AgentInvariant fixed s)
    (hstop : response.stopCollection = true → StopAnswered cfg s.log) :
    Fine cfg fixed authority (fun _ s' => Inner fixed s s') (fun _ s' => Inner fixed s s')
      (purgeStopped response) s := by
  unfold purgeStopped
  split_ifs with hs
  · exact safe_pure (.refl hinv)
  have hstop := hstop (Bool.eq_true_of_not_eq_false hs)
  refine fine_quiet rfl trivial fun listed s1 _ _ hinner1 => ?_
  cases listed with
  | error cause => exact safe_throw hinner1
  | ok entries =>
    refine fine_inner rfl
      (fun _ _ _ _ _ => .stopped (hstop.inner hinner1)) fun answer s2 _ hinner2 => ?_
    cases answer with
    | error cause => exact safe_throw (hinner1.trans hinner2)
    | ok u => exact safe_pure (hinner1.trans hinner2)

/-- The entry is no longer queued. -/
def Gone (s : AgentState) (e : Entry) : Prop :=
  ∀ state, s.world.disk.visible = .envelope state → ∀ e' ∈ state.entries, e'.id ≠ e.id

theorem Gone.within (h : Gone s entry) (hw : Within fixed s s') : Gone s' entry := by
  intro state' hvisible' e' he' hid
  obtain ⟨state, hvisible, hshrinks⟩ := hw.shrinks state' hvisible'
  obtain ⟨e, he, hid', -⟩ := hshrinks.entries e' he'
  exact h state hvisible e he (hid'.trans hid)

theorem gone_of_deleted {ids : List String} (hinv : AgentInvariant fixed s) (hid : entry.id ∈ ids)
    (h : agentOperation fixed s (.deleteMany ids) (.ok ()) s') : Gone s' entry := by
  obtain ⟨s1, ⟨env, hanswer, rfl⟩, rfl⟩ := h
  have hout := deleteMany_outcome env ids s.world
  rw [hanswer] at hout
  obtain ⟨state, state', -, -, -, rfl, hdisk⟩ := outcome_ok hout hinv.syncs
  intro left_ hvisible e he hid'
  dsimp only at hvisible
  rw [hdisk] at hvisible
  cases hvisible
  exact of_decide_eq_true (mem_filter.mp he).2 (hid' ▸ hid)

theorem flushSyncQueueEntry_fine {current : Bool} (hinv : AgentInvariant fixed s)
    (hknown : Known s entry) (hwritten : Written s.log) :
    Fine cfg fixed authority
      (fun _ s' => Within fixed s s' ∧ Transmits (Prepared entry current) s.sent s'.sent ∧
        Gone s' entry ∧ (s'.memory.collectionStopped = true →
          s.memory.collectionStopped = true ∨ StopAnswered cfg s'.log))
      (fun e s' => Within fixed s s' ∧ (s'.sent = s.sent ∧ e.action? ≠ some .retry ∨
        Transmits (Prepared entry current) s.sent s'.sent))
      (flushSyncQueueEntry cfg entry current) s := by
  refine safe_bind (safe_attempt (safe_imp (syncRequest_fine hinv hknown hwritten) ?_ ?_))
  · rintro response s1 ⟨hexchanged, hacked⟩
    have hwithin1 := hexchanged.within
    dsimp only
    split_ifs with hdeferred
    · exact safe_throw ⟨hwithin1, .inr hexchanged.sent⟩
    have hknown1 := hknown.within hwithin1
    refine fine_inner rfl
      (permitted_delete hknown1 (hacked.deleteReason hknown1 hdeferred))
      fun answer s2 hstep2 hinner2 => ?_
    have hexchanged2 := hexchanged.inner hinner2
    refine fine_queueCall (fun _ hanswer => ?_) fun _ _ =>
      ⟨hexchanged2.within, .inr hexchanged2.sent⟩
    subst hanswer
    have hacked2 := hacked.inner hinner2
    refine safe_bind (safe_imp (applySyncPlan_fine hinner2.within.inv
      (hacked2.stopAnswered hdeferred)) ?_
      fun _ _ h => h.elim)
    intro _ s3 happlied
    have hstop (hs : response.stopCollection = true) : StopAnswered cfg s3.log := by
      have := hacked2.stopAnswered hdeferred hs
      unfold StopAnswered at this ⊢
      rwa [happlied.last]
    have hwithin3 := hexchanged2.within.trans happlied.within
    have hsent3 : Transmits (Prepared entry current) s.sent s3.sent :=
      happlied.sent ▸ hexchanged2.sent
    refine safe_bind (safe_imp (purgeStopped_fine happlied.within.inv hstop) ?_ fun _ s4 h =>
      ⟨hwithin3.trans h.within, .inr (h.sent ▸ hsent3)⟩)
    intro _ s4 hinner4
    have hgone := (gone_of_deleted hwithin1.inv (mem_singleton_self _) hstep2).within
      (happlied.within.trans hinner4.within)
    refine safe_pure ⟨hwithin3.trans hinner4.within, hinner4.sent ▸ hsent3, hgone, fun hs => ?_⟩
    rw [hinner4.stopped, happlied.stopped] at hs
    exact .inr ((hstop hs).inner hinner4)
  · rintro err s1 (⟨hpolicy, hinner1⟩ | ⟨hexchanged, hfailed⟩)
    · dsimp only
      rw [hpolicy]
      refine safe_throw ⟨hinner1.within, .inl ⟨hinner1.sent, fun h => ?_⟩⟩
      rw [RunError.action?, hpolicy] at h
      cases h
    dsimp only
    cases hpolicy : err.policy? with
    | none => exact safe_throw ⟨hexchanged.within, .inr hexchanged.sent⟩
    | some policy =>
      refine fine_inner rfl trivial fun answer s2 _ hinner2 => ?_
      have hexchanged2 := hexchanged.inner hinner2
      refine fine_queueCall (fun _ _ => ?_) fun _ _ =>
        ⟨hexchanged2.within, .inr hexchanged2.sent⟩
      cases haction : policy.action with
      | discard =>
        have hrejected := (hfailed policy hpolicy haction).inner hinner2
        have hknown2 := hknown.within hexchanged2.within
        refine fine_inner rfl
          (permitted_delete hknown2 (hrejected.deleteReason hknown2)) fun answer s3 hstep3 hinner3 => ?_
        have hexchanged3 := hexchanged2.inner hinner3
        refine fine_queueCall (fun _ hanswer => ?_) fun _ _ =>
          ⟨hexchanged3.within, .inr hexchanged3.sent⟩
        subst hanswer
        exact safe_pure ⟨hexchanged3.within, hexchanged3.sent, gone_of_deleted hinner2.within.inv
          (mem_singleton_self _) hstep3, fun hs => .inl (hexchanged3.stopped ▸ hs)⟩
      | terminal | retry => exact safe_throw ⟨hexchanged2.within, .inr hexchanged2.sent⟩

theorem backlogReady_fine : Calm cfg fixed authority backlogReady s := by
  refine fine_read fun s1 _ hinner1 => ?_
  split_ifs
  · exact safe_pure hinner1
  refine fine_quiet rfl trivial fun now s2 _ _ hinner2 => ?_
  split_ifs
  · exact safe_pure (hinner1.trans hinner2)
  refine safe_bind (fine_assign_other hinner2.within.inv (by simp) fun s3 h3 => ?_)
  exact safe_pure (hinner1.trans (hinner2.trans (h3.inner rfl)))

/-- A pass over the backlog: at most `n` entries are attempted, in their order, each when the older
ones have left the queue. -/
inductive Lane (fixed : Option String) : List Entry → Nat → List Entry → AgentState → AgentState → Prop
  | done {older entries : List Entry} {n : Nat} {s s' : AgentState}
    (hwithin : Within fixed s s') (hsent : s'.sent = s.sent) : Lane fixed older n entries s s'
  | attempt {older rest : List Entry} {n : Nat} {entry : Entry} {s s1 s2 s' : AgentState}
    (hwithin : Within fixed s s1) (hsent : s1.sent = s.sent) (hgone : ∀ e ∈ older, Gone s1 e)
    (hwithin' : Within fixed s1 s2) (hsent' : Transmits (Prepared entry false) s1.sent s2.sent)
    (hrest : Lane fixed (entry :: older) n rest s2 s') :
    Lane fixed older (n + 1) (entry :: rest) s s'

section Lane

variable {older backlog : List Entry} {n : Nat} {s'' : AgentState}

theorem Lane.within (h : Lane fixed older n backlog s s') : Within fixed s s' := by
  induction h with
  | done hwithin => exact hwithin
  | attempt hwithin _ _ hwithin' _ _ ih => exact hwithin.trans (hwithin'.trans ih)

theorem Inner.lane (hi : Inner fixed s s') (h : Lane fixed older n backlog s' s'') :
    Lane fixed older n backlog s s'' := by
  cases h with
  | done hwithin hsent => exact .done (hi.within.trans hwithin) (hsent.trans hi.sent)
  | attempt hwithin hsent hgone hwithin' hsent' hrest =>
    exact .attempt (hi.within.trans hwithin) (hsent.trans hi.sent) hgone hwithin' hsent' hrest

/-- The backlog loop: by induction on the attempts left, with the remaining entries known and the
attempted ones gone. -/
theorem flushBacklog_fine {round : SyncRoundResult}
    (hinv : AgentInvariant fixed s) (hknown : ∀ e ∈ backlog, Known s e)
    (hgone : ∀ e ∈ older, Gone s e) (hwritten : Written s.log) :
    Fine cfg fixed authority
      (fun r s' => Lane fixed older n backlog s s' ∧
        (r.2 = .stopped → s.memory.collectionStopped = false → StopAnswered cfg s'.log))
      (fun e s' => Lane fixed older n backlog s s' ∧ e.action? ≠ some .retry)
      (flushBacklog cfg n backlog round) s := by
  induction n generalizing s older backlog round with
  | zero => exact safe_pure ⟨.done (.refl hinv) rfl, nofun⟩
  | succ n ih =>
    cases backlog with
    | nil => exact safe_pure ⟨.done (.refl hinv) rfl, nofun⟩
    | cons entry rest =>
      unfold flushBacklog
      refine safe_bind (safe_imp backlogReady_fine ?_ fun _ _ h => h.elim)
      intro go s1 hinner1
      have hwithin1 := hinner1.within
      split_ifs
      · exact safe_pure ⟨.done hwithin1 hinner1.sent, nofun⟩
      have hgone1 : ∀ e ∈ older, Gone s1 e := fun e he => (hgone e he).within hwithin1
      refine safe_bind (safe_attempt (safe_imp (flushSyncQueueEntry_fine hwithin1.inv
        ((hknown entry mem_cons_self).within hwithin1) (hwithin1.written hwritten)) ?_ ?_))
      · rintro disposition s2 ⟨hwithin2, hsent2, hgone2, hstop2⟩
        refine fine_read fun s3 hsame3 hinner3 => ?_
        have hwithin3 := hwithin2.trans hinner3.within
        have hwithin := hwithin1.trans hwithin3
        have hattempt {s' : AgentState} (h : Lane fixed (entry :: older) n rest s3 s') :
            Lane fixed older (n + 1) (entry :: rest) s s' :=
          .attempt hwithin1 hinner1.sent hgone1 hwithin3 (hinner3.sent ▸ hsent2) h
        by_cases hstopped : s2.memory.collectionStopped = true
        · rw [if_pos hstopped]
          refine safe_pure ⟨hattempt (.done (.refl hwithin3.inv) rfl), fun _ hs => ?_⟩
          refine ((hstop2 hstopped).resolve_left fun h => ?_).inner hinner3
          rw [hinner1.stopped, hs] at h
          cases h
        · rw [if_neg hstopped]
          refine safe_imp (ih hwithin3.inv (fun e he => ?_) (forall_mem_cons.mpr
            ⟨hgone2.within hinner3.within, fun e he => (hgone1 e he).within hwithin3⟩)
            (hwithin.written hwritten)) ?_ fun _ _ h => ⟨hattempt h.1, h.2⟩
          · exact (hknown e (mem_cons_of_mem _ he)).within hwithin
          · refine fun r s4 h => ⟨hattempt h.1, fun hr _ => h.2 hr ?_⟩
            rw [hsame3.memory]
            exact Bool.eq_false_iff.mpr hstopped
      · rintro err s2 ⟨hwithin2, hsent⟩
        have hlane : Lane fixed older (n + 1) (entry :: rest) s s2 := by
          rcases hsent with ⟨hsent, -⟩ | hsent
          · exact .done (hwithin1.trans hwithin2) (hsent.trans hinner1.sent)
          · exact .attempt hwithin1 hinner1.sent hgone1 hwithin2 hsent (.done (.refl hwithin2.inv) rfl)
        dsimp only
        split_ifs with hretry
        · exact safe_pure ⟨hlane, nofun⟩
        · exact safe_throw ⟨hlane, hretry⟩

end Lane

variable {a : SyncAuthority} {state : Envelope}

def stale (a : SyncAuthority) (e : Entry) : Bool := (syncQueueAuthorityMismatch e.request a).isSome

theorem discardStaleSyncQueueEntries_fine (hinv : AgentInvariant fixed s)
    (hvisible : s.world.disk.visible = .envelope state) (hvalid : state.Valid) :
    Fine cfg fixed (some a)
      (fun retained s' => Inner fixed s s' ∧ retained = state.entries.filter (!stale a ·) ∧
        ∀ e ∈ state.entries.filter (stale a), Gone s' e)
      (fun e s' => Inner fixed s s' ∧ e.action? ≠ some .retry)
      (discardStaleSyncQueueEntries state.entries a) s := by
  unfold discardStaleSyncQueueEntries
  dsimp only
  generalize hids : ((state.entries.filter fun entry => _).map Entry.id) = ids
  have hmem : ∀ e ∈ state.entries.filter (stale a), e.id ∈ ids := by
    intro e he
    obtain ⟨hmem, hstale⟩ := mem_filter.mp he
    rw [← hids]
    refine List.mem_map_of_mem (mem_filter.mpr ⟨hmem, ?_⟩)
    refine Bool.and_eq_true_iff.mpr ⟨hstale, decide_eq_true fun hid => ?_⟩
    obtain ⟨e', he', hid⟩ := List.mem_map.mp hid
    obtain ⟨hmem', hfresh⟩ := mem_filter.mp he'
    rw [hvalid.eq_of_id_eq hmem' hmem hid] at hfresh
    rw [stale] at hstale
    rw [hstale] at hfresh
    cases hfresh
  split_ifs with hempty
  · refine safe_pure ⟨.refl hinv, rfl, fun e he => ?_⟩
    have := hmem e he
    rw [hempty] at this
    cases this
  refine fine_inner rfl (fun state' hvisible' e he hid => ?_)
    fun answer s1 hstep hinner => ?_
  · rw [hvisible] at hvisible'
    cases hvisible'
    rw [← hids] at hid
    obtain ⟨e', he', hid'⟩ := List.mem_map.mp hid
    obtain ⟨hmem, hcond⟩ := mem_filter.mp he'
    obtain rfl := hvalid.eq_of_id_eq hmem he hid'
    exact .stale rfl (Bool.and_eq_true_iff.mp hcond).1
  · refine fine_queueCall (fun _ hanswer => ?_) fun _ _ => ⟨hinner, nofun⟩
    subst hanswer
    exact safe_pure ⟨hinner, rfl, fun e he => gone_of_deleted hinv (hmem e he) hstep⟩

/-- What a round sends: requests for at most two entries of the backlog, which are the entries of the
authority in queue order, and then one for the current entry unless there is an excuse. -/
inductive Scheduled (fixed : Option String) (a : SyncAuthority) (id : String) (excuse : Prop)
    (s s' : AgentState) : Prop
  | unlisted (hwithin : Within fixed s s') (hsent : s'.sent = s.sent) (hexcuse : excuse)
  | listed {state : Envelope} {s1 : AgentState}
    (hvisible : s.world.disk.visible = .envelope state)
    (hlane : Lane fixed (state.entries.filter (stale a)) 2
      ((state.entries.filter (!stale a ·)).filter (·.id ≠ id)) s s1)
    (hwithin : Within fixed s1 s')
    (hcurrent : s'.sent = s1.sent ∧ excuse ∨ ∃ current ∈ state.entries, current.id = id ∧
      Transmits (Prepared current true) s1.sent s'.sent)

variable {id : String}

theorem Scheduled.within {excuse : Prop} (h : Scheduled fixed a id excuse s s') :
    Within fixed s s' := by
  cases h with
  | unlisted hwithin => exact hwithin
  | listed _ hlane hwithin => exact hlane.within.trans hwithin

theorem flushSyncQueue_fine (hwritten : Written s.log) :
    Fine cfg fixed (some a)
      (fun _ s' => Scheduled fixed a id
        (s.memory.collectionStopped = false → StopAnswered cfg s'.log) s s')
      (fun e s' => Scheduled fixed a id (e.action? ≠ some .retry) s s')
      (flushSyncQueue cfg id a) s := by
  refine fine_quiet rfl trivial fun listed s1 hstep hsame hinner1 => ?_
  refine fine_queueCall (fun entries hanswer => ?_) fun _ _ =>
    .unlisted hinner1.within hinner1.sent nofun
  obtain ⟨s2, ⟨env, hread, rfl⟩, rfl⟩ := hstep
  rw [hanswer, list] at hread
  rcases hopen : readOpen env s2.world with _ | state <;> rw [hopen] at hread
  · cases hread
  obtain rfl := (Except.ok.inj hread).symm
  obtain ⟨-, hvisible, hvalid, -⟩ := readOpen_eq_ok hopen
  refine safe_bind (safe_imp (discardStaleSyncQueueEntries_fine hinner1.within.inv hvisible
    hvalid) ?_ fun _ _ h =>
      .unlisted (hinner1.within.trans h.1.within) (h.1.sent.trans hinner1.sent) h.2)
  rintro retained s3 ⟨hinner3, rfl, hgone⟩
  have hinner := hinner1.trans hinner3
  have hwithin := hinner.within
  have hknown : ∀ e ∈ state.entries.filter (!stale a ·), Known s3 e := fun e he =>
    (known_of_valid hvisible hvalid (mem_of_mem_filter he)).within hwithin
  dsimp only
  split
  next => exact safe_throw (.unlisted hwithin hinner.sent fun h => by cases h)
  next => exact safe_throw (.unlisted hwithin hinner.sent fun h => by cases h)
  next current heq =>
    obtain ⟨hmem, hid⟩ := mem_filter.mp (heq ▸ mem_singleton_self current)
    refine safe_bind (safe_imp (flushBacklog_fine hinner3.within.inv
      (fun e he => hknown e (mem_of_mem_filter he)) hgone (hwithin.written hwritten)) ?_
      fun _ _ h => .listed hvisible (hinner.lane h.1) (.refl h.1.within.inv) (.inl ⟨rfl, h.2⟩))
    rintro ⟨round, ended⟩ s4 ⟨hlane, hstop⟩
    have hwithin4 := hlane.within
    have hlisted {P : Prop} {s5 : AgentState} (hw : Within fixed s4 s5) :=
      @Scheduled.listed fixed a id P _ s5 _ s4 hvisible (hinner.lane hlane) hw
    cases ended with
    | stopped => exact safe_pure (hlisted (.refl hwithin4.inv)
        (.inl ⟨rfl, fun hs => hstop rfl (hinner.stopped.trans hs)⟩))
    | finished retryErr =>
      have hsent {P : Prop} {s5 : AgentState} (hw : Within fixed s4 s5)
          (h : Transmits (Prepared current true) s4.sent s5.sent) :=
        hlisted (P := P) hw
          (.inr ⟨current, mem_of_mem_filter hmem, of_decide_eq_true hid, h⟩)
      refine safe_bind (safe_imp (flushSyncQueueEntry_fine hwithin4.inv
        ((hknown current hmem).within hwithin4) ((hwithin.trans hwithin4).written hwritten)) ?_ ?_)
      · rintro _ s5 ⟨hwithin5, hsent5, -⟩
        cases retryErr with
        | none => exact safe_pure (hsent hwithin5 hsent5)
        | some err => exact safe_throw (hsent hwithin5 hsent5)
      · rintro e s5 ⟨hwithin5, h | hsent5⟩
        · exact hlisted hwithin5 (.inl h)
        · exact hsent hwithin5 hsent5

/-- The loop of `Run` returns after this error of a flush. -/
def EndsRun (e : RunError) : Prop :=
  ∀ s, Safe (agentOperation none) (fun _ _ => True) (fun ended _ => ended ≠ none) (fun _ _ => False)
    (handleRoundError (.wrapped "flush sync queue" e)) s

theorem endsRun_of_not_retry {e : RunError} (h : e.action? ≠ some .retry) : EndsRun e := by
  intro s
  unfold handleRoundError
  split_ifs
  · exact safe_pure (some_ne_none _)
  refine safe_call_bind (o := Op.ctxErr) trivial fun cancelled s1 _ => ?_
  split_ifs
  · exact safe_pure (some_ne_none _)
  · split
    next => exact safe_pure (some_ne_none _)
    next hretry => exact absurd hretry h
    next => exact safe_pure (some_ne_none _)
    next => exact safe_pure (some_ne_none _)

theorem Scheduled.imp {p q : Prop} (h : Scheduled fixed a id p s s') (hpq : p → q) :
    Scheduled fixed a id q s s' := by
  cases h with
  | unlisted hwithin hsent hexcuse => exact .unlisted hwithin hsent (hpq hexcuse)
  | listed hvisible hlane hwithin hcurrent =>
    exact .listed hvisible hlane hwithin (hcurrent.imp_left (And.imp_right hpq))

/-- Every flush round keeps to the schedule. Only an answer that stops collection, or an error that
ends the run, excuses it from sending the current entry. -/
theorem flush_round_scheduled {s : AgentState} (hsync : s.world.store.opts.skipFsync = false)
    (hsynced : s.world.Synced) (hwritten : Written s.log)
    (hcollecting : s.memory.collectionStopped = false) :
    Safe (agentOperation none) (Permitted cfg none (some a))
      (fun _ s' => Scheduled none a id (StopAnswered cfg s'.log) s s')
      (fun e s' => Scheduled none a id (EndsRun e) s s') (flushSyncQueue cfg id a) s := by
  have hinv : AgentInvariant none s :=
    ⟨hsync, fun _ => hsynced, fun _ => hwritten, nofun⟩
  refine Prog.Safe.imp (Prog.Safe.of_invariant (fun s1 o answer s2 hinv1 hok hstep =>
    hinv1.step hok hstep) (flushSyncQueue_fine hwritten) hinv) fun r s' hr => ?_
  cases r with
  | ok round => exact hr.2.imp fun h => h hcollecting
  | error e => exact hr.2.imp endsRun_of_not_retry

def outage : Surroundings := { sampleSurroundings with reply := fun _ => .error .transport }

/-- A round over a backlog entry, which an outage of the server left, and a current one. -/
theorem flush_round_scheduled_backlog :
    let s := (afterSteps sampleConfig outage 50 sampleAgent).state
    s.world.disk.visible.entryCount = 2 ∧ ∀ a id,
      Safe (agentOperation none) (Permitted sampleConfig none (some a))
        (fun _ s' => Scheduled none a id (StopAnswered sampleConfig s'.log) s s')
        (fun e s' => Scheduled none a id (EndsRun e) s s') (flushSyncQueue sampleConfig id a) s := by
  intro s
  have h : s.world.disk.visible.entryCount = 2 ∧ s.world.store.opts.skipFsync = false ∧
      s.world.disk.later = [] ∧ s.log.any Event.wrote = true ∧
      s.memory.collectionStopped = false := by
    decide +revert +kernel
  exact ⟨h.1, fun a id => flush_round_scheduled h.2.1 (.inr h.2.2.1) h.2.2.2.1 h.2.2.2.2⟩

/-! ## Queueing -/

/-- The request has all results and reports that wait. -/
def Buffered (s : AgentState) (request : SyncRequest) : Prop :=
  request.commandResults.items = s.memory.pendingResults ∧
    request.ipQualityReports.items = s.memory.pendingIPReports

theorem items_queuedRequest (state : Envelope) (request : SyncRequest) :
    (queuedRequest state request).commandResults.items = request.commandResults.items ∧
      (queuedRequest state request).ipQualityReports.items =
        request.ipQualityReports.items.map
          (queuedReport (batchIdentity state.producerID (state.lastAllocatedBatchSeq + 1))) := by
  refine ⟨rfl, ?_⟩
  simp [queuedRequest, setBatchIdentity, cloneRequest, items_cloneIPQualityReports,
    Function.comp_def, queuedReport]

variable {opts : Options} {request : SyncRequest}

theorem stored_of_enqueued {now pruneNow : Time} {state' : Envelope} {d : Disk}
    (h : Enqueued opts now pruneNow request id state state')
    (hdisk : d = { durable := .envelope state', later := [] }) :
    Stored d (newEntry now state request) := by
  intro c hc
  rw [hdisk] at hc
  refine ⟨state', mem_singleton.mp hc, newEntry now state request, ?_, rfl, rfl⟩
  obtain ⟨kept, -, hentries⟩ := h.entries
  rw [hentries]
  exact mem_append_right _ (mem_singleton.mpr rfl)

theorem acknowledgePendingPayloads_fine {s0 : AgentState} (hinv0 : AgentInvariant fixed s0)
    (hstep : agentOperation fixed s0 (.enqueue request) (.ok id) s) (hinv : AgentInvariant fixed s)
    (hbuffered : Buffered s0 request) :
    Fine cfg fixed authority (fun _ s' => Within fixed s s') (fun _ _ => False)
      (acknowledgePendingPayloads request.commandResults.items.length
        request.ipQualityReports.items.length) s := by
  obtain ⟨s1, heffect, rfl⟩ := hstep
  obtain ⟨now, _, state, state', hvisible, hvalid, hqueued, hdisk⟩ := enqueue_ok heffect hinv0.syncs
  have hmemory : s1.memory = s0.memory := by
    obtain ⟨env, -, rfl⟩ := heffect
    rfl
  have hstored := stored_of_enqueued hqueued hdisk
  obtain ⟨hresults, hreports⟩ := items_queuedRequest state request
  refine fine_assign ⟨fun x hx => .inr (.inl ⟨newEntry now state request, hstored, ?_⟩),
    fun x hx => .inr (.inl ⟨newEntry now state request, hstored,
      batchIdentity state.producerID (state.lastAllocatedBatchSeq + 1), ?_⟩)⟩ hinv.reserved
    (fun session hfixed => (hinv.session session hfixed).block) fun s2 h2 => h2.within
  · show x ∈ (queuedRequest state request).commandResults.items
    rw [hresults, hbuffered.1, ← hmemory]
    exact hx
  · show queuedReport _ x ∈ (queuedRequest state request).ipQualityReports.items
    rw [hreports]
    refine List.mem_map.mpr ⟨x, ?_, rfl⟩
    rw [hbuffered.2, ← hmemory]
    exact hx

theorem enqueueAndFlush_fine (hinv : AgentInvariant fixed s) (hbuffered : Buffered s request) :
    Fine cfg fixed (some a) (fun _ s' => AgentInvariant fixed s')
      (fun _ s' => AgentInvariant fixed s') (enqueueAndFlush cfg request a) s := by
  refine safe_call_bind (o := Op.enqueue request) trivial fun answer s1 hstep1 => ?_
  refine fine_queueCall (fun id hanswer => ?_) fun _ _ => hstep1.2
  subst hanswer
  have hwritten : Written s1.log := by
    obtain ⟨⟨s2, -, rfl⟩, -⟩ := hstep1
    exact Written.of_event rfl
  refine safe_bind (safe_imp (acknowledgePendingPayloads_fine hinv hstep1.1 hstep1.2 hbuffered) ?_
    fun _ _ h => h.elim)
  intro _ s2 hwithin2
  refine fine_inner rfl trivial fun answer s3 _ hinner3 => ?_
  refine fine_queueCall (fun _ _ => ?_) fun _ _ => hinner3.within.inv
  have hwritten3 := hinner3.within.written (hwithin2.written hwritten)
  refine safe_bind (safe_attempt (safe_imp (flushSyncQueue_fine hwritten3) ?_ ?_))
  · exact fun _ s4 h => safe_pure h.within.inv
  · exact fun _ s4 h => safe_throw h.within.inv

/-! ## Collecting -/

variable {at_ : Time} {fingerprint batch : String}

theorem collectHostSample_fine :
    Calm cfg fixed authority (collectHostSample cfg at_ fingerprint batch) s := by
  refine fine_read fun s1 _ hinner1 => ?_
  cases s.memory.currentPlan with
  | none => exact safe_pure hinner1
  | some plan =>
    dsimp only
    split_ifs
    · exact safe_pure hinner1
    refine fine_quiet rfl trivial fun collected s2 _ _ hinner2 => ?_
    have hinner := hinner1.trans hinner2
    cases collected with
    | none => exact safe_pure hinner
    | some sample =>
      refine safe_bind (fine_assign_other hinner2.within.inv (by simp) fun s3 h3 => ?_)
      refine fine_quiet rfl trivial fun _ s4 _ _ hinner4 => ?_
      exact safe_pure (hinner.trans ((h3.inner rfl).trans hinner4))

theorem collectProbeObservations_fine :
    Calm cfg fixed authority (collectProbeObservations cfg at_ fingerprint batch) s := by
  refine fine_read fun s1 _ hinner1 => ?_
  cases s.memory.currentPlan with
  | none => exact safe_pure hinner1
  | some plan =>
    dsimp only
    split_ifs
    · exact safe_pure hinner1
    · exact fine_quiet rfl trivial fun _ s2 _ _ hinner2 => safe_pure (hinner1.trans hinner2)

theorem drainIPQualityReports_fine (hinv : AgentInvariant fixed s) :
    Calm cfg fixed authority (drainIPQualityReports cfg at_ fingerprint batch) s := by
  unfold drainIPQualityReports
  split_ifs
  · exact safe_pure (.refl hinv)
  · exact fine_quiet rfl trivial fun _ s1 _ _ hinner => safe_pure hinner

theorem startIPQualityCollection_fine :
    Calm cfg fixed authority (startIPQualityCollection cfg at_) s := by
  refine fine_read fun s1 _ hinner1 => ?_
  cases s.memory.currentPlan.bind (·.ipQualityPlan) with
  | none => exact safe_pure hinner1
  | some plan =>
    dsimp only
    split_ifs
    · exact safe_pure hinner1
    · refine safe_call (o := Op.maybeStart plan at_) trivial fun _ s2 hstep => ?_
      exact hinner1.trans (inner_of_operation rfl hstep)

theorem items_sliceOf {α : Type} (items : List α) : (sliceOf items).items = items := by
  unfold sliceOf
  split_ifs with h
  · rw [h]
    rfl
  · rfl

theorem buildSyncRequest_fine {inst token : String} :
    Fine cfg fixed authority
      (fun request s' => AgentInvariant fixed s' ∧ request.batchSequence = 0 ∧
        (s'.memory.collectionStopped = false → Buffered s' request))
      (fun _ _ => False) (buildSyncRequest cfg inst token at_ fingerprint batch) s := by
  refine fine_read fun s1 hsame1 hinner1 => ?_
  split_ifs with hstopped
  · refine safe_pure ⟨hinner1.within.inv, rfl, fun hs => ?_⟩
    rw [hsame1.memory, hstopped] at hs
    cases hs
  refine safe_bind (safe_imp collectHostSample_fine ?_ fun _ _ h => h.elim)
  intro sample s2 hinner2
  refine safe_bind (safe_imp collectProbeObservations_fine ?_ fun _ _ h => h.elim)
  intro observations s3 hinner3
  refine safe_bind (safe_imp (drainIPQualityReports_fine hinner3.within.inv) ?_
    fun _ _ h => h.elim)
  intro reports s4 hinner4
  refine safe_bind (fine_assign_other hinner4.within.inv (by simp) fun s5 h5 => ?_)
  refine safe_bind (safe_imp startIPQualityCollection_fine ?_ fun _ _ h => h.elim)
  intro _ s6 hinner6
  refine fine_read fun s7 hsame7 hinner7 => ?_
  refine safe_pure ⟨hinner7.within.inv, rfl, fun _ => ⟨?_, ?_⟩⟩
  · rw [hsame7.memory]
    exact items_sliceOf _
  · rw [hsame7.memory]
    exact items_sliceOf _

/-! ## Rounds and runs -/

theorem sendControl_fine (hinv : AgentInvariant fixed s) (hzero : request.batchSequence = 0) :
    Fine cfg fixed authority (fun _ s' => AgentInvariant fixed s')
      (fun _ s' => AgentInvariant fixed s') (sendControl cfg request fingerprint) s := by
  refine safe_bind (safe_imp (attachLiveSignal_fine hinv) ?_ fun _ _ h => h.2.within.inv)
  rintro r s1 ⟨l, rfl, hready, hwritten, -⟩
  have htransmittable : Transmittable fixed s1 { request with liveSignal := some l } := by
    refine ⟨hwritten, fun l' hl' => ?_, .inl hzero⟩
    obtain rfl := some.inj hl'
    exact hready
  refine safe_bind (safe_imp (transmitSyncRequest_fine (p := fun _ => True) htransmittable trivial) ?_
    fun _ _ h => h.elim (·.2.within.inv) (·.1.within.inv))
  rintro response s2 ⟨⟨hwithin, -⟩, hacked⟩
  split_ifs with hsuppressed
  · exact safe_throw hwithin.inv
  · have hdeferred : response.disposition ≠ Disposition.deferred.text := by
      rw [not_not.mp hsuppressed]
      decide
    exact safe_imp (applySyncPlan_fine hwithin.inv (hacked.stopAnswered hdeferred))
      (fun _ _ h => h.within.inv) fun _ _ h => h.elim

variable {err : RunError}

theorem handleRoundError_fine (hinv : AgentInvariant fixed s) :
    Fine cfg fixed authority (fun _ s' => AgentInvariant fixed s') (fun _ _ => False)
      (handleRoundError err) s := by
  unfold handleRoundError
  split_ifs
  · exact safe_pure hinv
  refine fine_quiet rfl trivial fun cancelled s1 _ _ hinner => ?_
  split_ifs
  · exact safe_pure hinner.within.inv
  · split <;> exact safe_pure hinner.within.inv

theorem handleControlError_fine (hinv : AgentInvariant fixed s) :
    Fine cfg fixed authority (fun _ s' => AgentInvariant fixed s') (fun _ _ => False)
      (handleControlError err) s := by
  unfold handleControlError
  by_cases hambiguous : err.isAmbiguousDurability = true
  · rw [if_pos hambiguous]
    exact safe_pure hinv
  rw [if_neg hambiguous]
  refine fine_quiet rfl trivial fun cancelled s1 _ _ hinner => ?_
  split_ifs <;> exact safe_pure hinner.within.inv

theorem round_fine :
    Fine cfg fixed (some a) (fun _ s' => AgentInvariant fixed s') (fun _ _ => False)
      (round cfg a at_) s := by
  refine safe_bind (safe_imp buildSyncRequest_fine ?_ fun _ _ h => h)
  rintro request s1 ⟨hinv, hzero, hbuffered⟩
  refine fine_read fun s2 hsame hinner => ?_
  split_ifs with hstopped
  · refine safe_bind (safe_attempt (safe_imp (sendControl_fine hinner.within.inv hzero) ?_ ?_))
    · exact fun _ _ h => safe_pure h
    · exact fun _ _ h => handleControlError_fine h
  · have hbuffered2 : Buffered s2 request := by
      unfold Buffered
      rw [hsame.memory]
      exact hbuffered (Bool.eq_false_iff.mpr hstopped)
    refine safe_bind (safe_attempt (safe_imp (enqueueAndFlush_fine hinner.within.inv hbuffered2)
      ?_ ?_))
    · exact fun _ _ h => safe_pure h
    · exact fun _ _ h => handleRoundError_fine h

variable {errs : List RunError}

theorem finish_fine (hinv : AgentInvariant fixed s) :
    Fine cfg fixed authority (fun _ s' => AgentInvariant fixed s') (fun _ _ => False)
      (finish errs) s := by
  unfold finish
  split_ifs
  · exact safe_bind (fine_assign_other hinv (by simp) fun s1 h1 => safe_pure h1.within.inv)
  · exact safe_pure hinv

theorem leave_fine :
    Fine cfg fixed authority (fun _ s' => AgentInvariant fixed s') (fun _ _ => False)
      (leave errs) s := by
  refine safe_call_bind (o := Op.close) trivial fun closed s1 hstep => ?_
  cases closed with
  | ok u => exact finish_fine hstep.2
  | error cause => exact finish_fine hstep.2

theorem tick_fine :
    Fine cfg fixed (some a) (fun _ s' => AgentInvariant fixed s') (fun _ _ => False)
      (tick cfg a at_) s := by
  refine safe_bind (safe_imp round_fine ?_ fun _ _ h => h)
  intro ended s1 hinv
  cases ended with
  | none => exact safe_pure hinv
  | some errs => exact leave_fine

def TokenFits (fixed : Option String) (token : String) : Prop :=
  ∀ session, fixed = some session → sessionOfToken token = session

theorem unlessCancelled_fine {e : RunError} :
    Fine cfg fixed authority
      (fun (r : Option SyncAuthority) s' => AgentInvariant fixed s' ∧
        ∀ a, r = some a → TokenFits fixed a.syncToken)
      (fun _ s' => AgentInvariant fixed s') (unlessCancelled e) s := by
  refine fine_quiet rfl trivial fun cancelled s1 _ _ hinner => ?_
  split_ifs
  · exact safe_pure ⟨hinner.within.inv, nofun⟩
  · exact safe_throw hinner.within.inv

theorem enroll_fine :
    Fine cfg fixed authority
      (fun enrollment s' => AgentInvariant fixed s' ∧ TokenFits fixed enrollment.syncToken)
      (fun _ s' => AgentInvariant fixed s') (enroll cfg fingerprint) s := by
  refine fine_quiet rfl trivial fun loaded s1 _ _ hinner1 => ?_
  cases loaded with
  | none => exact safe_throw hinner1.within.inv
  | some token =>
    refine fine_quiet rfl trivial fun answer s2 hstep _ hinner2 => ?_
    cases answer with
    | error e => exact safe_throw hinner2.within.inv
    | ok enrollment =>
      have hfits : TokenFits fixed enrollment.syncToken := by
        obtain ⟨s3, ⟨h, -⟩, -⟩ := hstep
        exact h enrollment rfl
      dsimp only
      split_ifs
      · exact safe_throw hinner2.within.inv
      · exact safe_throw hinner2.within.inv
      · exact safe_pure ⟨hinner2.within.inv, hfits⟩
      · refine fine_quiet rfl trivial fun saved s3 _ _ hinner3 => ?_
        split_ifs
        · exact safe_pure ⟨hinner3.within.inv, hfits⟩
        · exact safe_throw hinner3.within.inv

theorem loadSyncCredentials_fine (hinv : AgentInvariant fixed s) :
    Fine cfg fixed authority
      (fun credentials s' => AgentInvariant fixed s' ∧
        ∀ c, credentials = some (some c) → TokenFits fixed c.2)
      (fun _ _ => False) (loadSyncCredentials cfg) s := by
  unfold loadSyncCredentials
  split_ifs
  · exact safe_pure ⟨hinv, nofun⟩
  · refine safe_call (o := Op.syncCredentials) trivial fun credentials s1 hstep => ?_
    refine ⟨hstep.2, fun c hc => ?_⟩
    obtain ⟨⟨s2, ⟨h, -⟩, -⟩, -⟩ := hstep
    exact h c hc

theorem prepare_fine :
    Fine cfg fixed authority
      (fun (r : Option SyncAuthority) s' => AgentInvariant fixed s' ∧
        ∀ a, r = some a → TokenFits fixed a.syncToken)
      (fun _ s' => AgentInvariant fixed s') (prepare cfg) s := by
  refine fine_quiet rfl trivial fun supported s1 _ _ hinner1 => ?_
  split_ifs
  · exact unlessCancelled_fine
  refine fine_quiet rfl trivial fun loaded s2 _ _ hinner2 => ?_
  cases loaded with
  | none => exact unlessCancelled_fine
  | some fingerprint =>
    refine safe_bind (safe_imp (loadSyncCredentials_fine hinner2.within.inv) ?_
      fun _ _ h => h.elim)
    rintro credentials s3 ⟨hinv3, hfits⟩
    rcases credentials with _ | _ | ⟨inst, token⟩
    · exact unlessCancelled_fine
    · refine safe_bind (safe_attempt (safe_imp enroll_fine ?_ ?_))
      · rintro enrollment s4 ⟨hinv4, hfits4⟩
        refine safe_pure ⟨hinv4, fun a ha => ?_⟩
        obtain rfl := some.inj ha
        exact hfits4
      · exact fun _ _ _ => unlessCancelled_fine
    · refine safe_pure ⟨hinv3, fun a ha => ?_⟩
      obtain rfl := some.inj ha
      exact hfits (inst, token) rfl

theorem run_fine :
    Fine cfg fixed authority (fun _ s' => AgentInvariant fixed s') (fun _ _ => False)
      (run cfg) s := by
  refine fine_read fun s1 _ hinner1 => ?_
  split_ifs
  · exact safe_pure hinner1.within.inv
  refine safe_bind (safe_attempt (safe_imp prepare_fine ?_ ?_))
  · rintro prepared s2 ⟨hinv2, hfits⟩
    cases prepared with
    | none => exact finish_fine hinv2
    | some a =>
      refine safe_call_bind (o := Op.openSession _) (hfits a rfl) fun opened s3 hstep3 => ?_
      cases opened with
      | error cause =>
        refine fine_quiet rfl trivial fun cancelled s4 _ _ hinner4 => ?_
        split_ifs <;> exact finish_fine hinner4.within.inv
      | ok u =>
        refine safe_bind (fine_assign ⟨fun _ h => .inl h, fun _ h => .inl h⟩
          (fun hne => absurd rfl hne) (fun _ _ hne => absurd rfl hne) fun s4 h4 => ?_)
        exact safe_pure h4.within.inv
  · exact fun _ s2 hinv2 => finish_fine hinv2

/-! ## Programs -/

/-- A program of the runtime performs only permitted operations, from every state of the
invariant. -/
theorem program_safe {x : Action Phase} (hinv : AgentInvariant fixed s)
    (h : Fine cfg fixed authority (fun _ s' => AgentInvariant fixed s') (fun _ _ => False) x s) :
    (program x).Safe (agentOperation fixed) (Permitted cfg fixed authority) (fun _ _ => True) s := by
  have hsafe : (program x).Safe
      (fun s o answer s' => agentOperation fixed s o answer s' ∧ AgentInvariant fixed s')
      (Permitted cfg fixed authority) (fun _ _ => True) s := by
    refine Prog.Safe.bind (Prog.Safe.imp h fun r s' hr => ?_)
    cases r with
    | ok phase => exact trivial
    | error e => exact hr.elim
  refine Prog.Safe.imp (Prog.Safe.of_invariant (fun s1 o answer s2 hinv1 hok hstep => ?_) hsafe hinv)
    fun _ _ _ => trivial
  exact hinv1.step hok hstep

/-! ## Agents -/

/-- The invariant of the agent: that of its state, and that the program it executes performs only
permitted operations. -/
structure Agent.Good (cfg : Config) (fixed : Option String) (a : Agent) : Prop where
  inv : AgentInvariant fixed a.state
  safe : ∀ authority p, a.control = .running authority p →
    p.Safe (agentOperation fixed) (Permitted cfg fixed authority) (fun _ _ => True) a.state

theorem Agent.Good.of_not_running {a : Agent} (hinv : AgentInvariant fixed a.state)
    (h : ∀ authority p, a.control ≠ .running authority p) : a.Good cfg fixed :=
  ⟨hinv, fun authority p hp => absurd hp (h authority p)⟩

theorem Agent.Initial.good {a : Agent} (h : a.Initial) : a.Good cfg fixed := by
  refine .of_not_running ⟨?_, fun hw => ?_, fun hnext => ?_, fun session _ => ?_⟩ fun _ _ hc => ?_
  · obtain ⟨opts, hsync, hstore⟩ := h.store
    rw [hstore]
    exact hsync
  · rw [h.log] at hw
    cases hw
  · rw [h.memory] at hnext
    exact absurd rfl hnext
  · refine ⟨fun x hx => ?_, fun r hr => ?_, fun hnext => ?_, ?_⟩
    · obtain ⟨opts, -, hstore⟩ := h.store
      rw [hstore] at hx
      cases hx
    · rw [h.sent] at hr
      exact absurd hr not_mem_nil
    · rw [h.memory] at hnext
      exact absurd rfl hnext
    · rw [h.sent]
      exact .nil
  · rw [h.off] at hc
    cases hc

theorem AgentInvariant.powerFailure {c : Content} (h : AgentInvariant fixed s)
    (hc : c ∈ s.world.disk.snapshots) :
    AgentInvariant fixed
      { s with world := { s.world with disk := { durable := c, later := [] } } } := by
  have hsub : ∀ c' ∈ (Disk.mk c []).snapshots, c' ∈ s.world.disk.snapshots := by
    intro c' hc'
    rwa [mem_singleton.mp hc']
  refine ⟨h.syncs, fun _ => .inr rfl, h.reserved, fun session hfixed => ?_⟩
  have hsession := h.session session hfixed
  refine ⟨hsession.opened, fun r hr c' hc' => hsession.covered r hr c' (hsub c' hc'),
    fun hnext => ?_, hsession.increasing⟩
  obtain ⟨hfree, hle, hreserved⟩ := hsession.block hnext
  exact ⟨hfree, hle, fun c' hc' => hreserved c' (hsub c' hc')⟩

theorem AgentInvariant.launch (h : AgentInvariant fixed s) (hsync : opts.skipFsync = false) :
    AgentInvariant fixed
      { s with
        world := { s.world with store := newFileStore opts }
        memory := .new
        log := [] } := by
  refine ⟨hsync, nofun, fun hnext => absurd rfl hnext, fun session hfixed => ?_⟩
  have hsession := h.session session hfixed
  exact ⟨nofun, hsession.covered, fun hnext => absurd rfl hnext,
    hsession.increasing⟩

theorem agentStep_good {a a' : Agent} {l : Label} (h : a.Good cfg fixed)
    (hstep : AgentStep cfg fixed a l a') : a'.Good cfg fixed := by
  have hinv := h.inv
  cases hstep with
  | launch s opts hsync => exact .of_not_running (hinv.launch hsync) (by simp)
  | run s =>
    refine ⟨hinv, fun authority p hp => ?_⟩
    cases hp
    exact program_safe hinv run_fine
  | tick s a at_ =>
    refine ⟨hinv, fun authority p hp => ?_⟩
    cases hp
    exact program_safe hinv tick_fine
  | cancel s a =>
    refine ⟨hinv, fun authority p hp => ?_⟩
    cases hp
    exact program_safe hinv leave_fine
  | operation authority o answer k hop =>
    obtain ⟨hok, hrest⟩ := h.safe authority (.call o k) rfl
    refine ⟨hinv.step hok hop, fun authority' p hp => ?_⟩
    cases hp
    exact hrest answer _ hop
  | wait => exact .of_not_running hinv (by simp)
  | return_ => exact .of_not_running hinv (by simp)
  | kill => exact .of_not_running hinv (by simp)
  | powerFailure s c left_ hc => exact .of_not_running (hinv.powerFailure hc) (by simp)

end Houfeng.Runtime
