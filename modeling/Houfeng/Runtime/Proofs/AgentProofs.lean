import Houfeng.Runtime.Specification

/-!
# Permitted operations keep the invariant of the agent
-/

namespace Houfeng.Runtime

open AgentApi SyncQueue

variable {cfg : Config} {fixed : Option String} {authority : Option SyncAuthority}
  {s s' : AgentState}

/-! ## Histories -/

variable {log : List Event}

theorem Written.cons (e : Event) (h : Written log) : Written (e :: log) := by
  unfold Written at h ⊢
  rw [List.any_cons, h, Bool.or_true]

theorem Written.of_event {e : Event} (h : e.wrote = true) : Written (e :: log) := by
  unfold Written
  rw [List.any_cons, h, Bool.true_or]

/-! ## Contents -/

variable {r : SyncRequest}

theorem CoveredBy.follows {state state' : Envelope} (h : CoveredBy r state)
    (hf : state.Follows state') : CoveredBy r state' where
  session := h.session.trans hf.session.symm
  producer := h.producer.trans hf.producer.symm
  allocated := h.allocated.trans hf.advances.allocated
  retired := h.retired.trans hf.advances.floor
  sequence_le := h.sequence_le.trans hf.advances.allocated
  live l hl := (h.live l hl).trans hf.advances.live
  document e' he' hseq := by
    rcases hf.entries e' he' with ⟨e, he, -, hrequest⟩ | hnew
    · rw [← hrequest] at hseq ⊢
      exact h.document e he hseq
    · -- a new entry has a sequence that was not allocated when the request was sent
      exact absurd hnew (not_lt.mpr (hseq ▸ h.sequence_le))

theorem covers_lasting (session : String) (r : SyncRequest) : Lasting (Covers session r) := by
  rintro state state' hf ⟨_, heq, hsession, hcovered⟩
  obtain rfl := Content.envelope.inj heq
  exact ⟨state', rfl, hf.session.trans hsession, hcovered.follows hf⟩

theorem reserved_lasting (session : String) (n : Int) :
    Lasting fun c => ∃ state, c = .envelope state ∧ state.sessionID = session ∧
      n ≤ state.liveReservedThrough := by
  rintro state state' hf ⟨_, heq, hsession, hn⟩
  obtain rfl := Content.envelope.inj heq
  exact ⟨state', rfl, hf.session.trans hsession, hn.trans hf.advances.live⟩

/-! ## What an operation does to the queue -/

inductive WorldStep (w : World) : Op → World → Prop
  | same (o : Op) : WorldStep w o w
  | closed : WorldStep w .close (close w).2
  | wrote {o : Op} {state state' : Envelope} {r : Except QueueError Unit} {w' : World}
    (hpoison : w.store.poison = false) (hsession : w.store.session = some state.sessionID)
    (hvisible : w.disk.visible = .envelope state) (hvalid : state.Valid)
    (hfollows : state.Follows state') (hshrinks : (∀ request, o ≠ .enqueue request) →
      state.Shrinks state') (hwrote : Wrote w state' r w') : WorldStep w o w'
  | opened {session : String} {r : Except QueueError Unit} {w' : World}
    (h : Opened w session r w') : WorldStep w (.openSession session) w'

variable {w w' : World} {o : Op}

theorem worldStep_of_outcome {α : Type} {P : α → Envelope → Envelope → Prop}
    {r : Except QueueError α} (h : Outcome w P r w')
    (hP : ∀ a state state', P a state state' → state.Shrinks state') : WorldStep w o w' := by
  cases h with
  | refused e he => exact .same o
  | wrote hpoison hsession hvisible hvalid hrel hwrote =>
    have hshrinks := hP _ _ _ hrel
    exact .wrote hpoison hsession hvisible hvalid hshrinks.follows (fun _ => hshrinks) hwrote

/-- What an operation changes, apart from the log. -/
inductive Change (s : AgentState) : Op → AgentState → Prop
  | queue {o : Op} {w' : World} (h : WorldStep s.world o w') : Change s o { s with world := w' }
  | sent (r : SyncRequest) : Change s (.send r) { s with sent := r :: s.sent }
  | memory (m : Memory) : Change s (.writeMemory m) { s with memory := m }

theorem Change.none (s : AgentState) (o : Op) : Change s o s := .queue (.same o)

variable {answer : Answer o}

theorem Effect.change (h : Effect fixed s o answer s') : Change s o s' := by
  cases o with
  | openSession session =>
    obtain ⟨env, -, rfl⟩ := h
    exact .queue (.opened (openSession_opened env session s.world))
  | close =>
    obtain ⟨-, rfl⟩ := h
    exact .queue .closed
  | reserveLiveSequences count =>
    obtain ⟨env, -, rfl⟩ := h
    exact .queue (worldStep_of_outcome (reserveLiveSequences_outcome env count s.world)
      fun _ _ _ h => h.shrinks)
  | enqueue request =>
    obtain ⟨env, -, rfl⟩ := h
    have hout := enqueue_outcome env request s.world
    revert hout
    rcases enqueue env request s.world with ⟨r, w'⟩
    intro hout
    cases hout with
    | refused e he => exact .none s _
    | wrote hpoison hsession hvisible hvalid hrel hwrote =>
      exact .queue (.wrote hpoison hsession hvisible hvalid hrel.follows
        (fun h => absurd rfl (h request)) hwrote)
  | deleteMany ids =>
    obtain ⟨env, -, rfl⟩ := h
    refine .queue (worldStep_of_outcome (deleteMany_outcome env ids s.world)
      fun _ state state' h => ?_)
    subst h
    exact (advanceFloor_trimmed List.filter_sublist).shrinks
  | markAttempt id =>
    obtain ⟨env, -, rfl⟩ := h
    exact .queue (worldStep_of_outcome (markAttempt_outcome env id s.world)
      fun _ _ _ h => h.shrinks)
  | prune =>
    obtain ⟨env, -, rfl⟩ := h
    exact .queue (worldStep_of_outcome (prune_outcome env s.world)
      fun _ _ _ h => (pruneEnvelope_trimmed h).1.shrinks)
  | send r =>
    obtain rfl := h
    exact .sent r
  | writeMemory m =>
    obtain rfl := h
    exact .memory m
  | replayState =>
    obtain ⟨env, -, rfl⟩ := h
    exact .none _ _
  | list =>
    obtain ⟨env, -, rfl⟩ := h
    exact .none _ _
  | enroll token fingerprint =>
    obtain ⟨-, rfl⟩ := h
    exact .none _ _
  | syncCredentials =>
    obtain ⟨-, rfl⟩ := h
    exact .none _ _
  | readMemory =>
    obtain ⟨-, rfl⟩ := h
    exact .none _ _
  | _ =>
    obtain rfl := h
    exact .none _ _

/-! ## Snapshots -/

theorem WorldStep.snapshots (h : WorldStep w o w') {session : String}
    (hopen : ∀ x, o = .openSession x → x = session) {Q : Content → Prop} (hQ : Lasting Q)
    (hsession : ∀ c, Q c → ∃ state, c = .envelope state ∧ state.sessionID = session)
    (hw : ∀ c ∈ w.disk.snapshots, Q c) : ∀ c ∈ w'.disk.snapshots, Q c := by
  cases h with
  | same | closed => exact hw
  | @wrote _ state state' _ _ _ _ hvisible _ hfollows _ hwrote =>
    intro c hc
    rcases hwrote.snapshots hc with rfl | hc
    · exact hQ state state' hfollows (hvisible ▸ hw _ w.disk.visible_mem_snapshots)
    · exact hw c hc
  | opened hopened =>
    obtain ⟨state, hvisible, hstate⟩ := hsession _ (hw _ w.disk.visible_mem_snapshots)
    rw [hopened.disk_eq hvisible (hstate.trans (hopen _ rfl).symm)]
    exact hw

/-! ## The store -/

theorem WorldStep.opts (h : WorldStep w o w') : w'.store.opts = w.store.opts := by
  cases h with
  | same | closed => rfl
  | wrote _ _ _ _ _ _ hwrote => exact hwrote.store.2
  | opened hopened => exact hopened.store.1

theorem WorldStep.synced (h : WorldStep w o w') (hsync : w.store.opts.skipFsync = false)
    (hw : w.Synced) : w'.Synced := by
  cases h with
  | same | closed => exact hw
  | wrote _ _ _ _ _ _ hwrote => exact hwrote.synced hsync hw
  | opened hopened => exact hopened.synced hsync hw

theorem WorldStep.session (h : WorldStep w o w') {x : String} (hx : w'.store.session = some x) :
    w.store.session = some x ∨ o = .openSession x := by
  cases h with
  | same => exact .inl hx
  | closed => cases hx
  | wrote _ _ _ _ _ _ hwrote => exact .inl (hwrote.store.1 ▸ hx)
  | opened hopened => exact (hopened.store.2 x hx).imp_right fun h => by rw [h]

/-! ## Successful writes -/

theorem outcome_ok {α : Type} {P : α → Envelope → Envelope → Prop} {a : α}
    (h : Outcome w P (.ok a) w') (hsync : w.store.opts.skipFsync = false) :
    ∃ state state', w.disk.visible = .envelope state ∧ state.Valid ∧
      w.store.session = some state.sessionID ∧ P a state state' ∧
      w'.disk = { durable := .envelope state', later := [] } := by
  generalize hr : (Except.ok a : Except QueueError α) = r at h
  cases h with
  | refused e he => cases hr
  | @wrote a' state state' r' _ hpoison hsession hvisible hvalid hrel hwrote =>
    cases r' with
    | error e => cases hr
    | ok u =>
      obtain rfl := Except.ok.inj hr
      exact ⟨state, state', hvisible, hvalid, hsession, hrel, hwrote.snapshots_of_ok hsync⟩

theorem enqueue_ok {request : SyncRequest} {id : String}
    (h : Effect fixed s (.enqueue request) (.ok id) s')
    (hsync : s.world.store.opts.skipFsync = false) :
    ∃ now pruneNow state state', s.world.disk.visible = .envelope state ∧ state.Valid ∧
      Enqueued s.world.store.opts now pruneNow request id state state' ∧
      s'.world.disk = { durable := .envelope state', later := [] } := by
  obtain ⟨env, hanswer, rfl⟩ := h
  have hout := enqueue_outcome env request s.world
  rw [hanswer] at hout
  obtain ⟨state, state', hvisible, hvalid, -, hrel, hdisk⟩ := outcome_ok hout hsync
  exact ⟨env.now, env.pruneNow, state, state', hvisible, hvalid, hrel, hdisk⟩

theorem reserve_ok {count : Int} {block : Int × Int}
    (h : Effect fixed s (.reserveLiveSequences count) (.ok block) s')
    (hsync : s.world.store.opts.skipFsync = false) :
    ∃ state state', s.world.disk.visible = .envelope state ∧ state.Valid ∧
      s.world.store.session = some state.sessionID ∧ Reserved block state state' ∧
      s'.world.disk = { durable := .envelope state', later := [] } := by
  obtain ⟨env, hanswer, rfl⟩ := h
  have hout := reserveLiveSequences_outcome env count s.world
  rw [hanswer] at hout
  exact outcome_ok hout hsync

theorem Effect.synced_of_wrote (h : Effect fixed s o answer s')
    (hsync : s.world.store.opts.skipFsync = false) (hwrote : Event.wrote ⟨o, answer⟩ = true) :
    s'.world.Synced := by
  cases o with
  | enqueue request =>
    cases answer with
    | error e => cases hwrote
    | ok id =>
      obtain ⟨_, _, _, _, _, _, _, hdisk⟩ := enqueue_ok h hsync
      exact .inr (by rw [hdisk])
  | reserveLiveSequences count =>
    cases answer with
    | error e => cases hwrote
    | ok block =>
      obtain ⟨_, _, _, _, _, _, hdisk⟩ := reserve_ok h hsync
      exact .inr (by rw [hdisk])
  | _ => cases hwrote

/-! ## The invariant -/

variable {session : String}

theorem ReservedThrough.change {n : Int}
    (h : ReservedThrough session s.world.disk n) (hchange : Change s o s')
    (hopen : ∀ x, o = .openSession x → x = session) :
    ReservedThrough session s'.world.disk n := by
  cases hchange with
  | queue hworld =>
    refine hworld.snapshots hopen (reserved_lasting session n) (fun c hc => ?_) h
    obtain ⟨state, rfl, hsession, -⟩ := hc
    exact ⟨state, rfl, hsession⟩
  | sent r => exact h
  | memory m => exact h

theorem Sendable.covers (hsend : Sendable fixed s r)
    (hfixed : fixed = some session) (hsynced : s.world.Synced)
    (hopened : ∀ x, s.world.store.session = some x → x = session) :
    ∀ c ∈ s.world.disk.snapshots, Covers session r c := by
  have hlater : s.world.disk.later = [] :=
    hsynced.resolve_left (by rw [hsend.sound]; exact Bool.false_ne_true)
  obtain ⟨state, hvisible, hvalid, hsession, hcurrent⟩ := hsend.current
  intro c hc
  have hcv : c = s.world.disk.visible := by
    unfold Disk.snapshots at hc
    unfold Disk.visible
    rw [hlater] at hc ⊢
    exact List.mem_singleton.mp hc
  refine ⟨state, hcv.trans hvisible, hopened _ hsession, ?_⟩
  exact
    { session := hcurrent.session
      producer := hcurrent.producer
      allocated := hcurrent.allocated.le
      retired := hcurrent.retired.le
      sequence_le := hcurrent.sequence_le
      live := fun l hl => by
        obtain ⟨-, hreserved, -⟩ := hsend.live session hfixed l hl
        obtain ⟨state', heq, -, hle⟩ := hreserved c hc
        rw [hcv, hvisible] at heq
        cases heq
        exact hle
      document := hcurrent.document }

theorem SessionInvariant.step (hfixed : fixed = some session)
    (h : SessionInvariant session s) (hsynced : Written s.log → s.world.Synced)
    (hok : Permitted cfg fixed authority s o) (hchange : Change s o s') :
    SessionInvariant session s' := by
  have hopen : ∀ x, o = .openSession x → x = session := by
    rintro x rfl
    exact hok session hfixed
  cases hchange with
  | @queue _ w' hworld =>
    refine ⟨fun x hx => ?_, fun r hr => ?_, fun hnext => ?_, h.increasing⟩
    · rcases hworld.session hx with hx | hx
      · exact h.opened x hx
      · exact hopen x hx
    · refine hworld.snapshots hopen (covers_lasting session r) (fun c hc => ?_) (h.covered r hr)
      obtain ⟨state, rfl, hsession, -⟩ := hc
      exact ⟨state, rfl, hsession⟩
    · obtain ⟨hfree, hle, hreserved⟩ := h.block hnext
      exact ⟨hfree, hle, hreserved.change (.queue hworld) hopen⟩
  | sent r =>
    have hsend : Sendable fixed s r := hok
    refine ⟨h.opened, fun r' hr' => ?_, fun hnext => ?_, ?_⟩
    · rcases List.mem_cons.mp hr' with rfl | hr'
      · exact hsend.covers hfixed (hsynced hsend.written) h.opened
      · exact h.covered r' hr'
    · obtain ⟨hfree, hle, hreserved⟩ := h.block hnext
      refine ⟨fun r' hr' l hl => ?_, hle, hreserved⟩
      rcases List.mem_cons.mp hr' with rfl | hr'
      · exact (hsend.live session hfixed l hl).2.2 hnext
      · exact hfree r' hr' l hl
    · refine List.pairwise_cons.mpr ⟨fun r' hr' l l' hl hl' => ?_, h.increasing⟩
      exact (hsend.live session hfixed l hl).1 r' hr' l' hl'
  | memory m =>
    obtain ⟨-, -, hblock⟩ : _ ∧ _ ∧ ∀ session, fixed = some session → BlockOwned session s m := hok
    exact ⟨h.opened, h.covered, hblock session hfixed, h.increasing⟩

theorem AgentInvariant.step (h : AgentInvariant fixed s) (hok : Permitted cfg fixed authority s o)
    (hstep : agentOperation fixed s o answer s') :
    AgentInvariant fixed s' := by
  obtain ⟨s1, heffect, rfl⟩ := hstep
  have hchange := heffect.change
  have hlog : s1.log = s.log := by cases hchange <;> rfl
  refine ⟨?_, fun hwritten => ?_, fun hnext => ?_, fun session hfixed => ?_⟩
  · cases hchange with
    | queue hworld => exact hworld.opts ▸ h.syncs
    | sent r => exact h.syncs
    | memory m => exact h.syncs
  · by_cases hwrote : Event.wrote ⟨o, answer⟩ = true
    · exact heffect.synced_of_wrote h.syncs hwrote
    · have hbefore : Written s.log := by
        unfold Written at hwritten ⊢
        rw [List.any_cons, Bool.eq_false_iff.mpr hwrote, Bool.false_or, hlog] at hwritten
        exact hwritten
      cases hchange with
      | queue hworld => exact hworld.synced h.syncs (h.synced hbefore)
      | sent r => exact h.synced hbefore
      | memory m => exact h.synced hbefore
  · refine Written.cons _ ?_
    rw [hlog]
    cases hchange with
    | queue hworld => exact h.reserved hnext
    | sent r => exact h.reserved hnext
    | memory m => exact hok.2.1 hnext
  · have := (h.session session hfixed).step hfixed h.synced hok hchange
    exact ⟨this.opened, this.covered, this.block, this.increasing⟩

end Houfeng.Runtime
