import Houfeng.Runtime.Proofs.AgentProofs

/-!
# Rules for the operations of the runtime

How the state before an operation and the state after it are related, and the rules that step over
one operation of a `do` block: those that only look, those on the queue, and assignments.
-/

namespace Houfeng.Runtime

open AgentApi SyncQueue Routine

variable {cfg : Config} {fixed : Option String} {authority : Option SyncAuthority}
  {s s' s'' : AgentState} {α β : Type}

/-- Safety of a function of the runtime, with the invariant after every operation. -/
abbrev Fine (cfg : Config) (fixed : Option String) (authority : Option SyncAuthority)
    (post : α → AgentState → Prop) (fails : RunError → AgentState → Prop) (x : Action α)
    (s : AgentState) : Prop :=
  Routine.Safe (fun s o answer s' => agentOperation fixed s o answer s' ∧ AgentInvariant fixed s')
    (Permitted cfg fixed authority) post fails x s

/-! ## States between operations -/

/-- Nothing but the log has changed, and no answer has been received. -/
structure Same (s s' : AgentState) : Prop where
  world : s'.world = s.world
  sent : s'.sent = s.sent
  memory : s'.memory = s.memory
  last : lastReceive s'.log = lastReceive s.log
  written : Written s.log → Written s'.log

/-- Operations lead from one state to the other, and the queue has only lost entries. -/
structure Within (fixed : Option String) (s s' : AgentState) : Prop where
  inv : AgentInvariant fixed s'
  path : Relation.ReflTransGen (fun s s' => ∃ o answer, agentOperation fixed s o answer s') s s'
  shrinks : ∀ state', s'.world.disk.visible = .envelope state' →
    ∃ state, s.world.disk.visible = .envelope state ∧ state.Shrinks state'
  written : Written s.log → Written s'.log

theorem Within.refl (h : AgentInvariant fixed s) : Within fixed s s :=
  ⟨h, .refl, fun state h => ⟨state, h, .refl state⟩, id⟩

theorem Within.trans (h : Within fixed s s') (h' : Within fixed s' s'') : Within fixed s s'' where
  inv := h'.inv
  path := h.path.trans h'.path
  shrinks state'' hvisible'' := by
    obtain ⟨state', hvisible', hshrinks'⟩ := h'.shrinks state'' hvisible''
    obtain ⟨state, hvisible, hshrinks⟩ := h.shrinks state' hvisible'
    exact ⟨state, hvisible, hshrinks.trans hshrinks'⟩
  written hw := h'.written (h.written hw)

def Op.internal : Op → Bool
  | .enqueue _ | .openSession _ | .close => false
  | _ => true

variable {o : Op}

theorem Change.within (h : Change s o s') (ho : o.internal = true) :
    ∀ state', s'.world.disk.visible = .envelope state' →
      ∃ state, s.world.disk.visible = .envelope state ∧ state.Shrinks state' := by
  intro state' hvisible'
  cases h with
  | queue hworld =>
    cases hworld with
    | same => exact ⟨state', hvisible', .refl state'⟩
    | closed => cases ho
    | @wrote _ state written _ _ hpoison hsession hvisible hvalid hfollows hshrinks hwrote =>
      rcases hwrote.visible with ⟨heq, -⟩ | ⟨hv, -⟩
      · rw [heq] at hvisible'
        exact ⟨state', hvisible', .refl state'⟩
      · rw [hv] at hvisible'
        cases hvisible'
        exact ⟨state, hvisible, hshrinks fun request he => by rw [he] at ho; cases ho⟩
    | opened => cases ho
  | sent r => exact ⟨state', hvisible', .refl state'⟩
  | memory m => exact ⟨state', hvisible', .refl state'⟩

theorem Change.log (h : Change s o s') : s'.log = s.log := by cases h <;> rfl

variable {answer : Answer o}

theorem within_of_operation (ho : o.internal = true)
    (h : agentOperation fixed s o answer s' ∧ AgentInvariant fixed s') : Within fixed s s' := by
  obtain ⟨⟨s1, heffect, rfl⟩, hinv⟩ := h
  refine ⟨hinv, .single ⟨o, answer, s1, heffect, rfl⟩, heffect.change.within ho, fun hw => ?_⟩
  show Written (_ :: s1.log)
  rw [heffect.change.log]
  exact hw.cons _

theorem lastReceive_of_operation (ho : ∀ request, o ≠ .receive request)
    (h : agentOperation fixed s o answer s') : lastReceive s'.log = lastReceive s.log := by
  obtain ⟨s1, heffect, rfl⟩ := h
  rw [← heffect.change.log]
  cases o with
  | receive request => exact absurd rfl (ho request)
  | _ => rfl

/-- The queue has only lost entries, nothing has been sent or received, and collection has been
neither stopped nor resumed. -/
structure Inner (fixed : Option String) (s s' : AgentState) : Prop where
  within : Within fixed s s'
  last : lastReceive s'.log = lastReceive s.log
  sent : s'.sent = s.sent
  stopped : s'.memory.collectionStopped = s.memory.collectionStopped

theorem Inner.refl (h : AgentInvariant fixed s) : Inner fixed s s := ⟨.refl h, rfl, rfl, rfl⟩

theorem Inner.trans (h : Inner fixed s s') (h' : Inner fixed s' s'') : Inner fixed s s'' :=
  ⟨h.within.trans h'.within, h'.last.trans h.last, h'.sent.trans h.sent, h'.stopped.trans h.stopped⟩

theorem StopAnswered.inner (h : StopAnswered cfg s.log) (hi : Inner fixed s s') :
    StopAnswered cfg s'.log := by
  unfold StopAnswered at h ⊢
  rwa [hi.last]

/-- Safety of a function that never fails, sends nothing and receives nothing. -/
abbrev Calm (cfg : Config) (fixed : Option String) (authority : Option SyncAuthority)
    (x : Action α) (s : AgentState) : Prop :=
  Fine cfg fixed authority (fun _ s' => Inner fixed s s') (fun _ _ => False) x s

/-! ## Rules for operations -/

def Op.quiet : Op → Bool
  | .openSession _ | .close | .reserveLiveSequences _ | .enqueue _ | .deleteMany _
  | .markAttempt _ | .prune | .send _ | .receive _ | .writeMemory _ => false
  | _ => true

theorem Effect.eq_of_quiet (ho : o.quiet = true) (h : Effect fixed s o answer s') : s' = s := by
  cases o with
  | openSession | close | reserveLiveSequences | enqueue | deleteMany | markAttempt | prune
  | send | receive | writeMemory => cases ho
  | replayState | list =>
    obtain ⟨_, _, h⟩ := h
    exact h
  | enroll | syncCredentials | readMemory => exact h.2
  | _ => exact h

theorem same_of_operation (ho : o.quiet = true)
    (h : agentOperation fixed s o answer s') : Same s s' := by
  have hlast : lastReceive s'.log = lastReceive s.log :=
    lastReceive_of_operation (fun r hr => by rw [hr] at ho; cases ho) h
  obtain ⟨s1, heffect, rfl⟩ := h
  obtain rfl := heffect.eq_of_quiet ho
  exact ⟨rfl, rfl, rfl, hlast, fun hw => hw.cons _⟩

/-- The operations that only look, or write the queue without adding to it. -/
def Op.inner : Op → Bool
  | .enqueue _ | .openSession _ | .close | .send _ | .receive _ | .writeMemory _ => false
  | _ => true

theorem inner_of_operation (ho : o.inner = true)
    (h : agentOperation fixed s o answer s' ∧ AgentInvariant fixed s') : Inner fixed s s' := by
  have hinternal : o.internal = true := by
    cases o with
    | enqueue | openSession | close => cases ho
    | _ => rfl
  have hwithin := within_of_operation hinternal h
  have hlast := lastReceive_of_operation (fun r hr => by rw [hr] at ho; cases ho) h.1
  obtain ⟨⟨s1, heffect, rfl⟩, -⟩ := h
  cases heffect.change with
  | queue => exact ⟨hwithin, hlast, rfl, rfl⟩
  | sent | memory => cases ho

variable {post : β → AgentState → Prop} {fails : RunError → AgentState → Prop}
  {f : Answer o → Action β}

theorem fine_quiet (ho : o.quiet = true) (hok : Permitted cfg fixed authority s o)
    (h : ∀ answer s', agentOperation fixed s o answer s' → Same s s' → Inner fixed s s' →
      Fine cfg fixed authority post fails (f answer) s') :
    Fine cfg fixed authority post fails (call o >>= f) s := by
  refine safe_call_bind hok fun answer s' hstep => ?_
  refine h answer s' hstep.1 (same_of_operation ho hstep.1) (inner_of_operation ?_ hstep)
  cases o with
  | enqueue | openSession | close | send | receive | writeMemory => cases ho
  | _ => rfl

theorem fine_read {f : Memory → Action β}
    (h : ∀ s', Same s s' → Inner fixed s s' → Fine cfg fixed authority post fails (f s.memory) s') :
    Fine cfg fixed authority post fails (call .readMemory >>= f) s := by
  refine fine_quiet rfl trivial fun m s' hstep hsame hinner => ?_
  obtain ⟨s1, ⟨rfl, rfl⟩, rfl⟩ := hstep
  exact h _ hsame hinner

theorem fine_inner (ho : o.inner = true) (hok : Permitted cfg fixed authority s o)
    (h : ∀ answer s', agentOperation fixed s o answer s' → Inner fixed s s' →
      Fine cfg fixed authority post fails (f answer) s') :
    Fine cfg fixed authority post fails (call o >>= f) s :=
  safe_call_bind hok fun answer s' hstep => h answer s' hstep.1 (inner_of_operation ho hstep)

theorem fine_queueCall {operation : String} {answer : Except QueueError α} {f : α → Action β}
    (hok : ∀ a, answer = .ok a → Fine cfg fixed authority post fails (f a) s)
    (herror : ∀ e, answer = .error e → fails (.queueOperation operation e) s) :
    Fine cfg fixed authority post fails (queueCall operation answer >>= f) s := by
  cases answer with
  | ok a => exact hok a rfl
  | error e => exact herror e rfl

/-! ### Assignments -/

structure Assigned (fixed : Option String) (s s' : AgentState) (m : Memory) : Prop where
  within : Within fixed s s'
  last : lastReceive s'.log = lastReceive s.log
  world : s'.world = s.world
  sent : s'.sent = s.sent
  memory : s'.memory = m

variable {m : Memory}

theorem Assigned.inner (h : Assigned fixed s s' m)
    (hm : m.collectionStopped = s.memory.collectionStopped) : Inner fixed s s' :=
  ⟨h.within, h.last, h.sent, by rw [h.memory, hm]⟩

theorem KeepsPayloads.same (h : KeepsPayloads cfg s m) (hsame : Same s s') :
    KeepsPayloads cfg s' m := by
  have hstop : StopAnswered cfg s.log → StopAnswered cfg s'.log := by
    intro hs
    unfold StopAnswered
    rwa [hsame.last]
  refine ⟨fun x hx => ?_, fun x hx => ?_⟩
  · rw [hsame.memory] at hx
    rw [hsame.world]
    exact (h.results x hx).imp_right (Or.imp_right hstop)
  · rw [hsame.memory] at hx
    rw [hsame.world]
    exact (h.reports x hx).imp_right (Or.imp_right hstop)

theorem BlockOwned.congr {session : String} (h : BlockOwned session s m)
    (hworld : s'.world = s.world) (hsent : s'.sent = s.sent) : BlockOwned session s' m := by
  unfold BlockOwned at h ⊢
  rwa [hworld, hsent]

variable {f : Memory → Memory} {post : Unit → AgentState → Prop}

theorem fine_assign (hkeeps : KeepsPayloads cfg s (f s.memory))
    (hwritten : (f s.memory).nextLiveSequence ≠ 0 → Written s.log)
    (hblock : ∀ session, fixed = some session → BlockOwned session s (f s.memory))
    (h : ∀ s', Assigned fixed s s' (f s.memory) → post () s') :
    Fine cfg fixed authority post fails (assign f) s := by
  refine fine_read fun s1 hsame hinner => ?_
  have hok : Permitted cfg fixed authority s1 (.writeMemory (f s.memory)) :=
    ⟨hkeeps.same hsame, fun hnext => hsame.written (hwritten hnext),
      fun session hfixed => (hblock session hfixed).congr hsame.world hsame.sent⟩
  refine safe_call hok fun u s2 hstep => h s2 ?_
  have hwithin := within_of_operation (o := .writeMemory _) rfl hstep
  have hlast := lastReceive_of_operation (fun r hr => by cases hr) hstep.1
  obtain ⟨⟨s3, rfl, rfl⟩, -⟩ := hstep
  exact ⟨hinner.within.trans hwithin, hlast.trans hinner.last, hsame.world, hsame.sent, rfl⟩

theorem fine_assign_other (hinv : AgentInvariant fixed s)
    (hkeeps : s.memory.pendingResults ⊆ (f s.memory).pendingResults ∧
      s.memory.pendingIPReports ⊆ (f s.memory).pendingIPReports ∧
      (f s.memory).nextLiveSequence = s.memory.nextLiveSequence ∧
      (f s.memory).lastLiveSequence = s.memory.lastLiveSequence)
    (h : ∀ s', Assigned fixed s s' (f s.memory) → post () s') :
    Fine cfg fixed authority post fails (assign f) s := by
  obtain ⟨hresults, hreports, hnext, hlast⟩ := hkeeps
  refine fine_assign ⟨fun x hx => .inl (hresults hx), fun x hx => .inl (hreports hx)⟩
    (fun hne => hinv.reserved (hnext ▸ hne)) (fun session hfixed => ?_) h
  have := (hinv.session session hfixed).block
  unfold BlockOwned at this ⊢
  rwa [hnext, hlast]

end Houfeng.Runtime
