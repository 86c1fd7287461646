import Houfeng.Center.Proofs.RecordingProofs
import Houfeng.Center.Proofs.ReplayProofs
import Houfeng.Runtime.Proofs.LossProofs

/-!
# Live evidence is not replayed

The agent numbers its live signals from blocks it has reserved durably, so the numbers it sends on a
session grow. The center refreshes the evidence that an agent is online only with a number above the
session's live watermark.
-/

namespace Houfeng.Center

open AgentApi

variable {env : Env} {batch : Batch} {db db' db₀ : Database} {r : Result}

/-! ## What a sync transaction does to the evidence -/

/-- When sessions and instances were last known to be online is the same. -/
structure SameEvidence (assets assets' : Assets) : Prop where
  sessions : ∀ s, (assets'.sessions.lookup s).map (·.lastTrustedOnlineAt) =
    (assets.sessions.lookup s).map (·.lastTrustedOnlineAt)
  instances : ∀ i, (assets'.instances.lookup i).map (·.lastTrustedOnlineAt) =
    (assets.instances.lookup i).map (·.lastTrustedOnlineAt)

theorem SameEvidence.refl (assets : Assets) : SameEvidence assets assets :=
  ⟨fun _ => rfl, fun _ => rfl⟩

variable {state : AcceptedSyncBatchState} {live : Bool}

theorem Recording.sameEvidence (h : Recording env batch state live r db db') :
    SameEvidence db.assets db'.assets := by
  obtain ⟨row, lastHeartbeatAt, measured, -, -, hwrote⟩ := h.wrote
  refine ⟨fun s => by rw [hwrote.sessions]; rfl, fun i => ?_⟩
  by_cases hi : i = batch.monitoringInstanceID
  · obtain ⟨p, c, l, hrow⟩ := recordedRow_eq env (syncedRow env lastHeartbeatAt
      (lifecycleStatusAfterAcceptedSync state.lifecycleStatus live) row) batch.commandResults
    have hbefore : db.assets.instances.lookup batch.monitoringInstanceID = some row := hwrote.before
    rw [hi, hwrote.after, hbefore, hrow]
    rfl
  · rw [hwrote.others i hi]
    rfl

theorem Disposal.sameEvidence (h : Disposal env batch state live r db db') :
    SameEvidence db.assets db'.assets := by
  cases h with
  | kept => exact .refl _
  | recorded _ h => exact h.sameEvidence

/-- The evidence after a transaction is as before, unless the request has a live signal above the
session's watermark. -/
theorem applyBatch_evidence (hinv : ReplayInvariant db)
    (h : applyBatch env batch db = .ok (r, db')) :
    SameEvidence db.assets db'.assets ∨ ∃ live, batch.liveSignal = some live ∧
      (boundRow db batch.sessionID batch.producerID).liveSequenceHigh < live.sequence := by
  obtain ⟨hb, state, session, inst, vps, floor, d, live, d', haccepted, hreplay, hlive, hdisposal⟩ :=
    applyBatch_eq_ok h
  have hadvanced : Advanced db d batch := by
    obtain ⟨d, hok, hadvanced, -⟩ | ⟨herr, -⟩ | ⟨herr, -⟩ | ⟨e, herr, -⟩ :=
      acceptSyncReplayState_cases hinv hb haccepted.session_isSome env rfl rfl
    · rw [hok] at hreplay
      cases hreplay
      exact hadvanced
    · simp [herr] at hreplay
    · simp [herr] at hreplay
    · simp [herr] at hreplay
  have hdisposed := hdisposal.sameEvidence
  have hvalid := advanceRow_valid (boundRow_valid hinv batch.sessionID batch.producerID) hb
  obtain ⟨d, signal, hok, hlive'⟩ | ⟨hok, -⟩ | ⟨e, herr, -⟩ :=
    recordTrustedLiveSignal_cases env state hb hadvanced.row hvalid
  · exact .inr ⟨signal, hlive'.signal, hlive'.above⟩
  · rw [hok] at hlive
    cases hlive
    rw [hadvanced.assets] at hdisposed
    exact .inl hdisposed
  · simp [herr] at hlive

/-! ## The watermark of a session -/

/-- The live signal of a committed request is at most the live watermark of its session. -/
def LiveCovered (e : RunStep Database (Event × Answer)) (db : Database) : Prop :=
  ∀ env batch r live, e.label = (.sync env batch, some (.ok r)) → batch.liveSignal = some live →
    ∃ row, db.replayStates.lookup batch.sessionID = some row ∧ live.sequence ≤ row.liveSequenceHigh

theorem Committed.liveCovered {db1 db2 : Database} (h : Committed db batch r db1 db2 db')
    {live : LiveSignal} (hlive : batch.liveSignal = some live) :
    ∃ row, db'.replayStates.lookup batch.sessionID = some row ∧
      live.sequence ≤ row.liveSequenceHigh := by
  obtain ⟨signal, hadvanced⟩ | ⟨rfl, hle⟩ := h.live
  · obtain rfl : signal = live := Option.some.inj (hadvanced.signal.symm.trans hlive)
    exact ⟨_, by rw [h.disposed.replay, hadvanced.row], le_refl _⟩
  · exact ⟨_, by rw [h.disposed.replay, h.advanced.row], hle live hlive⟩

variable {label : Event × Answer}

theorem liveCovered_step (hinv : ReplayInvariant db) (h : centerStep db label db') :
    LiveCovered ⟨db, label, db'⟩ db' := by
  intro env batch r live hlabel hlive
  obtain ⟨assets, rfl, -⟩ | ⟨env', batch', r', db1, db2, rfl, hcom⟩ | ⟨env', batch', e, rfl, -⟩ :=
    centerStep_cases hinv h
  · cases hlabel
  · cases hlabel
    exact hcom.liveCovered hlive
  · cases hlabel

variable {e : RunStep Database (Event × Answer)}

theorem LiveCovered.step (hcovered : LiveCovered e db) (hinv : ReplayInvariant db)
    (h : centerStep db label db') :
    LiveCovered e db' := by
  intro env batch r live hlabel hlive
  obtain ⟨row, hrow, hle⟩ := hcovered env batch r live hlabel hlive
  obtain ⟨row', hrow', -, -, -, hhigh⟩ := centerStep_grows db label db' hinv h _ row hrow
  exact ⟨row', hrow', le_trans hle hhigh⟩

/-- The live signal of an earlier committed request is at most the watermark a later request of
its session finds. -/
theorem LiveCovered.le_bound (h : LiveCovered e db) {live : LiveSignal} {session producer : String}
    (hlabel : e.label = (.sync env batch, some (.ok r))) (hlive : batch.liveSignal = some live)
    (hsession : session = batch.sessionID) :
    live.sequence ≤ (boundRow db session producer).liveSequenceHigh := by
  obtain ⟨row, hrow, hle⟩ := h env batch r live hlabel hlive
  rw [boundRow, hsession, hrow]
  exact hle

/-- A request refreshes the evidence only with a live signal above the watermark it finds. -/
theorem refreshed_above (hinv : ReplayInvariant db) {answer : Answer}
    (h : centerStep db (.sync env batch, answer) db')
    (hrefreshed : ¬ SameEvidence db.assets db'.assets) :
    ∃ live, batch.liveSignal = some live ∧
      (boundRow db batch.sessionID batch.producerID).liveSequenceHigh < live.sequence := by
  cases hrun : applyBatch env batch db with
  | error e =>
    simp only [centerStep, handle, Tx.run_of_error hrun] at h
    cases h
    exact absurd (.refl _) hrefreshed
  | ok p =>
    simp only [centerStep, handle, Tx.run_of_ok (show applyBatch env batch db = .ok (p.1, p.2) from
      hrun)] at h
    cases h
    exact (applyBatch_evidence hinv hrun).resolve_left hrefreshed

/-! ## Requests from the backlog -/

section Backlog

open Houfeng.Runtime Routine

/-- Every request a program sends, whatever the answers are, has no live signal. -/
def SendsNoLiveSignal {α : Type} (action : Action α) : Prop :=
  Routine.Safe (fun (_ : Unit) _ _ _ => True) (fun _ o => ∀ r, o = .send r → r.liveSignal = none)
    (fun _ _ => True) (fun _ _ => True) action ()

theorem sendsNoLiveSignal_noteRetryAfter (e : ClientError) :
    SendsNoLiveSignal (noteRetryAfter e) := by
  cases e with
  | transport => exact safe_pure trivial
  | remote statusCode code retryAfter =>
    show Routine.Safe _ _ _ _ (ite _ _ _) _
    by_cases h : statusCode = 429 ∨ statusCode = 503
    · rw [if_pos h]
      refine safe_call_bind (by simp) fun now _ _ => ?_
      refine safe_call_bind (by simp) fun m _ _ => ⟨fun r hr => ?_, fun _ _ _ => trivial⟩
      cases hr
    · rw [if_neg h]
      exact safe_pure trivial

theorem sendsNoLiveSignal_transmit (cfg : Config) {request : SyncRequest}
    (h : request.liveSignal = none) : SendsNoLiveSignal (transmitSyncRequest cfg request) := by
  refine safe_bind (safe_call_bind (by simp) fun answer _ _ => ?_)
  cases answer with
  | error e => exact safe_throw trivial
  | ok state =>
    show Routine.Safe _ _ _ _ (ite _ _ _) _
    split_ifs
    · exact safe_throw trivial
    refine safe_pure (safe_call_bind (fun r hr => ?_) fun _ _ _ => ?_)
    · cases hr
      exact h
    refine safe_call_bind (by simp) fun reply _ _ => ?_
    rcases reply with e | response
    · refine safe_bind (safe_imp (sendsNoLiveSignal_noteRetryAfter e) (fun _ _ _ => ?_)
        fun _ _ h => h)
      exact safe_throw trivial
    · dsimp only
      split
      · exact safe_throw trivial
      · exact safe_pure trivial

/-- A request from the backlog is sent without a live signal, whatever was queued. -/
theorem sendsNoLiveSignal_backlog (cfg : Config) (entry : SyncQueue.Entry) :
    SendsNoLiveSignal (syncRequest cfg entry false) := by
  rw [syncRequest, if_neg Bool.false_ne_true]
  exact sendsNoLiveSignal_transmit cfg rfl

end Backlog

/-! ## Agent and center -/

section Runs

open Houfeng.Runtime

variable {cfg : Config} {session : String} {a₀ a : Agent} {sends : List (RunStep Agent Label)}
  {t : List (RunStep Database (Event × Answer))}

/-- Live evidence is never replayed. The live sequences of the requests an agent sends on a session
grow, and at the center, whatever arrives in whatever order, a request refreshes evidence only if its
live sequence is above that of every request committed before it. -/
theorem live_evidence_never_replayed (hinit : a₀.Initial)
    (hagent : Run (AgentStep cfg (some session)) a₀ sends a) (hfresh : db₀.Fresh)
    (hcenter : Run centerStep db₀ t db) :
    (a.state.sent.reverse.Pairwise fun r r' => ∀ l l', r.liveSignal = some l →
      r'.liveSignal = some l' → l.sequence < l'.sequence) ∧
    (∀ entry, SendsNoLiveSignal (syncRequest cfg entry false)) ∧
    (∀ e ∈ t, ∀ env batch, e.label.1 = .sync env batch → batch.liveSignal = none →
      SameEvidence e.before.assets e.after.assets) ∧
    t.Pairwise fun e e' => ∀ env batch r live env' batch',
      e.label = (.sync env batch, some (.ok r)) → batch.liveSignal = some live →
      e'.label.1 = .sync env' batch' → batch'.sessionID = batch.sessionID →
      (¬ SameEvidence e'.before.assets e'.after.assets →
        ∃ live', batch'.liveSignal = some live' ∧ live.sequence < live'.sequence) ∧
      (batch' = batch → SameEvidence e'.before.assets e'.after.assets) := by
  refine ⟨?_, sendsNoLiveSignal_backlog cfg, ?_, ?_⟩
  · have hgood := hagent.inv (fun _ _ _ h hs => agentStep_good h hs) hinit.good
    rw [List.pairwise_reverse]
    refine (hgood.inv.session session rfl).increasing.imp fun h l l' hl hl' => ?_
    exact h l' l hl' hl
  · rintro e he env batch hevent hnone
    obtain ⟨hinv, hstep⟩ := hcenter.forall_entry centerStep_invariant hfresh.invariant e he
    obtain ⟨before, ⟨event, answer⟩, after⟩ := e
    obtain rfl : event = .sync env batch := hevent
    by_contra hrefreshed
    obtain ⟨live, hlive, -⟩ := refreshed_above hinv hstep hrefreshed
    simp [hnone] at hlive
  · refine hcenter.pairwise centerStep_invariant (fun _ _ _ hinv h => liveCovered_step hinv h)
      (fun _ _ _ _ hinv hcovered h => hcovered.step hinv h) ?_ hfresh.invariant
    rintro e db ⟨event, answer⟩ db' hinv hcovered hstep env batch r live env' batch' hlabel hlive
      hevent hsession
    obtain rfl : event = .sync env' batch' := hevent
    have habove : ¬ SameEvidence db.assets db'.assets →
        ∃ live', batch'.liveSignal = some live' ∧ live.sequence < live'.sequence := by
      intro hrefreshed
      obtain ⟨live', hlive', hlt⟩ := refreshed_above hinv hstep hrefreshed
      exact ⟨live', hlive', lt_of_le_of_lt (hcovered.le_bound hlabel hlive hsession) hlt⟩
    refine ⟨habove, fun hsame => ?_⟩
    by_contra hrefreshed
    obtain ⟨live', hlive', hlt⟩ := habove hrefreshed
    rw [hsame, hlive] at hlive'
    cases hlive'
    exact lt_irrefl _ hlt

/-- The sample center with a batch that has a live signal, and the same batch delivered again. -/
theorem live_evidence_never_replayed_duplicate :
    let batch := sampleBatch sampleProducer 1 (Vector.replicate 32 0) (some ⟨7, "fp"⟩)
    let first := handle sampleCenter (.sync sampleEnv batch)
    let again := handle first.2 (.sync { sampleEnv with clockTimestamp := 2 } batch)
    (first.2.assets.sessions.lookup "session").map (·.lastTrustedOnlineAt) = some (some 1) ∧
      SameEvidence first.2.assets again.2.assets ∧
      (afterSteps sampleConfig sampleSurroundings 36 sampleAgent).state.sent.reverse.Pairwise
        fun r r' => ∀ l l', r.liveSignal = some l → r'.liveSignal = some l' →
          l.sequence < l'.sequence := by
  intro batch first again
  have hcenter : Run centerStep sampleCenter
      [⟨sampleCenter, (.sync sampleEnv batch, first.1), first.2⟩,
        ⟨first.2, (.sync { sampleEnv with clockTimestamp := 2 } batch, again.1), again.2⟩] again.2 :=
    .cons rfl (.cons rfl (.nil _))
  have hfits : ∀ session, some "session" = some session →
      sessionOfToken sampleSurroundings.syncToken = session := by
    rintro _ ⟨⟩
    decide
  obtain ⟨hsent, -, -, hpairs⟩ := live_evidence_never_replayed sampleAgent_initial
    (run_stepsFrom sampleConfig sampleSurroundings (some "session") hfits 36 sampleAgent)
    ⟨rfl, rfl⟩ hcenter
  obtain ⟨r, hr⟩ : ∃ r, first.1 = some (.ok r) := by
    have hok : first.1.map Except.isOk = some true := by decide
    rcases hfirst : first.1 with _ | _ | r
    · simp [hfirst] at hok
    · simp [hfirst, Except.isOk, Except.toBool] at hok
    · exact ⟨r, rfl⟩
  have hpair := (List.pairwise_cons.mp hpairs).1 _ (List.mem_singleton_self _)
  refine ⟨by decide, (hpair sampleEnv batch r ⟨7, "fp"⟩ _ batch ?_ rfl rfl rfl).2 rfl, hsent⟩
  rw [hr]

end Runs

end Houfeng.Center
