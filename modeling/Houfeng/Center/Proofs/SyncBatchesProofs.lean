import Houfeng.Center.SyncBatches
import Houfeng.Center.Proofs.DatabaseProofs

/-!
# What a sync transaction can do

One specification per function of the transaction, assembled into `applyBatch_cases`: every way a
request can be answered, with the state it leaves. All later results about the center use only
that lemma.
-/

namespace Houfeng.Center

open AgentApi Option Tx

variable {env : Env} {batch : Batch} {db db' : Database} {s : Statement} {α : Type}

theorem statement_of_ok (body : SyncTx α) (h : env.fails s = false) :
    statement env s body = body := by
  simp [statement, h]

theorem statement_of_fails (body : SyncTx α) (h : env.fails s = true) :
    statement env s body db = .error (.storage s) := by
  simp [statement, h]

def Fault (env : Env) (e : SyncError) : Prop := ∃ s, e = .storage s ∧ env.fails s = true

/-! ## Protocol admission -/

structure ProtocolValid (batch : Batch) : Prop where
  retired_le : batch.retiredThrough ≤ batch.allocatedThrough
  sequence_nonneg : 0 ≤ batch.batchSequence
  sequence_le : batch.batchSequence ≤ batch.allocatedThrough
  live_pos : ∀ l, batch.liveSignal = some l → 0 < l.sequence
  unretired : 0 < batch.batchSequence → batch.retiredThrough < batch.batchSequence

theorem validateBatchProtocol_ok (h : validateBatchProtocol batch = .ok ()) :
    ProtocolValid batch := by
  unfold validateBatchProtocol at h
  split_ifs at h with h1 h2 h3 h4 h5 h6 h7
  all_goals
    push Not at h2
    obtain ⟨-, -, -, -, hra, hs, hsa⟩ := h2
    refine ⟨hra, hs, hsa, ?_, by omega⟩
    intro l hl
    rw [hl] at h3
    simp only [any_some, Bool.or_eq_true, decide_eq_true_eq, not_or, not_le] at h3
    exact h3.1

theorem validateBatchProtocol_error {e : SyncError} (h : validateBatchProtocol batch = .error e) :
    e = .syncProtocolRequired ∨ e = .invalidReplayState ∨ e = .syncBatchRetired ∨
      e = .heartbeatRequired := by
  simp only [validateBatchProtocol] at h
  split_ifs at h <;> simp only [Except.error.injEq] at h <;> simp [← h]

/-! ## Session admission -/

/-- The state under which a batch was admitted: its session's row joined with the instance and the
VPS, the token and all fingerprints checked. -/
structure Accepted (env : Env) (batch : Batch) (db : Database) (state : AcceptedSyncBatchState)
    (session : Session) (inst : Instance) (vps : Vps) : Prop where
  row : sessionRow db.assets batch.monitoringInstanceID batch.sessionID = some (session, inst, vps)
  token : env.tokenMatches session.tokenHash batch.syncToken = true
  live : ∀ l, batch.liveSignal = some l → l.fingerprint = session.fingerprintHash
  heartbeats : ∀ f ∈ batch.heartbeats, f.fingerprint = session.fingerprintHash
  hostSamples : ∀ f ∈ batch.hostSamples, f.fingerprint = session.fingerprintHash
  probeObservations : ∀ f ∈ batch.probeObservations, f.fingerprint = session.fingerprintHash
  ipQualityReports : ∀ f ∈ batch.ipQualityReports, f.fingerprint = session.fingerprintHash
  state_eq : state =
    { capability := if inst.bindingStatus = .bound then session.capability else .evidenceOnly
      vpsID := inst.vpsID
      bindingFingerprint := session.fingerprintHash
      lifecycleStatus := inst.lifecycleStatus
      monitoringStatus := inst.monitoringStatus
      archived := vps.archived
      vpsArchivedAt := vps.archivedAt }

theorem all_of_any_ne {fp : String} {l : List α} {f : α → String}
    (h : ¬(l.any fun x => f x ≠ fp) = true) : ∀ x ∈ l, f x = fp := by
  simpa using h

theorem Accepted.session_isSome {state : AcceptedSyncBatchState} {session : Session}
    {inst : Instance} {vps : Vps} (h : Accepted env batch db state session inst vps) :
    (db.assets.sessions.lookup batch.sessionID).isSome := by
  have hrow := h.row
  simp only [sessionRow, bind_eq_bind, bind_eq_some_iff] at hrow
  obtain ⟨s, hs, -⟩ := hrow
  simp [hs]

/-- Session admission only reads. -/
theorem validateAcceptedSyncBatch_cases (env : Env) (batch : Batch) (db : Database) :
    (∃ state session inst vps, validateAcceptedSyncBatch env batch db = .ok (state, db) ∧
      Accepted env batch db state session inst vps) ∨
    (∃ e, validateAcceptedSyncBatch env batch db = .error e ∧
      (e = .invalidSyncToken ∨ e = .bindingNotAccepted ∨ Fault env e)) := by
  unfold validateAcceptedSyncBatch
  by_cases hf : env.fails .queryBatchState = true
  · refine .inr ⟨_, bind_of_error (statement_of_fails _ hf), .inr (.inr ⟨_, rfl, hf⟩)⟩
  · rw [statement_of_ok _ (by simpa using hf), bind_of_ok (get_apply db)]
    cases hrow : sessionRow db.assets batch.monitoringInstanceID batch.sessionID with
    | none => exact .inr ⟨_, rfl, .inl rfl⟩
    | some row =>
      obtain ⟨session, inst, vps⟩ := row
      dsimp only
      split_ifs with htoken hlive hbeats hsamples hprobes hreports hbound
      · exact .inr ⟨_, rfl, .inl rfl⟩
      iterate 5 exact .inr ⟨_, rfl, .inr (.inl rfl)⟩
      all_goals
        refine .inl ⟨_, session, inst, vps, rfl, hrow, by simpa using htoken, ?_,
          all_of_any_ne hbeats, all_of_any_ne hsamples, all_of_any_ne hprobes,
          all_of_any_ne hreports, by simp [hbound]⟩
        intro l hl
        simpa [hl] using hlive

/-! ## The replay state -/

def advanceRow (row : ReplayState) (batch : Batch) : ReplayState :=
  { row with
    retiredThrough := max row.retiredThrough batch.retiredThrough
    allocatedThrough := max row.allocatedThrough batch.allocatedThrough }

variable {row : ReplayState}

theorem advanceRow_valid (h : row.Valid) (hb : ProtocolValid batch) :
    (advanceRow row batch).Valid := by
  have h1 := h.retired_nonneg
  have h2 := h.retired_le
  have h3 := hb.retired_le
  refine ⟨?_, ?_, h.live_nonneg⟩
  · show 0 ≤ max row.retiredThrough batch.retiredThrough
    omega
  · show max row.retiredThrough batch.retiredThrough ≤
      max row.allocatedThrough batch.allocatedThrough
    omega

theorem advanceRow_monotonic (row : ReplayState) (batch : Batch) :
    replayMonotonic row (advanceRow row batch) = true := by
  simp [replayMonotonic, advanceRow]

/-- The database after `acceptSyncReplayState`: the row of the session is bound and advanced, and
its receipts up to the new floor are gone. -/
structure Advanced (db db' : Database) (batch : Batch) : Prop where
  assets : db'.assets = db.assets
  facts : db'.facts = db.facts
  row : db'.replayStates.lookup batch.sessionID =
    some (advanceRow (boundRow db batch.sessionID batch.producerID) batch)
  others : ∀ s, s ≠ batch.sessionID → db'.replayStates.lookup s = db.replayStates.lookup s
  receipts : ∀ s n d, db'.receipts.lookup (s, n) = some d ↔
    db.receipts.lookup (s, n) = some d ∧
      (s = batch.sessionID →
        (advanceRow (boundRow db batch.sessionID batch.producerID) batch).retiredThrough < n)

theorem advanceReplayControls_spec (hinv : ReplayInvariant db) (hb : ProtocolValid batch)
    (hrow : db.replayStates.lookup batch.sessionID = some row) :
    ∃ b db', updateReplayState batch.sessionID
        (fun r => r.retiredThrough ≠ (advanceRow row batch).retiredThrough ||
          r.allocatedThrough ≠ (advanceRow row batch).allocatedThrough)
        (fun r => { r with
          retiredThrough := (advanceRow row batch).retiredThrough
          allocatedThrough := (advanceRow row batch).allocatedThrough }) true db = .ok (b, db') ∧
      Advanced db db' batch := by
  have hbound : boundRow db batch.sessionID batch.producerID = row := by
    rw [boundRow, hrow]
    rfl
  have habove : ∀ {s n d}, db.receipts.lookup (s, n) = some d → s = batch.sessionID →
      row.retiredThrough < n := by
    rintro s n d hd rfl
    obtain ⟨row', hrow', hlt, -⟩ := hinv.window _ n d hd
    rw [hrow] at hrow'
    obtain rfl := some.inj hrow'
    exact hlt
  by_cases hsame : row.retiredThrough = (advanceRow row batch).retiredThrough ∧
      row.allocatedThrough = (advanceRow row batch).allocatedThrough
  · have heq : advanceRow row batch = row := by
      obtain ⟨p, r, a, l⟩ := row
      simp only [advanceRow] at hsame ⊢
      rw [← hsame.1, ← hsame.2]
    refine ⟨false, db, updateReplayState_of_not hrow (by simp [← hsame.1, ← hsame.2]), rfl, rfl,
      by rw [hbound, heq, hrow], fun _ _ => rfl, fun s n d => ?_⟩
    rw [hbound, heq]
    exact ⟨fun hd => ⟨hd, habove hd⟩, fun hd => hd.1⟩
  · refine ⟨true, _, updateReplayState_spec _ _ _ hrow (by simpa using (not_and_or.mp hsame))
      (advanceRow_monotonic row batch) (advanceRow_valid (hinv.valid _ _ hrow) hb), rfl, rfl, ?_, ?_,
      ?_⟩
    · rw [hbound]
      exact AList.lookup_insert _
    · exact fun s hs => AList.lookup_insert_ne hs
    · intro s n d
      rw [hbound]
      split_ifs with hret
      · rw [Table.lookup_deleteWhere_eq_some]
        simp only [Bool.and_eq_false_imp, decide_eq_true_eq, decide_eq_false_iff_not, not_le]
      · refine ⟨fun hd => ⟨hd, fun hs => ?_⟩, fun hd => hd.1⟩
        have hlt := habove hd hs
        simp only [true_and, gt_iff_lt, not_lt] at hret
        exact lt_of_le_of_lt hret hlt

variable {floor : Int}

theorem acceptSyncReplayState_cases (hinv : ReplayInvariant db) (hb : ProtocolValid batch)
    (hsession : (db.assets.sessions.lookup batch.sessionID).isSome) (env : Env)
    (hbound : boundRow db batch.sessionID batch.producerID = row)
    (hfloor : max row.retiredThrough batch.retiredThrough = floor) :
    (∃ db', acceptSyncReplayState env batch db = .ok (floor, db') ∧ Advanced db db' batch ∧
      (0 < batch.batchSequence → floor < batch.batchSequence)) ∨
    (acceptSyncReplayState env batch db = .error .syncProducerMismatch ∧
      equalFold row.producerID batch.producerID = false) ∨
    (acceptSyncReplayState env batch db = .error .syncBatchRetired ∧
      0 < batch.batchSequence ∧ batch.batchSequence ≤ floor) ∨
    (∃ e, acceptSyncReplayState env batch db = .error e ∧ Fault env e) := by
  unfold acceptSyncReplayState
  by_cases hf : env.fails .initializeReplayState = true
  · exact .inr (.inr (.inr ⟨_, bind_of_error (statement_of_fails _ hf), _, rfl, hf⟩))
  rw [statement_of_ok _ (by simpa using hf)]
  obtain ⟨db₁, hins, ha, hfacts, hrec, hrow, hothers⟩ :=
    insertReplayState_spec batch.producerID hsession
  rw [bind_of_ok hins]
  by_cases hf' : env.fails .lockReplayState = true
  · exact .inr (.inr (.inr ⟨_, bind_of_error (statement_of_fails _ hf'), _, rfl, hf'⟩))
  rw [statement_of_ok _ (by simpa using hf'), bind_of_ok (get_apply db₁)]
  -- binding keeps the invariant, so the update below runs on a valid database
  have hinv1 : ReplayInvariant db₁ := by
    constructor
    · intro s r hr
      by_cases hs : s = batch.sessionID
      · subst hs
        rw [hrow] at hr
        obtain rfl := some.inj hr
        exact boundRow_valid hinv _ _
      · exact hinv.valid s r (by rw [← hothers s hs, hr])
    · intro s n d hd
      rw [hrec] at hd
      obtain ⟨r, hr, h1⟩ := hinv.window s n d hd
      by_cases hs : s = batch.sessionID
      · subst hs
        refine ⟨_, hrow, ?_⟩
        rw [boundRow, hr]
        exact h1
      · exact ⟨r, by rw [hothers s hs, hr], h1⟩
  have hfloor' : (if batch.retiredThrough > row.retiredThrough then batch.retiredThrough
      else row.retiredThrough) = floor := by
    split_ifs <;> omega
  have hallocated : (if batch.allocatedThrough > row.allocatedThrough then batch.allocatedThrough
      else row.allocatedThrough) = (advanceRow row batch).allocatedThrough := by
    show _ = max row.allocatedThrough batch.allocatedThrough
    split_ifs <;> omega
  rw [hbound] at hrow
  simp only [hrow, hfloor', hallocated]
  by_cases hfold : equalFold row.producerID batch.producerID = false
  · exact .inr (.inl ⟨by rw [if_pos hfold]; rfl, hfold⟩)
  rw [if_neg hfold]
  by_cases hret : batch.batchSequence > 0 ∧ batch.batchSequence ≤ floor
  · exact .inr (.inr (.inl ⟨by rw [if_pos hret]; rfl, hret⟩))
  rw [if_neg hret]
  by_cases hf'' : env.fails .advanceReplayControls = true
  · exact .inr (.inr (.inr ⟨_, bind_of_error (statement_of_fails _ hf''), _, rfl, hf''⟩))
  rw [statement_of_ok _ (by simpa using hf'')]
  obtain ⟨b, db', hupd, hadv⟩ := advanceReplayControls_spec hinv1 hb hrow
  rw [show (advanceRow row batch).retiredThrough = floor from hfloor] at hupd
  have hbound1 : boundRow db₁ batch.sessionID batch.producerID = row := by
    rw [boundRow, hrow]
    rfl
  refine .inl ⟨db', bind_of_ok hupd, ⟨?_, ?_, ?_, ?_, ?_⟩, by omega⟩
  · rw [hadv.assets, ha]
  · rw [hadv.facts, hfacts]
  · rw [hadv.row, hbound1, hbound]
  · intro s hs
    rw [hadv.others s hs, hothers s hs]
  · intro s n d
    rw [hadv.receipts, hrec, hbound1, hbound]

/-! ## Frames -/

structure AssetsOnly (db₀ db : Database) : Prop where
  replay : db.replayStates = db₀.replayStates
  receipts : db.receipts = db₀.receipts
  facts : db.facts = db₀.facts

structure FactsAdded (db₀ db : Database) : Prop where
  replay : db.replayStates = db₀.replayStates
  receipts : db.receipts = db₀.receipts
  facts : db₀.facts <+: db.facts

def RecordError (env : Env) (e : SyncError) : Prop :=
  e = .bindingNotAccepted ∨ e = .monitoringInstanceNotFound ∨ e = .invalidIPQualityReport ∨
    (∃ reason, e = .invalidProbeObservation reason) ∨ Fault env e

theorem RecordError.fault (h : env.fails s = true) : RecordError env (.storage s) :=
  Or.inr (.inr (.inr (.inr ⟨s, rfl, h⟩)))

variable {P : Database → Prop} {E : SyncError → Prop}

theorem triple_statement {Q : α → Database → Prop} {body : SyncTx α}
    (hE : env.fails s = true → E (.storage s)) (h : Triple P body Q E) :
    Triple P (statement env s body) Q E := by
  unfold statement
  exact .ite (fun hf => .throw (hE hf)) fun _ => h

theorem triple_get : Triple P (get : SyncTx Database) (fun a db => a = db ∧ P db) E :=
  fun _ hs => ⟨rfl, hs⟩

variable {db₀ : Database}

theorem triple_modifyAssets (f : Assets → Assets) : Keeps (AssetsOnly db₀) (modifyAssets f) E :=
  fun _ hs => ⟨hs.replay, hs.receipts, hs.facts⟩

theorem triple_modifyAssets_facts (f : Assets → Assets) :
    Keeps (FactsAdded db₀) (modifyAssets f) E :=
  fun _ hs => ⟨hs.replay, hs.receipts, hs.facts⟩

theorem triple_insertFact (fact : Fact) : Keeps (FactsAdded db₀) (insertFact fact) E :=
  fun _ hs => ⟨hs.replay, hs.receipts, hs.facts.trans (List.prefix_append _ _)⟩

/-! ## Live evidence -/

/-- The database after an advancing live signal: the live watermark moved to a larger sequence. -/
structure LiveAdvanced (db db' : Database) (batch : Batch) (row : ReplayState) (live : LiveSignal) :
    Prop where
  signal : batch.liveSignal = some live
  above : row.liveSequenceHigh < live.sequence
  row : db'.replayStates.lookup batch.sessionID =
    some { row with liveSequenceHigh := live.sequence }
  others : ∀ s, s ≠ batch.sessionID → db'.replayStates.lookup s = db.replayStates.lookup s
  receipts : db'.receipts = db.receipts
  facts : db'.facts = db.facts

/-- Touching the evidence changes only administered tables. -/
theorem touchOnlineEvidence_triple (env : Env) (batch : Batch) (state : AcceptedSyncBatchState)
    (db₀ : Database) :
    Keeps (AssetsOnly db₀) (touchOnlineEvidence env batch state) (Fault env) := by
  refine .bind (triple_statement (fun h => ⟨_, rfl, h⟩) (triple_modifyAssets _)) fun _ => ?_
  refine .bind (triple_statement (fun h => ⟨_, rfl, h⟩) (triple_modifyAssets _)) fun _ => ?_
  refine .ite (fun _ => ?_) fun _ => .pure fun _ h => h
  exact triple_statement (fun h => ⟨_, rfl, h⟩) (triple_modifyAssets _)

theorem recordTrustedLiveSignal_cases (env : Env) (state : AcceptedSyncBatchState)
    (hb : ProtocolValid batch)
    (hrow : db.replayStates.lookup batch.sessionID = some row) (hvalid : row.Valid) :
    (∃ db' live, recordTrustedLiveSignal env batch state db = .ok (true, db') ∧
      LiveAdvanced db db' batch row live) ∨
    (recordTrustedLiveSignal env batch state db = .ok (false, db) ∧
      ∀ live, batch.liveSignal = some live → live.sequence ≤ row.liveSequenceHigh) ∨
    (∃ e, recordTrustedLiveSignal env batch state db = .error e ∧ Fault env e) := by
  unfold recordTrustedLiveSignal
  cases hlive : batch.liveSignal with
  | none => exact .inr (.inl ⟨rfl, by simp⟩)
  | some live =>
    dsimp only
    by_cases hf : env.fails .advanceLiveSignal = true
    · exact .inr (.inr ⟨_, bind_of_error (statement_of_fails _ hf), _, rfl, hf⟩)
    rw [statement_of_ok _ (by simpa using hf)]
    by_cases hlt : row.liveSequenceHigh < live.sequence
    · have hupd := updateReplayState_spec (fun r => r.liveSequenceHigh < live.sequence)
        (fun r => { r with liveSequenceHigh := live.sequence }) false hrow (by simp [hlt])
        (by simp [replayMonotonic, hlt.le])
        ⟨hvalid.retired_nonneg, hvalid.retired_le, (hb.live_pos live hlive).le⟩
      rw [bind_of_ok hupd]
      simp only [Bool.true_eq_false, if_false, Bool.false_eq_true, false_and]
      obtain ⟨db₁, hdb1⟩ : ∃ db₁ : Database, db₁ = { db with
          replayStates := db.replayStates.insert batch.sessionID
            { row with liveSequenceHigh := live.sequence } } := ⟨_, rfl⟩
      rw [← hdb1]
      have htriple := touchOnlineEvidence_triple env batch state db₁
      cases hres : touchOnlineEvidence env batch state db₁ with
      | error e =>
        exact .inr (.inr ⟨e, bind_of_error hres, htriple.error ⟨rfl, rfl, rfl⟩ hres⟩)
      | ok p =>
        have hframe := htriple.ok ⟨rfl, rfl, rfl⟩ hres
        refine .inl ⟨p.2, live, bind_of_ok hres, hlive, hlt, ?_, ?_, ?_, ?_⟩
        · rw [hframe.replay, hdb1]
          exact AList.lookup_insert _
        · intro s hs
          rw [hframe.replay, hdb1]
          exact AList.lookup_insert_ne hs
        · rw [hframe.receipts, hdb1]
        · rw [hframe.facts, hdb1]
    · rw [bind_of_ok (updateReplayState_of_not hrow (by simpa using hlt))]
      refine .inr (.inl ⟨rfl, ?_⟩)
      intro l hl
      obtain rfl := some.inj hl
      omega

/-! ## Receipts and facts -/

theorem validateProbeObservation_error {o : ProbeObservationWrite} {e : SyncError}
    (h : validateProbeObservation o = .error e) : ∃ reason, e = .invalidProbeObservation reason := by
  simp only [validateProbeObservation, invalidProbe, bind, Except.bind, pure, Except.pure] at h
  split_ifs at h <;> simp only [Except.error.injEq] at h <;> exact ⟨_, h.symm⟩

section Record

variable {db₀ : Database}

theorem validateProbeObservations_triple (writes : List ProbeObservationWrite) (P : Database → Prop) :
    Keeps P (validateProbeObservations env writes) (RecordError env) := by
  refine .forM fun o _ => ?_
  cases hv : validateProbeObservation o with
  | error e =>
    exact .throw (.inr (.inr (.inr (.inl (validateProbeObservation_error hv)))))
  | ok u =>
    refine .bind (triple_statement RecordError.fault triple_get) fun db => ?_
    have invalid : ∀ reason, RecordError env (.invalidProbeObservation reason) :=
      fun reason => .inr (.inr (.inr (.inl ⟨reason, rfl⟩)))
    cases db.assets.probeItems.lookup o.probeItemID with
    | none => exact .throw (invalid _)
    | some metadata =>
      refine .ite (fun _ => .throw (invalid _)) fun _ => ?_
      refine .ite (fun _ => .throw (invalid _)) fun _ => ?_
      exact .pure fun _ h => h.2

theorem recordHeartbeatBatch_triple (id fp : String) (writes : List HeartbeatPayload) :
    Keeps (FactsAdded db₀) (recordHeartbeatBatch env id fp writes) (RecordError env) := by
  refine .bind (Triple.forM fun w _ => ?_) fun _ => .pure fun _ h => h
  refine .ite (fun _ => .throw (.inl rfl)) fun _ => ?_
  exact triple_statement RecordError.fault (triple_insertFact _)

theorem recordObservationBatch_triple (samples : List HostSampleWrite)
    (observations : List ProbeObservationWrite) :
    Keeps (FactsAdded db₀) (recordObservationBatch env samples observations) (RecordError env) := by
  refine .bind (Triple.forM fun s _ => ?_) fun _ => .forM fun o _ => ?_
  · exact triple_statement RecordError.fault (triple_insertFact _)
  · exact triple_statement RecordError.fault (triple_insertFact _)

theorem recordIPQualityReports_triple (reports : List ReportWrite) :
    Keeps (FactsAdded db₀) (recordIPQualityReports env reports) (RecordError env) := by
  refine .forM fun r _ => ?_
  split
  · exact .throw (.inr (.inr (.inl rfl)))
  · exact triple_statement RecordError.fault (triple_insertFact _)

theorem advanceMonitoringInstanceSyncState_triple (id : String) (at_ : Int) (l : LifecycleStatus) :
    Keeps (FactsAdded db₀) (advanceMonitoringInstanceSyncState env id at_ l) (RecordError env) := by
  refine .bind (triple_statement RecordError.fault triple_get) fun db => ?_
  split
  · exact .throw (.inr (.inl rfl))
  · exact (triple_modifyAssets_facts _).conseq (fun _ h => h.2) fun _ _ h => h

theorem storeCommandResults_triple (batch : Batch) :
    Keeps (FactsAdded db₀) (storeCommandResults env batch) (RecordError env) := by
  refine .forM fun r _ => ?_
  refine .ite (fun _ => .pure fun _ h => h) fun _ => ?_
  refine .bind (triple_statement RecordError.fault triple_get) fun db => ?_
  split
  · exact .pure fun _ h => h.2
  · refine .ite (fun _ => ?_) fun _ => .pure fun _ h => h.2
    refine .bind ((triple_modifyAssets_facts _).conseq (fun _ h => h.2) fun _ _ h => h)
      fun _ => ?_
    exact triple_statement RecordError.fault (triple_insertFact _)

theorem dispatchPendingAction_triple (id : String) :
    Keeps (FactsAdded db₀) (dispatchPendingAction env id) (RecordError env) := by
  refine .bind (triple_statement RecordError.fault triple_get) fun db => ?_
  split
  · exact .pure fun _ h => h.2
  · split
    · refine .bind (triple_statement RecordError.fault
        ((triple_modifyAssets_facts _).conseq (fun _ h => h.2) fun _ _ h => h)) fun _ => ?_
      refine .bind (triple_statement RecordError.fault (triple_insertFact _)) fun _ => ?_
      exact .pure fun _ h => h
    · exact .pure fun _ h => h.2

theorem buildPlan_triple (id : String) (P : Database → Prop) :
    Keeps P (buildPlan env id) (RecordError env) := by
  refine .bind (triple_statement RecordError.fault triple_get) fun db => ?_
  split
  · exact .throw (.inr (.inl rfl))
  · exact .pure fun _ h => h.2

theorem finish_triple (batch : Batch) (state : AcceptedSyncBatchState) (floor : Int) (live : Bool)
    (disposition : Disposition) (stop : Bool) (plan : SyncPlan) (P : Database → Prop) :
    Triple P (finish env batch state floor live disposition stop plan)
      (fun r db => r.disposition = disposition ∧ P db) (Fault env) := by
  have hcommit : Triple P (statement env .commit (pure ())) (fun _ => P) (Fault env) :=
    triple_statement (fun h => ⟨_, rfl, h⟩) (Triple.pure fun _ h => h)
  exact .bind hcommit fun _ => .pure fun _ h => ⟨rfl, h⟩

end Record

def withReceipt (db : Database) (batch : Batch) : Database :=
  { db with receipts :=
      db.receipts.insert (batch.sessionID, batch.batchSequence) batch.payloadDigest.toList }

theorem recordBatch_triple (env : Env) (state : AcceptedSyncBatchState) (live : Bool)
    (hrow : db.replayStates.lookup batch.sessionID = some row)
    (hfloor : row.retiredThrough = floor) (hpos : 0 < batch.batchSequence)
    (habove : floor < batch.batchSequence) (halloc : batch.batchSequence ≤ row.allocatedThrough)
    (hwindow : batch.batchSequence - floor ≤ syncReplayWindow)
    (hnew : db.receipts.lookup (batch.sessionID, batch.batchSequence) = none) :
    Triple (· = db) (recordBatch env batch state floor live)
      (fun r db' => r.disposition = .recorded ∧ FactsAdded (withReceipt db batch) db')
      (RecordError env) := by
  subst hfloor
  have hreceipt : Triple (· = db)
      (insertReceipt batch.sessionID batch.batchSequence batch.payloadDigest.toList)
      (fun _ => FactsAdded (withReceipt db batch)) (RecordError env) := by
    rintro _ rfl
    rw [insertReceipt_spec hrow hpos habove halloc hwindow (by simp) hnew]
    exact ⟨rfl, rfl, List.prefix_refl _⟩
  refine .bind (validateProbeObservations_triple _ _) fun _ => ?_
  refine .bind (triple_statement RecordError.fault hreceipt) fun _ => ?_
  refine .bind (recordHeartbeatBatch_triple _ _ _) fun _ => ?_
  refine .bind (recordObservationBatch_triple _ _) fun _ => ?_
  refine .bind (recordIPQualityReports_triple _) fun _ => ?_
  refine .bind (advanceMonitoringInstanceSyncState_triple _ _ _) fun _ => ?_
  refine .bind (storeCommandResults_triple _) fun _ => ?_
  refine .bind (dispatchPendingAction_triple _) fun _ => ?_
  refine .bind (buildPlan_triple _ _) fun _ => ?_
  exact (finish_triple _ _ _ _ _ _ _ _).weaken fun e he => .inr (.inr (.inr (.inr he)))

/-- What becomes of a batch that is not refused. -/
inductive Disposed (db : Database) (batch : Batch) (floor : Int) : Disposition → Database → Prop
  | exactDuplicate (hpos : 0 < batch.batchSequence)
      (h : db.receipts.lookup (batch.sessionID, batch.batchSequence) =
        some batch.payloadDigest.toList) : Disposed db batch floor .exactDuplicate db
  | suppressed (hnew : 0 < batch.batchSequence →
        db.receipts.lookup (batch.sessionID, batch.batchSequence) = none) :
      Disposed db batch floor .suppressed db
  | deferred (hnew : db.receipts.lookup (batch.sessionID, batch.batchSequence) = none)
      (h : syncReplayWindow < batch.batchSequence - floor) : Disposed db batch floor .deferred db
  | recorded {db' : Database} (hpos : 0 < batch.batchSequence)
      (hnew : db.receipts.lookup (batch.sessionID, batch.batchSequence) = none)
      (hwindow : batch.batchSequence - floor ≤ syncReplayWindow)
      (h : FactsAdded (withReceipt db batch) db') : Disposed db batch floor .recorded db'

/-- How `disposeBatch` can fail on `db`: a receipt with another digest, an error while recording a
batch without receipt, or a fault. -/
def DisposeError (env : Env) (db : Database) (batch : Batch) (e : SyncError) : Prop :=
  (e = .syncBatchIdentityConflict ∧ 0 < batch.batchSequence ∧
    ∃ d, db.receipts.lookup (batch.sessionID, batch.batchSequence) = some d ∧
      d ≠ batch.payloadDigest.toList) ∨
  ((0 < batch.batchSequence →
    db.receipts.lookup (batch.sessionID, batch.batchSequence) = none) ∧ RecordError env e) ∨
  Fault env e

theorem disposeBatch_triple (env : Env) (state : AcceptedSyncBatchState) (live : Bool)
    (hb : ProtocolValid batch)
    (hrow : db.replayStates.lookup batch.sessionID = some row) (hfloor : row.retiredThrough = floor)
    (habove : 0 < batch.batchSequence → floor < batch.batchSequence)
    (halloc : batch.batchSequence ≤ row.allocatedThrough) :
    Triple (· = db) (disposeBatch env batch state floor live)
      (fun r db' => Disposed db batch floor r.disposition db') (DisposeError env db batch) := by
  have hfault : ∀ e, Fault env e → DisposeError env db batch e := fun e he => .inr (.inr he)
  have hfinish : ∀ {P : Database → Prop} {disposition : Disposition} {stop : Bool} {plan : SyncPlan},
      (∀ d, P d → d = db) → Disposed db batch floor disposition db →
      Triple P (finish env batch state floor live disposition stop plan)
        (fun r db' => Disposed db batch floor r.disposition db') (DisposeError env db batch) := by
    intro P disposition stop plan hP hdisposed
    refine ((finish_triple _ _ _ _ _ _ _ (· = db)).weaken hfault).conseq hP ?_
    rintro r _ ⟨hdisp, rfl⟩
    rwa [hdisp]
  have hread : Triple (· = db) (readReceipt env batch)
      (fun receipt d => d = db ∧ receipt = if 0 < batch.batchSequence then
        db.receipts.lookup (batch.sessionID, batch.batchSequence) else none)
      (DisposeError env db batch) := by
    refine .ite (fun hpos => ?_) fun hpos => .pure fun _ h => ⟨h, by rw [if_neg hpos]⟩
    refine .bind (triple_statement (fun h => hfault _ ⟨_, rfl, h⟩) triple_get) fun d => ?_
    refine .pure ?_
    rintro _ ⟨rfl, rfl⟩
    exact ⟨rfl, by rw [if_pos hpos]⟩
  refine .bind hread fun receipt => ?_
  cases receipt with
  | some digest =>
    refine .assume fun d hd => ?_
    obtain ⟨-, hd⟩ := hd
    split_ifs at hd with hpos
    refine .ite (fun hne => .throw ?_) fun heq => ?_
    · exact .inl ⟨rfl, hpos, digest, hd.symm, hne⟩
    · exact hfinish (fun _ h => h.1) (.exactDuplicate hpos (by rw [← hd, not_not.mp heq]))
  | none =>
    refine .assume fun d hd => ?_
    have hnew : 0 < batch.batchSequence →
        db.receipts.lookup (batch.sessionID, batch.batchSequence) = none := by
      intro hpos
      rw [if_pos hpos] at hd
      exact hd.2.symm
    refine .ite (fun _ => hfinish (fun _ h => h.1) (.suppressed hnew)) fun _ => ?_
    refine .ite (fun _ => ?_) fun hne => ?_
    · exact .bind ((buildPlan_triple _ _).weaken fun e he => .inr (.inl ⟨hnew, he⟩))
        fun _ => hfinish (fun _ h => h.1) (.suppressed hnew)
    have hpos : 0 < batch.batchSequence := by
      have := hb.sequence_nonneg
      omega
    refine .ite (fun hdefer => ?_) fun hwindow => ?_
    · exact hfinish (fun _ h => h.1) (.deferred (hnew hpos) hdefer)
    · refine ((recordBatch_triple env state live hrow hfloor hpos (habove hpos) halloc
        (not_lt.mp hwindow) (hnew hpos)).weaken fun e he => .inr (.inl ⟨hnew, he⟩)).conseq
        (fun _ h => h.1) ?_
      rintro r db' ⟨hdisp, hadded⟩
      rw [hdisp]
      exact .recorded hpos (hnew hpos) (not_lt.mp hwindow) hadded

/-! ## The whole transaction -/

/-- The floor after the watermarks of the batch. -/
def requestFloor (db : Database) (batch : Batch) : Int :=
  (advanceRow (boundRow db batch.sessionID batch.producerID) batch).retiredThrough

def LiveStep (db₁ db₂ : Database) (batch : Batch) (row : ReplayState) : Prop :=
  (∃ live, LiveAdvanced db₁ db₂ batch row live) ∨
  (db₂ = db₁ ∧ ∀ live, batch.liveSignal = some live → live.sequence ≤ row.liveSequenceHigh)

/-- A committed sync transaction: the watermarks advanced, the live signal was taken into account,
and the batch was disposed of. -/
structure Committed (db : Database) (batch : Batch) (r : Result) (db₁ db₂ db' : Database) :
    Prop where
  protocol : ProtocolValid batch
  above : 0 < batch.batchSequence → requestFloor db batch < batch.batchSequence
  advanced : Advanced db db₁ batch
  live : LiveStep db₁ db₂ batch (advanceRow (boundRow db batch.sessionID batch.producerID) batch)
  disposed : Disposed db₂ batch (requestFloor db batch) r.disposition db'

/-- Why a batch is refused. -/
inductive Refused (env : Env) (db : Database) (batch : Batch) : SyncError → Prop
  | protocol {e} (h : validateBatchProtocol batch = .error e) : Refused env db batch e
  | admission {e} (h : validateAcceptedSyncBatch env batch db = .error e)
      (he : e = .invalidSyncToken ∨ e = .bindingNotAccepted ∨ Fault env e) : Refused env db batch e
  | producer (h : equalFold (boundRow db batch.sessionID batch.producerID).producerID
      batch.producerID = false) : Refused env db batch .syncProducerMismatch
  | retired (hpos : 0 < batch.batchSequence) (h : batch.batchSequence ≤ requestFloor db batch) :
      Refused env db batch .syncBatchRetired
  | dispose {e} (habove : 0 < batch.batchSequence → requestFloor db batch < batch.batchSequence)
      (h : DisposeError env db batch e) : Refused env db batch e
  | fault {e} (h : Fault env e) : Refused env db batch e

variable {db₁ db₂ : Database}

namespace LiveStep

variable (h : LiveStep db₁ db₂ batch row)
include h

theorem kept (hrow : db₁.replayStates.lookup batch.sessionID = some row) :
    ∃ row', db₂.replayStates.lookup batch.sessionID = some row' ∧
      row'.producerID = row.producerID ∧ row'.retiredThrough = row.retiredThrough ∧
      row'.allocatedThrough = row.allocatedThrough ∧
      row.liveSequenceHigh ≤ row'.liveSequenceHigh := by
  obtain ⟨live, h⟩ | ⟨rfl, -⟩ := h
  · exact ⟨_, h.row, rfl, rfl, rfl, h.above.le⟩
  · exact ⟨row, hrow, rfl, rfl, rfl, le_refl _⟩

theorem receipts : db₂.receipts = db₁.receipts := by
  obtain ⟨live, h⟩ | ⟨rfl, -⟩ := h
  · exact h.receipts
  · rfl

theorem facts : db₂.facts = db₁.facts := by
  obtain ⟨live, h⟩ | ⟨rfl, -⟩ := h
  · exact h.facts
  · rfl

theorem others {s : String} (hs : s ≠ batch.sessionID) :
    db₂.replayStates.lookup s = db₁.replayStates.lookup s := by
  obtain ⟨live, h⟩ | ⟨rfl, -⟩ := h
  · exact h.others s hs
  · rfl

end LiveStep

theorem Advanced.lookup_receipt (h : Advanced db db₁ batch)
    (habove : requestFloor db batch < batch.batchSequence) :
    db₁.receipts.lookup (batch.sessionID, batch.batchSequence) =
      db.receipts.lookup (batch.sessionID, batch.batchSequence) := by
  refine Option.ext fun d => ?_
  rw [h.receipts]
  exact ⟨fun hd => hd.1, fun hd => ⟨hd, fun _ => habove⟩⟩

theorem applyBatch_cases (hinv : ReplayInvariant db) (env : Env) (batch : Batch) :
    (∃ r db₁ db₂ db', applyBatch env batch db = .ok (r, db') ∧ Committed db batch r db₁ db₂ db') ∨
    (∃ e, applyBatch env batch db = .error e ∧ Refused env db batch e) := by
  unfold applyBatch
  cases hp : validateBatchProtocol batch with
  | error e => exact .inr ⟨e, rfl, .protocol hp⟩
  | ok u =>
    have hb := validateBatchProtocol_ok hp
    dsimp only
    by_cases hf : env.fails .begin = true
    · exact .inr ⟨_, bind_of_error (statement_of_fails _ hf), .fault ⟨_, rfl, hf⟩⟩
    rw [statement_of_ok _ (by simpa using hf), bind_of_ok (Tx.pure_apply _ _)]
    by_cases hf : env.fails .lockAssetGraph = true
    · exact .inr ⟨_, bind_of_error (statement_of_fails _ hf), .fault ⟨_, rfl, hf⟩⟩
    rw [statement_of_ok _ (by simpa using hf), bind_of_ok (Tx.pure_apply _ _)]
    obtain ⟨state, _, _, _, hacc, haccepted⟩ | ⟨e, hacc, he⟩ :=
      validateAcceptedSyncBatch_cases env batch db
    swap
    · exact .inr ⟨e, bind_of_error hacc, .admission hacc he⟩
    rw [bind_of_ok hacc]
    obtain ⟨db₁, hok, hadv, habove⟩ | ⟨herr, hfold⟩ | ⟨herr, hpos, hle⟩ | ⟨e, herr, hfault⟩ :=
      acceptSyncReplayState_cases hinv hb haccepted.session_isSome env rfl rfl
    · rw [bind_of_ok hok]
      have hvalid := advanceRow_valid (boundRow_valid hinv batch.sessionID batch.producerID) hb
      have hlive := recordTrustedLiveSignal_cases env state hb hadv.row hvalid
      obtain ⟨b, db₂, hrec, hstep⟩ | ⟨e, herr, hfault⟩ :
          (∃ b db₂, recordTrustedLiveSignal env batch state db₁ = .ok (b, db₂) ∧
            LiveStep db₁ db₂ batch (advanceRow (boundRow db batch.sessionID batch.producerID) batch)) ∨
          (∃ e, recordTrustedLiveSignal env batch state db₁ = .error e ∧ Fault env e) := by
        obtain ⟨db₂, live, h1, h2⟩ | ⟨h1, h2⟩ | h := hlive
        · exact .inl ⟨true, db₂, h1, .inl ⟨live, h2⟩⟩
        · exact .inl ⟨false, db₁, h1, .inr ⟨rfl, h2⟩⟩
        · exact .inr h
      swap
      · exact .inr ⟨e, bind_of_error herr, .fault hfault⟩
      rw [bind_of_ok hrec]
      obtain ⟨row', hrow', -, hret, halloc, -⟩ := hstep.kept hadv.row
      have hseq : batch.batchSequence ≤ row'.allocatedThrough := by
        rw [halloc]
        exact le_trans hb.sequence_le (le_max_right _ _)
      have htriple := disposeBatch_triple env state b hb hrow' hret habove hseq
      cases hres : disposeBatch env batch state
          (advanceRow (boundRow db batch.sessionID batch.producerID) batch).retiredThrough b db₂ with
      | ok p =>
        exact .inl ⟨p.1, db₁, db₂, p.2, hres, hb, habove, hadv, hstep, htriple.ok rfl hres⟩
      | error e =>
        refine .inr ⟨e, hres, .dispose habove ?_⟩
        have hlookup : 0 < batch.batchSequence →
            db₂.receipts.lookup (batch.sessionID, batch.batchSequence) =
              db.receipts.lookup (batch.sessionID, batch.batchSequence) := by
          intro hpos
          rw [hstep.receipts, hadv.lookup_receipt (habove hpos)]
        obtain ⟨rfl, hpos, d, hd, hne⟩ | ⟨hnew, he⟩ | he := htriple.error rfl hres
        · exact .inl ⟨rfl, hpos, d, by rw [← hlookup hpos, hd], hne⟩
        · exact .inr (.inl ⟨fun hpos => by rw [← hlookup hpos, hnew hpos], he⟩)
        · exact .inr (.inr he)
    · exact .inr ⟨_, bind_of_error herr, .producer hfold⟩
    · exact .inr ⟨_, bind_of_error herr, .retired hpos hle⟩
    · exact .inr ⟨e, bind_of_error herr, .fault hfault⟩

end Houfeng.Center
