import Houfeng.Center.Proofs.SyncBatchesProofs

/-!
# What a committed sync transaction writes

The rows and facts a transaction leaves, each as a function of the rows it found.
`applyBatch_effect` puts them together; `SyncBatchesProofs` says what happens to the replay tables.
-/

namespace Houfeng.Center

open AgentApi List Tx

variable {env : Env} {batch : Batch} {db db' db'' : Database}

theorem statement_eq_ok {α : Type} {s : Statement} {body : SyncTx α} {p : α × Database}
    (h : statement env s body db = .ok p) : body db = .ok p := by
  unfold statement at h
  split_ifs at h
  · cases h
  · exact h

/-! ## Writes to one instance -/

/-- Facts were added and the row of the instance `i` was replaced; nothing else differs. -/
structure Wrote (i : String) (row row' : Instance) (added : List Fact) (db db' : Database) :
    Prop where
  replay : db'.replayStates = db.replayStates
  receipts : db'.receipts = db.receipts
  sessions : db'.assets.sessions = db.assets.sessions
  vps : db'.assets.vps = db.assets.vps
  followups : db'.assets.followups = db.assets.followups
  probeItems : db'.assets.probeItems = db.assets.probeItems
  facts : db'.facts = db.facts ++ added
  before : db.assets.instances.lookup i = some row
  after : db'.assets.instances.lookup i = some row'
  others : ∀ k, k ≠ i → db'.assets.instances.lookup k = db.assets.instances.lookup k

namespace Wrote

variable {i : String} {row row' row'' : Instance} {added added' : List Fact}

theorem refl (h : db.assets.instances.lookup i = some row) : Wrote i row row [] db db :=
  ⟨rfl, rfl, rfl, rfl, rfl, rfl, (append_nil _).symm, h, h, fun _ _ => rfl⟩

theorem trans (h : Wrote i row row' added db db') (h' : Wrote i row' row'' added' db' db'') :
    Wrote i row row'' (added ++ added') db db'' where
  replay := h'.replay.trans h.replay
  receipts := h'.receipts.trans h.receipts
  sessions := h'.sessions.trans h.sessions
  vps := h'.vps.trans h.vps
  followups := h'.followups.trans h.followups
  probeItems := h'.probeItems.trans h.probeItems
  facts := by rw [h'.facts, h.facts, append_assoc]
  before := h.before
  after := h'.after
  others k hk := (h'.others k hk).trans (h.others k hk)

theorem addFacts (h : db.assets.instances.lookup i = some row) (added : List Fact) :
    Wrote i row row added db { db with facts := db.facts ++ added } :=
  ⟨rfl, rfl, rfl, rfl, rfl, rfl, rfl, h, h, fun _ _ => rfl⟩

theorem setRow (h : db.assets.instances.lookup i = some row) (row' : Instance) :
    Wrote i row row' [] db
      { db with assets := { db.assets with instances := db.assets.instances.insert i row' } } :=
  ⟨rfl, rfl, rfl, rfl, rfl, rfl, (append_nil _).symm, h, AList.lookup_insert _,
    fun _ hk => AList.lookup_insert_ne hk⟩

end Wrote

/-! ## Measured facts -/

/-- The facts a batch brings: its heartbeats, host samples, probe observations and reports. -/
inductive MeasuredFrom (env : Env) (batch : Batch) : Fact → Prop
  | heartbeat {w : HeartbeatPayload} (h : w ∈ batch.heartbeats) :
      MeasuredFrom env batch (.heartbeat batch.monitoringInstanceID env.receivedAt w)
  | hostSample {w : HostSampleWrite} (h : w ∈ batch.hostSamples) :
      MeasuredFrom env batch (.hostSample { w with receivedAt := env.receivedAt })
  | probeObservation {w : ProbeObservationWrite} (h : w ∈ batch.probeObservations) :
      MeasuredFrom env batch (.probeObservation { w with receivedAt := env.receivedAt })
  | ipQualityReport {w w' : ReportWrite} (h : w ∈ batch.ipQualityReports)
      (hw' : env.prepareReport
        (if w.receivedAt = 0 then { w with receivedAt := env.receivedAt } else w) = some w') :
      MeasuredFrom env batch (.ipQualityReport w')

theorem forM_addFact {γ : Type} {P : Fact → Prop} {f : γ → SyncTx PUnit} {l : List γ}
    {p : PUnit × Database}
    (hf : ∀ x ∈ l, ∀ d q, f x d = .ok q → ∃ g, P g ∧ q.2 = { d with facts := d.facts ++ [g] })
    (h : l.forM f db = .ok p) :
    ∃ added, (∀ g ∈ added, P g) ∧ p.2 = { db with facts := db.facts ++ added } := by
  induction l generalizing db with
  | nil =>
    cases h
    exact ⟨[], by simp, by simp⟩
  | cons x rest ih =>
    obtain ⟨_, d, hx, hrest⟩ := bind_eq_ok h
    obtain ⟨g, hg, rfl⟩ := hf x mem_cons_self db _ hx
    obtain ⟨added, hadded, hp⟩ := ih (fun y hy => hf y (mem_cons_of_mem _ hy)) hrest
    refine ⟨g :: added, ?_, ?_⟩
    · simpa using ⟨hg, hadded⟩
    · rw [hp, append_assoc, singleton_append]

variable {fp : String}

theorem recordHeartbeatBatch_ok {i : String} {writes : List HeartbeatPayload} {last : Int}
    (hw : ∀ w ∈ writes, w ∈ batch.heartbeats) (hi : i = batch.monitoringInstanceID)
    (h : recordHeartbeatBatch env i fp writes db = .ok (last, db')) :
    ∃ added, (∀ g ∈ added, MeasuredFrom env batch g) ∧
      db' = { db with facts := db.facts ++ added } := by
  obtain ⟨_, d, hloop, hlast⟩ := bind_eq_ok h
  cases hlast
  refine forM_addFact (fun w hmem d q hq => ?_) hloop
  split_ifs at hq with hfp
  · cases hq
  · cases statement_eq_ok hq
    exact ⟨_, hi ▸ .heartbeat (hw w hmem), rfl⟩

variable {u : PUnit}

theorem recordObservationBatch_ok {samples : List HostSampleWrite}
    {observations : List ProbeObservationWrite} (hs : ∀ s ∈ samples, s ∈ batch.hostSamples)
    (ho : ∀ o ∈ observations, o ∈ batch.probeObservations)
    (h : recordObservationBatch env samples observations db = .ok (u, db')) :
    ∃ added, (∀ g ∈ added, MeasuredFrom env batch g) ∧
      db' = { db with facts := db.facts ++ added } := by
  obtain ⟨_, d, hsamples, hobs⟩ := bind_eq_ok h
  obtain ⟨added, hadded, rfl⟩ := forM_addFact (P := MeasuredFrom env batch) (fun s hmem d q hq => by
    cases statement_eq_ok hq
    exact ⟨_, .hostSample (hs s hmem), rfl⟩) hsamples
  obtain ⟨added', hadded', hd⟩ := forM_addFact (P := MeasuredFrom env batch) (fun o hmem d q hq => by
    cases statement_eq_ok hq
    exact ⟨_, .probeObservation (ho o hmem), rfl⟩) hobs
  refine ⟨added ++ added', ?_, ?_⟩
  · simpa [or_imp, forall_and] using ⟨hadded, hadded'⟩
  · rw [← append_assoc]
    exact hd

theorem recordIPQualityReports_ok {reports : List ReportWrite}
    (hr : ∀ r ∈ reports, r ∈ batch.ipQualityReports)
    (h : recordIPQualityReports env reports db = .ok (u, db')) :
    ∃ added, (∀ g ∈ added, MeasuredFrom env batch g) ∧
      db' = { db with facts := db.facts ++ added } := by
  refine forM_addFact (fun r hmem d q hq => ?_) h
  cases hprepared : env.prepareReport
      (if r.receivedAt = 0 then { r with receivedAt := env.receivedAt } else r) with
  | none =>
    rw [hprepared] at hq
    cases hq
  | some prepared =>
    rw [hprepared] at hq
    cases statement_eq_ok hq
    exact ⟨_, .ipQualityReport (hr r hmem) hprepared, rfl⟩

/-! ## Actions -/

def CommandResult.reports (r : CommandResult) (row : Instance) : Bool :=
  !(r.actionID = "" || r.commandID = "") && row.lastAction.any fun a =>
    a.status = "pending" && a.actionID = r.actionID && a.commandID = r.commandID

def completedEvent (env : Env) (i : String) (r : CommandResult) : CommandActionAudit :=
  { actionID := r.actionID, monitoringInstanceID := i, commandID := r.commandID,
    sensitivity := env.sensitivityForKnownCommand r.commandID, eventType := "completed",
    exitCode := some r.exitCode, occurredAt := env.receivedAt }

def completedAudit (env : Env) (i : String) (r : CommandResult) : Fact :=
  .commandAudit (completedEvent env i r)

def completeRow (env : Env) (row : Instance) (r : CommandResult) : Instance :=
  if r.reports row then { row with lastAction := some (completedLastAction env r) } else row

def completionAudits (env : Env) (i : String) : Instance → List CommandResult → List Fact
  | _, [] => []
  | row, r :: rest =>
    (if r.reports row then [completedAudit env i r] else []) ++
      completionAudits env i (completeRow env row r) rest

theorem storeCommandResults_ok {row : Instance}
    (hrow : db.assets.instances.lookup batch.monitoringInstanceID = some row)
    (h : storeCommandResults env batch db = .ok (u, db')) :
    Wrote batch.monitoringInstanceID row (batch.commandResults.foldl (completeRow env) row)
      (completionAudits env batch.monitoringInstanceID row batch.commandResults) db db' := by
  unfold storeCommandResults at h
  generalize batch.commandResults = results at h ⊢
  induction results generalizing db row with
  | nil =>
    cases h
    exact .refl hrow
  | cons r rest ih =>
    obtain ⟨_, d, hround, hrest⟩ := bind_eq_ok h
    have hwrote : Wrote batch.monitoringInstanceID row (completeRow env row r)
        (if r.reports row then [completedAudit env batch.monitoringInstanceID r] else []) db d := by
      dsimp only at hround
      split_ifs at hround with hids
      · cases hround
        have hreports : r.reports row = false := by
          simp only [CommandResult.reports, Bool.and_eq_false_iff, Bool.not_eq_false']
          exact .inl (by simpa using hids)
        rw [completeRow, hreports]
        exact .refl hrow
      · obtain ⟨_, d', hget, hround⟩ := bind_eq_ok hround
        cases statement_eq_ok hget
        simp only [hrow] at hround
        have hreports : r.reports row = row.lastAction.any fun a =>
            a.status = "pending" && a.actionID = r.actionID && a.commandID = r.commandID := by
          have hids' : (decide (r.actionID = "") || decide (r.commandID = "")) = false := by
            simpa using hids
          rw [CommandResult.reports, hids', Bool.not_false, Bool.true_and]
        rw [completeRow, hreports]
        split_ifs at hround ⊢ with hany
        · obtain ⟨_, d', hset, haudit⟩ := bind_eq_ok hround
          cases hset
          cases statement_eq_ok haudit
          exact (Wrote.setRow hrow _).trans (.addFacts (AList.lookup_insert _) _)
        · cases hround
          exact .refl hrow
    exact hwrote.trans (ih hwrote.after hrest)

def queuedAction (row : Instance) : Option PendingAction :=
  match row.pendingActionID, row.pendingActionCommandID with
  | some actionID, some commandID => some ⟨commandID, actionID⟩
  | _, _ => none

def dispatchRow (env : Env) (row : Instance) : Instance :=
  match queuedAction row with
  | some action =>
    { row with
      pendingActionID := none
      pendingActionCommandID := none
      lastAction := some (dispatchedLastAction env action.actionID action.commandID
        row.lastAction) }
  | none => row

def dispatchAudits (env : Env) (i : String) (row : Instance) : List Fact :=
  match queuedAction row with
  | some action =>
    [.commandAudit
      { actionID := action.actionID, monitoringInstanceID := i, commandID := action.commandID,
        sensitivity := env.sensitivityForKnownCommand action.commandID, eventType := "dispatched",
        exitCode := none, occurredAt := env.receivedAt }]
  | none => []

theorem dispatchPendingAction_ok {i : String} {row : Instance} {a : Option PendingAction}
    (hrow : db.assets.instances.lookup i = some row)
    (h : dispatchPendingAction env i db = .ok (a, db')) :
    a = queuedAction row ∧ Wrote i row (dispatchRow env row) (dispatchAudits env i row) db db' := by
  obtain ⟨_, d, hget, h⟩ := bind_eq_ok h
  cases statement_eq_ok hget
  simp only [hrow] at h
  cases hid : row.pendingActionID with
  | none =>
    simp only [hid] at h
    cases h
    have hqueued : queuedAction row = none := by rw [queuedAction, hid]
    rw [dispatchRow, dispatchAudits, hqueued]
    exact ⟨rfl, .refl hrow⟩
  | some actionID =>
    cases hcommand : row.pendingActionCommandID with
    | none =>
      simp only [hid, hcommand] at h
      cases h
      have hqueued : queuedAction row = none := by rw [queuedAction, hid, hcommand]
      rw [dispatchRow, dispatchAudits, hqueued]
      exact ⟨rfl, .refl hrow⟩
    | some commandID =>
      simp only [hid, hcommand] at h
      obtain ⟨_, d, hset, h⟩ := bind_eq_ok h
      cases statement_eq_ok hset
      obtain ⟨_, d, haudit, h⟩ := bind_eq_ok h
      cases statement_eq_ok haudit
      cases h
      have hqueued : queuedAction row = some ⟨commandID, actionID⟩ := by
        rw [queuedAction, hid, hcommand]
      rw [dispatchRow, dispatchAudits, hqueued]
      exact ⟨rfl, (Wrote.setRow hrow _).trans (.addFacts (AList.lookup_insert _) _)⟩

/-! ## Recording a batch -/

def syncedRow (env : Env) (lastHeartbeatAt : Int) (lifecycleStatus : LifecycleStatus)
    (row : Instance) : Instance :=
  { row with
    lastHeartbeatAt := some (latest row.lastHeartbeatAt lastHeartbeatAt)
    lastSyncAt := some (latest row.lastSyncAt env.receivedAt)
    lifecycleStatus }

theorem advanceMonitoringInstanceSyncState_ok {i : String} {at_ : Int} {l : LifecycleStatus}
    (h : advanceMonitoringInstanceSyncState env i at_ l db = .ok (u, db')) :
    ∃ row, Wrote i row (syncedRow env at_ l row) [] db db' := by
  obtain ⟨_, d, hget, h⟩ := bind_eq_ok h
  cases statement_eq_ok hget
  rcases hrow : db.assets.instances.lookup i with _ | row <;> simp only [hrow] at h
  · cases h
  cases h
  exact ⟨row, .setRow hrow _⟩

theorem insertReceipt_ok
    (h : insertReceipt batch.sessionID batch.batchSequence batch.payloadDigest.toList db =
      .ok (u, db')) : db' = withReceipt db batch := by
  replace h := get_bind_eq_ok h
  rcases hrow : db.replayStates.lookup batch.sessionID with _ | row <;> simp only [hrow] at h
  · cases h
  split_ifs at h <;> cases h
  rfl

def ReadOnly {α : Type} (x : SyncTx α) : Prop := ∀ db a db', x db = .ok (a, db') → db' = db

theorem validateProbeObservations_readOnly (writes : List ProbeObservationWrite) :
    ReadOnly (validateProbeObservations env writes) := by
  intro db u db' h
  exact (validateProbeObservations_triple writes (· = db)).ok rfl h

theorem buildPlan_readOnly (i : String) : ReadOnly (buildPlan env i) := by
  intro db plan db' h
  exact (buildPlan_triple i (· = db)).ok rfl h

variable {floor : Int} {r : Result} {state : AcceptedSyncBatchState} {live : Bool}

theorem finish_ok {disposition : Disposition} {stop : Bool} {plan : SyncPlan}
    (h : finish env batch state floor live disposition stop plan db = .ok (r, db')) :
    db' = db ∧ r.disposition = disposition ∧ r.plan = plan := by
  obtain ⟨_, d, hcommit, h⟩ := bind_eq_ok h
  cases statement_eq_ok hcommit
  cases h
  exact ⟨rfl, rfl, rfl⟩

/-- What recording a batch has done: from the database with its receipt, measured facts were added
and the instance row went through the sync state, the reported results and the dispatch. -/
structure Recording (env : Env) (batch : Batch) (state : AcceptedSyncBatchState) (live : Bool)
    (r : Result) (db db' : Database) : Prop where
  disposition : r.disposition = .recorded
  wrote : ∃ row lastHeartbeatAt measured, (∀ g ∈ measured, MeasuredFrom env batch g) ∧
    let synced := syncedRow env lastHeartbeatAt
      (lifecycleStatusAfterAcceptedSync state.lifecycleStatus live) row
    let completed := batch.commandResults.foldl (completeRow env) synced
    r.plan.pendingAction = queuedAction completed ∧
    Wrote batch.monitoringInstanceID row (dispatchRow env completed)
      (measured ++ completionAudits env batch.monitoringInstanceID synced batch.commandResults ++
        dispatchAudits env batch.monitoringInstanceID completed)
      (withReceipt db batch) db'

/-- Results and dispatch change only the commands of a row. -/
theorem recordedRow_eq (env : Env) (row : Instance) (results : List CommandResult) :
    ∃ p c l, dispatchRow env (results.foldl (completeRow env) row) =
      { row with pendingActionID := p, pendingActionCommandID := c, lastAction := l } := by
  have hcompleted : ∃ l, results.foldl (completeRow env) row = { row with lastAction := l } := by
    induction results generalizing row with
    | nil => exact ⟨row.lastAction, rfl⟩
    | cons r rest ih =>
      obtain ⟨l, hl⟩ := ih (completeRow env row r)
      refine ⟨l, ?_⟩
      rw [foldl_cons, hl, completeRow]
      split_ifs <;> rfl
  obtain ⟨l, hl⟩ := hcompleted
  rw [hl, dispatchRow]
  cases queuedAction { row with lastAction := l } with
  | none => exact ⟨_, _, _, rfl⟩
  | some p => exact ⟨_, _, _, rfl⟩

theorem recordBatch_ok (h : recordBatch env batch state floor live db = .ok (r, db')) :
    Recording env batch state live r db db' := by
  obtain ⟨_, d, hprobes, h1⟩ := bind_eq_ok h
  obtain rfl := validateProbeObservations_readOnly _ _ _ _ hprobes
  obtain ⟨_, d1, hreceipt, h2⟩ := bind_eq_ok h1
  obtain rfl := insertReceipt_ok (statement_eq_ok hreceipt)
  obtain ⟨lastHeartbeatAt, d2, hbeats, h3⟩ := bind_eq_ok h2
  obtain ⟨beats, mbeats, rfl⟩ := recordHeartbeatBatch_ok (fun _ hw => hw) rfl hbeats
  obtain ⟨_, d3, hobs, h4⟩ := bind_eq_ok h3
  obtain ⟨obs, mobs, rfl⟩ := recordObservationBatch_ok (fun _ hs => hs) (fun _ ho => ho) hobs
  obtain ⟨_, d4, hreports, h5⟩ := bind_eq_ok h4
  obtain ⟨reports, mreports, rfl⟩ := recordIPQualityReports_ok (fun _ hr => hr) hreports
  obtain ⟨_, d5, hadvance, h6⟩ := bind_eq_ok h5
  obtain ⟨row, hadvance⟩ := advanceMonitoringInstanceSyncState_ok hadvance
  obtain ⟨_, d6, hresults, h7⟩ := bind_eq_ok h6
  have hresults := storeCommandResults_ok hadvance.after hresults
  obtain ⟨action, d7, hdispatch, h8⟩ := bind_eq_ok h7
  obtain ⟨rfl, hdispatched⟩ := dispatchPendingAction_ok hresults.after hdispatch
  obtain ⟨plan, d8, hplan, h9⟩ := bind_eq_ok h8
  obtain rfl := buildPlan_readOnly _ _ _ _ hplan
  obtain ⟨rfl, hdisposition, hplan⟩ := finish_ok h9
  refine ⟨hdisposition, row, lastHeartbeatAt, beats ++ obs ++ reports, ?_, ?_, ?_⟩
  · simpa [or_imp, forall_and, and_assoc] using ⟨mbeats, mobs, mreports⟩
  · rw [hplan]
  · have hmeasured : Wrote batch.monitoringInstanceID row row (beats ++ obs ++ reports)
        (withReceipt d batch) { withReceipt d batch with
          facts := (withReceipt d batch).facts ++ beats ++ obs ++ reports } := by
      have hbefore : (withReceipt d batch).assets.instances.lookup batch.monitoringInstanceID =
          some row := hadvance.before
      have hadded : Wrote batch.monitoringInstanceID row row (beats ++ obs ++ reports)
          (withReceipt d batch) { withReceipt d batch with
            facts := (withReceipt d batch).facts ++ (beats ++ obs ++ reports) } :=
        Wrote.addFacts hbefore _
      simpa [append_assoc] using hadded
    have hall := ((hmeasured.trans hadvance).trans hresults).trans hdispatched
    rw [append_nil] at hall
    exact hall

/-! ## Admission and live evidence -/

theorem validateAcceptedSyncBatch_ok
    (h : validateAcceptedSyncBatch env batch db = .ok (state, db')) :
    db' = db ∧ ∃ session inst vps, Accepted env batch db state session inst vps := by
  obtain ⟨state', session, inst, vps, hok, haccepted⟩ | ⟨e, herr, -⟩ :=
    validateAcceptedSyncBatch_cases env batch db
  · rw [hok] at h
    cases h
    exact ⟨rfl, session, inst, vps, haccepted⟩
  · rw [herr] at h
    cases h

def evidenceAssets (env : Env) (batch : Batch) (state : AcceptedSyncBatchState)
    (assets : Assets) : Assets :=
  let touched := touchInstance batch.monitoringInstanceID env.clockTimestamp
    (state.capability = .full && !state.archived)
    (touchSession batch.sessionID env.clockTimestamp assets)
  if state.archived then
    { touched with
      followups := upsertVPSFollowup state.vpsID "archived_online"
        (match state.vpsArchivedAt with
          | none => state.vpsID
          | some t => state.vpsID ++ ":" ++ env.formatTime t)
        "已归档 VPS 的 Agent 再次在线，请核对资源是否仍在运行"
        ⟨batch.monitoringInstanceID, batch.sessionID, env.clockTimestamp⟩ touched.followups }
  else touched

theorem touchOnlineEvidence_ok (h : touchOnlineEvidence env batch state db = .ok (u, db')) :
    db' = { db with assets := evidenceAssets env batch state db.assets } := by
  obtain ⟨_, d1, hsession, h1⟩ := bind_eq_ok h
  cases statement_eq_ok hsession
  obtain ⟨_, d2, hinst, h2⟩ := bind_eq_ok h1
  cases statement_eq_ok hinst
  rw [evidenceAssets]
  split_ifs at h2 ⊢ with harchived
  · cases statement_eq_ok h2
    rfl
  · cases h2
    rfl

structure ReplayOnly (db db' : Database) : Prop where
  assets : db'.assets = db.assets
  facts : db'.facts = db.facts

variable {db₀ : Database} {sessionID : String}

theorem triple_read {P : Database → Prop} {E : SyncError → Prop} :
    Keeps P (get : SyncTx Database) E :=
  triple_get.conseq (fun _ h => h) fun _ _ h => h.2

theorem updateReplayState_triple (cond : ReplayState → Bool) (assign : ReplayState → ReplayState)
    (retires : Bool) :
    Keeps (ReplayOnly db₀) (updateReplayState sessionID cond assign retires) fun _ => True := by
  have hdelete (through) : Keeps (ReplayOnly db₀) (deleteReceipts sessionID through) fun _ => True :=
    .bind triple_read fun _ => .ite (fun _ => .throw trivial) fun _ _ h => ⟨h.assets, h.facts⟩
  refine .bind triple_read fun _ => ?_
  split
  · exact .pure fun _ h => h
  refine .ite (fun _ => .pure fun _ h => h) fun _ => .ite (fun _ => .throw trivial) fun _ => ?_
  split
  · exact .throw trivial
  refine .bind (Q := fun _ => ReplayOnly db₀) (fun _ h => ⟨h.assets, h.facts⟩) fun _ => ?_
  split_ifs
  · exact .bind (hdelete _) fun _ => .pure fun _ h => h
  · exact .pure fun _ h => h

theorem acceptSyncReplayState_triple :
    Keeps (ReplayOnly db₀) (acceptSyncReplayState env batch) fun _ => True := by
  have hinsert : Keeps (ReplayOnly db₀) (insertReplayState batch.sessionID batch.producerID)
      fun _ => True := by
    refine .bind triple_read fun _ => ?_
    split
    · exact .pure fun _ h => h
    · exact .ite (fun _ => .throw trivial) fun _ _ h => ⟨h.assets, h.facts⟩
  refine .bind (triple_statement (fun _ => trivial) hinsert) fun _ => ?_
  refine .bind (triple_statement (fun _ => trivial) triple_read) fun _ => ?_
  split
  · exact .throw trivial
  refine .ite (fun _ => .throw trivial) fun _ => .ite (fun _ => .throw trivial) fun _ => ?_
  exact .bind (triple_statement (fun _ => trivial) (updateReplayState_triple _ _ _)) fun _ =>
    .pure fun _ h => h

/-- The effect of the live signal: none, or the evidence of session and instance. -/
inductive LiveEvidence (env : Env) (batch : Batch) (state : AcceptedSyncBatchState) :
    Bool → Assets → Assets → Prop
  | kept (assets : Assets) : LiveEvidence env batch state false assets assets
  | touched (assets : Assets) {live : LiveSignal} (h : batch.liveSignal = some live) :
      LiveEvidence env batch state true assets (evidenceAssets env batch state assets)

theorem recordTrustedLiveSignal_ok {advanced : Bool}
    (h : recordTrustedLiveSignal env batch state db = .ok (advanced, db')) :
    db'.facts = db.facts ∧ LiveEvidence env batch state advanced db.assets db'.assets := by
  unfold recordTrustedLiveSignal at h
  cases hlive : batch.liveSignal with
  | none =>
    simp only [hlive] at h
    cases h
    exact ⟨rfl, .kept _⟩
  | some live =>
    simp only [hlive] at h
    obtain ⟨b, d, hupdate, h⟩ := bind_eq_ok h
    have hreplay := (updateReplayState_triple _ _ _).ok ⟨rfl, rfl⟩ (statement_eq_ok hupdate)
    split_ifs at h with hb
    · cases h
      exact ⟨hreplay.facts, by rw [hreplay.assets]; exact .kept _⟩
    · obtain ⟨_, d', htouch, h⟩ := bind_eq_ok h
      cases h
      obtain rfl := touchOnlineEvidence_ok htouch
      refine ⟨hreplay.facts, ?_⟩
      rw [← hreplay.assets]
      exact .touched _ hlive

inductive Session.TouchedFrom (s : Session) : Session → Prop
  | kept : TouchedFrom s s
  | touched (at_ : Int) :
      TouchedFrom s { s with lastTrustedOnlineAt := some at_, everConnected := true }

/-- An instance kept or seen online; a pending enrollment may be confirmed by it. -/
inductive Instance.TouchedFrom (row : Instance) : Instance → Prop
  | kept : TouchedFrom row row
  | touched (at_ : Int) {lifecycleStatus : LifecycleStatus}
      (h : lifecycleStatus = row.lifecycleStatus ∨
        row.lifecycleStatus = .pendingEnrollment ∧ lifecycleStatus = .inUse) :
      TouchedFrom row
        { row with lastTrustedOnlineAt := some at_, everConnected := true, lifecycleStatus }

theorem touchSession_related (sessionID : String) (at_ : Int) (assets : Assets) :
    Table.Related Session.TouchedFrom assets.sessions
      (touchSession sessionID at_ assets).sessions := by
  rw [touchSession]
  cases hrow : assets.sessions.lookup sessionID with
  | none => exact .refl (fun _ => .kept) _
  | some row => exact .insert (fun _ => .kept) hrow (.touched at_)

theorem touchInstance_related (i : String) (at_ : Int) (enrolls : Bool) (assets : Assets) :
    Table.Related Instance.TouchedFrom assets.instances
      (touchInstance i at_ enrolls assets).instances := by
  rw [touchInstance]
  cases hrow : assets.instances.lookup i with
  | none => exact .refl (fun _ => .kept) _
  | some row =>
    refine .insert (fun _ => .kept) hrow (.touched at_ ?_)
    split_ifs with h
    · exact .inr ⟨h.2, rfl⟩
    · exact .inl rfl

theorem touchSession_instances (sessionID : String) (at_ : Int) (assets : Assets) :
    (touchSession sessionID at_ assets).instances = assets.instances := by
  rw [touchSession]
  split <;> rfl

theorem touchInstance_sessions (i : String) (at_ : Int) (enrolls : Bool) (assets : Assets) :
    (touchInstance i at_ enrolls assets).sessions = assets.sessions := by
  rw [touchInstance]
  split <;> rfl

namespace LiveEvidence

variable {assets assets' : Assets} (h : LiveEvidence env batch state live assets assets')
include h

theorem sessions : Table.Related Session.TouchedFrom assets.sessions assets'.sessions := by
  cases h with
  | kept => exact .refl (fun _ => .kept) _
  | touched _ hlive =>
    have hsame : (evidenceAssets env batch state assets).sessions =
        (touchSession batch.sessionID env.clockTimestamp assets).sessions := by
      rw [evidenceAssets]
      split_ifs <;> exact touchInstance_sessions _ _ _ _
    rw [hsame]
    exact touchSession_related _ _ _

theorem instances : Table.Related Instance.TouchedFrom assets.instances assets'.instances := by
  cases h with
  | kept => exact .refl (fun _ => .kept) _
  | touched _ hlive =>
    have hrelated := touchInstance_related batch.monitoringInstanceID env.clockTimestamp
      (state.capability = .full && !state.archived)
      (touchSession batch.sessionID env.clockTimestamp assets)
    rw [touchSession_instances] at hrelated
    rw [evidenceAssets]
    split_ifs <;> exact hrelated

end LiveEvidence

/-! ## The whole transaction -/

theorem readReceipt_readOnly : ReadOnly (readReceipt env batch) := by
  intro db receipt db' h
  unfold readReceipt at h
  split_ifs at h
  · obtain ⟨_, d, hget, h⟩ := bind_eq_ok h
    cases statement_eq_ok hget
    cases h
    rfl
  · cases h
    rfl

/-- A batch is disposed of without a write, or recorded. -/
inductive Disposal (env : Env) (batch : Batch) (state : AcceptedSyncBatchState) (live : Bool)
    (r : Result) (db : Database) : Database → Prop
  | kept (h : r.disposition ≠ .recorded) : Disposal env batch state live r db db
  | recorded {db' : Database} (hsuppress : state.suppressWritesAndPlan = false)
      (h : Recording env batch state live r db db') : Disposal env batch state live r db db'

theorem disposeBatch_ok (h : disposeBatch env batch state floor live db = .ok (r, db')) :
    Disposal env batch state live r db db' := by
  have hkept : ∀ {d d' : Database} {disposition : Disposition} {stop : Bool} {plan : SyncPlan},
      disposition ≠ .recorded →
      finish env batch state floor live disposition stop plan d = .ok (r, d') →
        Disposal env batch state live r d d' := by
    intro d d' disposition stop plan hne hfinish
    obtain ⟨rfl, hdisposition, -⟩ := finish_ok hfinish
    exact .kept (hdisposition ▸ hne)
  obtain ⟨receipt, d, hread, h⟩ := bind_eq_ok h
  obtain rfl := readReceipt_readOnly _ _ _ hread
  cases receipt with
  | some digest =>
    simp only at h
    split_ifs at h
    · cases h
    · exact hkept (by decide) h
  | none =>
    simp only at h
    split_ifs at h with hsuppress hzero hdefer
    · exact hkept (by decide) h
    · obtain ⟨plan, d', hplan, hfinish⟩ := bind_eq_ok h
      obtain rfl := buildPlan_readOnly _ _ _ _ hplan
      exact hkept (by decide) hfinish
    · exact hkept (by decide) h
    · exact .recorded (by simpa using hsuppress) (recordBatch_ok h)

theorem applyBatch_eq_ok (h : applyBatch env batch db = .ok (r, db')) :
    ProtocolValid batch ∧ ∃ state session inst vps floor d live d',
      Accepted env batch db state session inst vps ∧
      acceptSyncReplayState env batch db = .ok (floor, d) ∧
      recordTrustedLiveSignal env batch state d = .ok (live, d') ∧
      Disposal env batch state live r d' db' := by
  unfold applyBatch at h
  rcases hp : validateBatchProtocol batch with _ | u <;> simp only [hp] at h
  · cases h
  obtain ⟨_, d1, hbegin, h1⟩ := bind_eq_ok h
  cases statement_eq_ok hbegin
  obtain ⟨_, d2, hlock, h2⟩ := bind_eq_ok h1
  cases statement_eq_ok hlock
  obtain ⟨state, d3, haccept, h3⟩ := bind_eq_ok h2
  obtain ⟨rfl, session, inst, vps, haccepted⟩ := validateAcceptedSyncBatch_ok haccept
  obtain ⟨floor, d4, hreplay, h4⟩ := bind_eq_ok h3
  obtain ⟨live, d5, hlive, h5⟩ := bind_eq_ok h4
  exact ⟨validateBatchProtocol_ok hp, state, session, inst, vps, floor, d4, live, d5, haccepted,
    hreplay, hlive, disposeBatch_ok h5⟩

/-- What a committed sync transaction has done to the administered tables and the facts. -/
structure SyncEffect (env : Env) (batch : Batch) (r : Result) (db db' : Database)
    (state : AcceptedSyncBatchState) (session : Session) (inst : Instance) (vps : Vps) (live : Bool)
    (touched : Database) : Prop where
  accepted : Accepted env batch db state session inst vps
  facts : touched.facts = db.facts
  evidence : LiveEvidence env batch state live db.assets touched.assets
  disposal : Disposal env batch state live r touched db'

theorem applyBatch_effect (h : applyBatch env batch db = .ok (r, db')) :
    ∃ state session inst vps live touched,
      SyncEffect env batch r db db' state session inst vps live touched := by
  obtain ⟨-, state, session, inst, vps, floor, d, live, d', haccepted, hreplay, hlive, hdisposal⟩ :=
    applyBatch_eq_ok h
  have hreplay := acceptSyncReplayState_triple.ok ⟨rfl, rfl⟩ hreplay
  obtain ⟨hfacts, hevidence⟩ := recordTrustedLiveSignal_ok hlive
  refine ⟨state, session, inst, vps, live, d', haccepted, ?_, ?_, hdisposal⟩
  · rw [hfacts, hreplay.facts]
  · rw [← hreplay.assets]
    exact hevidence

end Houfeng.Center
