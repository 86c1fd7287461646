import Houfeng.Center.Database

/-!
# Applying a sync batch

`applyBatch` of the PostgreSQL sync repository: admission of the session, the replay state, live
evidence, receipts and facts, all in one transaction. Token hashing, redaction, the command
catalogue, the checks of reports, the sync plan, the clocks and the statements that fail are
parameters.
-/

namespace Houfeng.Center

open AgentApi

/-- What a transaction takes from outside: the services it calls, the clocks at that moment, and
which statements fail. -/
structure Env where
  tokenMatches : String → String → Bool
  redactSecrets : String → String
  sensitivityForKnownCommand : String → String
  formatTime : Int → String
  prepareReport : ReportWrite → Option ReportWrite
  buildSyncPlan : Database → String → Option SyncPlan
  receivedAt : Int
  clockTimestamp : Int
  fails : Statement → Bool

variable (env : Env)

/-- A statement that may fail for a reason outside the model. -/
def statement {α : Type} (s : Statement) (body : SyncTx α) : SyncTx α :=
  if env.fails s then throw (.storage s) else body

/-- What the center knows of the sender of an accepted batch. -/
structure AcceptedSyncBatchState where
  capability : Capability
  vpsID : String
  bindingFingerprint : String
  lifecycleStatus : LifecycleStatus
  monitoringStatus : MonitoringStatus
  archived : Bool
  vpsArchivedAt : Option Int

/-- The batch is answered, but neither stored nor given a plan. -/
def AcceptedSyncBatchState.suppressWritesAndPlan (s : AcceptedSyncBatchState) : Bool :=
  s.capability = .evidenceOnly || s.archived || s.lifecycleStatus = .retired ||
    s.monitoringStatus = .paused

/-- The joined row of `validateAcceptedSyncBatch`'s query. -/
def sessionRow (assets : Assets) (monitoringInstanceID sessionID : String) :
    Option (Session × Instance × Vps) := do
  let session ← assets.sessions.lookup sessionID
  let inst ← assets.instances.lookup monitoringInstanceID
  let vps ← assets.vps.lookup inst.vpsID
  if session.monitoringInstanceID = monitoringInstanceID then some (session, inst, vps) else none

variable (batch : Batch)

/-- The sender must have a session with this token, and every fact its fingerprint. -/
def validateAcceptedSyncBatch : SyncTx AcceptedSyncBatchState := do
  let db ← statement env .queryBatchState get
  match sessionRow db.assets batch.monitoringInstanceID batch.sessionID with
  | none => throw .invalidSyncToken
  | some (session, inst, vps) =>
    if env.tokenMatches session.tokenHash batch.syncToken = false then throw .invalidSyncToken
    else if batch.liveSignal.any (·.fingerprint ≠ session.fingerprintHash) then
      throw .bindingNotAccepted
    else if batch.heartbeats.any (·.fingerprint ≠ session.fingerprintHash) then
      throw .bindingNotAccepted
    else if batch.hostSamples.any (·.fingerprint ≠ session.fingerprintHash) then
      throw .bindingNotAccepted
    else if batch.probeObservations.any (·.fingerprint ≠ session.fingerprintHash) then
      throw .bindingNotAccepted
    else if batch.ipQualityReports.any (·.fingerprint ≠ session.fingerprintHash) then
      throw .bindingNotAccepted
    else
      pure
        { capability := if inst.bindingStatus = .bound then session.capability else .evidenceOnly
          vpsID := inst.vpsID
          bindingFingerprint := session.fingerprintHash
          lifecycleStatus := inst.lifecycleStatus
          monitoringStatus := inst.monitoringStatus
          archived := vps.archived
          vpsArchivedAt := vps.archivedAt }

/-- Binds the producer, refuses retired sequences and advances the watermarks. The result is the
retired floor. -/
def acceptSyncReplayState : SyncTx Int := do
  statement env .initializeReplayState (insertReplayState batch.sessionID batch.producerID)
  let db ← statement env .lockReplayState get
  match db.replayStates.lookup batch.sessionID with
  | none => throw (.storage .lockReplayState)
  | some row =>
    if equalFold row.producerID batch.producerID = false then throw .syncProducerMismatch
    else
      let floor := if batch.retiredThrough > row.retiredThrough then batch.retiredThrough
        else row.retiredThrough
      if batch.batchSequence > 0 ∧ batch.batchSequence ≤ floor then throw .syncBatchRetired
      else
        let allocated := if batch.allocatedThrough > row.allocatedThrough then
          batch.allocatedThrough else row.allocatedThrough
        let _ ← statement env .advanceReplayControls (updateReplayState batch.sessionID
          (fun r => r.retiredThrough ≠ floor || r.allocatedThrough ≠ allocated)
          (fun r => { r with retiredThrough := floor, allocatedThrough := allocated }) true)
        pure floor

/-- Nothing once resolved or ignored, else one pending row per key. -/
def upsertVPSFollowup (vpsID kind dedupeKey summary : String) (details : FollowupDetails)
    (fs : List Followup) : List Followup :=
  let hit (f : Followup) : Bool := f.vpsID = vpsID && f.kind = kind && f.dedupeKey = dedupeKey
  if fs.any fun f => hit f && (f.status = "resolved" || f.status = "ignored") then fs
  else if fs.any fun f => hit f && f.status = "pending" then
    fs.map fun f => if hit f && f.status = "pending" then { f with summary, details } else f
  else fs ++ [⟨vpsID, kind, dedupeKey, "pending", summary, details⟩]

/-- The session was seen. -/
def touchSession (sessionID : String) (at_ : Int) (assets : Assets) : Assets :=
  match assets.sessions.lookup sessionID with
  | none => assets
  | some row => { assets with
      sessions := assets.sessions.insert sessionID
        { row with lastTrustedOnlineAt := some at_, everConnected := true } }

variable (monitoringInstanceID : String)

/-- The instance row after a trusted live signal; `enrolls` confirms a pending enrollment. -/
def touchInstance (at_ : Int) (enrolls : Bool) (assets : Assets) : Assets :=
  match assets.instances.lookup monitoringInstanceID with
  | none => assets
  | some row => { assets with
      instances := assets.instances.insert monitoringInstanceID
        { row with
          lastTrustedOnlineAt := some at_
          everConnected := true
          lifecycleStatus := if enrolls = true ∧ row.lifecycleStatus = .pendingEnrollment then
            .inUse else row.lifecycleStatus } }

variable (state : AcceptedSyncBatchState)

/-- The part of `recordTrustedLiveSignal` that touches the evidence of the session and the instance
and follows up an archived VPS that is online again. -/
def touchOnlineEvidence : SyncTx Unit := do
  statement env .touchSessionEvidence
    (modifyAssets (touchSession batch.sessionID env.clockTimestamp))
  statement env .touchInstanceEvidence
    (modifyAssets (touchInstance batch.monitoringInstanceID env.clockTimestamp
      (state.capability = .full && !state.archived)))
  if state.archived then
    let dedupeKey := match state.vpsArchivedAt with
      | none => state.vpsID
      | some t => state.vpsID ++ ":" ++ env.formatTime t
    statement env .upsertFollowup
      (modifyAssets fun a => { a with
        followups := upsertVPSFollowup state.vpsID "archived_online" dedupeKey
          "已归档 VPS 的 Agent 再次在线，请核对资源是否仍在运行"
          ⟨batch.monitoringInstanceID, batch.sessionID, env.clockTimestamp⟩ a.followups })
  else pure ()

/-- Evidence is touched only when the live sequence advances. -/
def recordTrustedLiveSignal : SyncTx Bool := do
  match batch.liveSignal with
  | none => pure false
  | some live =>
    let advanced ← statement env .advanceLiveSignal (updateReplayState batch.sessionID
      (fun r => r.liveSequenceHigh < live.sequence)
      (fun r => { r with liveSequenceHigh := live.sequence }) false)
    if advanced = false then pure false
    else
      touchOnlineEvidence env batch state
      pure true

/-! ## Recording facts -/

def validateProbeObservations (writes : List ProbeObservationWrite) : SyncTx Unit :=
  writes.forM fun o => do
    match validateProbeObservation o with
    | .error e => throw e
    | .ok () =>
      let db ← statement env .lookupProbeMetadata get
      match db.assets.probeItems.lookup o.probeItemID with
      | none => throw (.invalidProbeObservation
          ("probe_item_id " ++ quoted o.probeItemID ++ " not found"))
      | some metadata =>
        if metadata.targetID ≠ o.targetID then
          throw (.invalidProbeObservation ("probe_item_id " ++ quoted o.probeItemID ++
            " belongs to target_id " ++ quoted metadata.targetID ++ ", got " ++ quoted o.targetID))
        else if metadata.probeKind ≠ o.probeKind then
          throw (.invalidProbeObservation ("probe_item_id " ++ quoted o.probeItemID ++
            " expects probe_kind " ++ quoted metadata.probeKind ++ ", got " ++ quoted o.probeKind))
        else pure ()

/-- The result is the latest observation time. -/
def recordHeartbeatBatch (bindingFingerprint : String) (writes : List HeartbeatPayload) :
    SyncTx Int := do
  writes.forM fun write => do
    if write.fingerprint ≠ bindingFingerprint then throw .bindingNotAccepted
    else
      statement env .recordHeartbeat
        (insertFact (.heartbeat monitoringInstanceID env.receivedAt write))
  pure (writes.foldl (fun last w => if last < w.observedAt then w.observedAt else last)
    ((writes.head?.map (·.observedAt)).getD 0))

/-- `recordObservationBatch` over `batchWithReceivedAt`. -/
def recordObservationBatch (samples : List HostSampleWrite)
    (observations : List ProbeObservationWrite) : SyncTx Unit := do
  samples.forM fun s => statement env .insertHostSample
    (insertFact (.hostSample { s with receivedAt := env.receivedAt }))
  observations.forM fun o => statement env .insertProbeObservation
    (insertFact (.probeObservation { o with receivedAt := env.receivedAt }))

/-- Stores the reports; one that cannot be prepared fails the batch. -/
def recordIPQualityReports (reports : List ReportWrite) : SyncTx Unit :=
  reports.forM fun r =>
    match env.prepareReport (if r.receivedAt = 0 then { r with receivedAt := env.receivedAt } else r)
    with
    | none => throw .invalidIPQualityReport
    | some prepared => statement env .writeIPQualityReport (insertFact (.ipQualityReport prepared))

/-- `greatest(coalesce(old, new), new)`. -/
def latest (old : Option Int) (new : Int) : Int := max (old.getD new) new

def advanceMonitoringInstanceSyncState (lastHeartbeatAt : Int) (lifecycleStatus : LifecycleStatus) :
    SyncTx Unit := do
  let db ← statement env .touchSyncState get
  match db.assets.instances.lookup monitoringInstanceID with
  | none => throw .monitoringInstanceNotFound
  | some row =>
    modifyAssets fun a => { a with
      instances := a.instances.insert monitoringInstanceID
        { row with
          lastHeartbeatAt := some (latest row.lastHeartbeatAt lastHeartbeatAt)
          lastSyncAt := some (latest row.lastSyncAt env.receivedAt)
          lifecycleStatus } }

def lifecycleStatusAfterAcceptedSync (current : LifecycleStatus) (hasHostSample : Bool) :
    LifecycleStatus :=
  if hasHostSample = true ∧ current = .pendingEnrollment then .inUse else current

/-- A time as RFC 3339 writes it without a fraction of a second. -/
def wholeSecond (t : Int) : Int := t / 1000000000 * 1000000000

def commandActionOutputTTL : Int := 24 * 3600 * 1000000000

def pendingLastAction (actionID commandID sensitivity : String) (queuedAt : Int) : LastAction :=
  { actionID
    commandID
    status := "pending"
    sensitivity
    queuedAt := some (wholeSecond queuedAt)
    stdout := ""
    stderr := ""
    exitCode := 0
    completedAt := none
    outputExpiresAt := none
    outputExpired := false }

/-- The last action with the result of its command. -/
def completedLastAction (r : CommandResult) : LastAction :=
  { actionID := r.actionID
    commandID := r.commandID
    status := "done"
    sensitivity := ""
    queuedAt := none
    stdout := env.redactSecrets r.stdout
    stderr := env.redactSecrets r.stderr
    exitCode := r.exitCode
    completedAt := some (wholeSecond env.receivedAt)
    outputExpiresAt := some (wholeSecond (env.receivedAt + commandActionOutputTTL))
    outputExpired := false }

/-- A result is kept only for the action in flight. -/
def storeCommandResults : SyncTx Unit :=
  batch.commandResults.forM fun r => do
    if r.actionID = "" ∨ r.commandID = "" then pure ()
    else
      let db ← statement env .storeCommandResult get
      match db.assets.instances.lookup batch.monitoringInstanceID with
      | none => pure ()
      | some row =>
        if row.lastAction.any fun a =>
            a.status = "pending" && a.actionID = r.actionID && a.commandID = r.commandID then
          modifyAssets fun a => { a with
            instances := a.instances.insert batch.monitoringInstanceID
              { row with lastAction := some (completedLastAction env r) } }
          statement env .insertCommandAudit (insertFact (.commandAudit
            { actionID := r.actionID, monitoringInstanceID := batch.monitoringInstanceID,
              commandID := r.commandID, sensitivity := env.sensitivityForKnownCommand r.commandID,
              eventType := "completed", exitCode := some r.exitCode, occurredAt := env.receivedAt }))
        else pure ()

def dispatchedLastAction (actionID commandID : String) (existing : Option LastAction) :
    LastAction :=
  let known := env.sensitivityForKnownCommand commandID
  let sensitivity := if known = "" then "standard" else known
  match existing with
  | none => pendingLastAction actionID commandID sensitivity env.receivedAt
  | some e =>
    if e.actionID = actionID ∧ e.commandID = commandID ∧ e.status = "pending" then
      pendingLastAction actionID commandID
        (if e.sensitivity ≠ "" then e.sensitivity else sensitivity)
        (match e.queuedAt with
          | some t => if t ≠ 0 then t else env.receivedAt
          | none => env.receivedAt)
    else pendingLastAction actionID commandID sensitivity env.receivedAt

/-- The queued action becomes the action in flight. -/
def dispatchPendingAction : SyncTx (Option PendingAction) := do
  let db ← statement env .queryPendingAction get
  match db.assets.instances.lookup monitoringInstanceID with
  | none => pure none
  | some row =>
    match row.pendingActionID, row.pendingActionCommandID with
    | some actionID, some commandID =>
      statement env .clearPendingAction (modifyAssets fun a => { a with
        instances := a.instances.insert monitoringInstanceID
          { row with
            pendingActionID := none
            pendingActionCommandID := none
            lastAction := some (dispatchedLastAction env actionID commandID row.lastAction) } })
      statement env .insertCommandAudit (insertFact (.commandAudit
        { actionID, monitoringInstanceID, commandID,
          sensitivity := env.sensitivityForKnownCommand commandID, eventType := "dispatched",
          exitCode := none, occurredAt := env.receivedAt }))
      pure (some ⟨commandID, actionID⟩)
    | _, _ => pure none

/-! ## The transaction -/

/-- `buildSyncPlan`, which only reads. -/
def buildPlan : SyncTx SyncPlan := do
  let db ← statement env .buildSyncPlan get
  match env.buildSyncPlan db monitoringInstanceID with
  | none => throw .monitoringInstanceNotFound
  | some plan => pure plan

/-- Commits and builds the result. -/
def finish (floor : Int) (liveAdvanced : Bool) (disposition : Disposition) (stop : Bool)
    (plan : SyncPlan) : SyncTx Result := do
  statement env .commit (pure ())
  pure
    { sessionID := batch.sessionID
      producerID := batch.producerID
      batchSequence := batch.batchSequence
      batchDigest := hexEncode batch.payloadDigest
      retiredThrough := floor
      stopCollection := stop
      disposition
      liveCollectionAllowed := liveAdvanced && state.capability = .full &&
        !state.suppressWritesAndPlan && (disposition = .recorded ||
          (batch.batchSequence = 0 && disposition = .suppressed))
      acceptedAt := env.receivedAt
      plan }

def emptyPlan : SyncPlan := ⟨none, ""⟩

/-- Stores everything the batch reports, and its receipt. -/
def recordBatch (floor : Int) (liveAdvanced : Bool) : SyncTx Result := do
  validateProbeObservations env batch.probeObservations
  statement env .recordReceipt
    (insertReceipt batch.sessionID batch.batchSequence batch.payloadDigest.toList)
  let lastHeartbeatAt ← recordHeartbeatBatch env batch.monitoringInstanceID
    state.bindingFingerprint batch.heartbeats
  recordObservationBatch env batch.hostSamples batch.probeObservations
  recordIPQualityReports env batch.ipQualityReports
  advanceMonitoringInstanceSyncState env batch.monitoringInstanceID lastHeartbeatAt
    (lifecycleStatusAfterAcceptedSync state.lifecycleStatus liveAdvanced)
  storeCommandResults env batch
  let pendingAction ← dispatchPendingAction env batch.monitoringInstanceID
  let plan ← buildPlan env batch.monitoringInstanceID
  finish env batch state floor liveAdvanced .recorded false { plan with pendingAction }

/-- The digest of the batch that was accepted under this sequence. -/
def readReceipt : SyncTx (Option (List UInt8)) := do
  if batch.batchSequence > 0 then
    let db ← statement env .readReceipt get
    pure (db.receipts.lookup (batch.sessionID, batch.batchSequence))
  else pure none

/-- The part of `applyBatch` after the live signal: receipts, suppression, control requests and the
replay window. -/
def disposeBatch (floor : Int) (liveAdvanced : Bool) : SyncTx Result := do
  let receipt ← readReceipt env batch
  match receipt with
  | some digest =>
    if digest ≠ batch.payloadDigest.toList then throw .syncBatchIdentityConflict
    else
      finish env batch state floor liveAdvanced .exactDuplicate state.suppressWritesAndPlan emptyPlan
  | none =>
    if state.suppressWritesAndPlan then
      finish env batch state floor liveAdvanced .suppressed true emptyPlan
    else if batch.batchSequence = 0 then do
      let plan ← buildPlan env batch.monitoringInstanceID
      finish env batch state floor liveAdvanced .suppressed false plan
    else if batch.batchSequence - floor > syncReplayWindow then
      finish env batch state floor liveAdvanced .deferred false emptyPlan
    else recordBatch env batch state floor liveAdvanced

/-- `applyBatch` of `PostgresSyncRepository`. -/
def applyBatch : SyncTx Result := do
  match validateBatchProtocol batch with
  | .error e => throw e
  | .ok () =>
    statement env .begin (pure ())
    statement env .lockAssetGraph (pure ())
    let state ← validateAcceptedSyncBatch env batch
    let floor ← acceptSyncReplayState env batch
    let liveAdvanced ← recordTrustedLiveSignal env batch state
    disposeBatch env batch state floor liveAdvanced

/-! ## The center as a transition system -/

/-- What happens at the center: a sync request in its environment, or a change of the administered
tables by any other part of the center (enrollment, pausing, archiving, binding changes). -/
inductive Event
  | sync (env : Env) (batch : Batch)
  | administer (assets : Assets)

/-- The answer to an event; administration has none. -/
abbrev Answer := Option (Except SyncError Result)

def handle (db : Database) : Event → Answer × Database
  | .sync env batch =>
    let (answer, db') := (applyBatch env batch).run db
    (some answer, db')
  | .administer assets => (none, { db with assets })

/-- One request to the center and its answer. -/
def centerStep (db : Database) (label : Event × Answer) (db' : Database) : Prop :=
  handle db label.1 = (label.2, db')

/-- A center whose replay tables are empty: after the migration, before any request. -/
def Database.Fresh (db : Database) : Prop := db.replayStates = ∅ ∧ db.receipts = ∅

end Houfeng.Center
