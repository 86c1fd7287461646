import Houfeng.Runtime.Operations

/-!
# The agent runtime

`Runtime` of the agent: a run checks the protocol, loads its credentials and opens the queue; every
tick collects the facts of the moment, queues them as one entry and flushes the queue, two entries
of the backlog before the current one. Log output and wrapped errors are left out.
-/

namespace Houfeng.Runtime

open AgentApi SyncQueue Routine

/-- What a runtime is built with: the hash of a marshalled batch, its version, and which of the
optional dependencies are present. -/
structure Config where
  hash : Json → Digest
  agentVersion : String
  syncCredentialStore : Bool
  hostSampleProvider : Bool
  probeProvider : Bool
  ipQualityProvider : Bool
  ipQualityStopper : Bool

/-- Who the agent syncs as. -/
structure SyncAuthority where
  monitoringInstanceID : String
  syncToken : String
  fingerprint : String

structure SyncRoundResult where
  ackedEntries : Nat
  remainingEntries : Nat

inductive SyncQueueEntryDisposition
  | acknowledged
  | discarded
deriving DecidableEq

def whitelist : List (String × String × List String) :=
  [("df_h", "df", ["-h"]), ("free_m", "free", ["-m"]), ("uptime", "uptime", []),
    ("top_head", "top", ["-bn1"]), ("journalctl_u", "journalctl", ["--lines=50"]),
    ("systemctl_status", "systemctl", ["status"]), ("dmesg_err", "dmesg", ["--level=err"]),
    ("docker_ps", "docker", ["ps"])]

def maxBacklogSyncAttemptsPerRound : Nat := 2

def timeText (t : Time) : TimeText := (formatTime t).getD ""

variable (cfg : Config)

/-! ## Collecting -/

/-- Whether the tier wants a sample now. -/
def hostSampleDue (frequencyTier : String) (lastAt observedAt : Time) : Bool :=
  match frequencyTiers.lookup frequencyTier with
  | none => false
  | some duration => lastAt = 0 || lastAt + duration ≤ observedAt

variable (request : SyncRequest) (authority : SyncAuthority) (observedAt : Time)
  (fingerprint syncBatchID : String)

/-- The host sample of the round, if one is due. -/
def collectHostSample : Action (Option HostSamplePayload) := do
  let m ← call .readMemory
  match m.currentPlan with
  | none => pure none
  | some plan =>
    if cfg.hostSampleProvider = false ∨
        hostSampleDue plan.hostSampleFrequencyTier m.lastHostSampleAt observedAt = false then
      pure none
    else
      let collected ← call (.collectHostSample observedAt)
      match collected with
      | none => pure none
      | some sample =>
        assign fun m => { m with lastHostSampleAt := observedAt }
        let containers ← call .collectContainers
        pure (some { sample with
          observedAt := timeText observedAt
          agentVersion := cfg.agentVersion
          fingerprint
          syncBatchID
          maintenanceContext := plan.hostSampleMaintenanceContext
          containers := if containers.getD [] = [] then sample.containers else containers })

/-- The observations of the probes that are due. -/
def collectProbeObservations : Action (List ProbeObservationPayload) := do
  let m ← call .readMemory
  match m.currentPlan with
  | none => pure []
  | some plan =>
    if cfg.probeProvider = false ∨ plan.probeAssignments = [] then pure []
    else
      let collected ← call (.collectProbes plan observedAt)
      pure ((collected.getD []).map ({ · with
        observedAt := timeText observedAt
        agentVersion := cfg.agentVersion
        fingerprint
        syncBatchID }))

def stampReport (report : IPQualityReportPayload) : IPQualityReportPayload :=
  { report with
    observedAt := if report.observedAt = timeText 0 then timeText observedAt else report.observedAt
    agentVersion := if report.agentVersion = "" then cfg.agentVersion else report.agentVersion
    fingerprint := if report.fingerprint = "" then fingerprint else report.fingerprint
    syncBatchID := if report.syncBatchID = "" then syncBatchID else report.syncBatchID }

def drainIPQualityReports : Action (List IPQualityReportPayload) := do
  if cfg.ipQualityProvider = false then pure []
  else
    let reports ← call .drainReports
    pure (reports.map (stampReport cfg observedAt fingerprint syncBatchID))

def startIPQualityCollection : Action Unit := do
  let m ← call .readMemory
  match m.currentPlan.bind (·.ipQualityPlan) with
  | none => pure ()
  | some plan =>
    if cfg.ipQualityProvider = false ∨ plan.enabled = false then pure ()
    else call (.maybeStart plan observedAt)

/-- The request of a tick before any fact but its heartbeat. -/
def heartbeatRequest (monitoringInstanceID syncToken : String) (observedAt : Time)
    (fingerprint syncBatchID : String) : SyncRequest where
  protocolRevision := 0
  producerID := ""
  batchSequence := 0
  allocatedThrough := 0
  retiredThrough := 0
  sessionID := sessionOfToken syncToken
  liveSignal := none
  monitoringInstanceID
  syncToken
  heartbeats := some [
    { observedAt := timeText observedAt
      agentVersion := cfg.agentVersion
      fingerprint
      syncBatchID
      isBackfilled := false }]
  hostSamples := none
  probeObservations := none
  ipQualityReports := none
  commandResults := none

/-- `append(nil, xs...)`. -/
def sliceOf {α : Type} (items : List α) : Slice α := if items = [] then none else some items

/-- The request of the round: the heartbeat and all that was collected. -/
def buildSyncRequest (monitoringInstanceID syncToken : String) (observedAt : Time)
    (fingerprint syncBatchID : String) : Action SyncRequest := do
  let request := heartbeatRequest cfg monitoringInstanceID syncToken observedAt fingerprint
    syncBatchID
  let m ← call .readMemory
  if m.collectionStopped then pure { request with heartbeats := none }
  else
    let sample ← collectHostSample cfg observedAt fingerprint syncBatchID
    let observations ← collectProbeObservations cfg observedAt fingerprint syncBatchID
    let reports ← drainIPQualityReports cfg observedAt fingerprint syncBatchID
    assign fun m => { m with pendingIPReports := m.pendingIPReports ++ reports }
    startIPQualityCollection cfg observedAt
    let m ← call .readMemory
    pure { request with
      hostSamples := sliceOf sample.toList
      probeObservations := sliceOf observations
      ipQualityReports := sliceOf m.pendingIPReports
      commandResults := sliceOf m.pendingResults }

/-! ## Plans -/

def Memory.stopped (m : Memory) : Memory :=
  { m with
    collectionStopped := true
    currentPlan := none
    pendingResults := []
    pendingIPReports := [] }

/-- Stops the collection of reports and drops those that are ready. -/
def stopIPQuality : Action Unit := do
  if cfg.ipQualityProvider = false then pure ()
  else if cfg.ipQualityStopper = false then
    let _ ← call .drainReports
    pure ()
  else
    call .stopIPQuality
    let _ ← call .drainReports
    pure ()

/-- Takes over what the center answers: a stop, or a plan. -/
def applySyncPlan (response : SyncResponse) : Action Unit := do
  if response.stopCollection then
    assign Memory.stopped
    stopIPQuality cfg
  else
    assign fun m => { m with collectionStopped := false, currentPlan := response.plan }
    match response.plan.bind (·.pendingAction) with
    | none => pure ()
    | some action =>
      match whitelist.lookup action.commandID with
      | none => pure ()
      | some (bin, args) =>
        let result ← call (.runCommand action bin args)
        assign fun m => { m with
          pendingResults := m.pendingResults ++
            [{ result with actionID := action.actionID, commandID := action.commandID }] }

/-! ## Transmitting -/

/-- Reserves live sequences when none are left. -/
def ensureLiveBlock : Action Unit := do
  let m ← call .readMemory
  if m.nextLiveSequence ≠ 0 then pure ()
  else
    let reserved ← call (.reserveLiveSequences liveSequenceReservation)
    let block ← queueCall "reserve_live_sequences" reserved
    assign fun m => { m with nextLiveSequence := block.1, lastLiveSequence := block.2 }

/-- Gives the request the next live sequence. -/
def attachLiveSignal : Action SyncRequest := do
  if fingerprint = "" then throw (.message "live signal requires local identity")
  else
    ensureLiveBlock
    let m ← call .readMemory
    let sequence := m.nextLiveSequence
    assign fun m => { m with
      nextLiveSequence := if sequence = m.lastLiveSequence then 0 else m.nextLiveSequence + 1 }
    pure { request with liveSignal := some { sequence, fingerprint } }

/-- The request with the current watermarks of the queue. -/
def refreshReplayState : Action SyncRequest := do
  let answer ← call .replayState
  let state ← queueCall "replay_state" answer
  if request.sessionID ≠ state.sessionID ∨
      (request.batchSequence > 0 ∧ request.producerID ≠ state.producerID) then
    throw (.message "sync request does not match durable replay authority")
  else
    pure { request with
      protocolRevision := syncProtocolRevision
      producerID := state.producerID
      allocatedThrough := state.allocatedThrough
      retiredThrough := state.retiredThrough }

/-- A valid response is returned. -/
def validateSyncAcknowledgement (response : Option SyncResponse) : Except String SyncResponse :=
  match response with
  | none => .error "sync acknowledgement authority or sequence mismatch"
  | some response =>
    if response.sessionID ≠ request.sessionID ∨ response.producerID ≠ request.producerID ∨
        response.batchSequence ≠ request.batchSequence then
      .error "sync acknowledgement authority or sequence mismatch"
    else if response.batchDigest ≠ hexEncode (canonicalSyncBatchDigest cfg.hash request) then
      .error "sync acknowledgement digest mismatch"
    else if response.disposition ∈ [Disposition.recorded.text, Disposition.exactDuplicate.text,
        Disposition.suppressed.text, Disposition.deferred.text] then .ok response
    else .error "sync acknowledgement disposition invalid"

def allowlistedAgentErrorCode (code : String) : String := if code ∈ agentErrorCodes then code else ""

/-- What a failed sync says about the entry and the loop. -/
def classifySyncFailure (e : ClientError) : SyncPolicyError :=
  match e with
  | .transport => ⟨.transport, .retry, 0, "", .client e⟩
  | .remote statusCode code _ =>
    let action : SyncQueueAction :=
      if statusCode = 429 ∨ statusCode ≥ 500 then .retry
      else if statusCode = 400 ∧ (code = errorCodeInvalidJSON ∨ code = errorCodeInvalidRequest) then
        .discard
      else if statusCode ≥ 400 ∧ statusCode < 500 then .terminal
      else .retry
    ⟨.remote, action, statusCode, allowlistedAgentErrorCode code, .client e⟩

/-- The wait a server asks for with a 429 or 503, where it is between a second and a minute. -/
def noteRetryAfter (e : ClientError) : Action Unit := do
  match e with
  | .transport => pure ()
  | .remote statusCode _ retryAfter =>
    if statusCode = 429 ∨ statusCode = 503 then
      let wait := if retryAfter < 1000000000 ∨ retryAfter > 60000000000 then 5000000000
        else retryAfter
      let now ← call .now
      assign fun m => { m with
        backlogRetryNotBefore := if now + wait > m.backlogRetryNotBefore then now + wait
          else m.backlogRetryNotBefore }
    else pure ()

/-- Sends the request and checks the answer. -/
def transmitSyncRequest : Action SyncResponse := do
  let request ← refreshReplayState request
  call (.send request)
  let reply ← call (.receive request)
  match reply with
  | .error e =>
    noteRetryAfter e
    throw (.policy (classifySyncFailure e))
  | .ok response =>
    match validateSyncAcknowledgement cfg request response with
    | .error message => throw (.policy ⟨.remote, .terminal, 0, "", .acknowledgement message⟩)
    | .ok response => pure response

/-- `syncRequest`. The entry of the current tick has a heartbeat. -/
def syncRequest (entry : Entry) (current : Bool) : Action SyncResponse := do
  if current then
    let fingerprint := (entry.request.heartbeats.items.head?.map (·.fingerprint)).getD ""
    let request ← attachLiveSignal entry.request fingerprint
    transmitSyncRequest cfg request
  else transmitSyncRequest cfg (withBackfilledFacts entry.request true)

def sendControl : Action Unit := do
  let request ← attachLiveSignal request fingerprint
  let response ← transmitSyncRequest cfg request
  if response.disposition ≠ Disposition.suppressed.text then
    throw (.message "minimal sync control was not suppressed")
  else applySyncPlan cfg response

/-! ## Flushing -/

/-- Why a queued request does not belong to the authority. -/
def syncQueueAuthorityMismatch : Option String :=
  if request.monitoringInstanceID ≠ authority.monitoringInstanceID then
    some "monitoring_instance_mismatch"
  else if request.syncToken ≠ authority.syncToken then some "sync_token_mismatch"
  else if request.heartbeats.items = [] then some "missing_heartbeat"
  else
    match request.heartbeats.items.find? fun h =>
      h.syncBatchID = "" || h.fingerprint ≠ authority.fingerprint with
    | some h =>
      some (if h.syncBatchID = "" then "missing_heartbeat_batch_id"
        else "heartbeat_fingerprint_mismatch")
    | none =>
      if request.hostSamples.items.any (·.fingerprint ≠ authority.fingerprint) then
        some "host_sample_fingerprint_mismatch"
      else if request.probeObservations.items.any (·.fingerprint ≠ authority.fingerprint) then
        some "probe_fingerprint_mismatch"
      else if request.ipQualityReports.items.any (·.fingerprint ≠ authority.fingerprint) then
        some "ip_quality_fingerprint_mismatch"
      else none

/-- Deletes the entries of another authority. -/
def discardStaleSyncQueueEntries (entries : List Entry) (authority : SyncAuthority) :
    Action (List Entry) := do
  let stale (entry : Entry) : Bool := (syncQueueAuthorityMismatch entry.request authority).isSome
  let retained := entries.filter fun entry => !stale entry
  let staleIDs := (entries.filter fun entry =>
    stale entry && entry.id ∉ retained.map Entry.id).map Entry.id
  if staleIDs = [] then pure retained
  else
    let answer ← call (.deleteMany staleIDs)
    queueCall "delete_stale" answer
    pure retained

/-- Deletes every entry after an answer that stops collection. -/
def purgeStopped (response : SyncResponse) : Action Unit := do
  if response.stopCollection = false then pure ()
  else
    let listed ← call .list
    match listed with
    | .error cause => throw (.queue cause)
    | .ok entries =>
      let answer ← call (.deleteMany (entries.map Entry.id))
      match answer with
      | .error cause => throw (.queue cause)
      | .ok () => pure ()

/-- Sends one entry and acts on the outcome. -/
def flushSyncQueueEntry (entry : Entry) (current : Bool) : Action SyncQueueEntryDisposition := do
  let synced ← attempt (syncRequest cfg entry current)
  match synced with
  | .error err =>
    match err.policy? with
    | none => throw err
    | some policy =>
      let answer ← call (.markAttempt entry.id)
      queueCall "mark_attempt" answer
      match policy.action with
      | .discard =>
        let answer ← call (.deleteMany [entry.id])
        queueCall "delete_rejected" answer
        pure .discarded
      | .terminal | .retry => throw (.policy policy)
  | .ok response =>
    if response.disposition = Disposition.deferred.text then
      throw (.policy ⟨.remote, .retry, 0, "", .replayRetry⟩)
    else
      let answer ← call (.deleteMany [entry.id])
      queueCall "delete_acknowledged" answer
      applySyncPlan cfg response
      purgeStopped response
      pure .acknowledged

/-- Whether the backlog may be sent now; a wait that is over is forgotten. -/
def backlogReady : Action Bool := do
  let m ← call .readMemory
  if m.backlogRetryNotBefore = 0 then pure true
  else
    let now ← call .now
    if now < m.backlogRetryNotBefore then pure false
    else
      assign fun m => { m with backlogRetryNotBefore := 0 }
      pure true

/-- How the backlog loop of `flushSyncQueue` ends: with the retry error that ended it, if any, or
because collection was stopped. -/
inductive BacklogEnd
  | finished (retryErr : Option RunError)
  | stopped

/-- The backlog loop of `flushSyncQueue`, for at most the given number of entries. -/
def flushBacklog : Nat → List Entry → SyncRoundResult → Action (SyncRoundResult × BacklogEnd)
  | 0, _, round => pure (round, .finished none)
  | _ + 1, [], round => pure (round, .finished none)
  | attempts + 1, entry :: rest, round => do
    let go ← backlogReady
    if go = false then pure (round, .finished none)
    else
      let flushed ← attempt (flushSyncQueueEntry cfg entry false)
      match flushed with
      | .error err =>
        if err.action? = some .retry then pure (round, .finished (some err))
        else throw err
      | .ok disposition =>
        let round : SyncRoundResult :=
          { remainingEntries := round.remainingEntries - 1
            ackedEntries := if disposition = .acknowledged then round.ackedEntries + 1
              else round.ackedEntries }
        let m ← call .readMemory
        if m.collectionStopped then pure (round, .stopped)
        else flushBacklog attempts rest round

/-- Sends the backlog, then the entry of the round. -/
def flushSyncQueue (currentEntryID : String) (authority : SyncAuthority) :
    Action SyncRoundResult := do
  let listed ← call .list
  let entries ← queueCall "list" listed
  let entries ← discardStaleSyncQueueEntries entries authority
  let backlog := entries.filter (·.id ≠ currentEntryID)
  match entries.filter (·.id = currentEntryID) with
  | [] => throw .currentEntryMissing
  | _ :: _ :: _ => throw .currentEntryAmbiguous
  | [current] =>
    let (round, ended) ← flushBacklog cfg maxBacklogSyncAttemptsPerRound backlog
      { ackedEntries := 0, remainingEntries := backlog.length }
    match ended with
    | .stopped => pure { ackedEntries := 0, remainingEntries := 0 }
    | .finished retryErr =>
      let _ ← flushSyncQueueEntry cfg current true
      match retryErr with
      | some err => throw err
      | none => pure round

def acknowledged {α : Type} (n : Nat) (buffer : List α) : List α :=
  if n ≥ buffer.length then [] else if n > 0 then buffer.drop n else buffer

/-- Forgets the results and reports that the queue now holds. -/
def acknowledgePendingPayloads (commandResults ipQualityReports : Nat) : Action Unit :=
  assign fun m => { m with
    pendingResults := acknowledged commandResults m.pendingResults
    pendingIPReports := acknowledged ipQualityReports m.pendingIPReports }

/-- Stores the request before it is sent. -/
def enqueueAndFlush : Action SyncRoundResult := do
  let answer ← call (.enqueue request)
  let currentEntryID ← queueCall "enqueue" answer
  acknowledgePendingPayloads request.commandResults.items.length
    request.ipQualityReports.items.length
  let answer ← call .prune
  queueCall "prune" answer
  let flushed ← attempt (flushSyncQueue cfg currentEntryID authority)
  match flushed with
  | .error err => throw (.wrapped "flush sync queue" err)
  | .ok round => pure round

/-! ## Running -/

/-- Where a run stands after a program: it waits for the next tick, or it has returned with these
errors joined. -/
inductive Phase
  | waiting (authority : SyncAuthority)
  | returned (errs : List RunError)

/-- The end of a run: an ambiguous write is remembered, so that no later run starts. -/
def finish (errs : List RunError) : Action Phase := do
  if errs.any (·.isAmbiguousDurability) then
    assign fun m => { m with fatalDurabilityErr := errs }
    pure (.returned errs)
  else pure (.returned errs)

/-- Closes the queue and ends with the errors. -/
def leave (errs : List RunError) : Action Phase := do
  let closed ← call .close
  match closed with
  | .ok () => finish errs
  | .error cause => finish (errs ++ [.queueOperation "close" cause])

/-- Nothing if the context is done, else the error. -/
def unlessCancelled {α : Type} (e : RunError) : Action (Option α) := do
  let cancelled ← call .ctxErr
  if cancelled then pure none else throw e

/-- `classifyRemoteOperationFailure` for an enrollment. -/
def enrollFailure (e : ClientError) : RunError :=
  match e with
  | .transport => .remoteOperation "enroll" .transport 0 ""
  | .remote statusCode code _ =>
    .remoteOperation "enroll" .remote statusCode (allowlistedAgentErrorCode code)

/-- Exchanges the enrollment token for credentials. -/
def enroll : Action EnrollmentResponse := do
  let loaded ← call .token
  match loaded with
  | none => throw (.runtimeOperation "load_enrollment_token")
  | some token =>
    let answer ← call (.enroll token fingerprint)
    match answer with
    | .error e => throw (.wrapped "enroll agent" (enrollFailure e))
    | .ok enrollment =>
      if enrollment.bindingStatus ≠ bindingStatusBound then
        throw (.wrapped "enroll agent" (.enrollmentNotBound enrollment.bindingStatus))
      else if enrollment.syncToken = "" then throw (.wrapped "enroll agent" .missingSyncToken)
      else if cfg.syncCredentialStore = false then pure enrollment
      else
        let saved ← call (.saveSyncCredentials enrollment.monitoringInstanceID enrollment.syncToken)
        if saved then pure enrollment else throw (.runtimeOperation "persist_sync_credentials")

def loadSyncCredentials : Action (Option (Option (String × String))) := do
  if cfg.syncCredentialStore = false then pure (some none)
  else call .syncCredentials

/-- What the agent does before its first round. -/
def prepare : Action (Option SyncAuthority) := do
  let supported ← call .checkSyncProtocol
  if supported = false then unlessCancelled (.runtimeOperation "check_sync_protocol")
  else
    let loaded ← call .fingerprint
    match loaded with
    | none => unlessCancelled (.runtimeOperation "load_fingerprint")
    | some fingerprint =>
      let credentials ← loadSyncCredentials cfg
      match credentials with
      | none => unlessCancelled (.runtimeOperation "load_sync_credentials")
      | some (some (monitoringInstanceID, syncToken)) =>
        pure (some { monitoringInstanceID, syncToken, fingerprint })
      | some none =>
        let enrolled ← attempt (enroll cfg fingerprint)
        match enrolled with
        | .error e => unlessCancelled e
        | .ok enrollment =>
          pure (some
            { monitoringInstanceID := enrollment.monitoringInstanceID
              syncToken := enrollment.syncToken
              fingerprint })

def run : Action Phase := do
  let m ← call .readMemory
  if m.fatalDurabilityErr.isEmpty = false then pure (.returned m.fatalDurabilityErr)
  else
    let prepared ← attempt (prepare cfg)
    match prepared with
    | .error e => finish [e]
    | .ok none => finish []
    | .ok (some authority) =>
      let opened ← call (.openSession (sessionOfToken authority.syncToken))
      match opened with
      | .error cause =>
        let cancelled ← call .ctxErr
        if cancelled = true ∧ cause ≠ .ambiguousDurability then finish []
        else finish [.queueOperation "open_session" cause]
      | .ok () =>
        assign fun m => { m with nextLiveSequence := 0, lastLiveSequence := 0 }
        pure (.waiting authority)

/-- What the loop of `Run` does about an error of a round: nothing, or return the errors. -/
def handleRoundError (err : RunError) : Action (Option (List RunError)) := do
  if err.isAmbiguousDurability then pure (some [err])
  else
    let cancelled ← call .ctxErr
    if cancelled then pure (some [])
    else match err.action? with
      | some .terminal => pure (some [.wrapped "sync queue terminal failure" err])
      | some .retry => pure none
      | some .discard | none => pure (some [.wrapped "sync queue operation failed" err])

/-- What the loop of `Run` does about an error of a control request. -/
def handleControlError (err : RunError) : Action (Option (List RunError)) := do
  if err.isAmbiguousDurability then pure (some [err])
  else
    let cancelled ← call .ctxErr
    if cancelled then pure (some [])
    else if err.action? = some .retry then pure none
    else pure (some [err])

/-- One round of the loop of `Run`; the result are the errors it returns with, if it does. -/
def round : Action (Option (List RunError)) := do
  let request ← buildSyncRequest cfg authority.monitoringInstanceID authority.syncToken observedAt
    authority.fingerprint ""
  let m ← call .readMemory
  if m.collectionStopped then
    let controlled ← attempt (sendControl cfg request authority.fingerprint)
    match controlled with
    | .error err => handleControlError err
    | .ok () => pure none
  else
    let flushed ← attempt (enqueueAndFlush cfg request authority)
    match flushed with
    | .error err => handleRoundError err
    | .ok _ => pure none

/-- One round; then the run waits for the next tick, or ends. -/
def tick : Action Phase := do
  let ended ← round cfg authority observedAt
  match ended with
  | none => pure (.waiting authority)
  | some errs => leave errs

end Houfeng.Runtime
