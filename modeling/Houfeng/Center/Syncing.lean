import Houfeng.AgentApi.Types

/-!
# Sync batches and their admission

The batch the HTTP handler hands to the center's repository, its result, and the protocol checks
before any transaction. Columns of a fact that no check reads are its `content`. Times are
nanoseconds since the zero time.
-/

namespace Houfeng.Center

open AgentApi

structure HeartbeatPayload where
  observedAt : Int
  agentVersion : String
  fingerprint : String
  syncBatchID : String
  isBackfilled : Bool
deriving DecidableEq

structure HostSampleWrite where
  monitoringInstanceID : String
  receivedAt : Int
  fingerprint : String
  syncBatchID : String
  isBackfilled : Bool
  content : String
deriving DecidableEq

structure ProbeObservationWrite where
  monitoringInstanceID : String
  targetID : String
  probeItemID : String
  probeKind : String
  receivedAt : Int
  fingerprint : String
  resultKind : String
  httpStatus : Option Int
  tlsExpiryDays : Option Int
  errorCode : String
  errorSummary : String
  syncBatchID : String
  isBackfilled : Bool
  content : String
deriving DecidableEq

structure ReportWrite where
  monitoringInstanceID : String
  receivedAt : Int
  fingerprint : String
  syncBatchID : String
  isBackfilled : Bool
  content : String
deriving DecidableEq

structure CommandResult where
  actionID : String
  commandID : String
  stdout : String
  stderr : String
  exitCode : Int

structure Batch where
  protocolRevision : Int
  producerID : String
  batchSequence : Int
  allocatedThrough : Int
  retiredThrough : Int
  payloadDigest : Digest
  sessionID : String
  liveSignal : Option LiveSignal
  monitoringInstanceID : String
  syncToken : String
  heartbeats : List HeartbeatPayload
  hostSamples : List HostSampleWrite
  probeObservations : List ProbeObservationWrite
  ipQualityReports : List ReportWrite
  commandResults : List CommandResult

structure PendingAction where
  commandID : String
  actionID : String
deriving DecidableEq

/-- The plan returned with a batch. Only the pending action is decided by the batch; the sampling
and probing instructions are `content`. -/
structure SyncPlan where
  pendingAction : Option PendingAction
  content : String
deriving DecidableEq

structure Result where
  sessionID : String
  producerID : String
  batchSequence : Int
  batchDigest : String
  retiredThrough : Int
  stopCollection : Bool
  disposition : Disposition
  liveCollectionAllowed : Bool
  acceptedAt : Int
  plan : SyncPlan
deriving DecidableEq

inductive Constraint
  | replayStateSession
  | replayStateMonotonic
  | replayRetiredNonneg
  | replayAllocatedGeRetired
  | replayLiveNonneg
  | receiptKey
  | receiptWindow
  | receiptErase
  | receiptSequencePositive
  | receiptDigestLength
deriving DecidableEq

/-- The statements of a sync transaction, for faults outside the model: a lost connection, a
cancelled context, a constraint of another table. -/
inductive Statement
  | begin
  | lockAssetGraph
  | queryBatchState
  | initializeReplayState
  | lockReplayState
  | advanceReplayControls
  | advanceLiveSignal
  | touchSessionEvidence
  | touchInstanceEvidence
  | upsertFollowup
  | readReceipt
  | lookupProbeMetadata
  | recordReceipt
  | recordHeartbeat
  | insertHostSample
  | insertProbeObservation
  | writeIPQualityReport
  | touchSyncState
  | storeCommandResult
  | insertCommandAudit
  | queryPendingAction
  | clearPendingAction
  | buildSyncPlan
  | commit
deriving DecidableEq

inductive SyncError
  | invalidSyncToken
  | bindingNotAccepted
  | heartbeatRequired
  | syncProtocolRequired
  | syncProducerMismatch
  | syncBatchRetired
  | syncBatchIdentityConflict
  | invalidReplayState
  | monitoringInstanceNotFound
  | invalidProbeObservation (reason : String)
  | invalidIPQualityReport
  | storage (statement : Statement)
  | constraint (c : Constraint)
deriving DecidableEq

def validateBatchProtocol (batch : Batch) : Except SyncError Unit :=
  if batch.protocolRevision ≠ syncProtocolRevision then .error .syncProtocolRequired
  else if validSyncProducerID batch.producerID = false ∨ batch.sessionID = "" ∨
      batch.allocatedThrough < 0 ∨ batch.retiredThrough < 0 ∨
      batch.retiredThrough > batch.allocatedThrough ∨
      batch.batchSequence < 0 ∨ batch.batchSequence > batch.allocatedThrough then
    .error .invalidReplayState
  else if batch.liveSignal.any fun l => l.sequence ≤ 0 || l.fingerprint = "" then
    .error .invalidReplayState
  else if batch.batchSequence = 0 then
    if batch.heartbeats.length + batch.hostSamples.length + batch.probeObservations.length +
        batch.ipQualityReports.length + batch.commandResults.length ≠ 0 then
      .error .invalidReplayState
    else .ok ()
  else if batch.batchSequence ≤ batch.retiredThrough then .error .syncBatchRetired
  else if batch.heartbeats.length = 0 then .error .heartbeatRequired
  else
    let identity := batchIdentity batch.producerID batch.batchSequence
    if batch.heartbeats.any fun f => f.syncBatchID ≠ identity then .error .invalidReplayState
    else if batch.hostSamples.any fun f => f.syncBatchID ≠ identity then .error .invalidReplayState
    else if batch.probeObservations.any fun f => f.syncBatchID ≠ identity then
      .error .invalidReplayState
    else if batch.ipQualityReports.any fun f => f.syncBatchID ≠ identity then
      .error .invalidReplayState
    else .ok ()

/-! ## Probe observations -/

/-- The characters `strings.TrimSpace` removes. -/
def isSpace (c : Char) : Bool :=
  c.toNat ∈ [9, 10, 11, 12, 13, 32, 0x85, 0xA0, 0x1680, 0x2028, 0x2029, 0x202f, 0x205f, 0x3000] ||
    (0x2000 ≤ c.toNat && c.toNat ≤ 0x200a)

def trimSpace (s : String) : String :=
  String.ofList ((s.toList.dropWhile isSpace).reverse.dropWhile isSpace).reverse

def isBlank (s : String) : Bool := s.toList.all isSpace

def allowedProbeKinds : List String := ["tcp", "http", "tls"]

def allowedProbeErrorCodes : List String := ["timeout", "connect", "http_status", "tls_handshake"]

/-- The `%q` form of a text without characters to escape. -/
def quoted (s : String) : String := "\"" ++ s ++ "\""

/-- An `ErrInvalidProbeObservation` with the text that follows it. -/
def invalidProbe (reason : String) : Except SyncError Unit :=
  .error (.invalidProbeObservation reason)

def validateProbeObservation (o : ProbeObservationWrite) : Except SyncError Unit := do
  if o.probeKind ∉ allowedProbeKinds then
    invalidProbe ("unsupported probe_kind " ++ quoted o.probeKind)
  if o.resultKind = "success" then
    if o.errorCode ≠ "" ∨ isBlank o.errorSummary = false then
      invalidProbe "success observation must not carry failure fields"
  else if o.resultKind = "failure" then
    if o.errorCode = "" then
      invalidProbe "failure observation must carry error_code"
    if isBlank o.errorSummary then
      invalidProbe "failure observation must carry error_summary"
  else
    invalidProbe ("unsupported result_kind " ++ quoted o.resultKind)
  if o.errorCode ≠ "" ∧ o.errorCode ∉ allowedProbeErrorCodes then
    invalidProbe ("unsupported error_code " ++ quoted o.errorCode)
  if o.probeKind ≠ "http" ∧ o.httpStatus.isSome then
    invalidProbe ("probe_kind " ++ quoted o.probeKind ++ " must not carry http_status")
  if o.probeKind ≠ "tls" ∧ o.tlsExpiryDays.isSome then
    invalidProbe ("probe_kind " ++ quoted o.probeKind ++ " must not carry tls_expiry_days")

end Houfeng.Center
