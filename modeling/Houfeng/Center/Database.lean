import Houfeng.Center.Syncing
import Houfeng.Foundation.Table
import Houfeng.Foundation.Transaction

/-!
# The tables a sync transaction touches

Sessions, monitoring instances and VPS assets; the replay states and receipts with the triggers and
check constraints of migration 0080; and the fact tables. Statements that change a replay state or
a receipt apply the constraints in the order PostgreSQL does: row triggers before, checks, the
write, row triggers after.
-/

namespace Houfeng.Center

open AgentApi

/-! ## Assets -/

inductive Capability
  | full
  | evidenceOnly
deriving DecidableEq

inductive BindingStatus
  | unbound
  | bound
  | pendingConfirmation
deriving DecidableEq

inductive LifecycleStatus
  | pendingEnrollment
  | inUse
  | observing
  | noRenewal
  | retired
deriving DecidableEq

inductive MonitoringStatus
  | enabled
  | maintenance
  | paused
deriving DecidableEq

structure Session where
  monitoringInstanceID : String
  fingerprintHash : String
  tokenHash : String
  capability : Capability
  startedAt : Int
  endedAt : Option Int
  lastTrustedOnlineAt : Option Int
  everConnected : Bool

/-- The `last_action` document of a monitoring instance. -/
structure LastAction where
  actionID : String
  commandID : String
  status : String
  sensitivity : String
  queuedAt : Option Int
  stdout : String
  stderr : String
  exitCode : Int
  completedAt : Option Int
  outputExpiresAt : Option Int
  outputExpired : Bool

/-- A row of `monitoring_instances`; absent texts are empty. -/
structure Instance where
  vpsID : String
  archivedAt : Option Int
  bindingStatus : BindingStatus
  bindingFingerprint : String
  bindingEpochStartedAt : Option Int
  pendingBindingFingerprint : String
  pendingBindingFirstSeenAt : Option Int
  pendingBindingLastSeenAt : Option Int
  pendingBindingAttemptCount : Int
  enrollmentTokenHash : String
  enrollmentTokenIssuedAt : Option Int
  enrollmentTokenConsumedAt : Option Int
  syncTokenHash : String
  lifecycleStatus : LifecycleStatus
  monitoringStatus : MonitoringStatus
  controlRevision : Int
  lastHeartbeatAt : Option Int
  lastSyncAt : Option Int
  lastTrustedOnlineAt : Option Int
  everConnected : Bool
  pendingActionID : Option String
  pendingActionCommandID : Option String
  lastAction : Option LastAction

structure Vps where
  archived : Bool
  archivedAt : Option Int

structure FollowupDetails where
  monitoringInstanceID : String
  sessionID : String
  lastTrustedOnlineAt : Int

structure Followup where
  vpsID : String
  kind : String
  dedupeKey : String
  status : String
  summary : String
  details : FollowupDetails

structure ProbeMetadata where
  targetID : String
  probeKind : String

/-- The tables other parts of the center administer. -/
structure Assets where
  sessions : Table String Session
  instances : Table String Instance
  vps : Table String Vps
  followups : List Followup
  probeItems : Table String ProbeMetadata

/-! ## Replay states, receipts and facts -/

/-- A row of `agent_replay_states`, under its session. -/
structure ReplayState where
  producerID : String
  retiredThrough : Int
  allocatedThrough : Int
  liveSequenceHigh : Int
deriving DecidableEq

structure CommandActionAudit where
  actionID : String
  monitoringInstanceID : String
  commandID : String
  sensitivity : String
  eventType : String
  exitCode : Option Int
  occurredAt : Int
deriving DecidableEq

inductive Fact
  | heartbeat (monitoringInstanceID : String) (receivedAt : Int) (write : HeartbeatPayload)
  | hostSample (write : HostSampleWrite)
  | probeObservation (write : ProbeObservationWrite)
  | ipQualityReport (write : ReportWrite)
  | commandAudit (event : CommandActionAudit)
deriving DecidableEq

/-- The tables of the center. The receipts hold the stored digest under session and sequence. -/
structure Database where
  assets : Assets
  replayStates : Table String ReplayState
  receipts : Table (String × Int) (List UInt8)
  facts : List Fact

abbrev SyncTx := Tx SyncError Database

/-! ## Statements on the replay tables -/

/-- `insert into agent_replay_states … on conflict do nothing`. -/
def insertReplayState (sessionID producerID : String) : SyncTx Unit := do
  let db ← get
  match db.replayStates.lookup sessionID with
  | some _ => pure ()
  | none =>
    if (db.assets.sessions.lookup sessionID).isNone then throw (.constraint .replayStateSession)
    else
      modify fun db => { db with
        replayStates := db.replayStates.insert sessionID ⟨uuidText producerID, 0, 0, 0⟩ }

def replayMonotonic (old new : ReplayState) : Bool :=
  new.producerID = old.producerID && old.retiredThrough ≤ new.retiredThrough &&
    old.allocatedThrough ≤ new.allocatedThrough && old.liveSequenceHigh ≤ new.liveSequenceHigh

def replayChecks (new : ReplayState) : Option Constraint :=
  if new.retiredThrough < 0 then some .replayRetiredNonneg
  else if new.allocatedThrough < new.retiredThrough then some .replayAllocatedGeRetired
  else if new.liveSequenceHigh < 0 then some .replayLiveNonneg
  else none

/-- `enforce_agent_batch_receipt` before a delete: the floor has passed the receipt. -/
def receiptErasable (db : Database) (key : String × Int) : Bool :=
  (db.replayStates.lookup key.1).any fun row => key.2 ≤ row.retiredThrough

def deleteReceipts (sessionID : String) (through : Int) : SyncTx Unit := do
  let db ← get
  let doomed (key : String × Int) (_ : List UInt8) : Bool := key.1 = sessionID && key.2 ≤ through
  if db.receipts.entries.any fun e => doomed e.1 e.2 && !receiptErasable db e.1 then
    throw (.constraint .receiptErase)
  else
    modify fun db => { db with receipts := db.receipts.deleteWhere doomed }

/-- `update agent_replay_states set … where session_id = … and …`; the result says whether a row was
updated. `retires` is set when the statement assigns `retired_through`, which fires the retirement
trigger. -/
def updateReplayState (sessionID : String) (cond : ReplayState → Bool)
    (assign : ReplayState → ReplayState) (retires : Bool) : SyncTx Bool := do
  let db ← get
  match db.replayStates.lookup sessionID with
  | none => pure false
  | some old =>
    if cond old = false then pure false
    else if replayMonotonic old (assign old) = false then
      throw (.constraint .replayStateMonotonic)
    else match replayChecks (assign old) with
      | some c => throw (.constraint c)
      | none =>
        modify fun db => { db with replayStates := db.replayStates.insert sessionID (assign old) }
        if retires = true ∧ (assign old).retiredThrough > old.retiredThrough then
          deleteReceipts sessionID (assign old).retiredThrough
        pure true

/-- `insert into agent_batch_receipts`, with the guard trigger, the checks and the primary key. -/
def insertReceipt (sessionID : String) (batchSequence : Int) (payloadDigest : List UInt8) :
    SyncTx Unit := do
  let db ← get
  match db.replayStates.lookup sessionID with
  | none => throw (.constraint .receiptWindow)
  | some row =>
    if batchSequence ≤ row.retiredThrough ∨ batchSequence > row.allocatedThrough ∨
        batchSequence - row.retiredThrough > 131072 then throw (.constraint .receiptWindow)
    else if batchSequence ≤ 0 then throw (.constraint .receiptSequencePositive)
    else if payloadDigest.length ≠ 32 then throw (.constraint .receiptDigestLength)
    else if (db.receipts.lookup (sessionID, batchSequence)).isSome then
      throw (.constraint .receiptKey)
    else
      modify fun db => { db with
        receipts := db.receipts.insert (sessionID, batchSequence) payloadDigest }

def insertFact (fact : Fact) : SyncTx Unit :=
  modify fun db => { db with facts := db.facts ++ [fact] }

def modifyAssets (f : Assets → Assets) : SyncTx Unit :=
  modify fun db => { db with assets := f db.assets }

end Houfeng.Center
