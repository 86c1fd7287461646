import Houfeng.Center.SyncBatches

/-!
# Monitoring instances and their sessions

The transactions of the monitoring-instance repository: enrollment, changes of the binding, sync
tokens, runtime control, retirement, queued commands, and the effects archiving and retention have
on instances. Health texts, links and the events written for readers are left out.
-/

namespace Houfeng.Center

inductive ManagementError
  | monitoringInstanceNotFound
  | invalidBindingTransition
  | managementActionBlocked
  | retiredMonitoringInstance
  | archivedMonitoringInstance
  | invalidRuntimeTransition
  | commandActionAudit
  | sessionKey
  | sessionTokenHash
  | sessionFull

abbrev ManagementTx := Tx ManagementError Database

/-- `agentTokenHasher`, and the SHA-256 of tokens stored before it. -/
structure AgentTokenHasher where
  hashEnrollmentToken : String → String
  hashSyncToken : String → String
  hashOpaqueToken : String → String

/-- What a management transaction takes from outside: the hashes, the catalogue of commands, the
start of the transaction, the database clock and the clock of the process. -/
structure ManagementEnv where
  hasher : AgentTokenHasher
  sensitivityForKnownCommand : String → String
  now : Int
  clockTimestamp : Int
  processNow : Int

variable (env : ManagementEnv)

/-! ## Rows -/

variable (i : String) (row : Instance)

/-- Writes the row of the instance. -/
def setInstance : ManagementTx Unit :=
  modify fun db => { db with
    assets := { db.assets with instances := db.assets.instances.insert i row } }

/-- The error of an update that found no row to change. -/
def archiveStateMiss (row : Option Instance) (fallback : ManagementError) : ManagementError :=
  match row with
  | none => .monitoringInstanceNotFound
  | some row =>
    if row.archivedAt.isSome then .archivedMonitoringInstance
    else if row.lifecycleStatus = .retired then .retiredMonitoringInstance
    else fallback

/-- An action has an id, and its instance exists. -/
def insertCommandActionAudit (event : CommandActionAudit) : ManagementTx Unit := do
  let db ← get
  if event.actionID = "" ∨ (db.assets.instances.lookup event.monitoringInstanceID).isNone then
    throw .commandActionAudit
  else modify fun db => { db with facts := db.facts ++ [.commandAudit event] }

/-- The session may still deliver evidence, nothing else. -/
def Session.demoted (s : Session) (clock : Int) : Session :=
  { s with
    capability := .evidenceOnly
    endedAt := some (s.endedAt.getD (max s.startedAt clock)) }

/-- `update monitoring_agent_sessions set capability='evidence_only' … where
monitoring_instance_id = … and capability = 'full'`. -/
def demoteFullSessions : ManagementTx Unit :=
  modify fun db => { db with
    assets := { db.assets with
      sessions := db.assets.sessions.mapRows fun _ s =>
        if s.monitoringInstanceID = i ∧ s.capability = .full then s.demoted env.clockTimestamp
        else s } }

/-- `insert into monitoring_agent_sessions`, with the primary key, the unique token hash and at most
one full session of an instance. -/
def insertSession (sessionID i tokenHash fingerprint : String) : ManagementTx Unit := do
  let db ← get
  let rows := db.assets.sessions.entries
  if (db.assets.sessions.lookup sessionID).isSome then throw .sessionKey
  else if rows.any fun e => e.2.tokenHash = tokenHash then throw .sessionTokenHash
  else if rows.any fun e => e.2.monitoringInstanceID = i && e.2.capability = .full then
    throw .sessionFull
  else
    modify fun db => { db with
      assets := { db.assets with
        sessions := db.assets.sessions.insert sessionID
          { monitoringInstanceID := i
            fingerprintHash := fingerprint
            tokenHash
            capability := .full
            startedAt := env.clockTimestamp
            endedAt := none
            lastTrustedOnlineAt := none
            everConnected := false } } }

def Instance.currentAction : String × String :=
  match row.lastAction with
  | some a =>
    if row.pendingActionID.getD "" = "" ∧ a.status = "pending" then (a.actionID, a.commandID)
    else (row.pendingActionID.getD "", row.pendingActionCommandID.getD "")
  | none => (row.pendingActionID.getD "", row.pendingActionCommandID.getD "")

/-- The row without queued and dispatched commands. -/
def Instance.clearActions : Instance :=
  { row with
    pendingActionID := none
    pendingActionCommandID := none
    lastAction := row.lastAction.filter fun a => a.status ≠ "pending" }

/-- Every session of the instance is demoted, and a pending command is recorded as cancelled. -/
def demoteMonitoringSessionsTx (current : Instance) : ManagementTx Unit := do
  modify fun db => { db with
    assets := { db.assets with
      sessions := db.assets.sessions.mapRows fun _ s =>
        if s.monitoringInstanceID = i then s.demoted env.clockTimestamp else s } }
  let (actionID, commandID) := current.currentAction
  if actionID ≠ "" then
    let known := env.sensitivityForKnownCommand commandID
    insertCommandActionAudit
      { actionID
        monitoringInstanceID := i
        commandID
        sensitivity := if known = "" then "standard" else known
        eventType := "cancelled"
        exitCode := none
        occurredAt := env.processNow }

/-! ## Enrollment -/

def enrollmentTokenTTL : Int := 30 * 60 * 1000000000

/-- Stores the hash of a new token, for an instance in use. -/
def issueEnrollmentToken (token : String) : ManagementTx Unit := do
  let db ← get
  match db.assets.instances.lookup i with
  | none => throw (archiveStateMiss none .monitoringInstanceNotFound)
  | some row =>
    if row.archivedAt.isSome ∨ row.lifecycleStatus = .retired then
      throw (archiveStateMiss (some row) .monitoringInstanceNotFound)
    else
      setInstance i { row with
        enrollmentTokenHash := env.hasher.hashEnrollmentToken token
        enrollmentTokenIssuedAt := some env.now
        enrollmentTokenConsumedAt := none }

def Instance.clearPendingBinding : Instance :=
  { row with
    pendingBindingFingerprint := ""
    pendingBindingFirstSeenAt := none
    pendingBindingLastSeenAt := none
    pendingBindingAttemptCount := 0 }

/-- A row that waits for the confirmation of a fingerprint seen for the first time. -/
def Instance.proposeBinding (fingerprint : String) (now : Int) : Instance :=
  { row with
    bindingStatus := .pendingConfirmation
    pendingBindingFingerprint := fingerprint
    pendingBindingFirstSeenAt := some now
    pendingBindingLastSeenAt := some now
    pendingBindingAttemptCount := 1 }

/-- What an enrollment makes of the binding: a first one binds, the same
fingerprint stays, another waits to be confirmed. -/
def resolveEnrollmentBindingTransition (newFingerprint : String) (now : Int) : Instance :=
  match row.bindingStatus with
  | .unbound =>
    { row with
      bindingStatus := .bound
      bindingFingerprint := newFingerprint
      bindingEpochStartedAt := some now }.clearPendingBinding
  | .bound =>
    if row.bindingFingerprint = newFingerprint then row.clearPendingBinding
    else row.proposeBinding newFingerprint now
  | .pendingConfirmation =>
    if row.pendingBindingFingerprint = newFingerprint then
      { row with
        pendingBindingFirstSeenAt := some (row.pendingBindingFirstSeenAt.getD now)
        pendingBindingLastSeenAt := some now
        pendingBindingAttemptCount :=
          if row.pendingBindingAttemptCount + 1 = 0 then 1
          else row.pendingBindingAttemptCount + 1 }
    else if row.bindingFingerprint = newFingerprint then row
    else row.proposeBinding newFingerprint now

/-- `isLegacySHA256TokenHash`: 64 hexadecimal digits. -/
def isLegacySHA256TokenHash (value : String) : Bool :=
  let isHex (c : Char) : Bool :=
    c.isDigit || ('a' ≤ c && c ≤ 'f') || ('A' ≤ c && c ≤ 'F')
  let hash := ((value.toList.dropWhile isSpace).reverse.dropWhile isSpace).reverse
  hash.length = 64 && hash.all isHex

structure EnrollInput where
  token : String
  fingerprint : String

/-- The row that an enrollment token opens: unconsumed and issued at most thirty minutes ago. -/
def enrollmentRow (assets : Assets) (token : String) : Option (Sigma fun _ : String => Instance) :=
  assets.instances.entries.find? fun e =>
    e.2.enrollmentTokenHash ≠ "" &&
    (e.2.enrollmentTokenHash = env.hasher.hashEnrollmentToken token ||
      e.2.enrollmentTokenHash = env.hasher.hashOpaqueToken token) &&
    e.2.archivedAt.isNone && e.2.lifecycleStatus ≠ .retired &&
    e.2.enrollmentTokenConsumedAt.isNone &&
    e.2.enrollmentTokenIssuedAt.any fun issued => env.now - enrollmentTokenTTL ≤ issued

/-- `ApplyEnrollment`, with the session id and the secret it draws. The token is consumed whatever
the binding becomes; a session is created, and its id returned, only for a bound fingerprint. -/
def applyEnrollment (input : EnrollInput) (sessionID secret : String) :
    ManagementTx (Option String) := do
  let db ← get
  match enrollmentRow env db.assets input.token with
  | none => throw .monitoringInstanceNotFound
  | some ⟨i, row⟩ =>
    let next := resolveEnrollmentBindingTransition row input.fingerprint env.processNow
    let tokenHash := env.hasher.hashSyncToken (sessionID ++ "." ++ secret)
    setInstance i { next with
      syncTokenHash := if next.bindingStatus = .bound then tokenHash else row.syncTokenHash
      enrollmentTokenHash := if isLegacySHA256TokenHash row.enrollmentTokenHash then
        env.hasher.hashEnrollmentToken input.token else row.enrollmentTokenHash
      enrollmentTokenConsumedAt := some env.now }
    if next.bindingStatus = .bound then
      demoteFullSessions env i
      insertSession env sessionID i tokenHash input.fingerprint
      pure (some sessionID)
    else pure none

/-- A new full session under the fingerprint the instance is bound to. -/
def issueSyncToken (sessionID secret : String) : ManagementTx (Option String) := do
  let db ← get
  match db.assets.instances.lookup i with
  | none => throw (archiveStateMiss none .monitoringInstanceNotFound)
  | some row =>
    if row.archivedAt.isSome ∨ row.lifecycleStatus = .retired then
      throw (archiveStateMiss (some row) .monitoringInstanceNotFound)
    else
      let tokenHash := env.hasher.hashSyncToken (sessionID ++ "." ++ secret)
      setInstance i { row with syncTokenHash := tokenHash }
      demoteFullSessions env i
      insertSession env sessionID i tokenHash row.bindingFingerprint
      pure (some sessionID)

/-! ## Changes of the binding -/

/-- Another fingerprint waits to be confirmed. -/
def Instance.awaitsConfirmation : Bool :=
  row.bindingStatus = .pendingConfirmation && row.pendingBindingFingerprint ≠ "" &&
    row.archivedAt.isNone && row.lifecycleStatus ≠ .retired

/-- Binds the instance to the fingerprint that waits. -/
def confirmMonitoringInstanceRebind : ManagementTx Unit := do
  let db ← get
  match db.assets.instances.lookup i with
  | none => throw (archiveStateMiss none .invalidBindingTransition)
  | some row =>
    if row.awaitsConfirmation = false then
      throw (archiveStateMiss (some row) .invalidBindingTransition)
    else
      let updated :=
        { row with
          lifecycleStatus := .pendingEnrollment
          bindingStatus := .bound
          bindingFingerprint := row.pendingBindingFingerprint
          bindingEpochStartedAt := some env.now
          syncTokenHash := ""
          lastHeartbeatAt := none
          lastSyncAt := none }.clearPendingBinding
      demoteMonitoringSessionsTx env i updated
      setInstance i updated.clearActions

/-- Drops the fingerprint that waits. -/
def rejectPendingFingerprint : ManagementTx Unit := do
  let db ← get
  match db.assets.instances.lookup i with
  | none => throw (archiveStateMiss none .invalidBindingTransition)
  | some row =>
    if row.awaitsConfirmation = false then
      throw (archiveStateMiss (some row) .invalidBindingTransition)
    else setInstance i { row with bindingStatus := .bound }.clearPendingBinding

/-- An instance of an active VPS without another current instance starts over, a retired one too. -/
def resetMonitoringInstanceBinding : ManagementTx Unit := do
  let db ← get
  match db.assets.instances.lookup i with
  | none => throw .monitoringInstanceNotFound
  | some row =>
    if (db.assets.vps.lookup row.vpsID).all (·.archived) then throw .archivedMonitoringInstance
    else if db.assets.instances.entries.any fun e =>
        e.2.vpsID = row.vpsID && e.1 ≠ i && e.2.lifecycleStatus ≠ .retired then
      throw .managementActionBlocked
    else
      demoteMonitoringSessionsTx env i row
      if row.archivedAt.isSome then
        throw (archiveStateMiss (some row) .invalidBindingTransition)
      else
        setInstance i
          { row with
            controlRevision := row.controlRevision + 1
            lifecycleStatus := .pendingEnrollment
            monitoringStatus := .enabled
            bindingStatus := .unbound
            bindingFingerprint := ""
            bindingEpochStartedAt := none
            syncTokenHash := ""
            lastHeartbeatAt := none
            lastSyncAt := none }.clearPendingBinding.clearActions

/-! ## Control, retirement and commands -/

/-- Every command raises the control revision, one that sets the same value too. -/
def setMonitoringControl (control : MonitoringStatus) : ManagementTx Unit := do
  let db ← get
  match db.assets.instances.lookup i with
  | none => throw .monitoringInstanceNotFound
  | some row =>
    if (db.assets.vps.lookup row.vpsID).all (·.archived) then throw .archivedMonitoringInstance
    else if row.lifecycleStatus = .retired then throw .retiredMonitoringInstance
    else if control = .maintenance ∧ row.monitoringStatus = .paused then
      throw .invalidRuntimeTransition
    else
      setInstance i { row with
        monitoringStatus := control
        controlRevision := row.controlRevision + 1 }

/-- Retires the instance: its sessions are demoted, its token and commands dropped. -/
def retireMonitoringInstanceTx : ManagementTx Unit := do
  let db ← get
  match db.assets.instances.lookup i with
  | none => throw .monitoringInstanceNotFound
  | some row =>
    if row.archivedAt.isSome then throw .archivedMonitoringInstance
    else if row.lifecycleStatus = .retired then pure ()
    else
      demoteMonitoringSessionsTx env i row
      setInstance i
        { row with
          controlRevision := row.controlRevision + 1
          lifecycleStatus := .retired
          monitoringStatus := .paused
          bindingStatus := if row.bindingFingerprint ≠ "" then .bound else .unbound
          enrollmentTokenHash := ""
          enrollmentTokenIssuedAt := none
          enrollmentTokenConsumedAt := none }.clearPendingBinding.clearActions

structure QueueCommandActionInput where
  actionID : String
  commandID : String
  sensitivity : String
  queuedAt : Int

/-- The new action replaces whatever is queued or in flight. -/
def queueCommandAction (input : QueueCommandActionInput) : ManagementTx Unit := do
  let sensitivity := if isBlank input.sensitivity then "standard" else input.sensitivity
  let queuedAt := if input.queuedAt = 0 then env.processNow else input.queuedAt
  let db ← get
  match db.assets.instances.lookup i with
  | none => throw (archiveStateMiss none .monitoringInstanceNotFound)
  | some row =>
    if row.archivedAt.isSome ∨ row.lifecycleStatus ≠ .inUse ∨ row.monitoringStatus = .paused ∨
        (db.assets.vps.lookup row.vpsID).all (·.archived) then
      throw (archiveStateMiss (some row) .monitoringInstanceNotFound)
    else
      setInstance i { row with
        pendingActionID := some input.actionID
        pendingActionCommandID := some input.commandID
        lastAction := some (pendingLastAction input.actionID input.commandID sensitivity queuedAt) }
      insertCommandActionAudit
        { actionID := input.actionID
          monitoringInstanceID := i
          commandID := input.commandID
          sensitivity
          eventType := "queued"
          exitCode := none
          occurredAt := queuedAt }

/-! ## Archiving and retention -/

def instancesOf (assets : Assets) (vpsID : String) : List (Sigma fun _ : String => Instance) :=
  assets.instances.entries.filter fun e => e.2.vpsID = vpsID

variable (vpsID : String)

/-- Demotes the sessions of a VPS and drops its commands. -/
def clearVPSPendingCommands : ManagementTx Unit := do
  let db ← get
  (instancesOf db.assets vpsID).forM fun e => demoteMonitoringSessionsTx env e.1 e.2
  modify fun db => { db with
    assets := { db.assets with
      instances := db.assets.instances.mapRows fun _ row =>
        if row.vpsID = vpsID then row.clearActions else row } }

def setVPS (archived : Bool) (archivedAt : Option Int) : ManagementTx Unit :=
  modify fun db => { db with
    assets := { db.assets with vps := db.assets.vps.insert vpsID ⟨archived, archivedAt⟩ } }

/-- What `ApplyVPSArchive` does to the instances of a VPS and to its row. -/
def archiveVPSMonitoring : ManagementTx Unit := do
  let db ← get
  match db.assets.vps.lookup vpsID with
  | none => throw .monitoringInstanceNotFound
  | some vps =>
    ((instancesOf db.assets vpsID).filter fun e => e.2.lifecycleStatus ≠ .retired).forM fun e =>
      retireMonitoringInstanceTx env e.1
    clearVPSPendingCommands env vpsID
    setVPS vpsID true (some (vps.archivedAt.getD env.now))

/-- The instances stay retired. -/
def restoreVPSFromArchive : ManagementTx Unit := do
  let db ← get
  if (db.assets.vps.lookup vpsID).any (·.archived) then
    setVPS vpsID false none
    clearVPSPendingCommands env vpsID
  else throw .managementActionBlocked

/-- `clearExpiredCommandActionOutputs`: the output of a completed command goes after its time. -/
def LastAction.expireOutput (a : LastAction) (now : Int) : LastAction :=
  if a.status = "done" ∧ a.outputExpired = false ∧ a.outputExpiresAt.any (· ≤ now) = true then
    { a with stdout := "", stderr := "", outputExpired := true }
  else a

def clearExpiredCommandActionOutputs (now : Int) : ManagementTx Unit :=
  modify fun db => { db with
    assets := { db.assets with
      instances := db.assets.instances.mapRows fun _ row =>
        { row with lastAction := row.lastAction.map (·.expireOutput now) } } }

/-! ## The transition system -/

/-- The management transactions, with what they draw at random. -/
inductive Operation
  | issueEnrollmentToken (i token : String)
  | applyEnrollment (input : EnrollInput) (sessionID secret : String)
  | issueSyncToken (i sessionID secret : String)
  | confirmRebind (i : String)
  | rejectPendingFingerprint (i : String)
  | resetBinding (i : String)
  | setMonitoringControl (i : String) (control : MonitoringStatus)
  | retire (i : String)
  | queueCommandAction (i : String) (input : QueueCommandActionInput)
  | archiveVPS (vpsID : String)
  | restoreVPS (vpsID : String)
  | clearExpiredCommandActionOutputs (now : Int)

/-- The transaction of an operation. -/
def manage : Operation → ManagementTx (Option String)
  | .issueEnrollmentToken i token => do
    issueEnrollmentToken env i token
    pure none
  | .applyEnrollment input sessionID secret => applyEnrollment env input sessionID secret
  | .issueSyncToken i sessionID secret => issueSyncToken env i sessionID secret
  | .confirmRebind i => do
    confirmMonitoringInstanceRebind env i
    pure none
  | .rejectPendingFingerprint i => do
    rejectPendingFingerprint i
    pure none
  | .resetBinding i => do
    resetMonitoringInstanceBinding env i
    pure none
  | .setMonitoringControl i control => do
    setMonitoringControl i control
    pure none
  | .retire i => do
    retireMonitoringInstanceTx env i
    pure none
  | .queueCommandAction i input => do
    queueCommandAction env i input
    pure none
  | .archiveVPS vpsID => do
    archiveVPSMonitoring env vpsID
    pure none
  | .restoreVPS vpsID => do
    restoreVPSFromArchive env vpsID
    pure none
  | .clearExpiredCommandActionOutputs now => do
    clearExpiredCommandActionOutputs now
    pure none

inductive Transaction
  | sync (env : Env) (batch : Batch) (answer : Except SyncError Result)
  | manage (env : ManagementEnv) (operation : Operation)
      (answer : Except ManagementError (Option String))

/-- A transaction of either kind, with its answer. -/
def managedStep (db : Database) (t : Transaction) (db' : Database) : Prop :=
  match t with
  | .sync env batch answer => (applyBatch env batch).run db = (answer, db')
  | .manage env operation answer => (manage env operation).run db = (answer, db')

end Houfeng.Center
