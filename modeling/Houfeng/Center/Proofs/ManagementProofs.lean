import Houfeng.Center.MonitoringInstances
import Houfeng.Center.Proofs.RecordingProofs

/-!
# What a management transaction does

One constructor of `Managed` per way a management transaction can commit, with the rows it found
and the database it leaves (`manage_ok`). Archiving and restoring go over all instances of a VPS;
what their loops can do to a session, an instance and the facts is `Retiring`.
-/

namespace Houfeng.Center

open Tx Instance

variable {env : ManagementEnv} {db db' db'' : Database}

def Database.setInstance (db : Database) (i : String) (row : Instance) : Database :=
  { db with assets := { db.assets with instances := db.assets.instances.insert i row } }

def Database.mapSessions (db : Database) (f : Session → Session) : Database :=
  { db with assets := { db.assets with sessions := db.assets.sessions.mapRows fun _ s => f s } }

def Database.addFacts (db : Database) (added : List Fact) : Database :=
  { db with facts := db.facts ++ added }

def demoteAll (env : ManagementEnv) (i : String) (s : Session) : Session :=
  if s.monitoringInstanceID = i then s.demoted env.clockTimestamp else s

def demoteFull (env : ManagementEnv) (i : String) (s : Session) : Session :=
  if s.monitoringInstanceID = i ∧ s.capability = .full then s.demoted env.clockTimestamp else s

def newSession (env : ManagementEnv) (i tokenHash fingerprint : String) : Session where
  monitoringInstanceID := i
  fingerprintHash := fingerprint
  tokenHash
  capability := .full
  startedAt := env.clockTimestamp
  endedAt := none
  lastTrustedOnlineAt := none
  everConnected := false

def Database.addSession (db : Database) (sessionID : String) (s : Session) : Database :=
  { db with assets := { db.assets with sessions := db.assets.sessions.insert sessionID s } }

/-! ## Statements -/

variable {u : PUnit}

theorem insertCommandActionAudit_ok {event : CommandActionAudit}
    (h : insertCommandActionAudit event db = .ok (u, db')) :
    event.actionID ≠ "" ∧ db' = db.addFacts [.commandAudit event] := by
  replace h := get_bind_eq_ok h
  split_ifs at h with hrefused <;> cases h
  exact ⟨fun hid => hrefused (.inl hid), rfl⟩

def cancelAudits (env : ManagementEnv) (i : String) (row : Instance) : List Fact :=
  if row.currentAction.1 = "" then []
  else
    [.commandAudit
      { actionID := row.currentAction.1
        monitoringInstanceID := i
        commandID := row.currentAction.2
        sensitivity :=
          if env.sensitivityForKnownCommand row.currentAction.2 = "" then "standard"
          else env.sensitivityForKnownCommand row.currentAction.2
        eventType := "cancelled"
        exitCode := none
        occurredAt := env.processNow }]

variable {i : String} {row : Instance}

theorem demoteMonitoringSessionsTx_ok (h : demoteMonitoringSessionsTx env i row db = .ok (u, db')) :
    db' = (db.mapSessions (demoteAll env i)).addFacts (cancelAudits env i row) := by
  obtain ⟨_, d, hsessions, h⟩ := bind_eq_ok h
  cases hsessions
  dsimp only at h
  by_cases hid : row.currentAction.1 = ""
  · rw [if_neg (not_not.mpr hid)] at h
    cases h
    rw [cancelAudits, if_pos hid, Database.addFacts, List.append_nil]
    rfl
  · rw [if_pos hid] at h
    rw [(insertCommandActionAudit_ok h).2, cancelAudits, if_neg hid]
    rfl

variable {sessionID tokenHash fingerprint : String}

theorem insertSession_ok (h : insertSession env sessionID i tokenHash fingerprint db = .ok (u, db')) :
    db.assets.sessions.lookup sessionID = none ∧
      (∀ k s, db.assets.sessions.lookup k = some s → s.monitoringInstanceID = i →
        s.capability ≠ .full) ∧
      db' = db.addSession sessionID (newSession env i tokenHash fingerprint) := by
  replace h := get_bind_eq_ok h
  dsimp only at h
  split_ifs at h with hkey htoken hfull <;> cases h
  refine ⟨by simpa using hkey, ?_, rfl⟩
  intro k s hs hi hcap
  refine hfull (List.any_eq_true.mpr ⟨⟨k, s⟩, Table.lookup_eq_some_iff.mp hs, ?_⟩)
  simp [hi, hcap]

/-! ## The rows operations leave -/

def enrolledRow (env : ManagementEnv) (input : EnrollInput) (sessionID secret : String)
    (row : Instance) : Instance :=
  let next := resolveEnrollmentBindingTransition row input.fingerprint env.processNow
  { next with
    syncTokenHash := if next.bindingStatus = .bound then
      env.hasher.hashSyncToken (sessionID ++ "." ++ secret) else row.syncTokenHash
    enrollmentTokenHash := if isLegacySHA256TokenHash row.enrollmentTokenHash then
      env.hasher.hashEnrollmentToken input.token else row.enrollmentTokenHash
    enrollmentTokenConsumedAt := some env.now }

def reboundRow (env : ManagementEnv) (row : Instance) : Instance :=
  { row with
    lifecycleStatus := .pendingEnrollment
    bindingStatus := .bound
    bindingFingerprint := row.pendingBindingFingerprint
    bindingEpochStartedAt := some env.now
    syncTokenHash := ""
    lastHeartbeatAt := none
    lastSyncAt := none }.clearPendingBinding

def resetRow (row : Instance) : Instance :=
  { row with
    controlRevision := row.controlRevision + 1
    lifecycleStatus := .pendingEnrollment
    monitoringStatus := .enabled
    bindingStatus := .unbound
    bindingFingerprint := ""
    bindingEpochStartedAt := none
    syncTokenHash := ""
    lastHeartbeatAt := none
    lastSyncAt := none }.clearPendingBinding.clearActions

def retiredRow (row : Instance) : Instance :=
  { row with
    controlRevision := row.controlRevision + 1
    lifecycleStatus := .retired
    monitoringStatus := .paused
    bindingStatus := if row.bindingFingerprint ≠ "" then .bound else .unbound
    enrollmentTokenHash := ""
    enrollmentTokenIssuedAt := none
    enrollmentTokenConsumedAt := none }.clearPendingBinding.clearActions

def queuedRow (env : ManagementEnv) (input : QueueCommandActionInput) (row : Instance) : Instance :=
  { row with
    pendingActionID := some input.actionID
    pendingActionCommandID := some input.commandID
    lastAction := some (pendingLastAction input.actionID input.commandID
      (if isBlank input.sensitivity then "standard" else input.sensitivity)
      (if input.queuedAt = 0 then env.processNow else input.queuedAt)) }

def queuedAudit (env : ManagementEnv) (i : String) (input : QueueCommandActionInput) : Fact :=
  .commandAudit
    { actionID := input.actionID
      monitoringInstanceID := i
      commandID := input.commandID
      sensitivity := if isBlank input.sensitivity then "standard" else input.sensitivity
      eventType := "queued"
      exitCode := none
      occurredAt := if input.queuedAt = 0 then env.processNow else input.queuedAt }

/-! ## Loops over the instances of a VPS -/

inductive Instance.RetiredFrom (row : Instance) : Instance → Prop
  | kept : RetiredFrom row row
  | cleared : RetiredFrom row row.clearActions
  | retired : RetiredFrom row (retiredRow row)

inductive Session.DemotedFrom (s : Session) : Session → Prop
  | kept : DemotedFrom s s
  | demoted (clock : Int) : DemotedFrom s (s.demoted clock)

def Cancelled (f : Fact) : Prop := ∃ event, f = .commandAudit event ∧ event.eventType = "cancelled"

structure Retiring (db db' : Database) : Prop where
  replay : db'.replayStates = db.replayStates
  receipts : db'.receipts = db.receipts
  sessions : Table.Related Session.DemotedFrom db.assets.sessions db'.assets.sessions
  instances : Table.Related RetiredFrom db.assets.instances db'.assets.instances
  facts : ∃ added, (∀ f ∈ added, Cancelled f) ∧ db'.facts = db.facts ++ added

theorem clearActions_clearActions (row : Instance) :
    row.clearActions.clearActions = row.clearActions := by
  simp [clearActions, Option.filter_filter]

variable {row' : Instance}

theorem Instance.RetiredFrom.clear (h : row.RetiredFrom row') :
    row.RetiredFrom row'.clearActions := by
  cases h with
  | kept => exact .cleared
  | cleared =>
    rw [clearActions_clearActions]
    exact .cleared
  | retired =>
    have hsame : (retiredRow row).clearActions = retiredRow row := clearActions_clearActions _
    rw [hsame]
    exact .retired

theorem Instance.RetiredFrom.retire (h : row.RetiredFrom row')
    (hactive : row'.lifecycleStatus ≠ .retired) : row.RetiredFrom (retiredRow row') := by
  cases h with
  | kept => exact .retired
  | cleared =>
    have hsame : retiredRow row.clearActions = retiredRow row := by
      simp [retiredRow, clearActions, clearPendingBinding, Option.filter_filter]
    rw [hsame]
    exact .retired
  | retired => exact absurd rfl hactive

theorem Session.DemotedFrom.demote {s s' : Session} (h : s.DemotedFrom s') (clock : Int) :
    s.DemotedFrom (s'.demoted clock) := by
  cases h with
  | kept => exact .demoted clock
  | demoted c =>
    have hsame : (s.demoted c).demoted clock = s.demoted c := by simp [Session.demoted]
    rw [hsame]
    exact .demoted c

namespace Retiring

theorem refl (db : Database) : Retiring db db :=
  ⟨rfl, rfl, .refl (fun _ => .kept) _, .refl (fun _ => .kept) _, [], by simp⟩

theorem cancelled_of_mem {f : Fact} (h : f ∈ cancelAudits env i row) : Cancelled f := by
  by_cases hid : row.currentAction.1 = ""
  · rw [cancelAudits, if_pos hid] at h
    simp at h
  · rw [cancelAudits, if_neg hid] at h
    exact ⟨_, List.mem_singleton.mp h, rfl⟩

theorem demote (h : Retiring db db') (env : ManagementEnv) (i : String) (row : Instance) :
    Retiring db ((db'.mapSessions (demoteAll env i)).addFacts (cancelAudits env i row)) where
  replay := h.replay
  receipts := h.receipts
  sessions := by
    refine h.sessions.trans (fun s s' s'' hs (hdemoted : s'' = demoteAll env i s') => ?_)
      (.mapRows (by simp) _)
    subst hdemoted
    rw [demoteAll]
    split_ifs
    · exact hs.demote _
    · exact hs
  instances := h.instances
  facts := by
    obtain ⟨added, hadded, hfacts⟩ := h.facts
    refine ⟨added ++ cancelAudits env i row, ?_, ?_⟩
    · intro f hf
      rcases List.mem_append.mp hf with hf | hf
      · exact hadded f hf
      · exact cancelled_of_mem hf
    · rw [← List.append_assoc, ← hfacts]
      rfl

theorem clear (h : Retiring db db') (vpsID : String) :
    Retiring db { db' with
      assets := { db'.assets with
        instances := db'.assets.instances.mapRows fun _ row =>
          if row.vpsID = vpsID then row.clearActions else row } } where
  replay := h.replay
  receipts := h.receipts
  sessions := h.sessions
  instances := by
    refine h.instances.trans (fun row row' row'' hrow
      (hcleared : row'' = if row'.vpsID = vpsID then row'.clearActions else row') => ?_)
      (.mapRows (by simp) _)
    subst hcleared
    split_ifs
    · exact hrow.clear
    · exact hrow
  facts := h.facts

theorem retireRow (h : Retiring db db') (hrow : db'.assets.instances.lookup i = some row)
    (hactive : row.lifecycleStatus ≠ .retired) :
    Retiring db (db'.setInstance i (retiredRow row)) where
  replay := h.replay
  receipts := h.receipts
  sessions := h.sessions
  instances := by
    refine h.instances.trans (fun r r' r'' hr
      (hretired : r'' = r' ∨ r' = row ∧ r'' = retiredRow row) => ?_)
      (.insert (fun _ => .inl rfl) hrow (.inr ⟨rfl, rfl⟩))
    rcases hretired with rfl | ⟨rfl, rfl⟩
    · exact hr
    · exact hr.retire hactive
  facts := h.facts

end Retiring

theorem demoteMonitoringSessionsTx_retiring :
    Keeps (Retiring db) (demoteMonitoringSessionsTx env i row) fun _ => True := by
  refine .of_ok fun d u d' hd h => ?_
  rw [demoteMonitoringSessionsTx_ok h]
  exact hd.demote env i row

theorem clearVPSPendingCommands_retiring (vpsID : String) :
    Keeps (Retiring db) (clearVPSPendingCommands env vpsID) fun _ => True := by
  refine .of_ok fun d u d' hd h => ?_
  have h1 := get_bind_eq_ok h
  obtain ⟨_, d2, hloop, h2⟩ := bind_eq_ok h1
  have hd2 := (Triple.forM fun _ _ => demoteMonitoringSessionsTx_retiring).ok hd hloop
  cases h2
  exact hd2.clear vpsID

/-! ## The transactions -/

variable {r : Option String}

theorem replaceSession_ok (h : (do
      demoteFullSessions env i
      insertSession env sessionID i tokenHash fingerprint
      pure (some sessionID) : ManagementTx (Option String)) db = .ok (r, db')) :
    r = some sessionID ∧ db.assets.sessions.lookup sessionID = none ∧
      db' = (db.mapSessions (demoteFull env i)).addSession sessionID
        (newSession env i tokenHash fingerprint) := by
  obtain ⟨_, d1, hdemote, h1⟩ := bind_eq_ok h
  cases hdemote
  obtain ⟨_, d2, hinsert, h2⟩ := bind_eq_ok h1
  cases h2
  obtain ⟨hnew, -, rfl⟩ := insertSession_ok hinsert
  refine ⟨rfl, ?_, rfl⟩
  simpa using hnew

/-- The ways a management transaction commits, with its result and the database it leaves. -/
inductive Managed (env : ManagementEnv) (db : Database) :
    Operation → Option String → Database → Prop
  | issuedToken {i token : String} {row : Instance}
      (hrow : db.assets.instances.lookup i = some row)
      (hretired : row.lifecycleStatus ≠ .retired) :
      Managed env db (.issueEnrollmentToken i token) none (db.setInstance i { row with
        enrollmentTokenHash := env.hasher.hashEnrollmentToken token
        enrollmentTokenIssuedAt := some env.now
        enrollmentTokenConsumedAt := none })
  | enrolled {input : EnrollInput} {sessionID secret i : String} {row : Instance}
      (hrow : enrollmentRow env db.assets input.token = some ⟨i, row⟩)
      (hbound : (resolveEnrollmentBindingTransition row input.fingerprint
        env.processNow).bindingStatus = .bound)
      (hnew : db.assets.sessions.lookup sessionID = none) :
      Managed env db (.applyEnrollment input sessionID secret) (some sessionID)
        (((db.setInstance i (enrolledRow env input sessionID secret row)).mapSessions
          (demoteFull env i)).addSession sessionID
            (newSession env i (env.hasher.hashSyncToken (sessionID ++ "." ++ secret))
              input.fingerprint))
  | proposed {input : EnrollInput} {sessionID secret i : String} {row : Instance}
      (hrow : enrollmentRow env db.assets input.token = some ⟨i, row⟩)
      (hbound : (resolveEnrollmentBindingTransition row input.fingerprint
        env.processNow).bindingStatus ≠ .bound) :
      Managed env db (.applyEnrollment input sessionID secret) none
        (db.setInstance i (enrolledRow env input sessionID secret row))
  | issuedSyncToken {i sessionID secret : String} {row : Instance}
      (hrow : db.assets.instances.lookup i = some row)
      (hretired : row.lifecycleStatus ≠ .retired)
      (hnew : db.assets.sessions.lookup sessionID = none) :
      Managed env db (.issueSyncToken i sessionID secret) (some sessionID)
        (((db.setInstance i { row with
          syncTokenHash := env.hasher.hashSyncToken (sessionID ++ "." ++ secret) }).mapSessions
          (demoteFull env i)).addSession sessionID
            (newSession env i (env.hasher.hashSyncToken (sessionID ++ "." ++ secret))
              row.bindingFingerprint))
  | confirmed {i : String} {row : Instance} (hrow : db.assets.instances.lookup i = some row)
      (hawaits : row.awaitsConfirmation = true) :
      Managed env db (.confirmRebind i) none
        (((db.mapSessions (demoteAll env i)).addFacts
          (cancelAudits env i (reboundRow env row))).setInstance i
            (reboundRow env row).clearActions)
  | rejected {i : String} {row : Instance} (hrow : db.assets.instances.lookup i = some row)
      (hawaits : row.awaitsConfirmation = true) :
      Managed env db (.rejectPendingFingerprint i) none
        (db.setInstance i { row with bindingStatus := .bound }.clearPendingBinding)
  | reset {i : String} {row : Instance} (hrow : db.assets.instances.lookup i = some row) :
      Managed env db (.resetBinding i) none
        (((db.mapSessions (demoteAll env i)).addFacts (cancelAudits env i row)).setInstance i
          (resetRow row))
  | controlled {i : String} {control : MonitoringStatus} {row : Instance}
      (hrow : db.assets.instances.lookup i = some row)
      (hretired : row.lifecycleStatus ≠ .retired) :
      Managed env db (.setMonitoringControl i control) none (db.setInstance i { row with
        monitoringStatus := control
        controlRevision := row.controlRevision + 1 })
  | alreadyRetired {i : String} {row : Instance} (hrow : db.assets.instances.lookup i = some row)
      (hretired : row.lifecycleStatus = .retired) : Managed env db (.retire i) none db
  | retired {i : String} {row : Instance} (hrow : db.assets.instances.lookup i = some row)
      (hretired : row.lifecycleStatus ≠ .retired) :
      Managed env db (.retire i) none
        (((db.mapSessions (demoteAll env i)).addFacts (cancelAudits env i row)).setInstance i
          (retiredRow row))
  | queued {i : String} {input : QueueCommandActionInput} {row : Instance}
      (hrow : db.assets.instances.lookup i = some row) (hid : input.actionID ≠ "") :
      Managed env db (.queueCommandAction i input) none
        ((db.setInstance i (queuedRow env input row)).addFacts [queuedAudit env i input])
  | archived {vpsID : String} {db' : Database} (h : Retiring db db') (vps : Vps) :
      Managed env db (.archiveVPS vpsID) none
        { db' with assets := { db'.assets with vps := db'.assets.vps.insert vpsID vps } }
  | restored {vpsID : String} {db' : Database} (vps : Vps)
      (h : Retiring { db with assets := { db.assets with vps := db.assets.vps.insert vpsID vps } }
        db') : Managed env db (.restoreVPS vpsID) none db'
  | expired {now : Int} :
      Managed env db (.clearExpiredCommandActionOutputs now) none
        { db with
          assets := { db.assets with
            instances := db.assets.instances.mapRows fun _ row =>
              { row with lastAction := row.lastAction.map (·.expireOutput now) } } }

theorem found_ok {α : Type} {e : ManagementError} {f : Instance → ManagementTx α}
    {o : Option Instance} {p : α × Database}
    (h : (match o with | none => throw e | some row => f row) db = .ok p) :
    ∃ row, o = some row ∧ f row db = .ok p := by
  cases o with
  | none => cases h
  | some row => exact ⟨row, rfl, h⟩

theorem issueEnrollmentToken_ok {token : String}
    (h : issueEnrollmentToken env i token db = .ok (u, db')) :
    Managed env db (.issueEnrollmentToken i token) none db' := by
  obtain ⟨row, hrow, h⟩ := found_ok (get_bind_eq_ok h)
  split_ifs at h with hclosed <;> cases h
  exact .issuedToken hrow fun hr => hclosed (.inr hr)

variable {secret : String}

theorem applyEnrollment_ok {input : EnrollInput}
    (h : applyEnrollment env input sessionID secret db = .ok (r, db')) :
    Managed env db (.applyEnrollment input sessionID secret) r db' := by
  have h1 := get_bind_eq_ok h
  rcases hrow : enrollmentRow env db.assets input.token with _ | ⟨i, row⟩ <;> simp only [hrow] at h1
  · cases h1
  obtain ⟨_, d, hset, h2⟩ := bind_eq_ok h1
  cases hset
  by_cases hbound : (resolveEnrollmentBindingTransition row input.fingerprint
      env.processNow).bindingStatus = .bound
  · rw [if_pos hbound] at h2
    obtain ⟨rfl, hnew, rfl⟩ := replaceSession_ok h2
    exact .enrolled hrow hbound hnew
  · rw [if_neg hbound] at h2
    cases h2
    exact .proposed hrow hbound

theorem issueSyncToken_ok (h : issueSyncToken env i sessionID secret db = .ok (r, db')) :
    Managed env db (.issueSyncToken i sessionID secret) r db' := by
  obtain ⟨row, hrow, h1⟩ := found_ok (get_bind_eq_ok h)
  obtain ⟨hclosed, h1⟩ := refuse_eq_ok h1
  obtain ⟨_, d, hset, h2⟩ := bind_eq_ok h1
  cases hset
  obtain ⟨rfl, hnew, rfl⟩ := replaceSession_ok h2
  exact .issuedSyncToken hrow (fun hr => hclosed (.inr hr)) hnew

theorem confirmMonitoringInstanceRebind_ok
    (h : confirmMonitoringInstanceRebind env i db = .ok (u, db')) :
    Managed env db (.confirmRebind i) none db' := by
  obtain ⟨row, hrow, h1⟩ := found_ok (get_bind_eq_ok h)
  obtain ⟨hawaits, h1⟩ := refuse_eq_ok h1
  obtain ⟨_, d, hdemote, h2⟩ := bind_eq_ok h1
  obtain rfl := demoteMonitoringSessionsTx_ok hdemote
  cases h2
  exact .confirmed hrow (by simpa using hawaits)

theorem rejectPendingFingerprint_ok (h : rejectPendingFingerprint i db = .ok (u, db')) :
    Managed env db (.rejectPendingFingerprint i) none db' := by
  obtain ⟨row, hrow, h⟩ := found_ok (get_bind_eq_ok h)
  split_ifs at h with hawaits <;> cases h
  exact .rejected hrow (by simpa using hawaits)

theorem resetMonitoringInstanceBinding_ok
    (h : resetMonitoringInstanceBinding env i db = .ok (u, db')) :
    Managed env db (.resetBinding i) none db' := by
  obtain ⟨row, hrow, h1⟩ := found_ok (get_bind_eq_ok h)
  obtain ⟨-, h1⟩ := refuse_eq_ok h1
  obtain ⟨-, h1⟩ := refuse_eq_ok h1
  obtain ⟨_, d, hdemote, h2⟩ := bind_eq_ok h1
  obtain rfl := demoteMonitoringSessionsTx_ok hdemote
  obtain ⟨-, h2⟩ := refuse_eq_ok h2
  cases h2
  exact .reset hrow

theorem setMonitoringControl_ok {control : MonitoringStatus}
    (h : setMonitoringControl i control db = .ok (u, db')) :
    Managed env db (.setMonitoringControl i control) none db' := by
  obtain ⟨row, hrow, h⟩ := found_ok (get_bind_eq_ok h)
  split_ifs at h with hvps hretired hpaused <;> cases h
  exact .controlled hrow hretired

theorem retireMonitoringInstanceTx_ok (h : retireMonitoringInstanceTx env i db = .ok (u, db')) :
    Managed env db (.retire i) none db' := by
  obtain ⟨row, hrow, h1⟩ := found_ok (get_bind_eq_ok h)
  obtain ⟨-, h1⟩ := refuse_eq_ok h1
  by_cases hretired : row.lifecycleStatus = .retired
  · rw [if_pos hretired] at h1
    cases h1
    exact .alreadyRetired hrow hretired
  · rw [if_neg hretired] at h1
    obtain ⟨_, d, hdemote, h2⟩ := bind_eq_ok h1
    obtain rfl := demoteMonitoringSessionsTx_ok hdemote
    cases h2
    exact .retired hrow hretired

theorem queueCommandAction_ok {input : QueueCommandActionInput}
    (h : queueCommandAction env i input db = .ok (u, db')) :
    Managed env db (.queueCommandAction i input) none db' := by
  obtain ⟨row, hrow, h1⟩ := found_ok (get_bind_eq_ok h)
  obtain ⟨-, h1⟩ := refuse_eq_ok h1
  obtain ⟨_, d, hset, h2⟩ := bind_eq_ok h1
  cases hset
  obtain ⟨hid, rfl⟩ := insertCommandActionAudit_ok h2
  exact .queued hrow hid

/-! ## Archiving and restoring -/

theorem retireMonitoringInstanceTx_retiring (i : String) :
    Keeps (Retiring db) (retireMonitoringInstanceTx env i) fun _ => True := by
  refine .of_ok fun d u d' hd h => ?_
  cases retireMonitoringInstanceTx_ok h with
  | alreadyRetired => exact hd
  | retired hrow hretired => exact (hd.demote env i _).retireRow hrow hretired

variable {vpsID : String}

theorem archiveVPSMonitoring_ok (h : archiveVPSMonitoring env vpsID db = .ok (u, db')) :
    Managed env db (.archiveVPS vpsID) none db' := by
  have h1 := get_bind_eq_ok h
  rcases hvps : db.assets.vps.lookup vpsID with _ | vps <;> simp only [hvps] at h1
  · cases h1
  obtain ⟨_, d1, hretire, h2⟩ := bind_eq_ok h1
  have hd1 := (Triple.forM fun _ _ => retireMonitoringInstanceTx_retiring _).ok
    (Retiring.refl db) hretire
  obtain ⟨_, d2, hclear, h3⟩ := bind_eq_ok h2
  have hd2 := (clearVPSPendingCommands_retiring vpsID).ok hd1 hclear
  cases h3
  exact .archived hd2 _

theorem restoreVPSFromArchive_ok (h : restoreVPSFromArchive env vpsID db = .ok (u, db')) :
    Managed env db (.restoreVPS vpsID) none db' := by
  have h1 := get_bind_eq_ok h
  split_ifs at h1
  · obtain ⟨_, d, hset, h2⟩ := bind_eq_ok h1
    cases hset
    exact .restored _ ((clearVPSPendingCommands_retiring vpsID).ok (Retiring.refl _) h2)
  · cases h1

/-- A committed management transaction is one of the ways of `Managed`. -/
theorem manage_ok {operation : Operation} (h : manage env operation db = .ok (r, db')) :
    Managed env db operation r db' := by
  have hunit : ∀ {x : ManagementTx PUnit},
      (do x; pure none : ManagementTx (Option String)) db = .ok (r, db') →
        r = none ∧ x db = .ok (⟨⟩, db') := by
    intro x hx
    obtain ⟨u, d, hbody, hpure⟩ := bind_eq_ok hx
    cases hpure
    exact ⟨rfl, hbody⟩
  cases operation with
  | applyEnrollment input sessionID secret => exact applyEnrollment_ok h
  | issueSyncToken i sessionID secret => exact issueSyncToken_ok h
  | issueEnrollmentToken i token =>
    obtain ⟨rfl, hbody⟩ := hunit h
    exact issueEnrollmentToken_ok hbody
  | confirmRebind i =>
    obtain ⟨rfl, hbody⟩ := hunit h
    exact confirmMonitoringInstanceRebind_ok hbody
  | rejectPendingFingerprint i =>
    obtain ⟨rfl, hbody⟩ := hunit h
    exact rejectPendingFingerprint_ok hbody
  | resetBinding i =>
    obtain ⟨rfl, hbody⟩ := hunit h
    exact resetMonitoringInstanceBinding_ok hbody
  | setMonitoringControl i control =>
    obtain ⟨rfl, hbody⟩ := hunit h
    exact setMonitoringControl_ok hbody
  | retire i =>
    obtain ⟨rfl, hbody⟩ := hunit h
    exact retireMonitoringInstanceTx_ok hbody
  | queueCommandAction i input =>
    obtain ⟨rfl, hbody⟩ := hunit h
    exact queueCommandAction_ok hbody
  | archiveVPS vpsID =>
    obtain ⟨rfl, hbody⟩ := hunit h
    exact archiveVPSMonitoring_ok hbody
  | restoreVPS vpsID =>
    obtain ⟨rfl, hbody⟩ := hunit h
    exact restoreVPSFromArchive_ok hbody
  | clearExpiredCommandActionOutputs now =>
    obtain ⟨rfl, hbody⟩ := hunit h
    cases hbody
    exact .expired

end Houfeng.Center
