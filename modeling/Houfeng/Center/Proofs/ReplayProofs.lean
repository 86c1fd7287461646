import Houfeng.Center.Proofs.SyncBatchesProofs
import Houfeng.Foundation.Runs

/-!
# The replay protocol of the center

Invariants of whole runs of the center: the bounds of the replay tables and their monotonicity, and
that a sequence of a session is recorded at most once although its receipt is deleted when the
retired floor passes it.
-/

namespace Houfeng.Center

open AgentApi Option AList

variable {db db' db₀ db₁ db₂ : Database} {batch : Batch} {r : Result}

/-! ## The effect of a committed transaction on the replay tables -/

def ReplayGrows (db db' : Database) : Prop :=
  ∀ s row, db.replayStates.lookup s = some row → ∃ row', db'.replayStates.lookup s = some row' ∧
    row'.producerID = row.producerID ∧ row.retiredThrough ≤ row'.retiredThrough ∧
    row.allocatedThrough ≤ row'.allocatedThrough ∧ row.liveSequenceHigh ≤ row'.liveSequenceHigh

theorem ReplayGrows.refl (db : Database) : ReplayGrows db db :=
  fun _ row h => ⟨row, h, rfl, le_refl _, le_refl _, le_refl _⟩

theorem ReplayGrows.trans (h1 : ReplayGrows db db₁) (h2 : ReplayGrows db₁ db₂) :
    ReplayGrows db db₂ := by
  intro s row hrow
  obtain ⟨row1, hrow1, hp1, hr1, ha1, hl1⟩ := h1 s row hrow
  obtain ⟨row2, hrow2, hp2, hr2, ha2, hl2⟩ := h2 s row1 hrow1
  exact ⟨row2, hrow2, hp2.trans hp1, hr1.trans hr2, ha1.trans ha2, hl1.trans hl2⟩

theorem Disposed.replay {floor : Int} {d : Disposition} (h : Disposed db batch floor d db') :
    db'.replayStates = db.replayStates := by
  cases h with
  | recorded _ _ _ h => exact h.replay
  | _ => rfl

variable {s : String} {n : Int} {d : List UInt8}

namespace Committed

variable (h : Committed db batch r db₁ db₂ db')
include h

theorem row :
    ∃ row', db'.replayStates.lookup batch.sessionID = some row' ∧
      row'.producerID = (boundRow db batch.sessionID batch.producerID).producerID ∧
      row'.retiredThrough = requestFloor db batch ∧
      row'.allocatedThrough =
        max (boundRow db batch.sessionID batch.producerID).allocatedThrough
          batch.allocatedThrough ∧
      (boundRow db batch.sessionID batch.producerID).liveSequenceHigh ≤ row'.liveSequenceHigh := by
  obtain ⟨row', hrow', hp, hr, ha, hl⟩ := h.live.kept h.advanced.row
  exact ⟨row', by rw [h.disposed.replay, hrow'], hp, hr, ha, hl⟩

theorem others (hs : s ≠ batch.sessionID) :
    db'.replayStates.lookup s = db.replayStates.lookup s := by
  rw [h.disposed.replay, h.live.others hs, h.advanced.others s hs]

theorem receipt_cases (hd : db'.receipts.lookup (s, n) = some d) :
    (r.disposition = .recorded ∧ s = batch.sessionID ∧ n = batch.batchSequence) ∨
    (db.receipts.lookup (s, n) = some d ∧ (s = batch.sessionID → requestFloor db batch < n)) := by
  have hback : ∀ {d}, db₂.receipts.lookup (s, n) = some d →
      db.receipts.lookup (s, n) = some d ∧ (s = batch.sessionID → requestFloor db batch < n) := by
    intro d hd
    rw [h.live.receipts] at hd
    exact (h.advanced.receipts s n d).mp hd
  have hdisp := h.disposed
  generalize hdis : r.disposition = dis at hdisp
  cases hdisp with
  | recorded _ _ _ hadded =>
    rw [hadded.receipts] at hd
    rcases Table.lookup_insert_eq_some hd with ⟨hkey, -⟩ | ⟨-, hd⟩
    · exact .inl ⟨rfl, (Prod.mk.inj hkey).1, (Prod.mk.inj hkey).2⟩
    · exact .inr (hback hd)
  | exactDuplicate => exact .inr (hback hd)
  | suppressed => exact .inr (hback hd)
  | deferred => exact .inr (hback hd)

theorem receipt_survives (hd : db.receipts.lookup (s, n) = some d)
    (habove : s = batch.sessionID → requestFloor db batch < n) :
    db'.receipts.lookup (s, n) = some d := by
  have hd2 : db₂.receipts.lookup (s, n) = some d := by
    rw [h.live.receipts]
    exact (h.advanced.receipts s n d).mpr ⟨hd, habove⟩
  have hdisp := h.disposed
  generalize r.disposition = dis at hdisp
  cases hdisp with
  | recorded _ hnew _ hadded =>
    have hkey : (s, n) ≠ (batch.sessionID, batch.batchSequence) := by
      intro hkey
      rw [hkey, hnew] at hd2
      cases hd2
    rw [hadded.receipts, withReceipt, lookup_insert_ne hkey]
    exact hd2
  | exactDuplicate => exact hd2
  | suppressed => exact hd2
  | deferred => exact hd2

theorem grows : ReplayGrows db db' := by
  intro s row hrow
  by_cases hs : s = batch.sessionID
  · subst hs
    have hbound : boundRow db batch.sessionID batch.producerID = row := by
      rw [boundRow, hrow]
      rfl
    obtain ⟨row', hrow', hp, hr, ha, hl⟩ := h.row
    rw [requestFloor, hbound] at hr
    rw [hbound] at hp ha hl
    refine ⟨row', hrow', hp, ?_, ?_, hl⟩
    · rw [hr]
      exact le_max_left _ _
    · rw [ha]
      exact le_max_left _ _
  · exact ⟨row, by rw [h.others hs, hrow], rfl, le_refl _, le_refl _, le_refl _⟩

omit h

theorem invariant (hinv : ReplayInvariant db) (h : Committed db batch r db₁ db₂ db') :
    ReplayInvariant db' := by
  have hvalid := advanceRow_valid (boundRow_valid hinv batch.sessionID batch.producerID) h.protocol
  obtain ⟨row', hrow', -, hr, ha, hl⟩ := h.row
  constructor
  · intro s row hrow
    by_cases hs : s = batch.sessionID
    · subst hs
      rw [hrow'] at hrow
      obtain rfl := some.inj hrow
      refine ⟨?_, ?_, le_trans hvalid.live_nonneg hl⟩
      · rw [hr]
        exact hvalid.retired_nonneg
      · rw [hr, ha]
        exact hvalid.retired_le
    · exact hinv.valid s row (by rw [← h.others hs, hrow])
  · intro s n d hd
    obtain ⟨hrec, rfl, rfl⟩ | ⟨hd, habove⟩ := h.receipt_cases hd
    · have hdisp := h.disposed
      rw [hrec] at hdisp
      cases hdisp with
      | recorded hpos _ hwindow _ =>
        refine ⟨row', hrow', by rw [hr]; exact h.above hpos, ?_, by rw [hr]; exact hwindow⟩
        rw [ha]
        exact le_trans h.protocol.sequence_le (le_max_right _ _)
    · obtain ⟨row, hrow, hlt, hle, hwin⟩ := hinv.window s n d hd
      obtain ⟨row'', hrow'', -, hret, halloc, -⟩ := h.grows s row hrow
      by_cases hs : s = batch.sessionID
      · have hlt' := habove hs
        subst hs
        rw [hrow'] at hrow''
        obtain rfl := some.inj hrow''
        exact ⟨row', hrow', by omega, by omega, by omega⟩
      · refine ⟨row, by rw [h.others hs, hrow], hlt, hle, hwin⟩

end Committed

/-! ## Steps of the center -/

variable {label : Event × Answer}

/-- Every step of the center: administration, a committed request, or a request answered with an
error, which is rolled back. -/
theorem centerStep_cases (hinv : ReplayInvariant db) (h : centerStep db label db') :
    (∃ assets, label = (.administer assets, none) ∧ db' = { db with assets }) ∨
    (∃ env batch r db₁ db₂, label = (.sync env batch, some (.ok r)) ∧
      Committed db batch r db₁ db₂ db') ∨
    (∃ env batch e, label = (.sync env batch, some (.error e)) ∧ Refused env db batch e ∧
      db' = db) := by
  obtain ⟨event, answer⟩ := label
  cases event with
  | administer assets =>
    obtain ⟨rfl, rfl⟩ := Prod.mk.inj h
    exact .inl ⟨assets, rfl, rfl⟩
  | sync env batch =>
    obtain ⟨r, db₁, db₂, db'', hok, hcom⟩ | ⟨e, herr, href⟩ := applyBatch_cases hinv env batch
    · have hrun := Tx.run_of_ok hok
      simp only [centerStep, handle, hrun] at h
      obtain ⟨rfl, rfl⟩ := Prod.mk.inj h
      exact .inr (.inl ⟨env, batch, r, db₁, db₂, rfl, hcom⟩)
    · have hrun := Tx.run_of_error herr
      simp only [centerStep, handle, hrun] at h
      obtain ⟨rfl, rfl⟩ := Prod.mk.inj h
      exact .inr (.inr ⟨env, batch, e, rfl, href, rfl⟩)

theorem centerStep_invariant (db : Database) (label : Event × Answer) (db' : Database)
    (hinv : ReplayInvariant db) (h : centerStep db label db') : ReplayInvariant db' := by
  obtain ⟨assets, -, rfl⟩ | ⟨env, batch, r, db₁, db₂, -, hcom⟩ | ⟨env, batch, e, -, -, rfl⟩ :=
    centerStep_cases hinv h
  · exact ⟨hinv.valid, hinv.window⟩
  · exact hcom.invariant hinv
  · exact hinv

theorem centerStep_grows (db : Database) (label : Event × Answer) (db' : Database)
    (hinv : ReplayInvariant db) (h : centerStep db label db') : ReplayGrows db db' := by
  obtain ⟨assets, -, rfl⟩ | ⟨env, batch, r, db₁, db₂, -, hcom⟩ | ⟨env, batch, e, -, -, rfl⟩ :=
    centerStep_cases hinv h
  · exact ReplayGrows.refl _
  · exact hcom.grows
  · exact ReplayGrows.refl _

theorem Database.Fresh.invariant (h : db.Fresh) : ReplayInvariant db := by
  obtain ⟨h1, h2⟩ := h
  constructor
  · intro s row hrow
    rw [h1, lookup_empty] at hrow
    cases hrow
  · intro s n d hd
    rw [h2, lookup_empty] at hd
    cases hd

variable {env : Env}

theorem Refused.not_constraint {e : SyncError} (h : Refused env db batch e) (c : Constraint) :
    e ≠ .constraint c := by
  have hfault : ∀ {e}, Fault env e → e ≠ .constraint c := by
    rintro _ ⟨s, rfl, -⟩
    simp
  cases h with
  | protocol h => rcases validateBatchProtocol_error h with rfl | rfl | rfl | rfl <;> simp
  | admission _ he =>
    rcases he with rfl | rfl | he
    · simp
    · simp
    · exact hfault he
  | producer => simp
  | retired => simp
  | dispose _ h =>
    obtain ⟨rfl, -⟩ | ⟨-, rfl | rfl | rfl | ⟨_, rfl⟩ | he⟩ | he := h
    · simp
    · simp
    · simp
    · simp
    · simp
    · exact hfault he
    · exact hfault he
  | fault h => exact hfault h

/-! ## A center with one session -/

def sampleInstance : Instance where
  vpsID := "vps"
  archivedAt := none
  bindingStatus := .bound
  bindingFingerprint := "fp"
  bindingEpochStartedAt := none
  pendingBindingFingerprint := ""
  pendingBindingFirstSeenAt := none
  pendingBindingLastSeenAt := none
  pendingBindingAttemptCount := 0
  enrollmentTokenHash := ""
  enrollmentTokenIssuedAt := none
  enrollmentTokenConsumedAt := none
  syncTokenHash := ""
  lifecycleStatus := .inUse
  monitoringStatus := .enabled
  controlRevision := 0
  lastHeartbeatAt := none
  lastSyncAt := none
  lastTrustedOnlineAt := none
  everConnected := false
  pendingActionID := none
  pendingActionCommandID := none
  lastAction := none

def sampleAssets : Assets where
  sessions := singleton "session" ⟨"instance", "fp", "token", .full, 0, none, none, false⟩
  instances := singleton "instance" sampleInstance
  vps := singleton "vps" ⟨false, none⟩
  followups := []
  probeItems := ∅

def sampleCenter : Database := ⟨sampleAssets, ∅, ∅, []⟩

def sampleEnv : Env where
  tokenMatches := fun hash token => hash = token
  redactSecrets := id
  sensitivityForKnownCommand := fun _ => ""
  formatTime := fun t => toString t
  prepareReport := some
  buildSyncPlan := fun _ _ => some emptyPlan
  receivedAt := 1
  clockTimestamp := 1
  fails := fun _ => false

def sampleBatch (producerID : String) (n : Int) (digest : Digest) (live : Option LiveSignal) :
    Batch where
  protocolRevision := 2
  producerID := producerID
  batchSequence := n
  allocatedThrough := n
  retiredThrough := 0
  payloadDigest := digest
  sessionID := "session"
  liveSignal := live
  monitoringInstanceID := "instance"
  syncToken := "token"
  heartbeats := [⟨1, "v1", "fp", batchIdentity producerID n, false⟩]
  hostSamples := []
  probeObservations := []
  ipQualityReports := []
  commandResults := []

def sampleProducer : String := "00000000-0000-4000-8000-000000000001"

def firstBatch : Batch := sampleBatch sampleProducer 1 (Vector.replicate 32 0) none

def sampleRecorded : Database := (handle sampleCenter (.sync sampleEnv firstBatch)).2

def sampleStep : RunStep Database (Event × Answer) :=
  ⟨sampleCenter, (.sync sampleEnv firstBatch, (handle sampleCenter (.sync sampleEnv firstBatch)).1),
    sampleRecorded⟩

def laterStep (batch : Batch) : RunStep Database (Event × Answer) :=
  ⟨sampleRecorded, (.sync sampleEnv batch, (handle sampleRecorded (.sync sampleEnv batch)).1),
    (handle sampleRecorded (.sync sampleEnv batch)).2⟩

theorem sampleRun (batch : Batch) :
    Run centerStep sampleCenter [sampleStep, laterStep batch] (laterStep batch).after :=
  Run.cons rfl (Run.cons rfl (Run.nil _))

/-- The replay state of every session keeps its bounds and its producer in every run of the center,
every receipt stays in the replay window, no request ever meets a constraint of the database, and a
request answered with an error changes nothing. -/
theorem replay_state_invariant {t : List (RunStep Database (Event × Answer))} (hfresh : db₀.Fresh)
    (hrun : Run centerStep db₀ t db) :
    (∀ s row, db.replayStates.lookup s = some row →
      0 ≤ row.retiredThrough ∧ row.retiredThrough ≤ row.allocatedThrough) ∧
    (∀ s n d, db.receipts.lookup (s, n) = some d → ∃ row, db.replayStates.lookup s = some row ∧
      row.retiredThrough < n ∧ n ≤ row.allocatedThrough ∧ n - row.retiredThrough ≤ 131072) ∧
    (∀ s, (db.receipts.keys.filter fun k => k.1 = s).length ≤ 131072) ∧
    ∀ e ∈ t, ReplayGrows e.before e.after ∧ ReplayGrows e.after db ∧
      (∀ c, e.label.2 ≠ some (.error (.constraint c))) ∧
      (∀ err, e.label.2 = some (.error err) → e.after = e.before) := by
  have hinv := hrun.inv centerStep_invariant hfresh.invariant
  refine ⟨fun s row h => ⟨(hinv.valid s row h).retired_nonneg, (hinv.valid s row h).retired_le⟩,
    hinv.window, ?_, ?_⟩
  · intro s
    cases hrow : db.replayStates.lookup s with
    | none =>
      refine le_trans (Table.length_group_le 0 0 fun n d hd => ?_) (by simp)
      obtain ⟨row, hrow', -⟩ := hinv.window s n d hd
      rw [hrow] at hrow'
      cases hrow'
    | some row =>
      refine le_trans (Table.length_group_le row.retiredThrough (row.retiredThrough + 131072)
        fun n d hd => ?_) (by simp)
      obtain ⟨row', hrow', hlt, -, hwin⟩ := hinv.window s n d hd
      rw [hrow] at hrow'
      obtain rfl := some.inj hrow'
      unfold syncReplayWindow at hwin
      omega
  · intro e he
    obtain ⟨pre, post, rfl⟩ := List.append_of_mem he
    obtain ⟨hpre, hstep, hpost⟩ := hrun.split
    have hbefore := hpre.inv centerStep_invariant hfresh.invariant
    refine ⟨centerStep_grows _ _ _ hbefore hstep, ?_, ?_, ?_⟩
    · exact hpost.rel ReplayGrows.refl ReplayGrows.trans
        (fun _ _ _ hi hs => ⟨centerStep_invariant _ _ _ hi hs, centerStep_grows _ _ _ hi hs⟩)
        (centerStep_invariant _ _ _ hbefore hstep)
    · intro c hc
      obtain ⟨assets, hl, -⟩ | ⟨env, batch, r, db₁, db₂, hl, -⟩ | ⟨env, batch, err, hl, href, -⟩ :=
        centerStep_cases hbefore hstep
      · simp [hl] at hc
      · simp [hl] at hc
      · simp only [hl, some.injEq, Except.error.injEq] at hc
        exact href.not_constraint c hc
    · intro err herr
      obtain ⟨assets, hl, -⟩ | ⟨env, batch, r, db₁, db₂, hl, -⟩ | ⟨env, batch, e', -, -, hdb⟩ :=
        centerStep_cases hbefore hstep
      · simp [hl] at herr
      · simp [hl] at herr
      · exact hdb

/-- After two requests of one sequence the session has one receipt, within the window. -/
theorem replay_state_invariant_two_requests :
    ReplayGrows sampleRecorded (laterStep firstBatch).after ∧
    (laterStep firstBatch).after.receipts.keys = [("session", 1)] ∧
    ((laterStep firstBatch).after.receipts.keys.filter fun k => k.1 = "session").length ≤ 131072 := by
  have hfresh : sampleCenter.Fresh := ⟨rfl, rfl⟩
  obtain ⟨-, -, hcount, hsteps⟩ := replay_state_invariant hfresh (sampleRun firstBatch)
  have hlast := hsteps (laterStep firstBatch) (by simp)
  exact ⟨hlast.1, by decide, hcount "session"⟩

/-! ## Recording at most once -/

/-- The step answers a batch of the session and sequence with `recorded`. -/
def recordsAt (s : String) (n : Int) (e : RunStep Database (Event × Answer)) : Bool :=
  match e.label with
  | (.sync _ batch, some (.ok r)) =>
    batch.sessionID = s && batch.batchSequence = n && r.disposition = .recorded
  | _ => false

def requestsAt (s : String) (n : Int) (batch : Batch) (e : RunStep Database (Event × Answer)) :
    Prop :=
  ∃ env, e.label.1 = .sync env batch ∧ batch.sessionID = s ∧ batch.batchSequence = n

/-- A batch that passes the protocol checks and the session's authentication, comes from the bound
producer and meets no storage fault. -/
structure Admitted (env : Env) (batch : Batch) (db : Database) : Prop where
  protocol : validateBatchProtocol batch = .ok ()
  session : ∃ state, validateAcceptedSyncBatch env batch db = .ok (state, db)
  producer : equalFold (boundRow db batch.sessionID batch.producerID).producerID
    batch.producerID = true
  faultless : ∀ s, env.fails s = false

/-- The sequence has been recorded with the digest: its receipt is there, or the floor has passed
it. -/
def RecordedBefore (db : Database) (s : String) (n : Int) (d : List UInt8) : Prop :=
  ∃ row, db.replayStates.lookup s = some row ∧
    (n ≤ row.retiredThrough ∨ db.receipts.lookup (s, n) = some d)

theorem Committed.recordedBefore (h : Committed db batch r db₁ db₂ db')
    (hrec : RecordedBefore db s n d) :
    RecordedBefore db' s n d := by
  obtain ⟨row, hrow, hcase⟩ := hrec
  obtain ⟨row', hrow', -, hret, -, -⟩ := h.grows s row hrow
  refine ⟨row', hrow', ?_⟩
  rcases hcase with hle | hd
  · exact .inl (hle.trans hret)
  · by_cases hfloor : n ≤ row'.retiredThrough
    · exact .inl hfloor
    · refine .inr (h.receipt_survives hd ?_)
      rintro rfl
      obtain ⟨row'', hrow'', -, hr, -⟩ := h.row
      rw [hrow'] at hrow''
      obtain rfl := some.inj hrow''
      rw [← hr]
      omega

theorem RecordedBefore.step {db db' : Database} (hinv : ReplayInvariant db)
    (hrec : RecordedBefore db s n d) (h : centerStep db label db') : RecordedBefore db' s n d := by
  obtain ⟨assets, -, rfl⟩ | ⟨env, batch, r, db₁, db₂, -, hcom⟩ | ⟨env, batch, e, -, -, rfl⟩ :=
    centerStep_cases hinv h
  · exact hrec
  · exact hcom.recordedBefore hrec
  · exact hrec

theorem Committed.recorded (h : Committed db batch r db₁ db₂ db')
    (hrec : r.disposition = .recorded) :
    RecordedBefore db' batch.sessionID batch.batchSequence batch.payloadDigest.toList := by
  obtain ⟨row', hrow', -⟩ := h.row
  refine ⟨row', hrow', .inr ?_⟩
  have hdisp := h.disposed
  rw [hrec] at hdisp
  cases hdisp with
  | recorded _ _ _ hadded =>
    rw [hadded.receipts, withReceipt]
    exact lookup_insert _

theorem Committed.not_recorded_again (h : Committed db batch r db₁ db₂ db')
    (hrec : RecordedBefore db batch.sessionID batch.batchSequence d) :
    r.disposition ≠ .recorded := by
  intro hdis
  have hdisp := h.disposed
  rw [hdis] at hdisp
  cases hdisp with
  | recorded hpos hnew _ _ =>
    have habove := h.above hpos
    obtain ⟨row, hrow, hle | hd⟩ := hrec
    · have hfloor : row.retiredThrough ≤ requestFloor db batch := by
        rw [requestFloor, boundRow, hrow]
        exact le_max_left _ _
      omega
    · rw [h.live.receipts, h.advanced.lookup_receipt habove, hd] at hnew
      cases hnew

/-- The answer to an admitted batch whose sequence was recorded before: retired once the floor has
passed it, an exact duplicate for the recorded digest, a conflict for another one. -/
theorem admitted_answer (hinv : ReplayInvariant db) (hadm : Admitted env batch db)
    (hpos : 0 < batch.batchSequence) {row : ReplayState}
    (hrow : db.replayStates.lookup batch.sessionID = some row)
    (hrec : batch.batchSequence ≤ row.retiredThrough ∨
      db.receipts.lookup (batch.sessionID, batch.batchSequence) = some d) {answer : Answer}
    (h : centerStep db (.sync env batch, answer) db') :
    (batch.batchSequence ≤ row.retiredThrough → answer = some (.error .syncBatchRetired)) ∧
    (row.retiredThrough < batch.batchSequence → batch.payloadDigest.toList = d →
      ∃ r, answer = some (.ok r) ∧ r.disposition = .exactDuplicate) ∧
    (row.retiredThrough < batch.batchSequence → batch.payloadDigest.toList ≠ d →
      answer = some (.error .syncBatchIdentityConflict)) := by
  have hprot := validateBatchProtocol_ok hadm.protocol
  have hunret := hprot.unretired hpos
  have hfloor : requestFloor db batch = max row.retiredThrough batch.retiredThrough := by
    rw [requestFloor, boundRow, hrow]
    rfl
  have hnofault : ∀ {e}, ¬Fault env e := by
    rintro e ⟨s, -, hs⟩
    rw [hadm.faultless s] at hs
    cases hs
  obtain ⟨assets, hl, -⟩ | ⟨env', batch', r, db₁, db₂, hl, hcom⟩ | ⟨env', batch', e, hl, href, -⟩ :=
    centerStep_cases hinv h
  · simp at hl
  · simp only [Prod.mk.injEq, Event.sync.injEq] at hl
    obtain ⟨⟨rfl, rfl⟩, rfl⟩ := hl
    have habove := hcom.above hpos
    have hd : db.receipts.lookup (batch.sessionID, batch.batchSequence) = some d := by
      rcases hrec with hle | hd
      · omega
      · exact hd
    have hd2 : db₂.receipts.lookup (batch.sessionID, batch.batchSequence) = some d := by
      rw [hcom.live.receipts, hcom.advanced.lookup_receipt habove, hd]
    have hdisp := hcom.disposed
    generalize hdis : r.disposition = dis at hdisp
    cases hdisp with
    | exactDuplicate _ hdup =>
      have hdig : batch.payloadDigest.toList = d := by
        rw [hdup] at hd2
        exact some.inj hd2
      exact ⟨fun hle => by omega, fun _ _ => ⟨r, rfl, hdis⟩, fun _ hne => absurd hdig hne⟩
    | suppressed hnew => simp [hnew hpos] at hd2
    | deferred hnew => simp [hnew] at hd2
    | recorded _ hnew => simp [hnew] at hd2
  · simp only [Prod.mk.injEq, Event.sync.injEq] at hl
    obtain ⟨⟨rfl, rfl⟩, rfl⟩ := hl
    cases href with
    | protocol h => simp [hadm.protocol] at h
    | admission herr _ =>
      obtain ⟨state, hok⟩ := hadm.session
      rw [hok] at herr
      cases herr
    | producer hne =>
      rw [hadm.producer] at hne
      cases hne
    | retired _ hle => exact ⟨fun _ => rfl, fun hlt => by omega, fun hlt => by omega⟩
    | dispose habove hdis =>
      have habove := habove hpos
      have hd : db.receipts.lookup (batch.sessionID, batch.batchSequence) = some d := by
        rcases hrec with hle | hd
        · omega
        · exact hd
      obtain ⟨rfl, -, d', hd', hne⟩ | ⟨hnew, -⟩ | hf := hdis
      · rw [hd] at hd'
        obtain rfl := some.inj hd'
        exact ⟨fun hle => by omega, fun _ heq => absurd heq.symm hne, fun _ _ => rfl⟩
      · simp [hnew hpos] at hd
      · exact absurd hf hnofault
    | fault hf => exact absurd hf hnofault

/-- The facts of a database change only in a transaction that records a batch. -/
theorem centerStep_facts (hinv : ReplayInvariant db) (h : centerStep db label db') :
    db'.facts = db.facts ∨ (db.facts <+: db'.facts ∧
      ∃ s n, recordsAt s n ⟨db, label, db'⟩ = true) := by
  obtain ⟨assets, -, rfl⟩ | ⟨env, batch, r, db₁, db₂, rfl, hcom⟩ | ⟨env, batch, e, -, -, rfl⟩ :=
    centerStep_cases hinv h
  · exact .inl rfl
  · have hfacts : db₂.facts = db.facts := by rw [hcom.live.facts, hcom.advanced.facts]
    have hdisp := hcom.disposed
    generalize hdis : r.disposition = dis at hdisp
    cases hdisp with
    | recorded _ _ _ hadded =>
      refine .inr ⟨?_, batch.sessionID, batch.batchSequence, by simp [recordsAt, hdis]⟩
      rw [← hfacts]
      exact hadded.facts
    | exactDuplicate => exact .inl hfacts
    | suppressed => exact .inl hfacts
    | deferred => exact .inl hfacts
  · exact .inl rfl

/-- What the history of a step says about every later state: a sequence it recorded stays
recorded. -/
def Remembers (e : RunStep Database (Event × Answer)) (db : Database) : Prop :=
  ∀ s n batch, recordsAt s n e = true → requestsAt s n batch e →
    0 < n ∧ RecordedBefore db s n batch.payloadDigest.toList

theorem remembers_step (hinv : ReplayInvariant db) (h : centerStep db label db') :
    Remembers ⟨db, label, db'⟩ db' := by
  rintro s n batch hrec ⟨env, hev, rfl, rfl⟩
  obtain ⟨assets, rfl, -⟩ | ⟨env', batch', r, db₁, db₂, rfl, hcom⟩ | ⟨env', batch', e, rfl, -, -⟩ :=
    centerStep_cases hinv h
  · simp [recordsAt] at hrec
  · obtain ⟨rfl, rfl⟩ := Event.sync.inj hev
    have hdis : r.disposition = .recorded := by simpa [recordsAt] using hrec
    refine ⟨?_, hcom.recorded hdis⟩
    have hdisp := hcom.disposed
    rw [hdis] at hdisp
    cases hdisp with
    | recorded hpos => exact hpos
  · simp [recordsAt] at hrec

theorem recordsAt_request {e : RunStep Database (Event × Answer)} (h : recordsAt s n e = true) :
    ∃ batch, requestsAt s n batch e := by
  obtain ⟨before, ⟨event, answer⟩, after⟩ := e
  cases event with
  | administer => simp [recordsAt] at h
  | sync env batch =>
    rcases answer with _ | _ | r
    · simp [recordsAt] at h
    · simp [recordsAt] at h
    · simp only [recordsAt, Bool.and_eq_true, decide_eq_true_eq] at h
      exact ⟨batch, env, rfl, h.1.1, h.1.2⟩

/-- In every run of the center a sequence of a session is recorded at most once, facts are added
only by a recording transaction, and every later admitted batch of that sequence is answered from
its receipt, or with the retired error once the floor has passed it. -/
theorem recorded_at_most_once {t : List (RunStep Database (Event × Answer))} (hfresh : db₀.Fresh)
    (hrun : Run centerStep db₀ t db) :
    (∀ s n, t.countP (recordsAt s n) ≤ 1) ∧
    (∀ e ∈ t, e.after.facts = e.before.facts ∨
      (e.before.facts <+: e.after.facts ∧ ∃ s n, recordsAt s n e = true)) ∧
    t.Pairwise fun e e' => ∀ s n batch env' batch', recordsAt s n e = true →
      requestsAt s n batch e → e'.label.1 = .sync env' batch' → batch'.sessionID = s →
      batch'.batchSequence = n → Admitted env' batch' e'.before →
      ∃ row, e'.before.replayStates.lookup s = some row ∧
        (n ≤ row.retiredThrough → e'.label.2 = some (.error .syncBatchRetired)) ∧
        (row.retiredThrough < n → batch'.payloadDigest = batch.payloadDigest →
          ∃ r, e'.label.2 = some (.ok r) ∧ r.disposition = .exactDuplicate) ∧
        (row.retiredThrough < n → batch'.payloadDigest ≠ batch.payloadDigest →
          e'.label.2 = some (.error .syncBatchIdentityConflict)) := by
  have hkeep : ∀ e db label db', ReplayInvariant db → Remembers e db → centerStep db label db' →
      Remembers e db' := by
    intro e db label db' hinv hrem hstep s n batch hrec hreq
    obtain ⟨hpos, hb⟩ := hrem s n batch hrec hreq
    exact ⟨hpos, hb.step hinv hstep⟩
  have hest : ∀ db label db', ReplayInvariant db → centerStep db label db' →
      Remembers ⟨db, label, db'⟩ db' := fun _ _ _ hinv hstep => remembers_step hinv hstep
  refine ⟨?_, ?_, ?_⟩
  · intro s n
    refine countP_le_one_of_pairwise (hrun.pairwise centerStep_invariant hest hkeep ?_
      hfresh.invariant)
    intro e db label db' hinv hrem hstep hrec
    obtain ⟨batch, hreq⟩ := recordsAt_request hrec
    obtain ⟨-, hbefore⟩ := hrem s n batch hrec hreq
    by_contra hagain
    simp only [Bool.not_eq_false] at hagain
    obtain ⟨assets, rfl, -⟩ | ⟨env, batch', r, db₁, db₂, rfl, hcom⟩ | ⟨env, batch', e, rfl, -⟩ :=
      centerStep_cases hinv hstep
    · simp [recordsAt] at hagain
    · simp only [recordsAt, Bool.and_eq_true, decide_eq_true_eq] at hagain
      obtain ⟨⟨rfl, rfl⟩, hdis⟩ := hagain
      exact hcom.not_recorded_again hbefore hdis
    · simp [recordsAt] at hagain
  · intro e he
    obtain ⟨hinv, hstep⟩ := hrun.forall_entry centerStep_invariant hfresh.invariant e he
    exact centerStep_facts hinv hstep
  · refine hrun.pairwise centerStep_invariant hest hkeep ?_ hfresh.invariant
    rintro e db ⟨event, answer⟩ db' hinv hrem hstep s n batch env' batch' hrec hreq hev rfl rfl hadm
    obtain ⟨hpos, row, hrow, hcase⟩ := hrem _ _ batch hrec hreq
    obtain rfl : event = .sync env' batch' := hev
    obtain ⟨h1, h2, h3⟩ := admitted_answer hinv hadm hpos hrow hcase hstep
    refine ⟨row, hrow, h1, fun hlt heq => h2 hlt (by rw [heq]), fun hlt hne => h3 hlt fun heq => ?_⟩
    exact hne (Vector.toList_inj.mp heq)

/-- The same batch again is an exact duplicate and is counted once. -/
theorem recorded_at_most_once_duplicate :
    [sampleStep, laterStep firstBatch].countP (recordsAt "session" 1) ≤ 1 ∧
    ∃ r, (laterStep firstBatch).label.2 = some (.ok r) ∧ r.disposition = .exactDuplicate := by
  have hfresh : sampleCenter.Fresh := ⟨rfl, rfl⟩
  obtain ⟨hcount, -, hlater⟩ := recorded_at_most_once hfresh (sampleRun firstBatch)
  have hadm : Admitted sampleEnv firstBatch sampleRecorded :=
    ⟨rfl, ⟨_, rfl⟩, by decide, fun _ => rfl⟩
  obtain ⟨row, hrow, -, hdup, -⟩ := (List.pairwise_cons.mp hlater).1 (laterStep firstBatch) (by simp)
    "session" 1 firstBatch sampleEnv firstBatch (by decide) ⟨sampleEnv, rfl, rfl, rfl⟩ rfl rfl rfl hadm
  have hret : row.retiredThrough = 0 := by
    have : sampleRecorded.replayStates.lookup "session" = some ⟨sampleProducer, 0, 1, 0⟩ := by decide
    rw [show (laterStep firstBatch).before = sampleRecorded from rfl, this] at hrow
    rw [← some.inj hrow]
  exact ⟨hcount "session" 1, hdup (by omega) rfl⟩

/-- A later batch of a recorded, unretired sequence with another digest that passes the protocol
checks and the session's authentication: from another producer it is answered with the producer
mismatch, not with the identity conflict. -/
theorem recorded_then_other_producer :
    let other := sampleBatch "00000000-0000-4000-8000-000000000002" 1 (Vector.replicate 32 1) none
    Run centerStep sampleCenter [sampleStep, laterStep other] (laterStep other).after ∧
    recordsAt "session" 1 sampleStep = true ∧
    sampleRecorded.receipts.lookup ("session", 1) = some firstBatch.payloadDigest.toList ∧
    other.payloadDigest ≠ firstBatch.payloadDigest ∧
    validateBatchProtocol other = .ok () ∧
    (laterStep other).label.2 = some (.error .syncProducerMismatch) := by
  refine ⟨sampleRun _, by decide, by decide, by decide, rfl, rfl⟩

end Houfeng.Center
