import Houfeng.Foundation.Runs
import Houfeng.SyncQueue.Proofs.StoreProofs

/-!
# The queue never wedges itself

Every envelope a call writes is valid when the one it has read is: the invariant of the store is
that everything a power failure may leave decodes.
-/

namespace Houfeng.SyncQueue

open AgentApi List IPQualityReportPayload

/-! ## Good envelopes -/

/-- A valid envelope whose entries were created after the zero time. -/
structure Envelope.Good (state : Envelope) : Prop where
  valid : state.Valid
  created_pos : ∀ e ∈ state.entries, 0 < e.createdAt

variable {session : String}

theorem initialEnvelope_good {producer : String} (hsession : session ≠ "")
    (hproducer : validSyncProducerID producer = true) :
    (initialEnvelope session producer).Good where
  valid :=
    { version := rfl
      session := hsession
      producer := hproducer
      floor_nonneg := le_rfl
      floor_le := le_rfl
      allocated_le := show (0 : Int) ≤ maxInt64 by decide
      live_nonneg := le_rfl
      live_le := show (0 : Int) ≤ maxInt64 by decide
      entry := fun e he => absurd he not_mem_nil
      above := fun e he => absurd he not_mem_nil
      sequences := .nil
      times := .nil
      floor := rfl }
  created_pos := fun e he => absurd he not_mem_nil

variable {state : Envelope} {entries : List Entry}

theorem Envelope.Good.advanceFloor (h : state.Good) (hsub : entries.Sublist state.entries) :
    (advanceFloor { state with entries }).Good :=
  ⟨h.valid.advanceFloor hsub, fun e he => h.created_pos e (hsub.subset he)⟩

theorem Envelope.Good.retireAll (h : state.Good) : (retireAll state).Good := by
  have heq : SyncQueue.retireAll state = SyncQueue.advanceFloor { state with entries := [] } := by
    rw [SyncQueue.retireAll, SyncQueue.advanceFloor, expectedFloor, max_eq_right h.valid.floor_le]
  rw [heq]
  exact h.advanceFloor (nil_sublist _)

variable {state' : Envelope}

theorem Envelope.Good.reserved {block : Int × Int} (h : state.Good)
    (hr : Reserved block state state') : state'.Good := by
  have hnonneg := h.valid.live_nonneg
  rw [hr.state]
  refine ⟨{ h.valid with live_nonneg := ?_, live_le := hr.bound, entry := ?_ }, h.created_pos⟩
  · show 0 ≤ state.liveReservedThrough + 1024
    omega
  · intro e he
    exact { h.valid.entry e he with }

/-! ### A new entry -/

/-- Times increase along the entries, so the last entry is the youngest. -/
theorem createdAt_le_last {last : Entry}
    (htimes : entries.Pairwise fun a b => a.createdAt < b.createdAt)
    (hlast : entries.getLast? = some last) : ∀ e ∈ entries, e.createdAt ≤ last.createdAt := by
  obtain ⟨front, rfl⟩ := getLast?_eq_some_iff.mp hlast
  intro e he
  rcases mem_append.mp he with he | he
  · exact ((pairwise_append.mp htimes).2.2 e he last (mem_singleton.mpr rfl)).le
  · rw [mem_singleton.mp he]

variable {now : Time}

theorem lt_creationTime (htimes : entries.Pairwise fun a b => a.createdAt < b.createdAt) :
    ∀ e ∈ entries, e.createdAt < creationTime now entries := by
  intro e he
  unfold creationTime
  cases hlast : entries.getLast? with
  | none =>
    rw [getLast?_eq_none_iff] at hlast
    exact absurd (hlast ▸ he) not_mem_nil
  | some last =>
    have hle := createdAt_le_last htimes hlast e he
    dsimp only
    split_ifs with h
    · exact lt_of_le_of_lt hle h
    · exact Int.lt_add_one_of_le hle

theorem creationTime_pos (hnow : 0 < now) (hpos : ∀ e ∈ entries, 0 < e.createdAt) :
    0 < creationTime now entries := by
  unfold creationTime
  cases hlast : entries.getLast? with
  | none => exact hnow
  | some last =>
    have := hpos last (mem_of_getLast? hlast)
    dsimp only
    split_ifs
    · exact hnow
    · exact Int.lt_add_one_of_le this.le

theorem batchIdentityMatches_setBatchIdentity (request : SyncRequest) (id : String) :
    batchIdentityMatches (setBatchIdentity request id) id = true := by
  simp [batchIdentityMatches, setBatchIdentity]

theorem rawClean_queuedRequest (state : Envelope) (request : SyncRequest) :
    (queuedRequest state request).rawClean = request.rawClean := by
  have hreport (x : IPQualityReportPayload) (id : String) :
      rawClean { x with
        syncBatchID := id
        providerResults := appendNil x.providerResults
        serviceUnlocks := appendNil x.serviceUnlocks } = x.rawClean := by
    simp [rawClean]
  simp [queuedRequest, setBatchIdentity, cloneRequest, SyncRequest.rawClean,
    items_cloneIPQualityReports, Function.comp_def, hreport]

variable {request : SyncRequest}

theorem newEntry_valid (h : state.Valid) (hsession : request.sessionID = state.sessionID)
    (hcreated : creationTime now state.entries ≠ 0) (hclean : request.rawClean = true) :
    (newEntry now state request).Valid (appendRequest now state request) := by
  have hfloor := h.floor_le
  exact
    { revision := rfl
      session := hsession
      producer := rfl
      sequence_le := le_rfl
      le_allocated := le_rfl
      allocated_le := le_rfl
      retired_nonneg := h.floor_nonneg
      retired_lt := Int.lt_add_one_of_le hfloor
      retired_le := le_rfl
      no_live_signal := rfl
      identity := rfl
      facts := batchIdentityMatches_setBatchIdentity _ _
      created := hcreated
      attempts_nonneg := le_rfl
      attempts_le := show (0 : Int) ≤ maxInt64 by decide
      clean := by
        show (encodeSyncRequest (queuedRequest state request)).noDuplicateKeys = true
        rw [noDuplicateKeys_encodeSyncRequest, rawClean_queuedRequest, hclean] }

theorem Envelope.Valid.sequences_appendRequest (h : state.Valid) (now : Time)
    (request : SyncRequest) : (appendRequest now state request).entries.Pairwise
      fun a b => a.request.batchSequence < b.request.batchSequence := by
  refine pairwise_append.mpr ⟨h.sequences, pairwise_singleton _ _, ?_⟩
  intro e he e' he'
  rw [mem_singleton.mp he']
  exact Int.lt_add_one_of_le (h.entry e he).sequence_le

theorem Envelope.Valid.appendRequest (h : state.Valid)
    (hsession : request.sessionID = state.sessionID)
    (hbound : state.lastAllocatedBatchSeq ≠ maxInt64)
    (hcreated : creationTime now state.entries ≠ 0) (hclean : request.rawClean = true) :
    (appendRequest now state request).Valid := by
  have hfloor_le := h.floor_le
  have hallocated_le := h.allocated_le
  refine
    { version := h.version
      session := h.session
      producer := h.producer
      floor_nonneg := h.floor_nonneg
      floor_le := ?_
      allocated_le := ?_
      live_nonneg := h.live_nonneg
      live_le := h.live_le
      entry := ?_
      above := ?_
      sequences := h.sequences_appendRequest now request
      times := ?_
      floor := ?_ }
  · show state.retiredBatchFloor ≤ state.lastAllocatedBatchSeq + 1
    omega
  · show state.lastAllocatedBatchSeq + 1 ≤ maxInt64
    omega
  · intro e he
    rcases mem_append.mp he with he | he
    · have hv := h.entry e he
      exact { hv with
        sequence_le := Int.le_add_one hv.sequence_le
        allocated_le := Int.le_add_one hv.allocated_le }
    · rw [mem_singleton.mp he]
      exact newEntry_valid h hsession hcreated hclean
  · intro e he
    rcases mem_append.mp he with he | he
    · exact h.above e he
    · rw [mem_singleton.mp he]
      exact Int.lt_add_one_of_le hfloor_le
  · refine pairwise_append.mpr ⟨h.times, pairwise_singleton _ _, ?_⟩
    intro e he e' he'
    rw [mem_singleton.mp he']
    exact lt_creationTime h.times e he
  · have hfloor := h.floor
    show state.retiredBatchFloor = _
    unfold expectedFloor at hfloor ⊢
    simp only [SyncQueue.appendRequest]
    cases hentries : state.entries with
    | nil =>
      rw [hentries] at hfloor
      simp only [nil_append, newEntry, queuedRequest, setBatchIdentity] at hfloor ⊢
      omega
    | cons e rest =>
      rw [hentries] at hfloor
      exact hfloor

theorem Envelope.Good.enqueued {opts : Options} {pruneNow : Time} {id : String} (h : state.Good) (hnow : 0 < now)
    (hclean : request.rawClean = true) (hq : Enqueued opts now pruneNow request id state state') :
    state'.Good := by
  have hcreated := creationTime_pos hnow h.created_pos
  have happended := h.valid.appendRequest hq.request_session hq.bound hcreated.ne' hclean
  refine ⟨pruneEnvelope_valid happended hq.pruned, ?_⟩
  obtain ⟨kept, hkept, hentries⟩ := hq.entries
  intro e he
  rw [hentries] at he
  rcases mem_append.mp he with he | he
  · exact h.created_pos e (hkept.subset he)
  · rw [mem_singleton.mp he]
    exact hcreated

/-! ### Attempts -/

theorem Attempted.entry (h : Attempted state state') :
    ∀ e' ∈ state'.entries, ∃ e ∈ state.entries, e' = e ∨
      (e.attempts ≠ maxInt64 ∧ e' = { e with attempts := e.attempts + 1 }) := by
  intro e' he'
  cases h with
  | none => exact ⟨e', he', .inl rfl⟩
  | @one front back e hentries hmax =>
    rw [hentries]
    rcases mem_append.mp he' with he' | he'
    · exact ⟨e', mem_append_left _ he', .inl rfl⟩
    · rcases mem_cons.mp he' with rfl | he'
      · exact ⟨e, by simp, .inr ⟨hmax, rfl⟩⟩
      · exact ⟨e', by simp [he'], .inl rfl⟩

theorem Attempted.requests (h : Attempted state state') :
    (state'.entries.map fun e => (e.request, e.createdAt)) =
      state.entries.map fun e => (e.request, e.createdAt) := by
  cases h with
  | none => rfl
  | one hentries hmax => simp [hentries]

theorem expectedFloor_congr (h : (state'.entries.map fun e => (e.request, e.createdAt)) =
      state.entries.map fun e => (e.request, e.createdAt))
    (hallocated : state'.lastAllocatedBatchSeq = state.lastAllocatedBatchSeq) :
    expectedFloor state' = expectedFloor state := by
  unfold expectedFloor
  cases hs : state.entries with
  | nil =>
    rw [hs, map_nil, map_eq_nil_iff] at h
    rw [h]
    exact hallocated
  | cons e rest =>
    cases hs' : state'.entries with
    | nil => simp [hs, hs'] at h
    | cons e' rest' =>
      simp only [hs, hs', map_cons, cons.injEq, Prod.mk.injEq] at h
      simp only [h.1.1]

theorem Envelope.Good.attempted (h : state.Good) (ha : Attempted state state') : state'.Good := by
  have hrequests := ha.requests
  have hframe : state' = { state with entries := state'.entries } := by cases ha <;> rfl
  have hfloor : state'.retiredBatchFloor = state.retiredBatchFloor := by rw [hframe]
  have hallocated : state'.lastAllocatedBatchSeq = state.lastAllocatedBatchSeq := by rw [hframe]
  have hentry : ∀ e' ∈ state'.entries, e'.Valid state' ∧ 0 < e'.createdAt ∧
      state.retiredBatchFloor < e'.request.batchSequence := by
    intro e' he'
    obtain ⟨e, he, hrel⟩ := ha.entry e' he'
    have hv := h.valid.entry e he
    have hv' : e.Valid state' := by
      rw [hframe]
      exact { hv with }
    rcases hrel with rfl | ⟨hmax, rfl⟩
    · exact ⟨hv', h.created_pos _ he, h.valid.above _ he⟩
    · have hnonneg := hv.attempts_nonneg
      have hle := hv.attempts_le
      refine ⟨{ hv' with attempts_nonneg := ?_, attempts_le := ?_ }, h.created_pos e he,
        h.valid.above e he⟩
      · show 0 ≤ e.attempts + 1
        omega
      · show e.attempts + 1 ≤ maxInt64
        omega
  have hpairs (R : SyncRequest × Time → SyncRequest × Time → Prop)
      (hp : state.entries.Pairwise fun a b => R (a.request, a.createdAt) (b.request, b.createdAt)) :
      state'.entries.Pairwise fun a b => R (a.request, a.createdAt) (b.request, b.createdAt) :=
    pairwise_map.mp (hrequests ▸ pairwise_map.mpr hp)
  refine ⟨?_, fun e' he' => (hentry e' he').2.1⟩
  have hv := h.valid
  exact
    { version := by rw [hframe]; exact hv.version
      session := by rw [hframe]; exact hv.session
      producer := by rw [hframe]; exact hv.producer
      floor_nonneg := by rw [hfloor]; exact hv.floor_nonneg
      floor_le := by rw [hfloor, hallocated]; exact hv.floor_le
      allocated_le := by rw [hallocated]; exact hv.allocated_le
      live_nonneg := by rw [hframe]; exact hv.live_nonneg
      live_le := by rw [hframe]; exact hv.live_le
      entry := fun e' he' => (hentry e' he').1
      above := fun e' he' => by rw [hfloor]; exact (hentry e' he').2.2
      sequences := hpairs (fun a b => a.1.batchSequence < b.1.batchSequence) hv.sequences
      times := hpairs (fun a b => a.2 < b.2) hv.times
      floor := by rw [hfloor, expectedFloor_congr hrequests hallocated, hv.floor] }

/-! ## Good disks -/

def Content.Good : Content → Prop
  | .envelope state => state.Good
  | _ => True

def Disk.Good (d : Disk) : Prop := ∀ c ∈ d.snapshots, c.Good

variable {d : Disk}

theorem Disk.Good.visible (h : d.Good) (hvisible : d.visible = .envelope state) : state.Good := by
  have := h d.visible d.visible_mem_snapshots
  rwa [hvisible] at this

theorem Disk.Good.rename (h : d.Good) (hstate : state.Good) (synced : Bool) :
    (d.rename (.envelope state) synced).Good := by
  intro c hc
  rcases Disk.mem_snapshots_rename hc with rfl | hc
  · exact hstate
  · exact h c hc

variable {w w' : World} {r : Except QueueError Unit}

theorem Wrote.good (h : Wrote w state r w') (hdisk : w.disk.Good) (hstate : state.Good) :
    w'.disk.Good := by
  cases h with
  | refused e he => exact hdisk
  | ambiguous => exact hdisk.rename hstate false
  | done => exact hdisk.rename hstate _

theorem Wrote.visible (h : Wrote w state r w') :
    (w' = w ∧ ∃ e, r = .error e ∧ e ≠ .ambiguousDurability) ∨
      w'.disk.visible = .envelope state ∧ (r = .ok () ∨ r = .error .ambiguousDurability) := by
  cases h with
  | refused e he => exact .inl ⟨rfl, e, rfl, he⟩
  | ambiguous => exact .inr ⟨Disk.visible_rename _ _ _, .inr rfl⟩
  | done => exact .inr ⟨Disk.visible_rename _ _ _, .inl rfl⟩

/-! ## One call -/

structure Envelope.Advances (state state' : Envelope) : Prop where
  allocated : state.lastAllocatedBatchSeq ≤ state'.lastAllocatedBatchSeq
  floor : state.retiredBatchFloor ≤ state'.retiredBatchFloor
  live : state.liveReservedThrough ≤ state'.liveReservedThrough

theorem Envelope.Advances.refl (state : Envelope) : state.Advances state :=
  ⟨le_rfl, le_rfl, le_rfl⟩

theorem Envelope.Advances.trans {s1 s2 s3 : Envelope} (h : s1.Advances s2)
    (h' : s2.Advances s3) : s1.Advances s3 :=
  ⟨h.allocated.trans h'.allocated, h.floor.trans h'.floor, h.live.trans h'.live⟩

theorem Envelope.Trimmed.advances (h : state.Trimmed state') : state.Advances state' :=
  ⟨h.allocated.ge, h.floor, h.live.ge⟩

/-- `OpenSession` has retired the entries of another session, and failed after that. -/
def RetiredOther (w w' : World) (op : Op) : Prop :=
  ∃ session state, op = .openSession session ∧ w.disk.visible = .envelope state ∧
    state.sessionID ≠ session ∧ w'.disk.visible = .envelope (retireAll state)

structure CallSpec (w : World) (op : Op) (r : Except QueueError Unit) (w' : World) : Prop where
  good : w'.disk.Good
  advances : ∀ state state', w.disk.visible = .envelope state →
    w'.disk.visible = .envelope state' → state'.sessionID = state.sessionID → state.Advances state'
  unchanged : ∀ e, r = .error e → e ≠ .ambiguousDurability →
    w'.disk = w.disk ∨ RetiredOther w w' op

variable {op : Op}

theorem CallSpec.of_same_disk (hgood : w.disk.Good) (h : w'.disk = w.disk) :
    CallSpec w op r w' where
  good := h ▸ hgood
  advances state state' hs hs' _ := by
    rw [h, hs] at hs'
    cases hs'
    exact .refl _
  unchanged _ _ _ := Or.inl h

theorem Outcome.callSpec {α : Type} {P : α → Envelope → Envelope → Prop} {r : Except QueueError α}
    (hout : Outcome w P r w') (hgood : w.disk.Good)
    (hP : ∀ a state state', state.Good → P a state state' → state'.Good ∧ state.Advances state') :
    CallSpec w op (r.map fun _ => ()) w' := by
  cases hout with
  | refused e he => exact .of_same_disk hgood rfl
  | wrote hpoison hsession hvisible hvalid hrel hwrote =>
    obtain ⟨hgood', hadvances⟩ := hP _ _ _ (hgood.visible hvisible) hrel
    rcases hwrote.visible with ⟨rfl, -⟩ | ⟨hvisible', hr⟩
    · exact .of_same_disk hgood rfl
    · refine ⟨hwrote.good hgood hgood', fun state state' hs hs' _ => ?_, fun e he hne => ?_⟩
      · rw [hvisible] at hs
        rw [hvisible'] at hs'
        cases hs
        cases hs'
        exact hadvances
      · rcases hr with rfl | rfl
        · cases he
        · exact absurd (Except.error.inj he).symm hne

theorem Outcome.callSpec_unit {P : Unit → Envelope → Envelope → Prop} (hout : Outcome w P r w')
    (hgood : w.disk.Good) (hP : ∀ a state state', state.Good → P a state state' →
      state'.Good ∧ state.Advances state') : CallSpec w op r w' := by
  have h : CallSpec w op (r.map fun _ => ()) w' := hout.callSpec hgood hP
  cases r <;> exact h

theorem afterOpen_disk (session : String) (r : Except QueueError Unit) (w : World) :
    (afterOpen session r w).disk = w.disk := by
  cases r <;> rfl

theorem Opened.callSpec (h : Opened w session r w') (hgood : w.disk.Good) :
    CallSpec w (.openSession session) r w' := by
  cases h with
  | refused e he => exact .of_same_disk hgood rfl
  | current => exact .of_same_disk hgood rfl
  | resumed => exact .of_same_disk hgood rfl
  | @initialized producer _ w1 hclosed hsession hvisible hproducer hwrote =>
    have hnew := initialEnvelope_good hsession hproducer
    have hdisk := afterOpen_disk session r w1
    refine ⟨hdisk ▸ hwrote.good hgood hnew, fun state state' hs => ?_, fun e he hne => ?_⟩
    · rcases hvisible with hv | hv <;> rw [hv] at hs <;> cases hs
    · rcases hwrote.visible with ⟨rfl, -⟩ | ⟨-, rfl | rfl⟩
      · exact .inl (afterOpen_disk _ _ _)
      · cases he
      · exact absurd (Except.error.inj he).symm hne
  | @retired state e w' hclosed hvisible hvalid hother hwrote =>
    have hold := hgood.visible hvisible
    rcases hwrote.visible with ⟨rfl, -⟩ | ⟨hvisible', hr⟩
    · exact .of_same_disk hgood rfl
    · refine ⟨hwrote.good hgood hold.retireAll, fun s s' hs hs' _ => ?_, fun e' he hne => ?_⟩
      · rw [hvisible] at hs
        rw [hvisible'] at hs'
        cases hs
        cases hs'
        exact ⟨le_rfl, hvalid.floor_le, le_rfl⟩
      · rcases hr with hr | hr
        · cases hr
        · rw [hr] at he
          exact absurd (Except.error.inj he).symm hne
  | @withoutProducer state w' hclosed hvisible hvalid hother hwrote =>
    have hold := hgood.visible hvisible
    rcases hwrote.visible with ⟨-, e, he, -⟩ | ⟨hvisible', -⟩
    · cases he
    · refine ⟨hwrote.good hgood hold.retireAll, fun s s' hs hs' _ => ?_, fun e' he hne => ?_⟩
      · rw [hvisible] at hs
        rw [hvisible'] at hs'
        cases hs
        cases hs'
        exact ⟨le_rfl, hvalid.floor_le, le_rfl⟩
      · exact .inr ⟨session, state, rfl, hvisible, hother, hvisible'⟩
  | @changed state producer w1 w2 _ hclosed hsession hvisible hvalid hother hproducer hretired
      hwrote =>
    have hold := hgood.visible hvisible
    have hnew := initialEnvelope_good hsession hproducer
    have hgood1 := hretired.good hgood hold.retireAll
    have hvisible1 : w1.disk.visible = .envelope (retireAll state) := by
      rcases hretired.visible with ⟨-, e, he, -⟩ | ⟨hv, -⟩
      · cases he
      · exact hv
    have hdisk := afterOpen_disk session r w2
    refine ⟨hdisk ▸ hwrote.good hgood1 hnew, fun s s' hs hs' hsame => ?_, fun e he hne => ?_⟩
    · rw [hvisible] at hs
      rw [hdisk] at hs'
      cases hs
      rcases hwrote.visible with ⟨rfl, -⟩ | ⟨hv, -⟩
      · rw [hvisible1] at hs'
        cases hs'
        exact ⟨le_rfl, hvalid.floor_le, le_rfl⟩
      · rw [hv] at hs'
        cases hs'
        exact absurd hsame.symm hother
    · rcases hwrote.visible with ⟨rfl, -⟩ | ⟨-, hr | hr⟩
      · refine .inr ⟨session, state, rfl, hvisible, hother, ?_⟩
        rw [hdisk, hvisible1]
      · rw [hr] at he
        cases he
      · rw [hr] at he
        exact absurd (Except.error.inj he).symm hne

/-- What a call must be given: a clock after the zero time, and requests without duplicate keys in
their raw messages. -/
def Lawful (env : Env) (op : Op) : Prop :=
  0 < env.now ∧ ∀ request, op = .enqueue request → request.rawClean = true

theorem perform_callSpec {env : Env} (hlawful : Lawful env op) (hgood : w.disk.Good) :
    CallSpec w op (perform env op w).1 (perform env op w).2 := by
  cases op with
  | openSession session => exact (openSession_opened env session w).callSpec hgood
  | reserveLiveSequences count =>
    refine (reserveLiveSequences_outcome env count w).callSpec hgood fun block state state' hs h => ?_
    refine ⟨hs.reserved h, ?_⟩
    rw [h.state]
    exact ⟨le_rfl, le_rfl, Int.le_add_of_nonneg_right (by decide)⟩
  | enqueue request =>
    refine (enqueue_outcome env request w).callSpec hgood fun id state state' hs h => ?_
    exact ⟨hs.enqueued hlawful.1 (hlawful.2 request rfl) h,
      h.allocated ▸ Int.le_add_of_nonneg_right (by decide), h.floor, h.live.ge⟩
  | deleteMany ids =>
    refine (deleteMany_outcome env ids w).callSpec_unit hgood fun _ state state' hs h => ?_
    subst h
    exact ⟨hs.advanceFloor filter_sublist, (advanceFloor_trimmed filter_sublist).advances⟩
  | markAttempt id =>
    refine (markAttempt_outcome env id w).callSpec_unit hgood fun _ state state' hs h => ?_
    refine ⟨hs.attempted h, ?_⟩
    cases h <;> exact ⟨le_rfl, le_rfl, le_rfl⟩
  | prune =>
    refine (prune_outcome env w).callSpec_unit hgood fun _ state state' hs h => ?_
    obtain ⟨ht, hsuffix⟩ := pruneEnvelope_trimmed h
    exact ⟨⟨pruneEnvelope_valid hs.valid h, fun e he => hs.created_pos e (hsuffix.subset he)⟩,
      ht.advances⟩
  | close => exact .of_same_disk hgood rfl
  | reopen opts => exact .of_same_disk hgood rfl

/-! ## Runs -/

theorem queueStep_callSpec {call : Call} (hlawful : Lawful call.env call.op)
    (hstep : queueStep w call w') (hgood : w.disk.Good) :
    CallSpec w call.op call.answer w' := by
  have h := perform_callSpec hlawful hgood
  rwa [show perform call.env call.op w = (call.answer, w') from hstep] at h

/-- While the session stays the same, the stored watermarks never decrease. -/
theorem storedAdvances {w0 : World} {run : List (RunStep World Call)}
    (hrun : Run (fun w call w' => (queueStep w call w' ∧ Lawful call.env call.op) ∧
      ∃ state, w'.disk.visible = .envelope state ∧ state.sessionID = session) w0 run w)
    (hgood : w0.disk.Good)
    (hsession : ∃ state, w0.disk.visible = .envelope state ∧ state.sessionID = session)
    {first last : Envelope} (hfirst : w0.disk.visible = .envelope first)
    (hlast : w.disk.visible = .envelope last) : first.Advances last := by
  induction hrun generalizing first with
  | nil =>
    rw [hfirst] at hlast
    cases hlast
    exact .refl _
  | cons hstep _ ih =>
    obtain ⟨⟨hq, hl⟩, middle, hmiddle, hms⟩ := hstep
    have hspec := queueStep_callSpec hl hq hgood
    obtain ⟨state, hstate, hs⟩ := hsession
    rw [hfirst] at hstate
    cases hstate
    exact (hspec.advances first middle hfirst hmiddle (hms.trans hs.symm)).trans
      (ih hspec.good ⟨middle, hmiddle, hms⟩ hmiddle hlast)

/-- In every run of the queue, everything that may be found on the disk decodes, no watermark of a
session decreases while the session stays, and a call that fails with anything but an ambiguous
write changes nothing, except that opening another session may already have retired the old one. -/
theorem queue_never_wedges {w₀ w : World} {run : List (RunStep World Call)}
    (hrun : Run queueStep w₀ run w) (hstart : w₀.disk.Good)
    (hlawful : ∀ e ∈ run, Lawful e.label.env e.label.op) :
    (∀ state, .envelope state ∈ w.disk.snapshots →
      decodeEnvelope state = .ok state ∧
      (state.entries.Pairwise fun a b => a.request.batchSequence < b.request.batchSequence) ∧
      (∀ e ∈ state.entries, state.retiredBatchFloor < e.request.batchSequence ∧
        e.request.batchSequence ≤ state.lastAllocatedBatchSeq) ∧
      state.retiredBatchFloor = expectedFloor state ∧
      (state.entries.Pairwise fun a b => a.createdAt < b.createdAt) ∧
      ∀ e ∈ state.entries,
        e.id = batchIdentity state.producerID e.request.batchSequence ∧
          batchIdentityMatches e.request e.id = true) ∧
    (∀ first last session, w₀.disk.visible = .envelope first → w.disk.visible = .envelope last →
      (∀ e ∈ run, ∃ state, e.after.disk.visible = .envelope state ∧ state.sessionID = session) →
      first.sessionID = session →
      first.lastAllocatedBatchSeq ≤ last.lastAllocatedBatchSeq ∧
        first.retiredBatchFloor ≤ last.retiredBatchFloor ∧
        first.liveReservedThrough ≤ last.liveReservedThrough) ∧
    ∀ e ∈ run, ∀ error, e.label.answer = .error error → error ≠ .ambiguousDurability →
      e.after.disk = e.before.disk ∨ RetiredOther e.before e.after e.label.op := by
  have hlawfulRun := hrun.restrict hlawful
  have hgood : ∀ s l s', s.disk.Good → (queueStep s l s' ∧ Lawful l.env l.op) → s'.disk.Good :=
    fun s l s' hs h => (queueStep_callSpec h.2 h.1 hs).good
  refine ⟨fun state hstate => ?_, fun first last session hfirst hlast hsession hfs => ?_,
    fun e he => ?_⟩
  · have hv := (hlawfulRun.inv hgood hstart _ hstate : state.Good).valid
    exact ⟨decodeEnvelope_eq_ok.mpr ⟨rfl, hv⟩, hv.sequences,
      fun e he => ⟨hv.above e he, (hv.entry e he).sequence_le⟩, hv.floor, hv.times,
      fun e he => ⟨(hv.entry e he).identity, (hv.entry e he).facts⟩⟩
  · have h := storedAdvances (hlawfulRun.restrict hsession) hstart ⟨first, hfirst, hfs⟩ hfirst hlast
    exact ⟨h.allocated, h.floor, h.live⟩
  · obtain ⟨hbefore, hstep, hl⟩ := hlawfulRun.forall_entry hgood hstart e he
    exact (queueStep_callSpec hl hstep hbefore).unchanged

/-! ## A sample queue -/

def sampleEnv (now : Time) : Env where
  ctxDone := false
  lockFails := false
  readFails := false
  ctxDoneAfterRead := false
  now := now
  pruneNow := now
  producer := some ⟨"00000000-0000-0000-0000-000000000001", by decide⟩
  retireWrite := .none
  write := .none

def sampleWorld : World where
  disk := { durable := .missing, later := [] }
  store := newFileStore { maxEntries := 0, maxAge := 0, maxBytes := 0, skipFsync := false }

def heartbeatRequest : SyncRequest where
  protocolRevision := 0
  producerID := ""
  batchSequence := 0
  allocatedThrough := 0
  retiredThrough := 0
  sessionID := "session"
  liveSignal := none
  monitoringInstanceID := "instance"
  syncToken := "token"
  heartbeats := some [
    { observedAt := "2026-01-01T00:00:00Z"
      agentVersion := "1"
      fingerprint := "fp"
      syncBatchID := ""
      isBackfilled := false }]
  hostSamples := none
  probeObservations := none
  ipQualityReports := none
  commandResults := none

def trace : World → List (Env × Op) → List (RunStep World Call)
  | _, [] => []
  | w, (env, op) :: rest =>
    ⟨w, ⟨env, op, (perform env op w).1⟩, (perform env op w).2⟩ :: trace (perform env op w).2 rest

def afterCalls : World → List (Env × Op) → World
  | w, [] => w
  | w, (env, op) :: rest => afterCalls (perform env op w).2 rest

theorem run_trace (w : World) (calls : List (Env × Op)) :
    Run queueStep w (trace w calls) (afterCalls w calls) := by
  induction calls generalizing w with
  | nil => exact .nil w
  | cons call rest ih => exact .cons rfl (ih _)

def queueOne (now : Time) : List (Env × Op) :=
  [(sampleEnv now, .openSession "session"), (sampleEnv now, .enqueue heartbeatRequest)]

def nextCall (w : World) (calls : List (Env × Op)) (env : Env) (op : Op) : RunStep World Call :=
  ⟨afterCalls w calls, ⟨env, op, (perform env op (afterCalls w calls)).1⟩,
    (perform env op (afterCalls w calls)).2⟩

theorem run_nextCall (w : World) (calls : List (Env × Op)) (env : Env) (op : Op) :
    Run queueStep w (trace w calls ++ [nextCall w calls env op]) (nextCall w calls env op).after :=
  (run_trace w calls).snoc rfl

def failedChange : RunStep World Call :=
  nextCall sampleWorld (queueOne 1 ++ [(sampleEnv 1, .close)])
    { sampleEnv 1 with write := .beforeRename } (.openSession "other")

def sampleID : String := "00000000-0000-0000-0000-000000000001:1"

def Content.entryCount : Content → Nat
  | .envelope state => state.entries.length
  | _ => 0

/-- With the clock at the zero time the queue writes an entry that it no longer accepts; and a
failed change of the session drops the entries of the old one. -/
theorem queue_wedged_at_zero_time :
    (∃ run w, Run queueStep sampleWorld run w ∧ sampleWorld.disk = ⟨.missing, []⟩ ∧
      heartbeatRequest.rawClean = true ∧ w.disk.visible.entryCount = 1 ∧
      (decodeContent w.disk.visible).isOk = false) ∧
    ∃ run e, Run queueStep sampleWorld (run ++ [e]) e.after ∧ e.label.answer = .error .io ∧
      e.before.disk.visible.entryCount = 1 ∧ e.after.disk.visible.entryCount = 0 := by
  have hzero : (afterCalls sampleWorld (queueOne 0)).disk.visible.entryCount = 1 ∧
      (decodeContent (afterCalls sampleWorld (queueOne 0)).disk.visible).isOk = false := by
    decide +kernel
  have hchange : failedChange.label.answer = .error .io ∧
      failedChange.before.disk.visible.entryCount = 1 ∧
      failedChange.after.disk.visible.entryCount = 0 := by
    decide +kernel
  have hrun : Run queueStep sampleWorld
      (trace sampleWorld (queueOne 1 ++ [(sampleEnv 1, .close)]) ++ [failedChange])
      failedChange.after := by
    unfold failedChange
    exact run_nextCall _ _ _ _
  exact ⟨⟨_, _, run_trace sampleWorld (queueOne 0), rfl, rfl, hzero⟩, _, _, hrun, hchange⟩

theorem sampleWorld_good : sampleWorld.disk.Good := by
  intro c hc
  rw [mem_singleton.mp hc]
  trivial

def failedMark : RunStep World Call :=
  nextCall sampleWorld (queueOne 1) { sampleEnv 2 with write := .beforeRename } (.markAttempt sampleID)

/-- A write that fails before the rename leaves the entry on the disk as it was. -/
theorem queue_never_wedges_failed_write :
    failedMark.before.disk.visible.entryCount = 1 ∧ failedMark.label.answer = .error .io ∧
      failedMark.after.disk = failedMark.before.disk := by
  have hlawful : ∀ e ∈ trace sampleWorld (queueOne 1) ++ [failedMark],
      Lawful e.label.env e.label.op := by
    intro e he
    rcases mem_cons.mp he with rfl | he
    · exact ⟨by decide, nofun⟩
    rcases mem_cons.mp he with rfl | he
    · refine ⟨by decide, fun request h => ?_⟩
      cases h
      decide
    · rw [mem_singleton.mp he]
      exact ⟨by decide, nofun⟩
  have hfailed : failedMark.before.disk.visible.entryCount = 1 ∧
      failedMark.label.answer = .error .io := by decide +kernel
  have hkept := (queue_never_wedges (run_nextCall _ _ _ _) sampleWorld_good hlawful).2.2 failedMark
    (mem_append_right _ (mem_singleton_self _)) _ hfailed.2 nofun
  exact ⟨hfailed.1, hfailed.2, hkept.resolve_right nofun⟩

end Houfeng.SyncQueue
