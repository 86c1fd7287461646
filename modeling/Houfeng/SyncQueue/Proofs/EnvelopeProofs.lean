import Houfeng.SyncQueue.Envelope
import Mathlib.Data.List.TakeWhile
import Mathlib.Tactic.Ring

/-!
# Valid envelopes

`decodeEnvelope` accepts exactly the valid envelopes. Dropping entries and advancing the floor, by
deletion or by pruning, keeps an envelope valid.
-/

namespace Houfeng.SyncQueue

open AgentApi List Option

/-! ## Validity -/

/-- What the queue demands of one entry, except for its place among the others. -/
structure Entry.Valid (state : Envelope) (entry : Entry) : Prop where
  revision : entry.request.protocolRevision = syncProtocolRevision
  session : entry.request.sessionID = state.sessionID
  producer : entry.request.producerID = state.producerID
  sequence_le : entry.request.batchSequence ≤ state.lastAllocatedBatchSeq
  le_allocated : entry.request.batchSequence ≤ entry.request.allocatedThrough
  allocated_le : entry.request.allocatedThrough ≤ state.lastAllocatedBatchSeq
  retired_nonneg : 0 ≤ entry.request.retiredThrough
  retired_lt : entry.request.retiredThrough < entry.request.batchSequence
  retired_le : entry.request.retiredThrough ≤ state.retiredBatchFloor
  no_live_signal : entry.request.liveSignal = none
  identity : entry.id = batchIdentity state.producerID entry.request.batchSequence
  facts : batchIdentityMatches entry.request entry.id = true
  created : entry.createdAt ≠ 0
  attempts_nonneg : 0 ≤ entry.attempts
  attempts_le : entry.attempts ≤ maxInt64
  clean : (encodeSyncRequest entry.request).noDuplicateKeys = true

structure Envelope.Valid (state : Envelope) : Prop where
  version : state.version = 2
  session : state.sessionID ≠ ""
  producer : validSyncProducerID state.producerID = true
  floor_nonneg : 0 ≤ state.retiredBatchFloor
  floor_le : state.retiredBatchFloor ≤ state.lastAllocatedBatchSeq
  allocated_le : state.lastAllocatedBatchSeq ≤ maxInt64
  live_nonneg : 0 ≤ state.liveReservedThrough
  live_le : state.liveReservedThrough ≤ maxInt64
  entry : ∀ e ∈ state.entries, e.Valid state
  above : ∀ e ∈ state.entries, state.retiredBatchFloor < e.request.batchSequence
  sequences : state.entries.Pairwise fun a b => a.request.batchSequence < b.request.batchSequence
  times : state.entries.Pairwise fun a b => a.createdAt < b.createdAt
  floor : state.retiredBatchFloor = expectedFloor state

variable {state : Envelope} {e : Entry}

theorem entryBounds_iff {previous : Int} {previousTime : Time}
    (hfacts : batchIdentityMatches e.request
      (batchIdentity state.producerID e.request.batchSequence) = true)
    (hclean : (encodeSyncRequest e.request).noDuplicateKeys = true) :
    entryBounds state previous previousTime e = true ↔
      e.Valid state ∧ previous < e.request.batchSequence ∧
        (previousTime = 0 ∨ previousTime < e.createdAt) := by
  simp only [entryBounds, Bool.and_eq_true, Bool.or_eq_true, decide_eq_true_eq, ne_eq,
    isNone_iff_eq_none, and_assoc]
  constructor
  · rintro ⟨h1, h2, h3, h4, h5, h6, h7, h8, h9, h10, h11, h12, h13, h14, h15, h16⟩
    exact ⟨⟨h1, h2, h3, h5, h6, h7, h8, h9, h10, h11, h12, h12 ▸ hfacts, h13, h15, h16, hclean⟩,
      h4, h14⟩
  · rintro ⟨h, hprevious, htime⟩
    exact ⟨h.revision, h.session, h.producer, hprevious, h.sequence_le, h.le_allocated,
      h.allocated_le, h.retired_nonneg, h.retired_lt, h.retired_le, h.no_live_signal, h.identity,
      h.created, htime, h.attempts_nonneg, h.attempts_le⟩

variable {entries : List Entry}

theorem checkEntries_iff (state : Envelope) (previous : Int) (previousTime : Time)
    (hclean : ∀ e ∈ entries, (encodeSyncRequest e.request).noDuplicateKeys = true) :
    checkEntries state previous previousTime entries = .ok () ↔
      (∀ e ∈ entries, e.Valid state) ∧
      (∀ e ∈ entries, previous < e.request.batchSequence) ∧
      (∀ e ∈ entries, previousTime = 0 ∨ previousTime < e.createdAt) ∧
      (entries.Pairwise fun a b => a.request.batchSequence < b.request.batchSequence) ∧
      entries.Pairwise fun a b => a.createdAt < b.createdAt := by
  induction entries generalizing previous previousTime with
  | nil => simp [checkEntries]
  | cons e rest ih =>
    have hrest := fun e' he' => hclean e' (mem_cons_of_mem _ he')
    have he := hclean e mem_cons_self
    rw [checkEntries]
    split_ifs with hbounds hfacts
    · -- the entry is refused, so it is not valid in its place
      refine iff_of_false (by simp) ?_
      rintro ⟨hvalid, hprevious, htime, -, -⟩
      have hv := hvalid e mem_cons_self
      have := (entryBounds_iff (hv.identity ▸ hv.facts) he).mpr
        ⟨hv, hprevious e mem_cons_self, htime e mem_cons_self⟩
      rw [hbounds] at this
      exact Bool.noConfusion this
    · refine iff_of_false (by simp) ?_
      rintro ⟨hvalid, -⟩
      have hv := hvalid e mem_cons_self
      rw [← hv.identity, hv.facts] at hfacts
      exact Bool.noConfusion hfacts
    · have hb := (entryBounds_iff (by simpa using hfacts) he).mp (by simpa using hbounds)
      obtain ⟨hv, hprevious, htime⟩ := hb
      rw [ih _ _ hrest]
      simp only [forall_mem_cons, pairwise_cons]
      constructor
      · rintro ⟨h1, h2, h3, h4, h5⟩
        have h3' : ∀ e' ∈ rest, e.createdAt < e'.createdAt :=
          fun e' he' => (h3 e' he').resolve_left hv.created
        refine ⟨⟨hv, h1⟩, ⟨hprevious, fun e' he' => hprevious.trans (h2 e' he')⟩,
          ⟨htime, fun e' he' => htime.imp_right fun h => h.trans (h3' e' he')⟩, ⟨h2, h4⟩, h3', h5⟩
      · rintro ⟨⟨-, h1⟩, -, -, ⟨h2, h4⟩, h3, h5⟩
        exact ⟨h1, h2, fun e' he' => .inr (h3 e' he'), h4, h5⟩

theorem replayBounds_iff :
    replayBounds state = true ↔ state.version = 2 ∧ state.sessionID ≠ "" ∧
      validSyncProducerID state.producerID = true ∧ 0 ≤ state.lastAllocatedBatchSeq ∧
      0 ≤ state.retiredBatchFloor ∧ state.retiredBatchFloor ≤ state.lastAllocatedBatchSeq ∧
      0 ≤ state.liveReservedThrough ∧ state.lastAllocatedBatchSeq ≤ maxInt64 ∧
      state.liveReservedThrough ≤ maxInt64 := by
  simp only [replayBounds, Bool.and_eq_true, decide_eq_true_eq, and_assoc]

variable {state' : Envelope}

/-- `decodeEnvelope` accepts exactly the valid envelopes. -/
theorem decodeEnvelope_eq_ok :
    decodeEnvelope state = .ok state' ↔ state' = state ∧ state.Valid := by
  unfold decodeEnvelope
  by_cases hkeys : (state.entries.all fun e => (encodeSyncRequest e.request).noDuplicateKeys) = false
  · rw [if_pos hkeys]
    refine iff_of_false (by simp) ?_
    rintro ⟨-, hvalid⟩
    have : (state.entries.all fun e => (encodeSyncRequest e.request).noDuplicateKeys) = true :=
      List.all_eq_true.mpr fun e he => (hvalid.entry e he).clean
    rw [hkeys] at this
    exact Bool.noConfusion this
  rw [if_neg hkeys]
  by_cases hbounds : replayBounds state = false
  · rw [if_pos hbounds]
    refine iff_of_false (by simp) ?_
    rintro ⟨-, hv⟩
    have := replayBounds_iff.mpr ⟨hv.version, hv.session, hv.producer,
      hv.floor_nonneg.trans hv.floor_le, hv.floor_nonneg, hv.floor_le, hv.live_nonneg,
      hv.allocated_le, hv.live_le⟩
    rw [hbounds] at this
    exact Bool.noConfusion this
  rw [if_neg hbounds]
  have hclean : ∀ e ∈ state.entries, (encodeSyncRequest e.request).noDuplicateKeys = true := by
    simpa [List.all_eq_true] using hkeys
  obtain ⟨h1, h2, h3, -, h5, h6, h7, h8, h9⟩ := replayBounds_iff.mp (by simpa using hbounds)
  have hcheck := checkEntries_iff state state.retiredBatchFloor 0 hclean
  constructor
  · intro h
    cases hc : checkEntries state state.retiredBatchFloor 0 state.entries with
    | error e => simp [hc, bind, Except.bind] at h
    | ok u =>
      obtain ⟨he, habove, -, hseq, htimes⟩ := hcheck.mp hc
      simp only [hc, bind, Except.bind] at h
      split_ifs at h with hfloor
      exact ⟨(Except.ok.inj h).symm, h1, h2, h3, h5, h6, h8, h7, h9, he, habove, hseq, htimes,
        not_not.mp hfloor⟩
  · rintro ⟨rfl, hv⟩
    rw [hcheck.mpr ⟨hv.entry, hv.above, fun _ _ => .inl rfl, hv.sequences, hv.times⟩]
    simp only [bind, Except.bind]
    rw [if_neg (not_not.mpr hv.floor)]

/-! ## Dropping entries -/

/-- The envelope has lost entries and its floor has advanced; nothing else has changed. -/
structure Envelope.Trimmed (state state' : Envelope) : Prop where
  session : state'.sessionID = state.sessionID
  producer : state'.producerID = state.producerID
  allocated : state'.lastAllocatedBatchSeq = state.lastAllocatedBatchSeq
  live : state'.liveReservedThrough = state.liveReservedThrough
  floor : state.retiredBatchFloor ≤ state'.retiredBatchFloor
  entries : state'.entries.Sublist state.entries

theorem Envelope.Trimmed.trans {s1 s2 s3 : Envelope} (h : s1.Trimmed s2) (h' : s2.Trimmed s3) :
    s1.Trimmed s3 :=
  ⟨h'.session.trans h.session, h'.producer.trans h.producer, h'.allocated.trans h.allocated,
    h'.live.trans h.live, h.floor.trans h'.floor, h'.entries.trans h.entries⟩

theorem advanceFloor_trimmed (h : entries.Sublist state.entries) :
    state.Trimmed (advanceFloor { state with entries }) :=
  ⟨rfl, rfl, rfl, rfl, le_max_left _ _, h⟩

/-- The floor never lies above the place just below the first entry. -/
theorem Envelope.Valid.floor_le_expected (h : state.Valid) (hsub : entries.Sublist state.entries) :
    state.retiredBatchFloor ≤ expectedFloor { state with entries } := by
  cases entries with
  | nil => exact h.floor_le
  | cons e rest =>
    have := h.above e (hsub.subset mem_cons_self)
    simp only [expectedFloor]
    omega

theorem Envelope.Valid.advanceFloor (h : state.Valid) (hsub : entries.Sublist state.entries) :
    (advanceFloor { state with entries }).Valid := by
  have hfloor : (SyncQueue.advanceFloor { state with entries }).retiredBatchFloor =
      expectedFloor { state with entries } := max_eq_right (h.floor_le_expected hsub)
  have hle := h.floor_le_expected hsub
  have hseq := h.sequences.sublist hsub
  refine
    { version := h.version
      session := h.session
      producer := h.producer
      floor_nonneg := by rw [hfloor]; exact h.floor_nonneg.trans hle
      floor_le := ?_
      allocated_le := h.allocated_le
      live_nonneg := h.live_nonneg
      live_le := h.live_le
      entry := ?_
      above := ?_
      sequences := hseq
      times := h.times.sublist hsub
      floor := hfloor }
  · rw [hfloor]
    cases entries with
    | nil => exact le_rfl
    | cons e rest =>
      have := (h.entry e (hsub.subset mem_cons_self)).sequence_le
      simp only [expectedFloor, SyncQueue.advanceFloor]
      omega
  · intro e he
    have hv := h.entry e (hsub.subset he)
    exact { hv with retired_le := by rw [hfloor]; exact hv.retired_le.trans hle }
  · intro e he
    rw [hfloor]
    cases entries with
    | nil => exact absurd he not_mem_nil
    | cons first rest =>
      simp only [expectedFloor]
      rcases mem_cons.mp he with rfl | he
      · omega
      · have := (pairwise_cons.mp hseq).1 e he
        omega

theorem pruneByAgeAndCount_suffix (opts : Options) (now : Time) (entries : List Entry) :
    pruneByAgeAndCount opts now entries <:+ entries := by
  unfold pruneByAgeAndCount
  dsimp only
  split_ifs
  · exact (drop_suffix _ _).trans (dropWhile_suffix _)
  · exact dropWhile_suffix _

variable {opts : Options} {measured : List (Entry × Nat)}

theorem pruneByBytes_trimmed (hsub : (measured.map Prod.fst).Sublist state.entries)
    (h : pruneByBytes opts state measured = .ok state') :
    state.Trimmed state' ∧ state'.entries <:+ measured.map Prod.fst ∧
      (state.Valid → state'.Valid) := by
  induction measured generalizing state with
  | nil =>
    rw [pruneByBytes] at h
    split_ifs at h
    obtain rfl := Except.ok.inj h
    exact ⟨advanceFloor_trimmed hsub, suffix_refl _, fun hvalid => hvalid.advanceFloor hsub⟩
  | cons first rest ih =>
    rw [pruneByBytes] at h
    split_ifs at h
    · obtain rfl := Except.ok.inj h
      exact ⟨advanceFloor_trimmed hsub, suffix_refl _, fun hvalid => hvalid.advanceFloor hsub⟩
    · obtain ⟨ht, hs, hv⟩ := ih (sublist_cons_self _ _) h
      exact ⟨(advanceFloor_trimmed hsub).trans ht, hs.trans (suffix_cons _ _),
        fun hvalid => hv (hvalid.advanceFloor hsub)⟩

theorem pruneByBytes_error {e : QueueError} (h : pruneByBytes opts state measured = .error e) :
    e = .entryExceedsCapacity := by
  induction measured generalizing state with
  | nil =>
    rw [pruneByBytes] at h
    split_ifs at h
    exact (Except.error.inj h).symm
  | cons first rest ih =>
    rw [pruneByBytes] at h
    split_ifs at h
    exact ih h

theorem measured_of_mapM
    (h : (entries.mapM fun entry => entry.toJson?.map fun payload => (entry, payload.size)) =
      some measured) :
    measured.map Prod.fst = entries ∧ ∀ p ∈ measured, p.1.toJson?.map Json.size = some p.2 := by
  induction entries generalizing measured with
  | nil =>
    obtain rfl := some.inj h
    exact ⟨rfl, fun p hp => absurd hp not_mem_nil⟩
  | cons entry rest ih =>
    simp only [mapM_cons, bind_eq_bind, bind_eq_some_iff, Option.pure_def, some.injEq] at h
    obtain ⟨p, hp, measured', hrest, rfl⟩ := h
    obtain ⟨payload, hpayload, rfl⟩ := map_eq_some_iff.mp hp
    obtain ⟨hfst, hsizes⟩ := ih hrest
    exact ⟨by rw [map_cons, hfst], forall_mem_cons.mpr ⟨by simp [hpayload], hsizes⟩⟩

theorem pruneByBytes_entries (opts : Options) (state : Envelope) (entries : List Entry)
    (measured : List (Entry × Nat)) :
    pruneByBytes opts { state with entries } measured = pruneByBytes opts state measured := by
  cases measured <;> rfl

theorem pruneEnvelope_cases (opts : Options) (now : Time) (state : Envelope) :
    pruneEnvelope opts now state = .error .marshal ∨
      ∃ measured : List (Entry × Nat), measured.map Prod.fst <:+ state.entries ∧
        pruneEnvelope opts now state = pruneByBytes opts state measured := by
  unfold pruneEnvelope
  dsimp only
  split
  · exact .inl rfl
  · rename_i measured hmeasured
    refine .inr ⟨measured, ?_, pruneByBytes_entries _ _ _ _⟩
    rw [(measured_of_mapM hmeasured).1]
    exact pruneByAgeAndCount_suffix opts now state.entries

/-! ### Why an entry is pruned -/

variable {now : Time}

theorem pruneEnvelope_trimmed (h : pruneEnvelope opts now state = .ok state') :
    state.Trimmed state' ∧ state'.entries <:+ state.entries := by
  rcases pruneEnvelope_cases opts now state with herror | ⟨measured, hsuffix, heq⟩
  · rw [herror] at h
    cases h
  · obtain ⟨ht, hs, -⟩ := pruneByBytes_trimmed hsuffix.sublist (heq ▸ h)
    exact ⟨ht, hs.trans hsuffix⟩

theorem pruneEnvelope_valid (hvalid : state.Valid) (h : pruneEnvelope opts now state = .ok state') :
    state'.Valid := by
  rcases pruneEnvelope_cases opts now state with herror | ⟨measured, hsuffix, heq⟩
  · rw [herror] at h
    cases h
  · exact (pruneByBytes_trimmed hsuffix.sublist (heq ▸ h)).2.2 hvalid

theorem pruneEnvelope_error {e : QueueError} (h : pruneEnvelope opts now state = .error e) :
    e ≠ .ambiguousDurability := by
  rintro rfl
  rcases pruneEnvelope_cases opts now state with herror | ⟨measured, -, heq⟩
  · rw [herror] at h
    cases h
  · exact absurd (pruneByBytes_error (heq ▸ h)) (by decide)

end Houfeng.SyncQueue
