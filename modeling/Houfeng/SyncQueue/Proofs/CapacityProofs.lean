import Houfeng.SyncQueue.Proofs.HistoryProofs

/-!
# Room in the queue file

Pruning keeps the longest suffix of the entries that is young enough, short enough and small enough,
and the sizes its loop adds up are those of the encodings. What it leaves may fill the file to the
last byte; a counter that gains a digit then no longer fits.
-/

namespace Houfeng.SyncQueue

open AgentApi List Option Json Envelope

/-! ## Encoded sizes -/

def Envelope.encodedSize (state : Envelope) : Option Nat := state.toJson?.map size

def width (n : Int) : Nat := (toString n).utf8ByteSize

/-- The bytes of an envelope without its entries, its floor and its live watermark. -/
def Envelope.frameSize (state : Envelope) : Nat :=
  ({ state with retiredBatchFloor := 0, liveReservedThrough := 0 }.jsonAround []).size

theorem size_jsonAround (state : Envelope) (items : List Json) :
    (state.jsonAround items).size + 2 = state.frameSize + width state.retiredBatchFloor +
      width state.liveReservedThrough + (sizeItems items).sum +
      ((sizeItems items).length - 1) := by
  have hzero : (toString (0 : Int)).utf8ByteSize = 1 := by decide
  simp only [jsonAround, frameSize, width, ofFields, present, writeInt,
    writeStr, size, sizeFields, sizeItems, listSize, sum_cons,
    sum_nil, length_cons, length_nil, hzero]
  omega

variable {measured : List (Entry × Nat)}

theorem mapM_toJson_of_measured (h : ∀ p ∈ measured, p.1.toJson?.map size = some p.2) :
    ∃ items, (measured.map Prod.fst).mapM Entry.toJson? = some items ∧
      sizeItems items = measured.map Prod.snd := by
  induction measured with
  | nil => exact ⟨[], rfl, rfl⟩
  | cons p rest ih =>
    obtain ⟨items, hitems, hsizes⟩ := ih fun q hq => h q (mem_cons_of_mem _ hq)
    obtain ⟨item, hitem, hsize⟩ := map_eq_some_iff.mp (h p mem_cons_self)
    refine ⟨item :: items, ?_, ?_⟩
    · simp [mapM_cons, hitem, hitems]
    · rw [sizeItems, hsize, hsizes, map_cons]

variable {state : Envelope} {items : List Json}

theorem encodedSize_of_mapM (h : state.entries.mapM Entry.toJson? = some items) :
    state.encodedSize = some (state.jsonAround items).size := by
  rw [encodedSize, toJson?, h]
  rfl

theorem length_sizeItems (items : List Json) : (sizeItems items).length = items.length := by
  induction items with
  | nil => rfl
  | cons item rest ih => rw [sizeItems, length_cons, ih, length_cons]

theorem encodedSize_eq_measuredSize (hentries : state.entries = measured.map Prod.fst)
    (h : ∀ p ∈ measured, p.1.toJson?.map size = some p.2) :
    state.encodedSize = some (measuredSize state measured) := by
  obtain ⟨items, hitems, hsizes⟩ := mapM_toJson_of_measured h
  have hempty := size_jsonAround state []
  have hfull := size_jsonAround state items
  rw [hsizes, length_map] at hfull
  rw [sizeItems] at hempty
  rw [encodedSize_of_mapM (hentries ▸ hitems), some.injEq, measuredSize]
  simp only [sum_nil, length_nil] at hempty
  omega

/-! ## The longest suffix -/

/-- The envelope that keeps the entries from the `k`-th on. -/
def Envelope.keepFrom (state : Envelope) (k : Nat) : Envelope :=
  advanceFloor { state with entries := state.entries.drop k }

structure Envelope.Within (opts : Options) (now : Time) (state : Envelope) : Prop where
  young : ∀ e ∈ state.entries, now - opts.maxAge ≤ e.createdAt
  few : (state.entries.length : Int) ≤ opts.maxEntries
  small : ∃ n, state.encodedSize = some n ∧ (n : Int) ≤ opts.maxBytes

variable {α : Type}

theorem dropWhile_eq_drop {f : α → Int} (bound : Int) {l : List α}
    (hsorted : l.Pairwise fun a b => f a < f b) :
    ∃ k, (l.dropWhile fun x => f x < bound) = l.drop k ∧ (∀ x ∈ l.drop k, bound ≤ f x) ∧
      ∀ j < k, ∃ x ∈ l.drop j, f x < bound := by
  induction l with
  | nil => exact ⟨0, rfl, fun x hx => absurd hx not_mem_nil, fun j hj => absurd hj (by omega)⟩
  | cons a rest ih =>
    obtain ⟨hfirst, hrest⟩ := pairwise_cons.mp hsorted
    by_cases ha : f a < bound
    · obtain ⟨k, heq, habove, hbelow⟩ := ih hrest
      refine ⟨k + 1, by rw [dropWhile_cons_of_pos (by simpa using ha), heq]; rfl, habove, ?_⟩
      intro j hj
      cases j with
      | zero => exact ⟨a, mem_cons_self, ha⟩
      | succ j => exact hbelow j (by omega)
    · refine ⟨0, dropWhile_cons_of_neg (by simpa using ha), ?_, fun j hj => by omega⟩
      intro x hx
      rcases mem_cons.mp hx with rfl | hx
      · omega
      · have := hfirst x hx
        omega

variable {opts : Options} {entries : List Entry}

/-- The entries that are left after the first two tests, as the longest suffix that passes them. -/
theorem pruneByAgeAndCount_eq_drop (now : Time) (hlimit : 0 ≤ opts.maxEntries)
    (hsorted : entries.Pairwise fun a b => a.createdAt < b.createdAt) :
    ∃ k, pruneByAgeAndCount opts now entries = entries.drop k ∧
      (∀ e ∈ entries.drop k, now - opts.maxAge ≤ e.createdAt) ∧
      ((entries.drop k).length : Int) ≤ opts.maxEntries ∧
      ∀ j < k, (∃ e ∈ entries.drop j, e.createdAt < now - opts.maxAge) ∨
        opts.maxEntries < (entries.drop j).length := by
  obtain ⟨k, heq, habove, hbelow⟩ := dropWhile_eq_drop (now - opts.maxAge) hsorted
  unfold pruneByAgeAndCount
  dsimp only
  rw [heq]
  by_cases hcount : ((entries.drop k).length : Int) > opts.maxEntries
  · rw [if_pos hcount, drop_drop]
    have hlength : (entries.drop k).length = entries.length - k := length_drop
    refine ⟨_, rfl, fun e he => ?_, ?_, fun j hj => ?_⟩
    · exact habove e ((drop_suffix _ _).subset (by rwa [drop_drop]))
    · rw [length_drop]
      omega
    · by_cases hjk : j < k
      · exact .inl (hbelow j hjk)
      · rw [length_drop]
        exact .inr (by omega)
  · rw [if_neg hcount]
    exact ⟨k, rfl, habove, by omega, fun j hj => .inl (hbelow j hj)⟩

variable {floor : Int}

theorem Envelope.Valid.withMeasured_eq (h : state.Valid)
    (hsub : (measured.map Prod.fst).Sublist state.entries)
    (hfloor : floor ≤ expectedFloor { state with entries := measured.map Prod.fst }) :
    withMeasured { state with retiredBatchFloor := floor } measured =
      SyncQueue.advanceFloor { state with entries := measured.map Prod.fst } := by
  have hstate := h.floor_le_expected hsub
  have hexpected : expectedFloor
      { state with entries := measured.map Prod.fst, retiredBatchFloor := floor } =
      expectedFloor { state with entries := measured.map Prod.fst } := rfl
  simp only [withMeasured, SyncQueue.advanceFloor, hexpected, max_eq_right hfloor,
    max_eq_right hstate]

theorem pruneByBytes_first {state' : Envelope} (hvalid : state.Valid)
    (hsub : (measured.map Prod.fst).Sublist state.entries)
    (hfloor : floor ≤ expectedFloor { state with entries := measured.map Prod.fst })
    (h : pruneByBytes opts { state with retiredBatchFloor := floor } measured = .ok state') :
    ∃ b ≤ measured.length,
      let kept := fun j => advanceFloor { state with entries := (measured.drop j).map Prod.fst }
      state' = kept b ∧ measuredSize (kept b) (measured.drop b) ≤ opts.maxBytes ∧
        ∀ j < b, opts.maxBytes < measuredSize (kept j) (measured.drop j) := by
  induction measured generalizing floor with
  | nil =>
    rw [pruneByBytes, hvalid.withMeasured_eq hsub hfloor] at h
    split_ifs at h with hfits
    exact ⟨0, Nat.le_refl _, (Except.ok.inj h).symm, hfits, fun j hj => by omega⟩
  | cons first rest ih =>
    rw [pruneByBytes, hvalid.withMeasured_eq hsub hfloor] at h
    split_ifs at h with hfits
    · exact ⟨0, Nat.zero_le _, (Except.ok.inj h).symm, hfits, fun j hj => by omega⟩
    -- the entry does not fit: the loop goes on with the floor it has just set
    have hsub' : (rest.map Prod.fst).Sublist state.entries := (sublist_cons_self _ _).trans hsub
    have hseq : ((first :: rest).map Prod.fst).Pairwise
        fun a b => a.request.batchSequence < b.request.batchSequence :=
      hvalid.sequences.sublist hsub
    have hentry := hvalid.entry first.1 (hsub.subset mem_cons_self)
    have hnext : max state.retiredBatchFloor
        (expectedFloor { state with entries := (first :: rest).map Prod.fst }) ≤
          expectedFloor { state with entries := rest.map Prod.fst } := by
      rw [max_eq_right (hvalid.floor_le_expected hsub)]
      cases rest with
      | nil =>
        have := hentry.sequence_le
        simp only [expectedFloor, map_cons, map_nil]
        omega
      | cons second rest =>
        have := (pairwise_cons.mp hseq).1 second.1 mem_cons_self
        simp only [expectedFloor, map_cons]
        omega
    have hloop : pruneByBytes opts
        { state with
          retiredBatchFloor := max state.retiredBatchFloor
            (expectedFloor { state with entries := (first :: rest).map Prod.fst }) } rest =
        .ok state' := by
      rw [← h, advanceFloor]
      exact (pruneByBytes_entries opts _ _ rest).symm
    obtain ⟨b, hb, hstate, hsmall, hlarge⟩ := ih hsub' hnext hloop
    refine ⟨b + 1, Nat.succ_le_succ hb, hstate, hsmall, fun j hj => ?_⟩
    cases j with
    | zero => exact not_le.mp hfits
    | succ j => exact hlarge j (by omega)

/-- Pruning a valid envelope keeps the longest suffix of its entries that is within the limits; the
sizes its loop compares are the lengths of the files; and an entry just enqueued stays. -/
theorem prune_keeps_longest_suffix (options : Options) :
    (∀ (now : Time) (state state' : Envelope), state.Valid →
      pruneEnvelope options.withDefaults now state = .ok state' →
      ∃ k, state' = state.keepFrom k ∧ state'.Within options.withDefaults now ∧
        ∀ j < k, ¬(state.keepFrom j).Within options.withDefaults now) ∧
    (∀ (now : Time) (state : Envelope) (measured : List (Entry × Nat)),
      ((pruneByAgeAndCount options.withDefaults now state.entries).mapM fun entry =>
        entry.toJson?.map fun payload => (entry, payload.size)) = some measured →
      ∀ (step : Envelope) (rest : List (Entry × Nat)), rest <:+ measured →
        (withMeasured step rest).encodedSize = some (measuredSize (withMeasured step rest) rest)) ∧
    ∀ (env : Env) (request : SyncRequest) (w w' : World) (id : String),
      enqueue env request w = (.ok id, w') → ∃ state state', w.disk.visible = .envelope state ∧
        w'.disk.visible = .envelope state' ∧
        state'.entries.getLast? = some (newEntry env.now state request) ∧
        (newEntry env.now state request).id = id := by
  refine ⟨fun now state state' hvalid h => ?_, fun now state measured hmeasured step rest hrest => ?_,
    fun env request w w' id h => ?_⟩
  · have hlimit : 0 ≤ options.withDefaults.maxEntries := by
      simp only [Options.withDefaults]
      split_ifs <;> omega
    obtain ⟨k, hdrop, hyoung, hfew, hover⟩ := pruneByAgeAndCount_eq_drop now hlimit hvalid.times
    unfold pruneEnvelope at h
    dsimp only at h
    split at h
    next => cases h
    next measured hmeasured =>
      have hfst : measured.map Prod.fst = state.entries.drop k := by
        rw [← hdrop]
        exact (measured_of_mapM hmeasured).1
      have hsub : (measured.map Prod.fst).Sublist state.entries := hfst ▸ drop_sublist _ _
      have hsizes := (measured_of_mapM hmeasured).2
      rw [pruneByBytes_entries] at h
      obtain ⟨b, hb, hstate, hsmall, hlarge⟩ :=
        pruneByBytes_first hvalid hsub (hvalid.floor_le_expected hsub) h
      have hkept : ∀ j, (measured.drop j).map Prod.fst = state.entries.drop (k + j) := by
        intro j
        rw [map_drop, hfst, drop_drop]
      have hencoded : ∀ j, (state.keepFrom (k + j)).encodedSize =
          some (measuredSize (state.keepFrom (k + j)) (measured.drop j)) := by
        intro j
        refine encodedSize_eq_measuredSize (hkept j).symm fun p hp => ?_
        exact hsizes p ((drop_suffix _ _).subset hp)
      simp only [hkept] at hstate hsmall hlarge
      refine ⟨k + b, hstate, ?_, fun j hj hwithin => ?_⟩
      · rw [hstate]
        have hsuffix := drop_suffix b (state.entries.drop k)
        rw [drop_drop] at hsuffix
        refine ⟨fun e he => hyoung e (hsuffix.subset he), ?_, _, hencoded b, hsmall⟩
        have := hsuffix.length_le
        simp only [advanceFloor]
        omega
      · by_cases hjk : j < k
        · rcases hover j hjk with ⟨e, he, hold⟩ | hmany
          · exact absurd hold (not_lt.mpr (hwithin.young e he))
          · have := hwithin.few
            simp only [keepFrom, advanceFloor] at this
            omega
        · obtain ⟨i, rfl⟩ := Nat.exists_eq_add_of_le (not_lt.mp hjk)
          obtain ⟨n, hn, hle⟩ := hwithin.small
          rw [hencoded i, some.injEq] at hn
          have := hlarge i (by omega)
          rw [keepFrom] at hn
          omega
  · exact encodedSize_eq_measuredSize rfl fun p hp =>
      (measured_of_mapM hmeasured).2 p (hrest.subset hp)
  · have hout := enqueue_outcome env request w
    rw [h] at hout
    generalize hr : (Except.ok id : Except QueueError String) = r at hout
    cases hout with
    | refused e => cases hr
    | wrote hpoison hsession hvisible hvalid henqueued hwrote =>
      rename_i a state state' result
      cases result with
      | error e => cases hr
      | ok u =>
        obtain rfl := Except.ok.inj hr
        obtain ⟨kept, -, hentries⟩ := henqueued.entries
        refine ⟨state, state', hvisible, ?_, by rw [hentries]; simp, henqueued.id.symm⟩
        rcases hwrote.visible with ⟨-, e, he, -⟩ | ⟨hnew, -⟩
        · cases he
        · exact hnew

def oneEntryLimits : Options := { maxEntries := 1, maxAge := 0, maxBytes := 0, skipFsync := false }

def Content.state? : Content → Option Envelope
  | .envelope state => some state
  | _ => none

def queueTwo : List (Env × Op) := queueOne 1 ++ [(sampleEnv 2, .enqueue heartbeatRequest)]

theorem prune_keeps_longest_suffix_of_two :
    ∃ state state' : Envelope, state.entries.length = 2 ∧
      pruneEnvelope oneEntryLimits.withDefaults 3 state = .ok state' ∧ ∃ k, state' = state.keepFrom k ∧
        ∀ j < k, ¬(state.keepFrom j).Within oneEntryLimits.withDefaults 3 := by
  have hrun : ((afterCalls sampleWorld queueTwo).disk.visible.state?.any fun state =>
      state.entries.length = 2 && (decodeEnvelope state).isOk &&
        (pruneEnvelope oneEntryLimits.withDefaults 3 state).isOk) = true := by
    decide +kernel
  rcases hstate : (afterCalls sampleWorld queueTwo).disk.visible.state? with _ | state <;>
  rw [hstate] at hrun
  · cases hrun
  simp only [any_some, Bool.and_eq_true, decide_eq_true_eq] at hrun
  obtain ⟨⟨hlength, hdecode⟩, hprune⟩ := hrun
  obtain ⟨decoded, hdecoded⟩ := except_isOk hdecode
  obtain ⟨state', hstate'⟩ := except_isOk hprune
  obtain ⟨rfl, hvalid⟩ := decodeEnvelope_eq_ok.mp hdecoded
  obtain ⟨k, hkept, -, hlongest⟩ :=
    (prune_keeps_longest_suffix oneEntryLimits).1 3 decoded state' hvalid hstate'
  exact ⟨decoded, state', hlength, hstate', k, hkept, hlongest⟩

/-! ## Counters that gain a digit -/

theorem size_toJson_attempts {e : Entry} {item : Json} (h : e.toJson? = some item) (n : Int) :
    ∃ item', { e with attempts := n }.toJson? = some item' ∧
      item'.size + width e.attempts = item.size + width n := by
  simp only [Entry.toJson?, bind_eq_bind, bind_eq_some_iff, Option.pure_def, some.injEq] at h ⊢
  obtain ⟨createdAt, htime, rfl⟩ := h
  refine ⟨_, ⟨createdAt, htime, rfl⟩, ?_⟩
  simp only [width, ofFields, present, writeInt, writeStr, size, sizeFields,
    listSize, sum_cons, sum_nil, length_cons, length_nil]
  omega

def attemptGrowth (id : String) (entries : List Entry) : Int :=
  match entries.find? (·.id = id) with
  | none => 0
  | some e => width (e.attempts + 1) - width e.attempts

def reservationGrowth (state : Envelope) : Int :=
  width (state.liveReservedThrough + liveSequenceReservation) - width state.liveReservedThrough

variable {id : String}

theorem countAttempt_size {entries' : List Entry} (h : countAttempt id entries = .ok entries')
    (hitems : entries.mapM Entry.toJson? = some items) :
    ∃ items', entries'.mapM Entry.toJson? = some items' ∧ items'.length = items.length ∧
      ((sizeItems items').sum : Int) = (sizeItems items).sum + attemptGrowth id entries := by
  induction entries generalizing entries' items with
  | nil =>
    cases h
    exact ⟨items, hitems, rfl, by simp [attemptGrowth]⟩
  | cons e rest ih =>
    simp only [mapM_cons, bind_eq_bind, bind_eq_some_iff, Option.pure_def, some.injEq] at hitems
    obtain ⟨item, hitem, restItems, hrest, rfl⟩ := hitems
    rw [countAttempt] at h
    by_cases hid : e.id = id
    · rw [if_pos hid] at h
      split_ifs at h
      obtain rfl := Except.ok.inj h
      obtain ⟨item', hitem', hsize⟩ := size_toJson_attempts hitem (e.attempts + 1)
      refine ⟨item' :: restItems, by simp [mapM_cons, hitem', hrest], rfl, ?_⟩
      simp only [attemptGrowth, find?_cons, hid, decide_true, sizeItems, sum_cons]
      omega
    · rw [if_neg hid] at h
      obtain ⟨rest', hcount, rfl⟩ := except_map_eq_ok h
      obtain ⟨items', hitems', hlength, hsum⟩ := ih hcount hrest
      refine ⟨item :: items', by simp [mapM_cons, hitem, hitems'], by simp [hlength], ?_⟩
      have hgrowth : attemptGrowth id (e :: rest) = attemptGrowth id rest := by
        simp [attemptGrowth, hid]
      rw [hgrowth]
      simp only [sizeItems, sum_cons]
      omega

theorem countAttempt_isOk (h : ∀ e, entries.find? (·.id = id) = some e → e.attempts ≠ maxInt64) :
    ∃ entries', countAttempt id entries = .ok entries' := by
  induction entries with
  | nil => exact ⟨[], rfl⟩
  | cons e rest ih =>
    rw [countAttempt]
    by_cases hid : e.id = id
    · rw [if_pos hid, if_neg (h e (by simp [hid]))]
      exact ⟨_, rfl⟩
    · obtain ⟨rest', hrest⟩ := ih fun e' he' => h e' (by simpa [hid] using he')
      rw [if_neg hid, hrest]
      exact ⟨_, rfl⟩

theorem writeEnvelope_full_iff (fault : WriteFault) (state : Envelope) (w : World) :
    (writeEnvelope fault state w).1 = .error .entryExceedsCapacity ↔
      ∃ n, state.encodedSize = some n ∧ w.store.opts.maxBytes < n := by
  unfold writeEnvelope encodedSize
  cases state.toJson? with
  | none => simp
  | some payload =>
    dsimp only
    split_ifs with hsize <;> simp <;> omega

variable {env : Env} {w : World}

theorem commit_full_iff {a : α} :
    (commit env w (.ok (a, state))).1 = .error .entryExceedsCapacity ↔
      ∃ n, state.encodedSize = some n ∧ w.store.opts.maxBytes < n := by
  rw [← writeEnvelope_full_iff env.write, commit]
  rcases writeEnvelope env.write state w with ⟨r, w'⟩
  cases r <;> simp

def World.Fits (w : World) : Prop :=
  ∀ state, w.disk.visible = .envelope state →
    ∃ n, state.encodedSize = some n ∧ (n : Int) ≤ w.store.opts.maxBytes

variable {w' : World}

theorem writeEnvelope_fits {fault : WriteFault} (h : writeEnvelope fault state w = (.ok (), w')) :
    w'.Fits := by
  have hwrote := writeEnvelope_wrote fault state w
  rw [h] at hwrote
  have hfull := (not_congr (writeEnvelope_full_iff fault state w)).mp (by rw [h]; simp)
  intro written hvisible
  rcases hwrote.visible with ⟨-, e, he, -⟩ | ⟨hnew, -⟩
  · cases he
  · rw [hnew] at hvisible
    cases hvisible
    cases hsize : state.encodedSize with
    | none =>
      rw [encodedSize, map_eq_none_iff] at hsize
      simp [writeEnvelope, hsize] at h
    | some n =>
      refine ⟨n, rfl, ?_⟩
      rw [hwrote.store.2]
      exact not_lt.mp fun hlt => hfull ⟨n, hsize, hlt⟩

theorem commit_fits {a : α} {change : Except QueueError (α × Envelope)}
    (h : commit env w change = (.ok a, w')) :
    w'.Fits := by
  unfold commit at h
  split at h
  · cases h
  · split at h
    · cases h
    · rename_i hwrite
      cases h
      exact writeEnvelope_fits hwrite

variable {session : String}

theorem bootstrap_fits (h : bootstrap env session w = (.ok (), w')) : w'.Fits := by
  unfold bootstrap at h
  split at h
  · cases h
  · split at h
    · cases h
    · rename_i hwrite
      cases h
      have hfits := writeEnvelope_fits hwrite
      exact hfits

theorem openSession_fits (hw : w.Fits) (h : openSession env session w = (.ok (), w')) :
    w'.Fits := by
  unfold openSession at h
  iterate 3 split at h; (· cases h)
  split at h
  · split at h
    · cases (Prod.mk.inj h).2
      exact hw
    · cases h
  · split at h
    · cases h
    split at h
    · cases h
    · exact bootstrap_fits h
    · split at h
      · cases h
        exact hw
      · split at h
        · cases h
        · exact bootstrap_fits h

theorem perform_fits {op : Op} (hw : w.Fits) (hop : ∀ opts, op ≠ .reopen opts)
    (h : perform env op w = (.ok (), w')) : w'.Fits := by
  cases op with
  | openSession session => exact openSession_fits hw h
  | reserveLiveSequences | enqueue =>
    obtain ⟨hr, hw'⟩ := Prod.mk.inj h
    obtain ⟨a, ha, -⟩ := except_map_eq_ok hr
    exact commit_fits (Prod.ext ha hw')
  | deleteMany | markAttempt | prune => exact commit_fits h
  | close =>
    cases (Prod.mk.inj h).2
    exact hw
  | reopen opts => exact absurd rfl (hop opts)

/-- After any successful calls, counting an attempt or reserving live sequences is refused for lack
of space exactly when the counter needs more bytes than are left in the file. -/
theorem bookkeeping_refused_iff_no_room {w₀ w : World} {run : List (RunStep World Call)}
    (hrun : Run queueStep w₀ run w) (hstart : w₀.Fits)
    (hcalls : ∀ e ∈ run, e.label.answer = .ok () ∧ ∀ opts, e.label.op ≠ .reopen opts)
    {env : Env} {state : Envelope} (hready : ready env w = .ok ())
    (hread : readEnvelope env w = .ok state) :
    ∃ n : Nat, state.encodedSize = some n ∧ (n : Int) ≤ w.store.opts.maxBytes ∧
      (∀ id, (∀ e, state.entries.find? (·.id = id) = some e → e.attempts ≠ maxInt64) →
        ((markAttempt env id w).1 = .error .entryExceedsCapacity ↔
          w.store.opts.maxBytes < n + attemptGrowth id state.entries)) ∧
      (state.liveReservedThrough ≤ maxInt64 - liveSequenceReservation →
        ((reserveLiveSequences env liveSequenceReservation w).1 = .error .entryExceedsCapacity ↔
          w.store.opts.maxBytes < n + reservationGrowth state)) := by
  have hfits : w.Fits := by
    refine (hrun.restrict hcalls).inv (fun s call s' hs hstep => ?_) hstart
    obtain ⟨hperform, hanswer, hop⟩ := hstep
    exact perform_fits hs hop (hperform.trans (by rw [hanswer]))
  obtain ⟨n, hn, hle⟩ := hfits state (readEnvelope_eq_ok hread).1
  obtain ⟨payload, hpayload, hsize⟩ := map_eq_some_iff.mp hn
  obtain ⟨items, hitems, hpayload'⟩ := map_eq_some_iff.mp hpayload
  have hstate := size_jsonAround state items
  rw [hpayload', hsize] at hstate
  refine ⟨n, hn, hle, fun id hmax => ?_, fun hbound => ?_⟩
  · obtain ⟨entries, hcount⟩ := countAttempt_isOk hmax
    obtain ⟨items', hitems', hlength, hsum⟩ := countAttempt_size hcount hitems
    have hchange : markAttempt env id w = commit env w (.ok ((), { state with entries })) := by
      simp [markAttempt, mutate, hready, hread, hcount, bind, Except.bind, Except.map, pure,
        Except.pure]
    have hafter := size_jsonAround { state with entries } items'
    have hframe : { state with entries }.frameSize = state.frameSize := rfl
    rw [length_sizeItems, hframe] at hafter
    rw [length_sizeItems] at hstate
    dsimp only at hafter
    rw [hchange, commit_full_iff, encodedSize_of_mapM hitems']
    simp only [some.injEq, exists_eq_left']
    omega
  · have hchange : reserveLiveSequences env liveSequenceReservation w = commit env w
        (.ok ((state.liveReservedThrough + 1, state.liveReservedThrough + liveSequenceReservation),
          { state with
            liveReservedThrough := state.liveReservedThrough + liveSequenceReservation })) := by
      simp [reserveLiveSequences, hready, hread, reserveChange, not_lt.mpr hbound, bind,
        Except.bind]
    have hafter := size_jsonAround
      { state with liveReservedThrough := state.liveReservedThrough + liveSequenceReservation } items
    have hframe : { state with
        liveReservedThrough := state.liveReservedThrough + liveSequenceReservation }.frameSize =
          state.frameSize := rfl
    have hencoded : { state with
        liveReservedThrough := state.liveReservedThrough + liveSequenceReservation }.encodedSize =
          some _ := encodedSize_of_mapM hitems
    rw [hframe] at hafter
    dsimp only at hafter
    rw [hchange, commit_full_iff, hencoded, reservationGrowth]
    simp only [some.injEq, exists_eq_left']
    omega

def tightWorld : World where
  disk := { durable := .missing, later := [] }
  store := newFileStore { maxEntries := 0, maxAge := 0, maxBytes := 665, skipFsync := false }

def nineAttempts : List (Env × Op) :=
  queueOne 1 ++ replicate 9 (sampleEnv 2, .markAttempt sampleID)

theorem tightWorld_calls :
    ((trace tightWorld nineAttempts).all fun e => e.label.answer.isOk) = true ∧
      (ready (sampleEnv 3) (afterCalls tightWorld nineAttempts)).isOk = true ∧
      (readEnvelope (sampleEnv 3) (afterCalls tightWorld nineAttempts)).isOk = true ∧
      (markAttempt (sampleEnv 3) sampleID (afterCalls tightWorld nineAttempts)).1 =
        .error .entryExceedsCapacity ∧
      (reserveLiveSequences (sampleEnv 3) liveSequenceReservation
        (afterCalls tightWorld nineAttempts)).1 = .error .entryExceedsCapacity := by
  decide +kernel

theorem tightWorld_succeeds : ∀ e ∈ trace tightWorld nineAttempts, e.label.answer = .ok () := by
  intro e he
  obtain ⟨u, hu⟩ := except_isOk (List.all_eq_true.mp tightWorld_calls.1 e he)
  exact hu

/-- After ten calls that all succeed the queue refuses both kinds of bookkeeping. -/
theorem full_queue_refuses_bookkeeping :
    ∃ run w, Run queueStep tightWorld run w ∧ tightWorld.disk.visible = .missing ∧
      (∀ e ∈ run, e.label.answer = .ok ()) ∧
      (markAttempt (sampleEnv 3) sampleID w).1 = .error .entryExceedsCapacity ∧
      (reserveLiveSequences (sampleEnv 3) liveSequenceReservation w).1 =
        .error .entryExceedsCapacity :=
  ⟨_, _, run_trace tightWorld nineAttempts, rfl, tightWorld_succeeds, tightWorld_calls.2.2.2⟩

theorem mem_of_mem_trace {calls : List (Env × Op)} {e : RunStep World Call} (h : e ∈ trace w calls) :
    (e.label.env, e.label.op) ∈ calls := by
  induction calls generalizing w with
  | nil => cases h
  | cons call rest ih =>
    rcases mem_cons.mp h with rfl | h
    · exact mem_cons_self
    · exact mem_cons_of_mem _ (ih h)

/-- Neither kind of bookkeeping has room after the ten calls. -/
theorem bookkeeping_refused_iff_no_room_tight :
    ∃ state n, readEnvelope (sampleEnv 3) (afterCalls tightWorld nineAttempts) = .ok state ∧
      state.encodedSize = some n ∧
      (afterCalls tightWorld nineAttempts).store.opts.maxBytes <
        n + attemptGrowth sampleID state.entries ∧
      (afterCalls tightWorld nineAttempts).store.opts.maxBytes < n + reservationGrowth state := by
  obtain ⟨-, hready, hread, hmark, hreserve⟩ := tightWorld_calls
  have hcounters : ((readEnvelope (sampleEnv 3) (afterCalls tightWorld nineAttempts)).toOption.all
      fun state => decide (state.liveReservedThrough ≤ maxInt64 - liveSequenceReservation) &&
        state.entries.all fun e => decide (e.attempts ≠ maxInt64)) = true := by
    decide +kernel
  obtain ⟨u, hu⟩ := except_isOk hready
  obtain ⟨state, hstate⟩ := except_isOk hread
  have hops : ∀ e ∈ trace tightWorld nineAttempts, ∀ opts, e.label.op ≠ .reopen opts := by
    intro e he opts hop
    have hmem := mem_of_mem_trace he
    rw [hop] at hmem
    simp [nineAttempts, queueOne] at hmem
  obtain ⟨n, hn, -, hattempts, hreservations⟩ :=
    bookkeeping_refused_iff_no_room (run_trace tightWorld nineAttempts) nofun
      (fun e he => ⟨tightWorld_succeeds e he, hops e he⟩) hu hstate
  rw [hstate] at hcounters
  obtain ⟨hbound, hmax⟩ := Bool.and_eq_true_iff.mp hcounters
  refine ⟨state, n, hstate, hn, (hattempts sampleID fun e he => ?_).mp hmark,
    (hreservations (of_decide_eq_true hbound)).mp hreserve⟩
  exact of_decide_eq_true (List.all_eq_true.mp hmax e (mem_of_find?_eq_some he))

end Houfeng.SyncQueue
