import Houfeng.Foundation.Fallible
import Houfeng.AgentApi.Proofs.DuplicateKeysProofs
import Houfeng.SyncQueue.Proofs.EnvelopeProofs
import Houfeng.SyncQueue.Store

/-!
# What a call of the store can do

One lemma for every operation says all the ways it ends: it is refused and changes nothing, or it
writes an envelope computed from the one it has read, and the write is then durable or ambiguous.
-/

namespace Houfeng.SyncQueue

open AgentApi List Except

/-! ## Disk -/

theorem Disk.visible_mem_snapshots (d : Disk) : d.visible ∈ d.snapshots := by
  unfold Disk.visible Disk.snapshots
  cases d.later with
  | nil => exact mem_singleton.mpr rfl
  | cons c rest =>
    rw [getLastD_cons]
    exact mem_cons_of_mem _ getLastD_mem_cons

@[simp] theorem Disk.visible_rename (d : Disk) (c : Content) (synced : Bool) :
    (d.rename c synced).visible = c := by
  cases synced <;> simp [Disk.rename, Disk.visible]

variable {c : Content}

theorem Disk.mem_snapshots_rename {d : Disk} {c' : Content} {synced : Bool}
    (h : c' ∈ (d.rename c synced).snapshots) : c' = c ∨ c' ∈ d.snapshots := by
  cases synced with
  | true => exact .inl (mem_singleton.mp h)
  | false =>
    rcases mem_cons.mp h with rfl | h
    · exact .inr mem_cons_self
    · rcases mem_append.mp h with h | h
      · exact .inr (mem_cons_of_mem _ h)
      · exact .inl (mem_singleton.mp h)

/-! ## Writing -/

inductive Wrote (w : World) (state : Envelope) : Except QueueError Unit → World → Prop
  | refused (e : QueueError) (he : e ≠ .ambiguousDurability) : Wrote w state (.error e) w
  | ambiguous :
    Wrote w state (.error .ambiguousDurability)
      { disk := w.disk.rename (.envelope state) false, store := { w.store with poison := true } }
  | done :
    Wrote w state (.ok ())
      { w with disk := w.disk.rename (.envelope state) (!w.store.opts.skipFsync) }

theorem writeEnvelope_wrote (fault : WriteFault) (state : Envelope) (w : World) :
    Wrote w state (writeEnvelope fault state w).1 (writeEnvelope fault state w).2 := by
  unfold writeEnvelope
  cases state.toJson? with
  | none => exact .refused _ (by decide)
  | some payload =>
    dsimp only
    split_ifs with hsize hfault hskip hsync
    · exact .refused _ (by decide)
    · exact .refused _ (by decide)
    · have hdone : Wrote w state (.ok ()) _ := .done
      rwa [hskip] at hdone
    · exact .ambiguous
    · have hdone : Wrote w state (.ok ()) _ := .done
      rwa [Bool.eq_false_iff.mpr hskip] at hdone

/-! ## Reading -/

variable {env : Env} {w : World}

theorem ready_eq_ok (h : ready env w = .ok ()) :
    w.store.poison = false ∧ ∃ session, w.store.session = some session := by
  unfold ready at h
  split_ifs at h with hpoison hctx hsession
  refine ⟨by simpa using hpoison, ?_⟩
  exact Option.ne_none_iff_exists'.mp (by simpa using hsession)

variable {state : Envelope}

theorem readEnvelope_eq_ok (h : readEnvelope env w = .ok state) :
    w.disk.visible = .envelope state ∧ state.Valid ∧
      ∀ session, w.store.session = some session → state.sessionID = session := by
  unfold readEnvelope at h
  obtain ⟨-, h⟩ := except_guard_eq_ok h
  obtain ⟨state', hdecode, h⟩ := except_bind_eq_ok h
  obtain ⟨hsession, h⟩ := except_guard_eq_ok h
  obtain rfl := ok.inj h
  cases hvisible : w.disk.visible with
  | envelope stored =>
    rw [hvisible] at hdecode
    obtain ⟨rfl, hvalid⟩ := decodeEnvelope_eq_ok.mp hdecode
    refine ⟨rfl, hvalid, fun session hs => ?_⟩
    rw [hs] at hsession
    simpa using Eq.symm (by simpa using hsession)
  | _ => simp [hvisible, decodeContent] at hdecode

theorem readOpen_eq_ok (h : readOpen env w = .ok state) :
    w.store.poison = false ∧ w.disk.visible = .envelope state ∧ state.Valid ∧
      w.store.session = some state.sessionID := by
  unfold readOpen at h
  obtain ⟨_, hready, h⟩ := except_bind_eq_ok h
  obtain ⟨state', hread, h⟩ := except_bind_eq_ok h
  obtain ⟨hpoison, session, hsession⟩ := ready_eq_ok hready
  obtain ⟨hvisible, hvalid, hopen⟩ := readEnvelope_eq_ok hread
  obtain ⟨-, h⟩ := except_guard_eq_ok h
  obtain rfl := ok.inj h
  exact ⟨hpoison, hvisible, hvalid, by rw [hsession, hopen session hsession]⟩

/-! ## Changing -/

/-- How an operation ends that writes an envelope `P`-related to the one it has read. -/
inductive Outcome {α : Type} (w : World) (P : α → Envelope → Envelope → Prop) :
    Except QueueError α → World → Prop
  | refused (e : QueueError) (he : e = .ambiguousDurability → w.store.poison = true) :
    Outcome w P (.error e) w
  | wrote {a : α} {state state' : Envelope} {r : Except QueueError Unit} {w' : World}
    (hpoison : w.store.poison = false) (hsession : w.store.session = some state.sessionID)
    (hvisible : w.disk.visible = .envelope state) (hvalid : state.Valid) (hP : P a state state')
    (hwrote : Wrote w state' r w') : Outcome w P (r.map fun _ => a) w'

variable {α : Type}

theorem Outcome.imp {w' : World} {P Q : α → Envelope → Envelope → Prop}
    {r : Except QueueError α} (h : Outcome w P r w')
    (hPQ : ∀ a state state', P a state state' → Q a state state') : Outcome w Q r w' := by
  cases h with
  | refused e he => exact .refused e he
  | wrote hpoison hsession hvisible hvalid hP hwrote =>
    exact .wrote hpoison hsession hvisible hvalid (hPQ _ _ _ hP) hwrote

variable {e : QueueError}

theorem ready_error (h : ready env w = .error e) :
    e = .ambiguousDurability → w.store.poison = true := by
  rintro rfl
  unfold ready at h
  by_cases hpoison : w.store.poison = true
  · exact hpoison
  · rw [if_neg hpoison] at h
    split_ifs at h <;> cases h

variable {entries : List Entry}

theorem checkEntries_error {previous : Int} {previousTime : Time}
    (h : checkEntries state previous previousTime entries = .error e) :
    e = .entryBounds ∨ e = .factIdentity := by
  induction entries generalizing previous previousTime with
  | nil => cases h
  | cons entry rest ih =>
    rw [checkEntries] at h
    split_ifs at h
    · exact .inl (Except.error.inj h).symm
    · exact .inr (Except.error.inj h).symm
    · exact ih h

theorem decodeEnvelope_error (h : decodeEnvelope state = .error e) : e ≠ .ambiguousDurability := by
  rintro rfl
  unfold decodeEnvelope at h
  obtain ⟨hkeys, h⟩ := except_guard_eq_error h nofun
  obtain ⟨hbounds, h⟩ := except_guard_eq_error h nofun
  rcases except_bind_eq_error h with hcheck | ⟨_, -, h⟩
  · rcases checkEntries_error hcheck with h | h <;> cases h
  · obtain ⟨-, h⟩ := except_guard_eq_error h nofun
    cases h

theorem readEnvelope_error (h : readEnvelope env w = .error e) : e ≠ .ambiguousDurability := by
  rintro rfl
  unfold readEnvelope at h
  obtain ⟨hfails, h⟩ := except_guard_eq_error h nofun
  rcases except_bind_eq_error h with hdecode | ⟨_, -, h⟩
  · cases hvisible : w.disk.visible with
    | envelope stored =>
      rw [hvisible] at hdecode
      exact decodeEnvelope_error hdecode rfl
    | _ => simp [hvisible, decodeContent] at hdecode
  · obtain ⟨-, h⟩ := except_guard_eq_error h nofun
    cases h

theorem commit_outcome {P : α → Envelope → Envelope → Prop}
    (change : Envelope → Except QueueError (α × Envelope))
    (hok : ∀ state a state', state.Valid → change state = .ok (a, state') → P a state state')
    (herror : ∀ state e, change state = .error e → e ≠ .ambiguousDurability) :
    Outcome w P
      (commit env w (do ready env w; change (← readEnvelope env w))).1
      (commit env w (do ready env w; change (← readEnvelope env w))).2 := by
  cases hready : ready env w with
  | error e => exact .refused e (ready_error hready)
  | ok u =>
    obtain ⟨hpoison, session, hsession⟩ := ready_eq_ok hready
    cases hread : readEnvelope env w with
    | error e => exact .refused e fun he => absurd he (readEnvelope_error hread)
    | ok state =>
      obtain ⟨hvisible, hvalid, hopen⟩ := readEnvelope_eq_ok hread
      cases hchange : change state with
      | error e =>
        simp only [bind, Except.bind, hchange, commit]
        exact .refused e fun he => absurd he (herror state e hchange)
      | ok p =>
        obtain ⟨a, state'⟩ := p
        have hwrote := writeEnvelope_wrote env.write state' w
        have hopen' : w.store.session = some state.sessionID := by
          rw [hsession, hopen session hsession]
        have hout := Outcome.wrote hpoison hopen' hvisible hvalid (hok state a state' hvalid hchange)
          hwrote
        simp only [bind, Except.bind, hchange, commit]
        revert hout
        rcases writeEnvelope env.write state' w with ⟨r, w'⟩
        cases r <;> exact id

/-! ### Reservations -/

structure Reserved (block : Int × Int) (state state' : Envelope) : Prop where
  block : block = (state.liveReservedThrough + 1, state.liveReservedThrough + 1024)
  bound : state.liveReservedThrough + 1024 ≤ maxInt64
  state : state' = { state with liveReservedThrough := state.liveReservedThrough + 1024 }

theorem reserveLiveSequences_outcome (env : Env) (count : Int) (w : World) :
    Outcome w Reserved (reserveLiveSequences env count w).1
      (reserveLiveSequences env count w).2 := by
  unfold reserveLiveSequences
  by_cases hcount : count = liveSequenceReservation
  · subst hcount
    simp only [ne_eq, not_true_eq_false, if_false]
    refine commit_outcome (reserveChange liveSequenceReservation)
      (fun state block state' _ h => ?_) fun state e h => ?_
    · unfold reserveChange liveSequenceReservation at h
      split_ifs at h with hbound
      simp only [ok.injEq, Prod.mk.injEq] at h
      exact ⟨h.1.symm, by omega, h.2.symm⟩
    · unfold reserveChange at h
      split_ifs at h
      obtain rfl := Except.error.inj h
      decide
  · simp only [ne_eq, hcount, not_false_eq_true, if_true]
    cases hready : ready env w with
    | error e => exact .refused e (ready_error hready)
    | ok u => exact .refused _ nofun

/-! ### Enqueueing -/

/-- A request has been appended as a new entry, and the oldest entries may have been pruned. -/
structure Enqueued (opts : Options) (now pruneNow : Time) (request : SyncRequest) (id : String)
    (state state' : Envelope) : Prop where
  request_session : request.sessionID = state.sessionID
  bound : state.lastAllocatedBatchSeq ≠ maxInt64
  id : id = batchIdentity state.producerID (state.lastAllocatedBatchSeq + 1)
  session : state'.sessionID = state.sessionID
  producer : state'.producerID = state.producerID
  allocated : state'.lastAllocatedBatchSeq = state.lastAllocatedBatchSeq + 1
  live : state'.liveReservedThrough = state.liveReservedThrough
  floor : state.retiredBatchFloor ≤ state'.retiredBatchFloor
  entries : ∃ kept, kept <:+ state.entries ∧ state'.entries = kept ++ [newEntry now state request]
  pruned : pruneEnvelope opts pruneNow (appendRequest now state request) = .ok state'

theorem suffix_concat {l l' : List α} {x : α} (h : l' <:+ l ++ [x]) (hne : l' ≠ []) :
    ∃ kept, kept <:+ l ∧ l' = kept ++ [x] := by
  rcases suffix_concat_iff.mp h with h | ⟨kept, rfl, hkept⟩
  · exact absurd h hne
  · exact ⟨kept, hkept, rfl⟩

variable {opts : Options} {request : SyncRequest} {id : String}

theorem enqueueChange_enqueued {state' : Envelope}
    (h : enqueueChange env opts request state = .ok (id, state')) :
    Enqueued opts env.now env.pruneNow request id state state' := by
  unfold enqueueChange at h
  obtain ⟨hsession, h⟩ := except_guard_eq_ok h
  obtain ⟨hbound, h⟩ := except_guard_eq_ok h
  obtain ⟨pruned, hprune, h⟩ := except_bind_eq_ok h
  obtain ⟨hlast, h⟩ := except_guard_eq_ok h
  simp only [ok.injEq, Prod.mk.injEq] at h
  obtain ⟨rfl, rfl⟩ := h
  obtain ⟨ht, hsuffix⟩ := pruneEnvelope_trimmed hprune
  have hne : pruned.entries ≠ [] := by
    intro hnil
    simp [hnil] at hlast
  exact
    { request_session := not_not.mp hsession
      bound := hbound
      id := rfl
      session := ht.session
      producer := ht.producer
      allocated := ht.allocated
      live := ht.live
      floor := ht.floor
      entries := suffix_concat hsuffix hne
      pruned := hprune }

theorem enqueueChange_error (h : enqueueChange env opts request state = .error e) :
    e ≠ .ambiguousDurability := by
  rintro rfl
  unfold enqueueChange at h
  obtain ⟨hsession, h⟩ := except_guard_eq_error h nofun
  obtain ⟨hbound, h⟩ := except_guard_eq_error h nofun
  rcases except_bind_eq_error h with hprune | ⟨_, -, h⟩
  · exact pruneEnvelope_error hprune rfl
  · obtain ⟨-, h⟩ := except_guard_eq_error h nofun
    cases h

theorem enqueue_outcome (env : Env) (request : SyncRequest) (w : World) :
    Outcome w (Enqueued w.store.opts env.now env.pruneNow request) (enqueue env request w).1
      (enqueue env request w).2 :=
  commit_outcome (enqueueChange env w.store.opts request)
    (fun _ _ _ _ h => enqueueChange_enqueued h) fun _ _ h => enqueueChange_error h

/-! ### Mutations -/

theorem mutate_outcome (env : Env) {mutation : Envelope → Except QueueError Envelope}
    (herror : ∀ state e, mutation state = .error e → e ≠ .ambiguousDurability) (w : World) :
    Outcome w (fun _ state state' => mutation state = .ok state') (mutate env mutation w).1
      (mutate env mutation w).2 := by
  refine commit_outcome (fun state => do pure ((), ← mutation state))
    (fun state _ state' _ h => ?_) fun state e h => ?_
  · obtain ⟨s, hm, h⟩ := except_bind_eq_ok h
    cases h
    exact hm
  · rcases except_bind_eq_error h with hm | ⟨_, -, h⟩
    · exact herror state e hm
    · cases h

theorem deleteMany_outcome (env : Env) (ids : List String) (w : World) :
    Outcome w (fun _ state state' => state' = deleteEntries ids state) (deleteMany env ids w).1
      (deleteMany env ids w).2 :=
  (mutate_outcome env (fun _ _ h => by cases h) w).imp fun _ _ _ h => (ok.inj h).symm

theorem countAttempt_spec {entries' : List Entry} (h : countAttempt id entries = .ok entries') :
    entries' = entries ∨ ∃ front e back, entries = front ++ e :: back ∧ e.attempts ≠ maxInt64 ∧
      entries' = front ++ { e with attempts := e.attempts + 1 } :: back := by
  induction entries generalizing entries' with
  | nil => exact .inl (ok.inj h).symm
  | cons e rest ih =>
    rw [countAttempt] at h
    split_ifs at h with hid hmax
    · exact .inr ⟨[], e, rest, rfl, hmax, (ok.inj h).symm⟩
    · obtain ⟨rest', hrest, rfl⟩ := except_map_eq_ok h
      rcases ih hrest with rfl | ⟨front, e', back, rfl, hmax, rfl⟩
      · exact .inl rfl
      · exact .inr ⟨e :: front, e', back, rfl, hmax, rfl⟩

theorem countAttempt_error (h : countAttempt id entries = .error e) : e = .attemptOverflow := by
  induction entries with
  | nil => cases h
  | cons entry rest ih =>
    rw [countAttempt] at h
    split_ifs at h
    · exact (Except.error.inj h).symm
    · exact ih (except_map_eq_error h)

/-- An attempt of one entry has been counted, or nothing has changed. -/
inductive Attempted (state : Envelope) : Envelope → Prop
  | none : Attempted state state
  | one {front back : List Entry} {e : Entry} (hentries : state.entries = front ++ e :: back)
    (hmax : e.attempts ≠ maxInt64) :
    Attempted state
      { state with entries := front ++ { e with attempts := e.attempts + 1 } :: back }

theorem markAttempt_outcome (env : Env) (id : String) (w : World) :
    Outcome w (fun _ => Attempted) (markAttempt env id w).1 (markAttempt env id w).2 := by
  refine (mutate_outcome env (fun state e h => ?_) w).imp fun _ state state' h => ?_
  · rw [countAttempt_error (except_map_eq_error h)]
    decide
  · obtain ⟨entries, hcount, rfl⟩ := except_map_eq_ok h
    rcases countAttempt_spec hcount with rfl | ⟨front, e, back, hentries, hmax, rfl⟩
    · exact .none
    · exact .one hentries hmax

theorem prune_outcome (env : Env) (w : World) :
    Outcome w (fun _ state state' => pruneEnvelope w.store.opts env.pruneNow state = .ok state')
      (prune env w).1 (prune env w).2 :=
  mutate_outcome env (fun _ _ h => pruneEnvelope_error h) w

/-! ### Opening -/

def afterOpen (session : String) (r : Except QueueError Unit) (w : World) : World :=
  match r with
  | .ok () => opened session w
  | .error _ => w

inductive Opened (w : World) (session : String) : Except QueueError Unit → World → Prop
  | refused (e : QueueError) (he : e = .ambiguousDurability → w.store.poison = true) :
    Opened w session (.error e) w
  | current {state : Envelope} (hopen : w.store.session = some session)
    (hvisible : w.disk.visible = .envelope state) (hvalid : state.Valid)
    (hsame : state.sessionID = session) : Opened w session (.ok ()) w
  | resumed {state : Envelope} (hclosed : w.store.session = none)
    (hvisible : w.disk.visible = .envelope state) (hvalid : state.Valid)
    (hsame : state.sessionID = session) : Opened w session (.ok ()) (opened session w)
  | initialized {producer : String} {r : Except QueueError Unit} {w' : World}
    (hclosed : w.store.session = none) (hsession : session ≠ "")
    (hvisible : w.disk.visible = .missing ∨ w.disk.visible = .legacy 0)
    (hproducer : validSyncProducerID producer = true)
    (hwrote : Wrote w (initialEnvelope session producer) r w') :
    Opened w session r (afterOpen session r w')
  | retired {state : Envelope} {e : QueueError} {w' : World} (hclosed : w.store.session = none)
    (hvisible : w.disk.visible = .envelope state) (hvalid : state.Valid)
    (hother : state.sessionID ≠ session) (hwrote : Wrote w (retireAll state) (.error e) w') :
    Opened w session (.error e) w'
  | withoutProducer {state : Envelope} {w' : World} (hclosed : w.store.session = none)
    (hvisible : w.disk.visible = .envelope state) (hvalid : state.Valid)
    (hother : state.sessionID ≠ session) (hwrote : Wrote w (retireAll state) (.ok ()) w') :
    Opened w session (.error .newProducer) w'
  | changed {state : Envelope} {producer : String} {w₁ w' : World} {r : Except QueueError Unit}
    (hclosed : w.store.session = none) (hsession : session ≠ "")
    (hvisible : w.disk.visible = .envelope state) (hvalid : state.Valid)
    (hother : state.sessionID ≠ session) (hproducer : validSyncProducerID producer = true)
    (hretired : Wrote w (retireAll state) (.ok ()) w₁)
    (hwrote : Wrote w₁ (initialEnvelope session producer) r w') :
    Opened w session r (afterOpen session r w')

theorem bootstrap_eq (env : Env) (session : String) (w : World) :
    (env.producer = none ∧ bootstrap env session w = (.error .newProducer, w)) ∨
      ∃ producer r w', validSyncProducerID producer = true ∧
        Wrote w (initialEnvelope session producer) r w' ∧
        bootstrap env session w = (r, afterOpen session r w') := by
  unfold bootstrap
  cases env.producer with
  | none => exact .inl ⟨rfl, rfl⟩
  | some producer =>
    have hwrote := writeEnvelope_wrote env.write (initialEnvelope session producer) w
    refine .inr ⟨producer, _, _, producer.2, hwrote, ?_⟩
    dsimp only
    rcases writeEnvelope env.write (initialEnvelope session producer) w with ⟨r, w'⟩
    cases r <;> rfl

theorem loadContent_eq_ok {o : Option Envelope} (h : loadContent env c = .ok o) :
    (o = none ∧ (c = .missing ∨ c = .legacy 0)) ∨
      ∃ state, o = some state ∧ c = .envelope state ∧ state.Valid := by
  unfold loadContent at h
  split_ifs at h
  cases c with
  | missing => exact .inl ⟨(ok.inj h).symm, .inl rfl⟩
  | legacy n =>
    dsimp only at h
    split_ifs at h with hn
    exact .inl ⟨(ok.inj h).symm, .inr (by rw [hn])⟩
  | brokenLegacy => cases h
  | envelope state =>
    obtain ⟨state', hdecode, rfl⟩ := except_map_eq_ok h
    obtain ⟨rfl, hvalid⟩ := decodeEnvelope_eq_ok.mp hdecode
    exact .inr ⟨_, rfl, rfl, hvalid⟩
  | other => cases h

theorem loadContent_error (h : loadContent env c = .error e) : e ≠ .ambiguousDurability := by
  rintro rfl
  unfold loadContent at h
  obtain ⟨hfails, h⟩ := except_guard_eq_error h nofun
  cases c with
  | missing => cases h
  | legacy n =>
    dsimp only at h
    split_ifs at h
    cases h
  | brokenLegacy => cases h
  | envelope state => exact decodeEnvelope_error (except_map_eq_error h) rfl
  | other => cases h

theorem openSession_opened (env : Env) (session : String) (w : World) :
    Opened w session (openSession env session w).1 (openSession env session w).2 := by
  unfold openSession
  by_cases hpoison : w.store.poison = true
  · rw [if_pos hpoison]
    exact .refused _ fun _ => hpoison
  rw [if_neg hpoison]
  by_cases hctx : env.ctxDone = true
  · rw [if_pos hctx]
    exact .refused _ nofun
  rw [if_neg hctx]
  by_cases hsession : session = ""
  · rw [if_pos hsession]
    exact .refused _ nofun
  rw [if_neg hsession]
  cases hopen : w.store.session with
  | some current =>
    dsimp only
    split_ifs with hsame
    · subst hsame
      cases hread : readEnvelope env w with
      | error e => exact .refused e fun he => absurd he (readEnvelope_error hread)
      | ok state =>
        obtain ⟨hvisible, hvalid, hs⟩ := readEnvelope_eq_ok hread
        exact .current hopen hvisible hvalid (hs session hopen)
    · exact .refused _ nofun
  | none =>
    dsimp only
    split_ifs with hlock
    · exact .refused _ nofun
    cases hload : loadContent env w.disk.visible with
    | error e => exact .refused e fun he => absurd he (loadContent_error hload)
    | ok o =>
      rcases loadContent_eq_ok hload with ⟨rfl, hnone⟩ | ⟨state, rfl, hvisible, hvalid⟩
      · rcases bootstrap_eq env session w with ⟨-, heq⟩ | ⟨producer, r, w', hp, hwrote, heq⟩
        · simp only [heq]
          exact .refused _ nofun
        · simp only [heq]
          exact .initialized hopen hsession hnone hp hwrote
      · dsimp only
        split_ifs with hsame
        · exact .resumed hopen hvisible hvalid hsame
        · have hretired := writeEnvelope_wrote env.retireWrite (retireAll state) w
          revert hretired
          rcases writeEnvelope env.retireWrite (retireAll state) w with ⟨r1, w1⟩
          intro hretired
          cases r1 with
          | error e => exact .retired hopen hvisible hvalid hsame hretired
          | ok u =>
            rcases bootstrap_eq env session w1 with ⟨-, heq⟩ | ⟨producer, r, w', hp, hwrote, heq⟩
            · simp only [heq]
              exact .withoutProducer hopen hvisible hvalid hsame hretired
            · simp only [heq]
              exact .changed hopen hsession hvisible hvalid hsame hp hretired hwrote

end Houfeng.SyncQueue
