import Houfeng.SyncQueue.Proofs.QueueProofs
import Mathlib.Data.List.Nodup

/-!
# What an envelope keeps of an earlier one

Between two openings every envelope on the disk follows the one before it: the authority is the
same, no watermark decreases, and an entry is an old one or has a sequence that was not allocated.
-/

namespace Houfeng.SyncQueue

open AgentApi

/-- Every entry of `state'` is one of `state`, up to its attempts. -/
def Envelope.EntriesFrom (state state' : Envelope) : Prop :=
  ∀ e' ∈ state'.entries, ∃ e ∈ state.entries, e.id = e'.id ∧ e.request = e'.request

/-- The envelope may have lost entries; its watermarks have not decreased and nothing else has
changed. -/
structure Envelope.Shrinks (state state' : Envelope) : Prop where
  session : state'.sessionID = state.sessionID
  producer : state'.producerID = state.producerID
  allocated : state'.lastAllocatedBatchSeq = state.lastAllocatedBatchSeq
  advances : state.Advances state'
  entries : state.EntriesFrom state'

structure Envelope.Follows (state state' : Envelope) : Prop where
  session : state'.sessionID = state.sessionID
  producer : state'.producerID = state.producerID
  advances : state.Advances state'
  entries : ∀ e' ∈ state'.entries,
    (∃ e ∈ state.entries, e.id = e'.id ∧ e.request = e'.request) ∨
      state.lastAllocatedBatchSeq < e'.request.batchSequence

theorem Envelope.Shrinks.refl (state : Envelope) : state.Shrinks state :=
  ⟨rfl, rfl, rfl, .refl state, fun e' he' => ⟨e', he', rfl, rfl⟩⟩

theorem Envelope.Shrinks.trans {s1 s2 s3 : Envelope} (h : s1.Shrinks s2) (h' : s2.Shrinks s3) :
    s1.Shrinks s3 where
  session := h'.session.trans h.session
  producer := h'.producer.trans h.producer
  allocated := h'.allocated.trans h.allocated
  advances := h.advances.trans h'.advances
  entries e3 he3 := by
    obtain ⟨e2, he2, hid2, hrequest2⟩ := h'.entries e3 he3
    obtain ⟨e1, he1, hid1, hrequest1⟩ := h.entries e2 he2
    exact ⟨e1, he1, hid1.trans hid2, hrequest1.trans hrequest2⟩

variable {state state' : Envelope}

theorem Envelope.Shrinks.follows (h : state.Shrinks state') : state.Follows state' :=
  ⟨h.session, h.producer, h.advances, fun e' he' => .inl (h.entries e' he')⟩

/-! ## Entries -/

theorem batchIdentity_injective {producer : String} {m n : Int}
    (h : batchIdentity producer m = batchIdentity producer n) : m = n := by
  have htext : toString m = toString n := by
    apply String.ext
    have := congrArg String.toList h
    simpa [batchIdentity, String.toList_append] using this
  exact Option.some.inj ((parseInt_toString m).symm.trans (htext ▸ parseInt_toString n))

variable {e e' : Entry}

theorem Envelope.Valid.eq_of_sequence_eq (h : state.Valid) (he : e ∈ state.entries)
    (he' : e' ∈ state.entries) (hseq : e.request.batchSequence = e'.request.batchSequence) :
    e = e' := by
  have hnodup : (state.entries.map fun e => e.request.batchSequence).Nodup :=
    List.pairwise_map.mpr (h.sequences.imp fun h => ne_of_lt h)
  exact List.inj_on_of_nodup_map hnodup he he' hseq

theorem Envelope.Valid.eq_of_id_eq (h : state.Valid) (he : e ∈ state.entries)
    (he' : e' ∈ state.entries) (hid : e.id = e'.id) : e = e' := by
  rw [(h.entry e he).identity, (h.entry e' he').identity] at hid
  exact h.eq_of_sequence_eq he he' (batchIdentity_injective hid)

/-! ## The operations -/

theorem Envelope.Trimmed.shrinks (h : state.Trimmed state') : state.Shrinks state' :=
  ⟨h.session, h.producer, h.allocated, h.advances,
    fun e' he' => ⟨e', h.entries.subset he', rfl, rfl⟩⟩

theorem Reserved.shrinks {block : Int × Int} (h : Reserved block state state') :
    state.Shrinks state' := by
  rw [h.state]
  exact ⟨rfl, rfl, rfl, ⟨le_rfl, le_rfl, Int.le_add_of_nonneg_right (by decide)⟩,
    fun e' he' => ⟨e', he', rfl, rfl⟩⟩

theorem Attempted.shrinks (h : Attempted state state') : state.Shrinks state' := by
  have hentries : state.EntriesFrom state' := by
    intro e' he'
    obtain ⟨e, he, rfl | ⟨-, rfl⟩⟩ := h.entry e' he'
    · exact ⟨e', he, rfl, rfl⟩
    · exact ⟨e, he, rfl, rfl⟩
  cases h with
  | none => exact .refl state
  | one => exact ⟨rfl, rfl, rfl, ⟨le_rfl, le_rfl, le_rfl⟩, hentries⟩

theorem Enqueued.follows {opts : Options} {now pruneNow : Time} {request : SyncRequest} {id : String}
    (h : Enqueued opts now pruneNow request id state state') :
    state.Follows state' where
  session := h.session
  producer := h.producer
  advances := ⟨h.allocated ▸ Int.le_add_of_nonneg_right (by decide), h.floor, h.live.ge⟩
  entries e' he' := by
    obtain ⟨kept, hkept, hentries⟩ := h.entries
    rw [hentries] at he'
    rcases List.mem_append.mp he' with he' | he'
    · exact .inl ⟨e', hkept.subset he', rfl, rfl⟩
    · rw [List.mem_singleton.mp he']
      exact .inr (Int.lt_succ _)

/-! ## Snapshots -/

def Lasting (Q : Content → Prop) : Prop :=
  ∀ state state', Envelope.Follows state state' → Q (.envelope state) → Q (.envelope state')

variable {w w' : World} {r : Except QueueError Unit}

theorem Wrote.snapshots (h : Wrote w state r w') {c : Content} (hc : c ∈ w'.disk.snapshots) :
    c = .envelope state ∨ c ∈ w.disk.snapshots := by
  cases h with
  | refused e he => exact .inr hc
  | ambiguous => exact Disk.mem_snapshots_rename hc
  | done => exact Disk.mem_snapshots_rename hc

theorem Wrote.store (h : Wrote w state r w') :
    w'.store.session = w.store.session ∧ w'.store.opts = w.store.opts := by
  cases h <;> exact ⟨rfl, rfl⟩

/-- Nothing unsynced is on the disk unless the store is poisoned. -/
def World.Synced (w : World) : Prop := w.store.poison = true ∨ w.disk.later = []

theorem Wrote.synced (h : Wrote w state r w') (hsync : w.store.opts.skipFsync = false)
    (hw : w.Synced) :
    w'.Synced := by
  cases h with
  | refused e he => exact hw
  | ambiguous => exact .inl rfl
  | done =>
    right
    simp [hsync, Disk.rename]

/-- A successful write is the only snapshot. -/
theorem Wrote.snapshots_of_ok (h : Wrote w state (.ok ()) w')
    (hsync : w.store.opts.skipFsync = false) :
    w'.disk = { durable := .envelope state, later := [] } := by
  cases h with
  | done => simp [hsync, Disk.rename]

/-! ## Opening -/

variable {session : String}

theorem Opened.disk_eq (h : Opened w session r w') (hvisible : w.disk.visible = .envelope state)
    (hsame : state.sessionID = session) : w'.disk = w.disk := by
  cases h with
  | refused | current | resumed => rfl
  | initialized _ _ hv => rcases hv with hv | hv <;> rw [hv] at hvisible <;> cases hvisible
  | retired _ hv _ hother | withoutProducer _ hv _ hother | changed _ _ hv _ hother =>
    rw [hv] at hvisible
    cases hvisible
    exact absurd hsame hother

theorem Opened.store (h : Opened w session r w') :
    w'.store.opts = w.store.opts ∧
      ∀ x, w'.store.session = some x → w.store.session = some x ∨ x = session := by
  have hafter : ∀ (r : Except QueueError Unit) (w1 : World), w1.store.session = w.store.session →
      w1.store.opts = w.store.opts → (afterOpen session r w1).store.opts = w.store.opts ∧
        ∀ x, (afterOpen session r w1).store.session = some x →
          w.store.session = some x ∨ x = session := by
    intro r w1 hs ho
    cases r with
    | error e => exact ⟨ho, fun x hx => .inl (hs ▸ hx)⟩
    | ok u => exact ⟨ho, fun x hx => .inr (Option.some.inj hx).symm⟩
  cases h with
  | refused | current => exact ⟨rfl, fun x hx => .inl hx⟩
  | resumed => exact ⟨rfl, fun x hx => .inr (Option.some.inj hx).symm⟩
  | initialized _ _ _ _ hwrote => exact hafter _ _ hwrote.store.1 hwrote.store.2
  | retired _ _ _ _ hwrote | withoutProducer _ _ _ _ hwrote =>
    exact ⟨hwrote.store.2, fun x hx => .inl (hwrote.store.1 ▸ hx)⟩
  | changed _ _ _ _ _ _ hretired hwrote =>
    exact hafter _ _ (hwrote.store.1.trans hretired.store.1)
      (hwrote.store.2.trans hretired.store.2)

theorem afterOpen_synced (h : w.Synced) : (afterOpen session r w).Synced := by
  cases r <;> exact h

theorem Opened.synced (h : Opened w session r w') (hsync : w.store.opts.skipFsync = false)
    (hw : w.Synced) :
    w'.Synced := by
  cases h with
  | refused | current | resumed => exact hw
  | initialized _ _ _ _ hwrote => exact afterOpen_synced (hwrote.synced hsync hw)
  | retired _ _ _ _ hwrote | withoutProducer _ _ _ _ hwrote => exact hwrote.synced hsync hw
  | changed _ _ _ _ _ _ hretired hwrote =>
    have hsync1 := hretired.store.2 ▸ hsync
    exact afterOpen_synced (hwrote.synced hsync1 (hretired.synced hsync hw))

end Houfeng.SyncQueue
