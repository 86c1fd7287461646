import Houfeng.Center.Database

/-!
# Specifications of the statements on the replay tables

One lemma per statement: what it does on a database that satisfies the replay invariant, described
by what every key finds afterwards.
-/

namespace Houfeng.Center

open AgentApi Tx

structure ReplayState.Valid (row : ReplayState) : Prop where
  retired_nonneg : 0 ≤ row.retiredThrough
  retired_le : row.retiredThrough ≤ row.allocatedThrough
  live_nonneg : 0 ≤ row.liveSequenceHigh

/-- The invariant of the replay tables: every row is valid, and every receipt lies in the replay
window above the retired floor of its session. -/
structure ReplayInvariant (db : Database) : Prop where
  valid : ∀ s row, db.replayStates.lookup s = some row → row.Valid
  window : ∀ s n d, db.receipts.lookup (s, n) = some d →
    ∃ row, db.replayStates.lookup s = some row ∧ row.retiredThrough < n ∧
      n ≤ row.allocatedThrough ∧ n - row.retiredThrough ≤ syncReplayWindow

variable {row : ReplayState}

theorem ReplayState.Valid.checks (h : row.Valid) : replayChecks row = none := by
  have h1 := h.retired_nonneg
  have h2 := h.retired_le
  have h3 := h.live_nonneg
  rw [replayChecks, if_neg (by omega), if_neg (by omega), if_neg (by omega)]

def boundRow (db : Database) (sessionID producerID : String) : ReplayState :=
  (db.replayStates.lookup sessionID).getD ⟨uuidText producerID, 0, 0, 0⟩

variable {db : Database}

theorem boundRow_valid (h : ReplayInvariant db) (sessionID producerID : String) :
    (boundRow db sessionID producerID).Valid := by
  unfold boundRow
  cases hrow : db.replayStates.lookup sessionID with
  | none => exact ⟨le_refl 0, le_refl 0, le_refl 0⟩
  | some row => exact h.valid sessionID row hrow

variable {sessionID : String}

theorem insertReplayState_spec (producerID : String)
    (hsession : (db.assets.sessions.lookup sessionID).isSome) :
    ∃ db', insertReplayState sessionID producerID db = .ok ((), db') ∧
      db'.assets = db.assets ∧ db'.facts = db.facts ∧ db'.receipts = db.receipts ∧
      db'.replayStates.lookup sessionID = some (boundRow db sessionID producerID) ∧
      ∀ s, s ≠ sessionID → db'.replayStates.lookup s = db.replayStates.lookup s := by
  cases hrow : db.replayStates.lookup sessionID with
  | some row =>
    refine ⟨db, ?_, rfl, rfl, rfl, by rw [hrow, boundRow, hrow]; rfl, fun _ _ => rfl⟩
    rw [insertReplayState, bind_of_ok (get_apply db)]
    simp only [hrow, pure_apply]
  | none =>
    have hsome : ¬(db.assets.sessions.lookup sessionID).isNone = true := by
      simp only [Option.isNone_iff_eq_none]
      exact Option.isSome_iff_ne_none.mp hsession
    refine ⟨{ db with replayStates := db.replayStates.insert sessionID ⟨uuidText producerID, 0, 0, 0⟩ },
      ?_, rfl, rfl, rfl, ?_, ?_⟩
    · rw [insertReplayState, bind_of_ok (get_apply db)]
      simp only [hrow, if_neg hsome, modify_apply]
    · rw [boundRow, hrow]
      exact AList.lookup_insert _
    · exact fun s hs => AList.lookup_insert_ne hs

/-- Deleting receipts up to the floor never meets the erasure guard. -/
theorem deleteReceipts_spec (hrow : db.replayStates.lookup sessionID = some row) :
    deleteReceipts sessionID row.retiredThrough db = .ok ((), { db with
      receipts := db.receipts.deleteWhere fun key _ =>
        key.1 = sessionID && key.2 ≤ row.retiredThrough }) := by
  have hguard : ¬(db.receipts.entries.any fun e =>
      (decide (e.1.1 = sessionID) && decide (e.1.2 ≤ row.retiredThrough)) &&
        !receiptErasable db e.1) = true := by
    rw [List.any_eq_true]
    rintro ⟨e, -, he⟩
    simp only [Bool.and_eq_true, decide_eq_true_eq, Bool.not_eq_true'] at he
    obtain ⟨⟨hs, hle⟩, herase⟩ := he
    rw [receiptErasable, hs, hrow] at herase
    simp [hle] at herase
  rw [deleteReceipts, bind_of_ok (get_apply db)]
  simp only [if_neg hguard, modify_apply]

variable {old : ReplayState}

/-- An update of a replay row that keeps it valid and monotone meets no constraint; with a larger
floor it also deletes the receipts the floor has passed. -/
theorem updateReplayState_spec (cond : ReplayState → Bool) (assign : ReplayState → ReplayState)
    (retires : Bool) (hrow : db.replayStates.lookup sessionID = some old) (hcond : cond old = true)
    (hmono : replayMonotonic old (assign old) = true) (hvalid : (assign old).Valid) :
    updateReplayState sessionID cond assign retires db = .ok (true, { db with
      replayStates := db.replayStates.insert sessionID (assign old)
      receipts :=
        if retires = true ∧ (assign old).retiredThrough > old.retiredThrough then
          db.receipts.deleteWhere fun key _ =>
            key.1 = sessionID && key.2 ≤ (assign old).retiredThrough
        else db.receipts }) := by
  have hcond' : ¬cond old = false := by simp [hcond]
  have hmono' : ¬replayMonotonic old (assign old) = false := by simp [hmono]
  rw [updateReplayState, bind_of_ok (get_apply db)]
  simp only [hrow, if_neg hcond', if_neg hmono', hvalid.checks]
  rw [bind_of_ok (modify_apply _ db)]
  split_ifs with h
  · rw [bind_of_ok (deleteReceipts_spec (AList.lookup_insert _))]
    rfl
  · rfl

theorem updateReplayState_of_not {cond : ReplayState → Bool} {assign : ReplayState → ReplayState}
    {retires : Bool} (hrow : db.replayStates.lookup sessionID = some old) (hcond : cond old = false) :
    updateReplayState sessionID cond assign retires db = .ok (false, db) := by
  rw [updateReplayState, bind_of_ok (get_apply db)]
  simp only [hrow, if_pos hcond, pure_apply]

theorem insertReceipt_spec {n : Int} {digest : List UInt8}
    (hrow : db.replayStates.lookup sessionID = some row) (hpos : 0 < n)
    (hfloor : row.retiredThrough < n) (halloc : n ≤ row.allocatedThrough)
    (hwindow : n - row.retiredThrough ≤ syncReplayWindow) (hlen : digest.length = 32)
    (hnew : db.receipts.lookup (sessionID, n) = none) :
    insertReceipt sessionID n digest db =
      .ok ((), { db with receipts := db.receipts.insert (sessionID, n) digest }) := by
  unfold syncReplayWindow at hwindow
  rw [insertReceipt, bind_of_ok (get_apply db)]
  simp only [hrow]
  rw [if_neg (by omega), if_neg (by omega), if_neg (by omega), if_neg (by simp [hnew])]
  rfl

end Houfeng.Center
