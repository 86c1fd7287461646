import Houfeng.Activity.Pages
import Houfeng.Foundation.Fallible

/-!
# What publishing keeps

Rows are numbered from 1 without a gap and identified by their events, which is kept row by row; a
transaction only appends rows.
-/

open List

namespace Houfeng.Activity

/-- The rows are numbered from 1 in the order in which they were inserted. -/
def Sequenced (rows : List Row) : Prop :=
  rows.map (·.ingestSequence) = range' 1 rows.length

section

variable {rows : List Row} {r : Row}

theorem Sequenced.bounds (h : Sequenced rows) (hr : r ∈ rows) :
    1 ≤ r.ingestSequence ∧ r.ingestSequence ≤ rows.length := by
  have hmem : r.ingestSequence ∈ range' 1 rows.length := h ▸ mem_map_of_mem hr
  rw [mem_range'_1] at hmem
  omega

theorem Sequenced.snoc (h : Sequenced rows) (hr : r.ingestSequence = rows.length + 1) :
    Sequenced (rows ++ [r]) := by
  rw [Sequenced, map_append, h, length_append, map_singleton, length_singleton,
    range'_concat, hr, Nat.one_mul, Nat.add_comm 1]

end

/-! ## A batch -/

/-- The rows of a projection between the transactions of its publishers. -/
structure WellFormed (db : Projection) : Prop where
  sequenced : Sequenced db.rows
  identified : (db.rows.map (·.activityID)).Nodup

/-- What a transaction does to the tables: it appends rows. -/
structure Extends (db db' : Projection) : Prop where
  generation : db'.generation = db.generation
  rows : db.rows <+: db'.rows

theorem Extends.refl (db : Projection) : Extends db db := ⟨rfl, [], append_nil _⟩

theorem Extends.trans {db db' db'' : Projection} (h : Extends db db') (h' : Extends db' db'') :
    Extends db db'' :=
  ⟨h'.generation.trans h.generation, h.rows.trans h'.rows⟩

section

variable {w : Conditions} {db db' : Projection} {sequence : Nat} {c : CandidateEvent}

theorem insertActivityRow_ok (h : insertActivityRow w db sequence c = .ok db') :
    c.activityID ∉ db.rows.map (·.activityID) ∧
      db' = { db with rows := db.rows ++ [⟨sequence, c⟩] } := by
  unfold insertActivityRow at h
  obtain ⟨-, h⟩ := except_guard_eq_ok h
  obtain ⟨hchecks, h⟩ := except_guard_eq_ok h
  obtain ⟨-, h⟩ := except_guard_eq_ok h
  cases h
  refine ⟨fun hmem => hchecks (.inr (.inr (.inl ?_))), rfl⟩
  rw [map_append]
  exact mem_append_left _ hmem

theorem insertInterval_ok (h : insertInterval db sequence c = .ok db') :
    db' = { db with intervals := db'.intervals } := by
  unfold insertInterval at h
  obtain ⟨-, h⟩ := except_guard_eq_ok h
  cases h
  rfl

variable {opened : Bool}

/-- Opening a revision writes intervals only. -/
theorem openRevisionInterval_ok (h : openRevisionInterval db sequence c = .ok (db', opened)) :
    db' = { db with intervals := db'.intervals } := by
  unfold openRevisionInterval at h
  split at h
  · obtain ⟨db1, hinsert, h⟩ := except_map_eq_ok h
    cases h
    exact insertInterval_ok hinsert
  · obtain ⟨-, h⟩ := except_guard_eq_ok h
    split at h
    · cases h
      rfl
    · obtain ⟨-, h⟩ := except_guard_eq_ok h
      obtain ⟨db1, hinsert, h⟩ := except_map_eq_ok h
      cases h
      rw [insertInterval_ok hinsert]

theorem publishOne_ok (h : publishOne w db sequence c = .ok (db', opened)) (hdb : WellFormed db)
    (hseq : sequence = db.rows.length + 1) :
    WellFormed db' ∧ ∃ intervals, db' = { db with rows := db.rows ++ [⟨sequence, c⟩], intervals } := by
  obtain ⟨db1, hinsert, h⟩ := except_bind_eq_ok h
  obtain ⟨hfresh, rfl⟩ := insertActivityRow_ok hinsert
  have hsequenced : Sequenced (db.rows ++ [⟨sequence, c⟩]) := hdb.sequenced.snoc hseq
  have hidentified : ((db.rows ++ [Row.mk sequence c]).map (·.activityID)).Nodup := by
    rw [map_append, nodup_append]
    refine ⟨hdb.identified, nodup_singleton _, ?_⟩
    rintro id hid _ hc rfl
    rw [map_singleton, mem_singleton] at hc
    obtain rfl : id = c.activityID := hc
    exact hfresh hid
  split at h
  · rw [openRevisionInterval_ok h]
    exact ⟨⟨hsequenced, hidentified⟩, _, rfl⟩
  · cases h
    exact ⟨⟨hsequenced, hidentified⟩, _, rfl⟩

theorem publishMissing_ok {cs : List CandidateEvent} {superseded : Nat}
    (h : publishMissing w db sequence cs = .ok (db', superseded)) (hdb : WellFormed db)
    (hseq : sequence = db.rows.length + 1) :
    WellFormed db' ∧ Extends db db' ∧ db'.rows.length = db.rows.length + cs.length := by
  induction cs generalizing db sequence superseded with
  | nil =>
    cases h
    exact ⟨hdb, .refl _, rfl⟩
  | cons c cs ih =>
    obtain ⟨⟨db1, opened⟩, hone, h⟩ := except_bind_eq_ok h
    obtain ⟨⟨db2, superseded'⟩, hrest, h⟩ := except_bind_eq_ok h
    cases h
    obtain ⟨hwell, intervals, rfl⟩ := publishOne_ok hone hdb hseq
    obtain ⟨hwell', hextends, hlength⟩ := ih hrest hwell (by simp [hseq])
    have hfirst : Extends db { db with rows := db.rows ++ [⟨sequence, c⟩], intervals } :=
      ⟨rfl, [⟨sequence, c⟩], rfl⟩
    refine ⟨hwell', hfirst.trans hextends, ?_⟩
    rw [hlength, length_append, length_singleton, length_cons]
    omega

end

structure Consistent (db : Projection) : Prop extends WellFormed db where
  published : db.published = db.rows.length

/-- A transaction that succeeds keeps the tables consistent and only appends rows. -/
theorem publishActivityBatchInTx_ok {w : Conditions} {db db' : Projection} {generation : Nat}
    {candidates : List CandidateEvent} {result : ActivityPublishResult}
    (h : publishActivityBatchInTx w db generation candidates = .ok (db', result))
    (hdb : Consistent db) : Consistent db' ∧ Extends db db' := by
  obtain ⟨-, h⟩ := except_guard_eq_ok h
  obtain ⟨⟨missing, present⟩, -, h⟩ := except_bind_eq_ok h
  dsimp only at h
  split at h
  · cases h
    exact ⟨hdb, .refl db⟩
  · obtain ⟨⟨after, superseded⟩, hloop, h⟩ := except_bind_eq_ok h
    cases h
    obtain ⟨hwell, hextends, hlength⟩ := publishMissing_ok hloop hdb.toWellFormed
      (by rw [hdb.published])
    refine ⟨⟨⟨hwell.sequenced, hwell.identified⟩, ?_⟩, hextends.generation,
      hextends.rows⟩
    rw [hlength, length_mergeSort, ← hdb.published]

end Houfeng.Activity
