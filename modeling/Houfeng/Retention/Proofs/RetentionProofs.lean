import Houfeng.Retention.Retention
import Mathlib.Algebra.Order.Field.Rat

/-!
# Finalized aggregates are complete

A pass finalizes the aggregate of a day in the transaction that first deletes raw rows of that day.
Completeness is lost only where a day is finalized after a pass for which it had expired: its
aggregate is built again from what is left of the day.
-/

namespace Houfeng.Retention

open List

variable {R K S : Type} [DecidableEq K] {src : Source R K S} {c : Cutoffs}
  {l snapshot : Layer R K S} {k : K} {d : Int} {a : Aggregate R S} {r : R}

/-! ## One pass -/

def Cutoffs.Ordered (c : Cutoffs) : Prop :=
  ∀ d, d * dayLength < c.rawCutoff → (d + 1) * dayLength ≤ c.stableBefore

variable {policy : Policy}

theorem Policy.Valid.ordered (h : policy.Valid) (now : Int) : (policy.cutoffs now).Ordered := by
  intro d hd
  have hraw := h.raw_ge
  simp only [Policy.cutoffs, startOfUTCDay, utcDate, dayLength] at hd ⊢
  omega

theorem mem_bucket {rows : List R} :
    r ∈ src.bucket rows k d ↔ r ∈ rows ∧ src.key r = k ∧ src.bucketDate r = d := by
  simp [Source.bucket]

theorem excluded_eq_some (h : src.excluded c snapshot k d = some a) :
    a.counted = src.bucket (src.upsertInput c snapshot) k d ∧
      a.summary = src.summarize a.counted ∧ (a.finalized = true → d * dayLength < c.rawCutoff) ∧
      snapshot.finalizedBucket k d = false := by
  unfold Source.excluded at h
  cases hrows : src.bucket (src.upsertInput c snapshot) k d with
  | nil => simp [hrows] at h
  | cons r rows =>
    simp only [hrows, Option.some.injEq] at h
    subst h
    obtain ⟨hinput, rfl, rfl⟩ := mem_bucket.mp (hrows ▸ mem_cons_self)
    refine ⟨rfl, rfl, by simp, ?_⟩
    simp only [Source.upsertInput, mem_filter, decide_eq_true_eq] at hinput
    exact hinput.2.2

/-- A day that is finalized is over, so the upsert sees all of its rows. -/
theorem bucket_upsertInput (hordered : c.Ordered) (hraw : d * dayLength < c.rawCutoff)
    (hopen : snapshot.finalizedBucket k d = false) :
    src.bucket (src.upsertInput c snapshot) k d = src.bucket snapshot.raw k d := by
  rw [Source.bucket, Source.upsertInput, filter_filter]
  refine filter_congr fun r _ => ?_
  by_cases hr : src.key r = k ∧ src.bucketDate r = d
  · have hstable : src.observedAt r < c.stableBefore := by
      have hover := hordered d hraw
      have hdate := hr.2
      simp only [Source.bucketDate, utcDate, dayLength] at hdate hover
      omega
    simp [hr.1, hr.2, hopen, hstable]
  · simp [hr]

/-- A row the pass deletes is counted by the aggregate it finalizes, unless the snapshot has a
finalized one. -/
theorem excluded_of_expired (hordered : c.Ordered) (hr : r ∈ snapshot.raw)
    (hraw : src.observedAt r < c.rawCutoff)
    (hopen : snapshot.finalizedBucket (src.key r) (src.bucketDate r) = false) :
    ∃ a, src.excluded c snapshot (src.key r) (src.bucketDate r) = some a ∧ a.finalized = true ∧
      r ∈ a.counted := by
  have hday : src.bucketDate r * dayLength < c.rawCutoff := by
    simp only [Source.bucketDate, utcDate, dayLength]
    omega
  have hmem : r ∈ src.bucket (src.upsertInput c snapshot) (src.key r) (src.bucketDate r) := by
    rw [bucket_upsertInput hordered hday hopen]
    exact mem_bucket.mpr ⟨hr, rfl, rfl⟩
  unfold Source.excluded
  cases hrows : src.bucket (src.upsertInput c snapshot) (src.key r) (src.bucketDate r) with
  | nil => simp [hrows] at hmem
  | cons r' rows => exact ⟨_, rfl, by simpa using hday, hrows ▸ hmem⟩

omit [DecidableEq K] in
theorem finalizedBucket_iff :
    l.finalizedBucket k d = true ↔ ∃ a, l.aggregates k d = some a ∧ a.finalized = true := by
  simp [Layer.finalizedBucket, Option.any_eq_true]

variable [DecidableEq R]

theorem retain_aggregates (h : (src.retain c snapshot l).aggregates k d = some a) :
    l.aggregates k d = some a ∨
      (src.excluded c snapshot k d = some a ∧ utcDate c.aggregateCutoff ≤ d) := by
  simp only [Source.retain] at h
  split_ifs at h with hexpired hfinal
  · exact .inl h
  · cases hexcluded : src.excluded c snapshot k d with
    | none =>
      rw [hexcluded] at h
      exact .inl h
    | some b =>
      rw [hexcluded] at h
      obtain rfl : b = a := by simpa using h
      refine .inr ⟨rfl, ?_⟩
      simpa [hexcluded] using hexpired

theorem retain_finalized (h : l.aggregates k d = some a) (hfinal : a.finalized = true) :
    (src.retain c snapshot l).aggregates k d = some a ∨
      d < utcDate c.aggregateCutoff ∧ (src.retain c snapshot l).aggregates k d = none := by
  have hbucket : l.finalizedBucket k d = true := finalizedBucket_iff.mpr ⟨a, h, hfinal⟩
  simp only [Source.retain]
  split_ifs with hexpired
  · exact .inr ⟨hexpired.2, rfl⟩
  · exact .inl h

theorem retain_excluded (h : src.excluded c snapshot k d = some a) (hfinal : a.finalized = true)
    (hdate : utcDate c.aggregateCutoff ≤ d) :
    (src.retain c snapshot l).finalizedBucket k d = true := by
  rw [finalizedBucket_iff]
  simp only [Source.retain]
  rw [if_neg (by omega)]
  split_ifs with hbucket
  · exact finalizedBucket_iff.mp hbucket
  · exact ⟨a, by rw [h]; rfl, hfinal⟩

/-! ## Histories -/

abbrev History (R K S : Type) := List (RunStep (LayerState R K S) (LayerLabel R K S))

variable {t : History R K S} {e : RunStep (LayerState R K S) (LayerLabel R K S)}

/-- The aggregates of the day had expired for a committed pass. -/
def Expired (t : History R K S) (d : Int) : Prop :=
  ∃ e ∈ t, ∃ i x, e.label = .commit i x ∧ d < utcDate x.cutoffs.aggregateCutoff

omit [DecidableEq K] [DecidableEq R] in
theorem Expired.extend (h : Expired t d) : Expired (t ++ [e]) d := by
  obtain ⟨e', he, h⟩ := h
  exact ⟨e', mem_append_left _ he, h⟩

/-- The tables of an earlier moment: their rows have been committed, and one that is still there
was there. -/
def Earlier (snapshot l : Layer R K S) : Prop :=
  ∀ r ∈ snapshot.committed, r ∈ l.committed ∧ (r ∈ l.raw → r ∈ snapshot.raw)

/-- A committed pass has proposed the aggregate, from all rows its snapshot had of the key and day
and, if the day had not expired before, from all that had ever been committed. -/
def FinalizedBy (src : Source R K S) (t : History R K S) (l : Layer R K S) (k : K) (d : Int)
    (a : Aggregate R S) : Prop :=
  ∃ pre e post, t = pre ++ e :: post ∧ ∃ i x, e.label = .commit i x ∧
    src.excluded x.cutoffs x.snapshot k d = some a ∧
    a.counted = src.bucket x.snapshot.raw k d ∧ Earlier x.snapshot l ∧
    (¬ Expired pre d → a.counted = src.bucket x.snapshot.committed k d)

/-- The invariant of the tables: of all rows committed some are there; finalized aggregates come
from a pass; and a day with a deleted row has one. -/
structure Layer.Sound (src : Source R K S) (t : History R K S) (l : Layer R K S) : Prop where
  raw_eq : l.raw = l.committed.filter (· ∈ l.raw)
  finalized : ∀ k d a, l.aggregates k d = some a → a.finalized = true → FinalizedBy src t l k d a
  deleted : ∀ r ∈ l.committed, r ∉ l.raw → ¬ Expired t (src.bucketDate r) →
    l.finalizedBucket (src.key r) (src.bucketDate r) = true

structure Follows (t : History R K S) (snapshot l : Layer R K S) : Prop where
  earlier : Earlier snapshot l
  finalized : ∀ k d a, snapshot.aggregates k d = some a → a.finalized = true → ¬ Expired t d →
    l.aggregates k d = some a

structure LayerState.Sound (src : Source R K S) (t : History R K S) (s : LayerState R K S) :
    Prop where
  layer : s.layer.Sound src t
  attempts : ∀ x ∈ s.attempts, x.snapshot.Sound src t ∧ Follows t x.snapshot s.layer ∧
    x.cutoffs.Ordered

omit [DecidableEq R] in
theorem FinalizedBy.extend (h : FinalizedBy src t l k d a) {l' : Layer R K S}
    (hearlier : ∀ snapshot, Earlier snapshot l → Earlier snapshot l') :
    FinalizedBy src (t ++ [e]) l' k d a := by
  obtain ⟨pre, e', post, rfl, i, x, hlabel, hexcluded, hcounted, hx, hcomplete⟩ := h
  exact ⟨pre, e', post ++ [e], by simp, i, x, hlabel, hexcluded, hcounted, hearlier _ hx,
    hcomplete⟩

theorem Layer.Sound.extend (h : l.Sound src t) : l.Sound src (t ++ [e]) where
  raw_eq := h.raw_eq
  finalized := fun k d a ha hfinal => (h.finalized k d a ha hfinal).extend fun _ h => h
  deleted := fun r hr hraw hexpired =>
    h.deleted r hr hraw fun hold => hexpired hold.extend

omit [DecidableEq K] [DecidableEq R] in
theorem Follows.extend (h : Follows t snapshot l) : Follows (t ++ [e]) snapshot l where
  earlier := h.earlier
  finalized := fun k d a ha hfinal hexpired =>
    h.finalized k d a ha hfinal fun hold => hexpired hold.extend

omit [DecidableEq K] [DecidableEq R] in
theorem Follows.refl (t : History R K S) (l : Layer R K S) : Follows t l l where
  earlier := fun _ hr => ⟨hr, fun h => h⟩
  finalized := fun _ _ _ ha _ _ => ha

/-! ### Committed rows -/

section Insert

variable {rows : List R}

omit [DecidableEq K] [DecidableEq R] in
theorem Earlier.insert (h : Earlier snapshot l) (hfresh : ∀ r ∈ rows, r ∉ l.committed) :
    Earlier snapshot { l with raw := l.raw ++ rows, committed := l.committed ++ rows } := by
  intro r hr
  obtain ⟨hcommitted, hraw⟩ := h r hr
  refine ⟨mem_append_left _ hcommitted, fun hmem => ?_⟩
  rcases mem_append.mp hmem with hmem | hmem
  · exact hraw hmem
  · exact absurd hcommitted (hfresh r hmem)

theorem Layer.Sound.insert (h : l.Sound src t) (hfresh : ∀ r ∈ rows, r ∉ l.committed) :
    Layer.Sound src (t ++ [e])
      { l with raw := l.raw ++ rows, committed := l.committed ++ rows } where
  raw_eq := by
    have hold : l.committed.filter (· ∈ l.raw ++ rows) = l.raw := by
      conv_rhs => rw [h.raw_eq]
      refine filter_congr fun r hr => ?_
      have hnot : r ∉ rows := fun hmem => hfresh r hmem hr
      simp [hnot]
    have hnew : rows.filter (· ∈ l.raw ++ rows) = rows :=
      filter_eq_self.mpr fun r hr => by simp [hr]
    rw [filter_append, hold, hnew]
  finalized := fun k d a ha hfinal =>
    (h.finalized k d a ha hfinal).extend fun _ hearlier => hearlier.insert hfresh
  deleted := by
    intro r hr hraw hexpired
    rw [mem_append, not_or] at hraw
    rcases mem_append.mp hr with hr | hr
    · exact h.deleted r hr hraw.1 fun hold => hexpired hold.extend
    · exact absurd hr hraw.2

omit [DecidableEq K] [DecidableEq R] in
theorem Follows.insert (h : Follows t snapshot l) (hfresh : ∀ r ∈ rows, r ∉ l.committed) :
    Follows (t ++ [e]) snapshot
      { l with raw := l.raw ++ rows, committed := l.committed ++ rows } where
  earlier := h.earlier.insert hfresh
  finalized := h.extend.finalized

end Insert

/-! ### Committed passes -/

section Commit

variable {i : Nat} {x : Attempt R K S}

theorem mem_retain_raw : r ∈ (src.retain c snapshot l).raw ↔
    r ∈ l.raw ∧ ¬ (r ∈ snapshot.raw ∧ src.observedAt r < c.rawCutoff) := by
  simp only [Source.retain, mem_filter, decide_eq_true_eq]

variable {early : Layer R K S}

theorem Earlier.retain (h : Earlier early l) : Earlier early (src.retain c snapshot l) := by
  intro r hr
  obtain ⟨hcommitted, hraw⟩ := h r hr
  exact ⟨hcommitted, fun hmem => hraw (mem_retain_raw.mp hmem).1⟩

theorem retain_kept (hlabel : e.label = .commit i x) (hexpired : ¬ Expired (t ++ [e]) d)
    (h : l.aggregates k d = some a) (hfinal : a.finalized = true) :
    (src.retain x.cutoffs x.snapshot l).aggregates k d = some a := by
  have hcases : (src.retain x.cutoffs x.snapshot l).aggregates k d = some a ∨
      d < utcDate x.cutoffs.aggregateCutoff ∧
        (src.retain x.cutoffs x.snapshot l).aggregates k d = none := retain_finalized h hfinal
  rcases hcases with hkept | ⟨hlt, -⟩
  · exact hkept
  · exact absurd ⟨e, by simp, i, x, hlabel, hlt⟩ hexpired

theorem Follows.retain (h : Follows t early l) (hlabel : e.label = .commit i x) :
    Follows (t ++ [e]) early (src.retain x.cutoffs x.snapshot l) where
  earlier := h.earlier.retain
  finalized := fun k d a ha hfinal hexpired =>
    retain_kept hlabel hexpired (h.extend.finalized k d a ha hfinal hexpired) hfinal

/-- The snapshot of a pass has all rows ever committed of a day that is open and has not expired. -/
theorem Layer.Sound.bucket_committed (h : snapshot.Sound src t)
    (hexpired : ¬ Expired t d) (hopen : snapshot.finalizedBucket k d = false) :
    src.bucket snapshot.raw k d = src.bucket snapshot.committed k d := by
  rw [h.raw_eq, Source.bucket, Source.bucket, filter_filter]
  refine filter_congr fun r hr => ?_
  by_cases hbucket : src.key r = k ∧ src.bucketDate r = d
  · obtain ⟨rfl, rfl⟩ := hbucket
    have hraw : r ∈ snapshot.raw := by
      by_contra hraw
      simp [h.deleted r hr hraw hexpired] at hopen
    simp [hraw]
  · simp [hbucket]

theorem finalizedBy_excluded (hx : x.snapshot.Sound src t) (hfollows : Follows t x.snapshot l)
    (hordered : x.cutoffs.Ordered) (hlabel : e.label = .commit i x)
    (h : src.excluded x.cutoffs x.snapshot k d = some a) (hfinal : a.finalized = true) :
    FinalizedBy src (t ++ [e]) (src.retain x.cutoffs x.snapshot l) k d a := by
  obtain ⟨hcounted, -, hraw, hopen⟩ := excluded_eq_some h
  rw [bucket_upsertInput hordered (hraw hfinal) hopen] at hcounted
  refine ⟨t, e, [], rfl, i, x, hlabel, h, hcounted, hfollows.earlier.retain, fun hexpired => ?_⟩
  rw [hcounted]
  exact hx.bucket_committed hexpired hopen

theorem Layer.Sound.retain (h : l.Sound src t) (hx : x.snapshot.Sound src t)
    (hfollows : Follows t x.snapshot l) (hordered : x.cutoffs.Ordered)
    (hlabel : e.label = .commit i x) :
    (src.retain x.cutoffs x.snapshot l).Sound src (t ++ [e]) where
  raw_eq := by
    conv_lhs => rw [Source.retain, h.raw_eq, filter_filter]
    refine filter_congr fun r _ => ?_
    simp [mem_retain_raw, Bool.and_comm]
  finalized := by
    intro k d a ha hfinal
    rcases retain_aggregates ha with hold | ⟨hexcluded, -⟩
    · exact (h.finalized k d a hold hfinal).extend fun _ hearlier => hearlier.retain
    · exact finalizedBy_excluded hx hfollows hordered hlabel hexcluded hfinal
  deleted := by
    intro r hr hraw hexpired
    have hdate : utcDate x.cutoffs.aggregateCutoff ≤ src.bucketDate r := by
      by_contra hlt
      exact hexpired ⟨e, by simp, i, x, hlabel, Int.not_le.mp hlt⟩
    have hold : ¬ Expired t (src.bucketDate r) := fun hold => hexpired hold.extend
    -- A finalized aggregate before the pass is there after it.
    have hkept : l.finalizedBucket (src.key r) (src.bucketDate r) = true →
        (src.retain x.cutoffs x.snapshot l).finalizedBucket (src.key r) (src.bucketDate r) =
          true := by
      intro hbucket
      obtain ⟨a, ha, hfinal⟩ := finalizedBucket_iff.mp hbucket
      exact finalizedBucket_iff.mpr ⟨a, retain_kept hlabel hexpired ha hfinal, hfinal⟩
    by_cases hmem : r ∈ l.raw
    · rw [mem_retain_raw, not_and, not_not] at hraw
      obtain ⟨hsnapshot, hcutoff⟩ := hraw hmem
      cases hopen : x.snapshot.finalizedBucket (src.key r) (src.bucketDate r) with
      | false =>
        obtain ⟨a, ha, hfinal, -⟩ := excluded_of_expired hordered hsnapshot hcutoff hopen
        exact retain_excluded ha hfinal hdate
      | true =>
        obtain ⟨a, ha, hfinal⟩ := finalizedBucket_iff.mp hopen
        exact hkept (finalizedBucket_iff.mpr ⟨a, hfollows.finalized _ _ a ha hfinal hold, hfinal⟩)
    · exact hkept (h.deleted r hr hmem hold)

end Commit

/-! ### Runs -/

variable {s' : LayerState R K S} {label : LayerLabel R K S}

theorem LayerState.Sound.step {s : LayerState R K S} (h : s.Sound src t)
    (hstep : LayerStep src s label s') :
    s'.Sound src (t ++ [⟨s, label, s'⟩]) := by
  cases hstep with
  | insert rows hfresh =>
    refine ⟨h.layer.insert hfresh, fun x hx => ?_⟩
    obtain ⟨hsnapshot, hfollows, hordered⟩ := h.attempts x hx
    exact ⟨hsnapshot.extend, hfollows.insert hfresh, hordered⟩
  | begin now hvalid =>
    refine ⟨h.layer.extend, fun x hx => ?_⟩
    rcases mem_cons.mp hx with rfl | hx
    · exact ⟨h.layer.extend, .refl _ _, hvalid.ordered now⟩
    · obtain ⟨hsnapshot, hfollows, hordered⟩ := h.attempts x hx
      exact ⟨hsnapshot.extend, hfollows.extend, hordered⟩
  | @commit l before after attempt _ =>
    obtain ⟨hsnapshot, hfollows, hordered⟩ := h.attempts attempt (by simp)
    refine ⟨h.layer.retain hsnapshot hfollows hordered rfl, fun x hx => ?_⟩
    have hmem : x ∈ before ++ attempt :: after := by
      rcases mem_append.mp hx with hx | hx <;> simp [hx]
    obtain ⟨hsnapshot', hfollows', hordered'⟩ := h.attempts x hmem
    exact ⟨hsnapshot'.extend, hfollows'.retain rfl, hordered'⟩
  | @rollback l before after attempt =>
    refine ⟨h.layer.extend, fun x hx => ?_⟩
    have hmem : x ∈ before ++ attempt :: after := by
      rcases mem_append.mp hx with hx | hx <;> simp [hx]
    obtain ⟨hsnapshot, hfollows, hordered⟩ := h.attempts x hmem
    exact ⟨hsnapshot.extend, hfollows.extend, hordered⟩

def LayerState.empty : LayerState R K S := ⟨⟨[], fun _ _ => none, []⟩, []⟩

theorem LayerState.Sound.run {s : LayerState R K S} (h : Run (LayerStep src) .empty t s) :
    s.Sound src t := by
  refine h.history (fun _ _ _ _ h hstep => h.step hstep) ⟨⟨rfl, ?_, ?_⟩, ?_⟩
  · intro k d a ha
    cases ha
  · intro r hr
    cases hr
  · intro x hx
    cases hx

/-! ## What a run of passes keeps -/

structure Retained (src : Source R K S) (t : History R K S) (s : LayerState R K S) : Prop where
  /-- A finalized aggregate was computed by a committed pass from all rows of its key and day in the
  snapshot of that pass; and if the day had not expired before that pass, these are all that were
  committed before the snapshot. -/
  complete : ∀ k d a, s.layer.aggregates k d = some a → a.finalized = true →
    ∃ pre e post, t = pre ++ e :: post ∧ ∃ i x, e.label = .commit i x ∧
      src.excluded x.cutoffs x.snapshot k d = some a ∧
      a.summary = src.summarize (src.bucket x.snapshot.raw k d) ∧
      (¬ Expired pre d → a.summary = src.summarize (src.bucket x.snapshot.committed k d))
  /-- A finalized aggregate does not change until it expires. -/
  stable : ∀ e ∈ t, ∀ k d a, e.before.layer.aggregates k d = some a → a.finalized = true →
    e.after.layer.aggregates k d = some a ∨ ∃ i x, e.label = .commit i x ∧
      d < utcDate x.cutoffs.aggregateCutoff ∧ e.after.layer.aggregates k d = none
  /-- A pass deletes a row only when it finalizes an aggregate that counts it or sees a finalized
  one that counts it or was built by a pass with a snapshot before the row was committed. -/
  deleted : ∀ pre e post, t = pre ++ e :: post → ∀ r ∈ e.before.layer.raw,
    r ∉ e.after.layer.raw → ∃ i x a, e.label = .commit i x ∧ a.finalized = true ∧
      ((src.excluded x.cutoffs x.snapshot (src.key r) (src.bucketDate r) = some a ∧
          r ∈ a.counted) ∨
        (x.snapshot.aggregates (src.key r) (src.bucketDate r) = some a ∧
          (r ∈ a.counted ∨ ∃ e' ∈ pre, ∃ i' x', e'.label = .commit i' x' ∧
            src.excluded x'.cutoffs x'.snapshot (src.key r) (src.bucketDate r) = some a ∧
            r ∉ x'.snapshot.committed)))

variable {s : LayerState R K S}

theorem layerStep_stable (hstep : LayerStep src s label s')
    (ha : s.layer.aggregates k d = some a) (hfinal : a.finalized = true) :
    s'.layer.aggregates k d = some a ∨ ∃ i x, label = .commit i x ∧
      d < utcDate x.cutoffs.aggregateCutoff ∧ s'.layer.aggregates k d = none := by
  cases hstep with
  | commit =>
    rcases retain_finalized ha hfinal with hkept | hexpired
    · exact .inl hkept
    · exact .inr ⟨_, _, rfl, hexpired⟩
  | insert => exact .inl ha
  | begin => exact .inl ha
  | rollback => exact .inl ha

theorem LayerState.Sound.step_deleted (h : s.Sound src t)
    (hstep : LayerStep src s label s') (hr : r ∈ s.layer.raw) (hdeleted : r ∉ s'.layer.raw) :
    ∃ i x a, label = .commit i x ∧ a.finalized = true ∧
      ((src.excluded x.cutoffs x.snapshot (src.key r) (src.bucketDate r) = some a ∧
          r ∈ a.counted) ∨
        (x.snapshot.aggregates (src.key r) (src.bucketDate r) = some a ∧
          (r ∈ a.counted ∨ ∃ e' ∈ t, ∃ i' x', e'.label = .commit i' x' ∧
            src.excluded x'.cutoffs x'.snapshot (src.key r) (src.bucketDate r) = some a ∧
            r ∉ x'.snapshot.committed))) := by
  cases hstep with
  | insert rows => exact absurd (mem_append_left _ hr) hdeleted
  | begin => exact absurd hr hdeleted
  | rollback => exact absurd hr hdeleted
  | @commit l before after x _ =>
    obtain ⟨hsnapshot, -, hordered⟩ := h.attempts x (by simp)
    rw [mem_retain_raw, not_and, not_not] at hdeleted
    obtain ⟨hmem, hcutoff⟩ := hdeleted hr
    cases hopen : x.snapshot.finalizedBucket (src.key r) (src.bucketDate r) with
    | false =>
      obtain ⟨a, ha, hfinal, hcounted⟩ := excluded_of_expired hordered hmem hcutoff hopen
      exact ⟨_, x, a, rfl, hfinal, .inl ⟨ha, hcounted⟩⟩
    | true =>
      obtain ⟨a, ha, hfinal⟩ := finalizedBucket_iff.mp hopen
      refine ⟨_, x, a, rfl, hfinal, .inr ⟨ha, ?_⟩⟩
      obtain ⟨pre, e', post, ht, i', x', hlabel, hexcluded, hcounted, hearlier, -⟩ :=
        hsnapshot.finalized _ _ a ha hfinal
      by_cases hcommitted : r ∈ x'.snapshot.committed
      · left
        rw [hcounted, mem_bucket]
        exact ⟨(hearlier r hcommitted).2 hmem, rfl, rfl⟩
      · exact .inr ⟨e', by simp [ht], i', x', hlabel, hexcluded, hcommitted⟩

theorem retained_of_run (h : Run (LayerStep src) .empty t s) :
    Retained src t s where
  complete := by
    intro k d a ha hfinal
    obtain ⟨pre, e, post, ht, i, x, hlabel, hexcluded, hcounted, -, hcomplete⟩ :=
      (LayerState.Sound.run h).layer.finalized k d a ha hfinal
    have hsummary := (excluded_eq_some hexcluded).2.1
    refine ⟨pre, e, post, ht, i, x, hlabel, hexcluded, hcounted ▸ hsummary, fun hexpired => ?_⟩
    rw [← hcomplete hexpired]
    exact hsummary
  stable := by
    intro e he k d a ha hfinal
    obtain ⟨pre, post, rfl⟩ := append_of_mem he
    exact layerStep_stable h.split.2.1 ha hfinal
  deleted := by
    rintro pre e post rfl r hr hdeleted
    exact (LayerState.Sound.run h.split.1).step_deleted h.split.2.1 hr hdeleted

/-- In every run of retention passes and inserts, what `Retained` says holds of the host samples
and of the probe observations with their daily aggregates. -/
theorem finalized_aggregates_retained {F : Type} [DecidableEq F] {stats : Statistics F}
    {t : List (RunStep (World F) (Label F))} {w : World F}
    (hrun : Run (Step stats) World.initial t w) :
    Retained (hostSource stats) (t.map hostStep) w.host ∧
      Retained (probeSource stats) (t.map probeStep) w.probe :=
  ⟨retained_of_run (hrun.map fun _ _ _ h => h.host),
    retained_of_run (hrun.map fun _ _ _ h => h.probe)⟩

/-! ## Sample runs -/

section Samples

def sampleStatistics : Statistics Rat where
  percentage := fun x => decide (0 ≤ x ∧ x ≤ 100)
  avg := fun xs => if xs = [] then none else some (xs.sum / xs.length)
  max := fun xs => xs.max?
  avgInteger := fun xs => if xs = [] then none else some ((xs.sum : Rat) / xs.length)
  percentileCont95 := fun xs => xs.head?.map fun x => (x : Rat)

def sampleRow (id observedAt : Int) : HostSample Rat :=
  ⟨id, "instance", observedAt, some true, 1, 1, 1, 1, 1, 1, false, false⟩

abbrev SampleStep := RunStep (World Rat) (Label Rat)

def insertStep (w : World Rat) (rows : List (HostSample Rat)) : SampleStep where
  before := w
  label := ⟨.insert rows, .insert []⟩
  after :=
    { host := ⟨{ w.host.layer with
        raw := w.host.layer.raw ++ rows
        committed := w.host.layer.committed ++ rows }, w.host.attempts⟩
      probe := ⟨{ w.probe.layer with
        raw := w.probe.layer.raw ++ []
        committed := w.probe.layer.committed ++ [] }, w.probe.attempts⟩ }

def beginStep (w : World Rat) (policy : Policy) (now : Int) : SampleStep where
  before := w
  label := ⟨.begin policy now, .begin policy now⟩
  after :=
    { host := ⟨w.host.layer, ⟨w.host.layer, policy.cutoffs now⟩ :: w.host.attempts⟩
      probe := ⟨w.probe.layer, ⟨w.probe.layer, policy.cutoffs now⟩ :: w.probe.attempts⟩ }

/-- The step that commits a pass with the snapshot of a world, when no other is running. -/
def commitStep (snapshot w : World Rat) (policy : Policy) (now : Int) : SampleStep where
  before := w
  label := ⟨.commit 0 ⟨snapshot.host.layer, policy.cutoffs now⟩,
    .commit 0 ⟨snapshot.probe.layer, policy.cutoffs now⟩⟩
  after :=
    { host := ⟨(hostSource sampleStatistics).retain (policy.cutoffs now) snapshot.host.layer
        w.host.layer, []⟩
      probe := ⟨(probeSource sampleStatistics).retain (policy.cutoffs now) snapshot.probe.layer
        w.probe.layer, []⟩ }

variable {w : World Rat}

theorem step_insert {rows : List (HostSample Rat)} (hfresh : ∀ r ∈ rows, r ∉ w.host.layer.committed) :
    Step sampleStatistics w (insertStep w rows).label (insertStep w rows).after :=
  ⟨.insert _ _, .insert rows hfresh, .insert [] (by simp)⟩

theorem step_begin {now : Int} (hvalid : policy.Valid) :
    Step sampleStatistics w (beginStep w policy now).label (beginStep w policy now).after :=
  ⟨.begin _ _, .begin now hvalid, .begin now hvalid⟩

/-- A pass during which only rows were committed does not fail. -/
theorem serializable_of_aggregates {R K S : Type} {src : Source R K S} {c : Cutoffs}
    {snapshot l : Layer R K S} (haggregates : l.aggregates = snapshot.aggregates)
    (hraw : ∀ r ∈ snapshot.raw, r ∈ l.raw) : src.Serializable c snapshot l where
  upserted := fun _ _ => by rw [haggregates]
  rows := fun r hr _ => hraw r hr
  aggregates := fun _ _ _ ha _ => by rw [haggregates, ha]

theorem layerStep_commit_only {R K S : Type} [DecidableEq K] [DecidableEq R] {src : Source R K S}
    {s : LayerState R K S} {x : Attempt R K S} (h : s.attempts = [x])
    (hserializable : src.Serializable x.cutoffs x.snapshot s.layer) :
    LayerStep src s (.commit 0 x) ⟨src.retain x.cutoffs x.snapshot s.layer, []⟩ := by
  obtain ⟨l, _⟩ := s
  cases h
  exact @LayerStep.commit R K S _ _ src l [] [] x hserializable

def shortPolicy : Policy := ⟨30, 1⟩
def longPolicy : Policy := ⟨30, 365⟩

theorem shortPolicy_valid : shortPolicy.Valid := ⟨by decide, by decide, by decide⟩
theorem longPolicy_valid : longPolicy.Valid := ⟨by decide, by decide, by decide⟩

def noon : Int := 30 * dayLength + dayLength / 2

def dayRows : List (HostSample Rat) := [sampleRow 1 0, sampleRow 2 (dayLength - 1)]

def filledWorld : World Rat := (insertStep .initial dayRows).after

def passedWorld (w : World Rat) (policy : Policy) (now : Int) : World Rat :=
  (commitStep w (beginStep w policy now).after policy now).after

def passSteps (w : World Rat) (policy : Policy) (now : Int) : List SampleStep :=
  [beginStep w policy now, commitStep w (beginStep w policy now).after policy now]

theorem run_pass (now : Int) (hvalid : policy.Valid) (hhost : w.host.attempts = [])
    (hprobe : w.probe.attempts = []) :
    Run (Step sampleStatistics) w (passSteps w policy now) (passedWorld w policy now) := by
  refine .cons (step_begin hvalid) (.cons ⟨.commit _ _ _, ?_, ?_⟩ (.nil _))
  · refine layerStep_commit_only ?_ (serializable_of_aggregates rfl fun _ h => h)
    simp [hhost]
  · refine layerStep_commit_only ?_ (serializable_of_aggregates rfl fun _ h => h)
    simp [hprobe]

theorem run_filled : Run (Step sampleStatistics) .initial [insertStep .initial dayRows]
    filledWorld :=
  .cons (step_insert (by simp [World.initial])) (.nil _)

def twoPasses : List SampleStep :=
  [insertStep .initial dayRows] ++ (passSteps filledWorld ⟨30, 60⟩ noon ++
    passSteps (passedWorld filledWorld ⟨30, 60⟩ noon) longPolicy (noon + 3600000000))

/-- Day 0 is finalized by a pass that deletes one of its rows, and keeps its aggregate in the next
pass, whose aggregate cutoff is earlier. -/
theorem finalized_aggregates_retained_sample :
    let last := passedWorld (passedWorld filledWorld ⟨30, 60⟩ noon) longPolicy (noon + 3600000000)
    ∃ a, last.host.layer.aggregates "instance" 0 = some a ∧ a.finalized = true ∧
      a.summary.sampleCount = 2 ∧ last.host.layer.raw = [sampleRow 2 (dayLength - 1)] ∧
      ∃ e ∈ twoPasses, ∃ i x, e.label.host = .commit i x ∧
        a.summary = (hostSource sampleStatistics).summarize
          ((hostSource sampleStatistics).bucket x.snapshot.committed "instance" 0) := by
  have hrun := run_filled.append ((run_pass noon ⟨by decide, by decide, by decide⟩ rfl rfl).append
    (run_pass (w := passedWorld filledWorld ⟨30, 60⟩ noon) (noon + 3600000000) longPolicy_valid
      rfl rfl))
  have hopen : ∀ e ∈ twoPasses.map hostStep, ∀ i x, e.label = .commit i x →
      utcDate x.cutoffs.aggregateCutoff ≤ 0 := by
    simp only [twoPasses, passSteps, insertStep, beginStep, commitStep, hostStep, cons_append,
      nil_append, map_cons, map_nil, forall_mem_cons, LayerLabel.commit.injEq, reduceCtorEq,
      and_imp, false_implies, implies_true, not_mem_nil, and_true, true_and]
    constructor <;> rintro _ _ - rfl <;> decide
  refine ⟨_, rfl, by decide, by decide, by decide, ?_⟩
  obtain ⟨pre, e, post, ht, i, x, hlabel, -, -, hsummary⟩ :=
    (finalized_aggregates_retained hrun).1.complete "instance" 0 _ rfl (by decide)
  have hmem : e ∈ twoPasses.map hostStep := by
    rw [twoPasses, ht]
    simp
  obtain ⟨e', he', rfl⟩ := mem_map.mp hmem
  refine ⟨e', he', i, x, hlabel, hsummary ?_⟩
  rintro ⟨e'', he'', i'', x'', hlabel'', hexpired⟩
  refine absurd hexpired (Int.not_lt.mpr (hopen e'' ?_ i'' x'' hlabel''))
  rw [twoPasses, ht]
  exact mem_append_left _ he''

/-- Where the aggregate layer is lengthened, a day whose aggregate has expired is finalized again
from the row that is left of its two; and a row committed while a pass finalizes its day is deleted
by the next pass although no aggregate counts it and its day was open when it was committed. -/
theorem reopened_and_raced_days_are_incomplete :
    (let expired := passedWorld filledWorld shortPolicy noon
      let reopened := passedWorld expired longPolicy (noon + 3600000000)
      Run (Step sampleStatistics) .initial ([insertStep .initial dayRows] ++
          (passSteps filledWorld shortPolicy noon ++
            passSteps expired longPolicy (noon + 3600000000))) reopened ∧
        ((hostSource sampleStatistics).bucket expired.host.layer.committed "instance" 0).length =
          2 ∧
        ∃ a, reopened.host.layer.aggregates "instance" 0 = some a ∧ a.finalized = true ∧
          a.summary.sampleCount = 1) ∧
    (let first := insertStep .initial [sampleRow 1 0]
      let begun := beginStep first.after longPolicy noon
      let raced := insertStep begun.after [sampleRow 2 1]
      let done := commitStep first.after raced.after longPolicy noon
      let last := passedWorld done.after longPolicy noon
      Run (Step sampleStatistics) .initial
          ([first, begun, raced, done] ++ passSteps done.after longPolicy noon) last ∧
        raced.after.host.layer.finalizedBucket "instance" 0 = false ∧
        sampleRow 2 1 ∈ done.after.host.layer.raw ∧ sampleRow 2 1 ∉ last.host.layer.raw ∧
        ∃ a, done.after.host.layer.aggregates "instance" 0 = some a ∧
          last.host.layer.aggregates "instance" 0 = some a ∧ a.counted = [sampleRow 1 0]) := by
  refine ⟨⟨?_, by decide, _, rfl, by decide, by decide⟩,
    ⟨?_, by decide, by decide, by decide, _, rfl, ?_, by decide⟩⟩
  · exact run_filled.append ((run_pass noon shortPolicy_valid rfl rfl).append
      (run_pass _ longPolicy_valid rfl rfl))
  · refine Run.append (.cons (step_insert (by simp [World.initial])) (.cons
      (step_begin longPolicy_valid) (.cons (step_insert (by decide))
        (.cons ⟨.commit _ _ _, ?_, ?_⟩ (.nil _))))) (run_pass noon longPolicy_valid rfl rfl)
    · exact layerStep_commit_only rfl (serializable_of_aggregates rfl fun _ h =>
        mem_append_left _ h)
    · exact layerStep_commit_only rfl (serializable_of_aggregates rfl fun _ h =>
        mem_append_left _ h)
  · rfl

end Samples

end Houfeng.Retention
