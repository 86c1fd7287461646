import Houfeng.Evidence.ComparisonAlignment
import Houfeng.Foundation.Fallible
import Mathlib.Algebra.Order.Group.Abs
import Mathlib.Algebra.Order.Ring.Int

/-!
# What the alignment of series promises

The greedy matching is one-to-one and leaves no compatible pair behind. Its pairs are in the order
of the baseline; they are in the order of the item as well when its buckets start more than twice
the tolerance apart.
-/

namespace Houfeng.Evidence

open List

variable {V : Type} {tolerance : Int} {metric : String} {left : MonitoringBucketPoint V}
  {admits : Indexed V → Bool} {best : Option (Indexed V)} {c : Indexed V}
  {candidates lefts : List (Indexed V)} {used : List Nat}

/-! ## The loops -/

theorem bestMatch_eq_some (h : bestMatch left admits best candidates = some c) :
    best = some c ∨ c ∈ candidates ∧ admits c = true := by
  induction candidates generalizing best with
  | nil =>
    cases best <;> exact .inl h
  | cons d rest ih =>
    cases best with
    | none =>
      rw [bestMatch] at h
      rcases ih h with hd | ⟨hc, hadmits⟩
      · split_ifs at hd with hadmits
        obtain rfl := Option.some.inj hd
        exact .inr ⟨mem_cons_self, hadmits⟩
      · exact .inr ⟨mem_cons_of_mem _ hc, hadmits⟩
    | some b =>
      rw [bestMatch] at h
      rcases ih h with hd | ⟨hc, hadmits⟩
      · split_ifs at hd with hbetter
        · obtain rfl := Option.some.inj hd
          exact .inr ⟨mem_cons_self, (Bool.and_eq_true_iff.mp hbetter).1⟩
        · exact .inl hd
      · exact .inr ⟨mem_cons_of_mem _ hc, hadmits⟩

theorem bestMatch_ne_none (b : Indexed V) : bestMatch left admits (some b) candidates ≠ none := by
  induction candidates generalizing b with
  | nil => simp [bestMatch]
  | cons d rest ih =>
    rw [bestMatch]
    split_ifs
    · exact ih d
    · exact ih b

theorem bestMatch_eq_none (h : bestMatch left admits none candidates = none) :
    ∀ c ∈ candidates, admits c = false := by
  induction candidates with
  | nil => exact fun c hc => absurd hc not_mem_nil
  | cons d rest ih =>
    rw [bestMatch] at h
    by_cases hadmits : admits d = true
    · rw [if_pos hadmits] at h
      exact absurd h (bestMatch_ne_none d)
    · rw [if_neg hadmits] at h
      intro c hc
      rcases mem_cons.mp hc with rfl | hc
      · exact Bool.eq_false_iff.mpr hadmits
      · exact ih h c hc

structure Matching (tolerance : Int) (metric : String) (candidates : List (Indexed V))
    (used : List Nat) (ls : List (Indexed V)) (pairs : List (Indexed V × Indexed V)) : Prop where
  lefts : (pairs.map Prod.fst).Sublist ls
  left_metric : ∀ pair ∈ pairs, metric = "" ∨ pair.1.1.metric = metric
  right : ∀ pair ∈ pairs, pair.2 ∈ candidates ∧ pair.2.2 ∉ used
  eligible : ∀ pair ∈ pairs, eligible tolerance metric pair.1.1 pair.2.1 = true
  rights : (pairs.map fun pair => pair.2.2).Nodup
  maximal : ∀ l ∈ ls, l ∉ pairs.map Prod.fst → (metric = "" ∨ l.1.metric = metric) →
    ∀ c ∈ candidates, c.2 ∉ used → (c.2 ∉ pairs.map fun pair => pair.2.2) →
      Evidence.eligible tolerance metric l.1 c.1 = false

theorem matchLoop_matching (used : List Nat) (lefts : List (Indexed V)) :
    Matching tolerance metric candidates used lefts
      (matchLoop tolerance metric candidates used lefts) := by
  induction lefts generalizing used with
  | nil => exact ⟨.slnil, by simp [matchLoop], by simp [matchLoop], by simp [matchLoop], .nil,
      fun l hl => absurd hl not_mem_nil⟩
  | cons l rest ih =>
    rw [matchLoop]
    split_ifs with hmetric
    · have h := ih used
      refine { h with lefts := h.lefts.cons l, maximal := fun l' hl' hfree hm => ?_ }
      rcases mem_cons.mp hl' with rfl | hl'
      · rcases hm with hm | hm
        · exact absurd hm hmetric.1
        · exact absurd hm hmetric.2
      · exact h.maximal l' hl' hfree hm
    · cases hbest : bestMatch l.1
          (fun c => c.2 ∉ used && Evidence.eligible tolerance metric l.1 c.1) none candidates with
      | none =>
        have h := ih used
        refine { h with lefts := h.lefts.cons l, maximal := fun l' hl' hfree hm c hc hused hnew => ?_ }
        rcases mem_cons.mp hl' with rfl | hl'
        · simpa [hused] using bestMatch_eq_none hbest c hc
        · exact h.maximal l' hl' hfree hm c hc hused hnew
      | some c =>
        have h := ih (c.2 :: used)
        obtain ⟨hc, hadmits⟩ := (bestMatch_eq_some hbest).resolve_left (by simp)
        simp only [Bool.and_eq_true, decide_eq_true_eq] at hadmits
        refine ⟨h.lefts.cons_cons l, ?_, ?_, ?_, ?_, fun l' hl' hfree hm d hd hused hnew => ?_⟩
        · refine forall_mem_cons.mpr ⟨?_, h.left_metric⟩
          by_cases hempty : metric = ""
          · exact .inl hempty
          · exact .inr (not_not.mp fun hne => hmetric ⟨hempty, hne⟩)
        · refine forall_mem_cons.mpr ⟨⟨hc, hadmits.1⟩, fun pair hpair => ?_⟩
          obtain ⟨hmem, hunused⟩ := h.right pair hpair
          exact ⟨hmem, fun hu => hunused (mem_cons_of_mem _ hu)⟩
        · exact forall_mem_cons.mpr ⟨hadmits.2, h.eligible⟩
        · refine nodup_cons.mpr ⟨fun hmem => ?_, h.rights⟩
          obtain ⟨pair, hpair, heq⟩ := mem_map.mp hmem
          exact (h.right pair hpair).2 (heq ▸ mem_cons_self)
        · simp only [map_cons, mem_cons, not_or] at hfree hnew
          rcases mem_cons.mp hl' with rfl | hl'
          · exact absurd rfl hfree.1
          · refine h.maximal l' hl' hfree.2 hm d hd ?_ hnew.2
            simp only [mem_cons, not_or]
            exact ⟨hnew.1, hused⟩

/-! ## Durations in range -/

/-- The times of a bucket lie within 2⁶² nanoseconds, some 146 years, after an instant. -/
structure WithinSpan (origin : Int) (p : MonitoringBucketPoint V) : Prop where
  start_ge : origin ≤ p.start
  start_lt : p.start < origin + 4611686018427387904
  stop_ge : origin ≤ p.stop
  stop_lt : p.stop < origin + 4611686018427387904

variable {origin : Int} {p q : MonitoringBucketPoint V}

theorem absDuration_since {t u : Int} (h : |t - u| < 4611686018427387904) :
    absDuration (since t u) = |t - u| := by
  obtain ⟨hlow, hhigh⟩ := abs_lt.mp h
  rw [since_eq (by unfold minDuration; omega) (by unfold maxDuration; omega), absDuration]
  split_ifs with hneg
  · rw [abs_of_neg hneg, wrapDuration_eq (by unfold minDuration; omega)
      (by unfold maxDuration; omega)]
  · exact (abs_of_nonneg (not_lt.mp hneg)).symm

variable (hp : WithinSpan origin p)
include hp

theorem WithinSpan.starts (hq : WithinSpan origin q) :
    |p.start - q.start| < 4611686018427387904 := by
  have := hp.start_ge; have := hp.start_lt; have := hq.start_ge; have := hq.start_lt
  exact abs_lt.mpr ⟨by omega, by omega⟩

theorem WithinSpan.stops (hq : WithinSpan origin q) : |p.stop - q.stop| < 4611686018427387904 := by
  have := hp.stop_ge; have := hp.stop_lt; have := hq.stop_ge; have := hq.stop_lt
  exact abs_lt.mpr ⟨by omega, by omega⟩

theorem WithinSpan.width : since p.stop p.start = p.stop - p.start := by
  have := hp.start_ge; have := hp.start_lt; have := hp.stop_ge; have := hp.stop_lt
  exact since_eq (by unfold minDuration; omega) (by unfold maxDuration; omega)

theorem matchOffset_eq (hq : WithinSpan origin q) :
    matchOffset p q = |p.start - q.start| + |p.stop - q.stop| := by
  have hstart := hp.starts hq
  have hstop := hp.stops hq
  have := abs_nonneg (p.start - q.start)
  have := abs_nonneg (p.stop - q.stop)
  rw [matchOffset, absDuration_since hstart, absDuration_since hstop]
  exact wrapDuration_eq (by unfold minDuration; omega) (by unfold maxDuration; omega)

omit hp

/-- Two buckets that may be paired: of equal width, and no further apart than the tolerance. -/
structure Compatible (tolerance : Int) (metric : String) (left right : MonitoringBucketPoint V) :
    Prop where
  present : right.present = true
  metrics : metric = "" ∨ left.metric = metric ∧ right.metric = metric
  width : left.stop - left.start = right.stop - right.start
  near : |right.start - left.start| ≤ tolerance

theorem compatible_iff (hp : WithinSpan origin p) (hq : WithinSpan origin q) :
    Compatible tolerance metric p q ↔
      (metric = "" ∨ p.metric = metric) ∧ eligible tolerance metric p q = true := by
  have heligible : eligible tolerance metric p q = true ↔ ((q.present = true ∧
      (metric = "" ∨ q.metric = metric)) ∧ p.stop - p.start = q.stop - q.start) ∧
      |q.start - p.start| ≤ tolerance ∧ |q.stop - p.stop| ≤ tolerance := by
    simp only [eligible, hp.width, hq.width, absDuration_since (hq.starts hp),
      absDuration_since (hq.stops hp), Bool.and_eq_true, Bool.or_eq_true, decide_eq_true_eq,
      and_assoc]
  rw [heligible]
  constructor
  · intro h
    have hstop : q.stop - p.stop = q.start - p.start := by have := h.width; omega
    have hmetrics := h.metrics
    exact ⟨by tauto, ⟨⟨h.present, by tauto⟩, h.width⟩, h.near, hstop ▸ h.near⟩
  · rintro ⟨hmetric, ⟨⟨hpresent, hmetric'⟩, hwidth⟩, hnear, -⟩
    exact ⟨hpresent, by tauto, hwidth, hnear⟩

/-! ## A list against itself -/

theorem bestMatch_skip {skipped : List (Indexed V)} (h : ∀ c ∈ skipped, admits c = false) :
    bestMatch left admits none (skipped ++ candidates) = bestMatch left admits none candidates := by
  induction skipped with
  | nil => rfl
  | cons d rest ih =>
    obtain ⟨hd, hrest⟩ := forall_mem_cons.mp h
    rw [cons_append, bestMatch, hd]
    exact ih hrest

theorem bestMatch_keep {b : Indexed V}
    (h : ∀ c ∈ candidates, ¬compareBucketMatch b.1 c.1 (matchOffset c.1 left)
      (matchOffset b.1 left) < 0) : bestMatch left admits (some b) candidates = some b := by
  induction candidates with
  | nil => rfl
  | cons d rest ih =>
    obtain ⟨hd, hrest⟩ := forall_mem_cons.mp h
    rw [bestMatch, if_neg (by simp [hd])]
    exact ih hrest

/-- A later bucket is never nearer to a bucket than the bucket is to itself. -/
theorem compareBucketMatch_self (hp : WithinSpan origin p) (hq : WithinSpan origin q)
    (hordinal : p.ordinal < q.ordinal) :
    ¬compareBucketMatch p q (matchOffset q p) (matchOffset p p) < 0 := by
  have hstart := abs_nonneg (q.start - p.start)
  have hstop := abs_nonneg (q.stop - p.stop)
  rw [matchOffset_eq hq hp, matchOffset_eq hp hp, sub_self, sub_self, abs_zero, add_zero,
    compareBucketMatch]
  by_cases hoffset : |q.start - p.start| + |q.stop - p.stop| = 0
  · have heq : q.start = p.start := by
      have := abs_eq_zero.mp (show |q.start - p.start| = 0 by omega)
      omega
    rw [if_neg (not_not.mpr hoffset), heq, if_neg (lt_irrefl _), if_neg (lt_irrefl _),
      if_pos (by omega), if_neg (by omega)]
    omega
  · rw [if_pos hoffset, if_neg (by omega)]
    omega

structure Prepared (metric : String) (points : List (MonitoringBucketPoint V)) : Prop where
  present : ∀ p ∈ points, p.present = true ∧ (metric = "" ∨ p.metric = metric)
  ordinals : ∀ p ∈ points.zipIdx, p.1.ordinal = p.2

theorem matchLoop_self {points done rest : List (MonitoringBucketPoint V)}
    (hprepared : Prepared metric points) (hspan : ∀ p ∈ points, WithinSpan origin p)
    (htolerance : 0 ≤ tolerance) (hsplit : points = done ++ rest)
    (hused : ∀ i, i ∈ used ↔ i < done.length) :
    matchLoop tolerance metric points.zipIdx used (rest.zipIdx done.length) =
      (rest.zipIdx done.length).map fun p => (p, p) := by
  induction rest generalizing done used with
  | nil => rfl
  | cons l rest ih =>
    have hl : l ∈ points := hsplit ▸ mem_append_right _ mem_cons_self
    have hindexed : points.zipIdx =
        done.zipIdx ++ (l, done.length) :: rest.zipIdx (done.length + 1) := by
      rw [hsplit, zipIdx_append, zipIdx_cons, Nat.zero_add]
    have hordinal : ∀ q ∈ (l, done.length) :: rest.zipIdx (done.length + 1), q.1.ordinal = q.2 :=
      fun q hq => hprepared.ordinals q (hindexed ▸ mem_append_right _ hq)
    obtain ⟨hpresent, hmetric⟩ := hprepared.present l hl
    have hself : Compatible tolerance metric l l :=
      ⟨hpresent, by tauto, rfl, by rwa [sub_self, abs_zero]⟩
    have hbest : bestMatch l (fun c => c.2 ∉ used && eligible tolerance metric l c.1) none
        points.zipIdx = some (l, done.length) := by
      rw [hindexed, bestMatch_skip, bestMatch, if_pos, bestMatch_keep]
      · -- later buckets
        intro q hq
        have hplace := mem_zipIdx hq
        have hmem : q.1 ∈ points := by
          rw [hsplit, hplace.2.2]
          exact mem_append_right _ (mem_cons_of_mem _ (getElem_mem _))
        refine compareBucketMatch_self (hspan l hl) (hspan _ hmem) ?_
        rw [hordinal _ (mem_cons_of_mem _ hq), hordinal (l, done.length) mem_cons_self]
        omega
      · simp [hused, ((compatible_iff (hspan l hl) (hspan l hl)).mp hself).2]
      · -- earlier buckets are used
        intro q hq
        have hplace := mem_zipIdx hq
        simp only [Bool.and_eq_false_iff, decide_eq_false_iff_not, not_not, hused]
        exact .inl (by omega)
    rw [zipIdx_cons, matchLoop, if_neg (by tauto)]
    simp only [hbest, map_cons, cons.injEq, true_and]
    have hnext : matchLoop tolerance metric points.zipIdx (done.length :: used)
        (rest.zipIdx (done ++ [l]).length) = _ :=
      ih (by simp [hsplit]) (by intro i; simp [hused]; omega)
    simpa using hnext

variable {item points : List (MonitoringBucketPoint V)}

theorem prepared_eq_ok (h : prepared metric item = .ok points) :
    Prepared metric points ∧ points.Pairwise (fun p q => p.start ≤ q.start) ∧
      ∀ p ∈ points, ∃ q ∈ item, p = { q with ordinal := p.ordinal } := by
  unfold prepared at h
  dsimp only at h
  split_ifs at h
  obtain rfl := Except.ok.inj h
  have hsource : ∀ p ∈ assignOrdinals (sortMonitoringBuckets (filterMonitoringBuckets item metric)),
      ∃ q ∈ filterMonitoringBuckets item metric, p = { q with ordinal := p.ordinal } := by
    intro p hp
    obtain ⟨i, hi, rfl⟩ := mem_mapIdx.mp hp
    exact ⟨_, Keyset.mem_sorted.mp (getElem_mem hi), rfl⟩
  refine ⟨⟨fun p hp => ?_, fun p hp => ?_⟩, ?_, fun p hp => ?_⟩
  · obtain ⟨q, hq, heq⟩ := hsource p hp
    have := (mem_filter.mp hq).2
    simp only [Bool.and_eq_true, Bool.or_eq_true, decide_eq_true_eq] at this
    rw [heq]
    exact this
  · obtain ⟨hlt, hget⟩ := mem_zipIdx' hp
    simp [assignOrdinals, hget]
  · have hsorted : (sortMonitoringBuckets (filterMonitoringBuckets item metric)).Pairwise
        fun p q => p.start ≤ q.start := by
      refine Keyset.pairwise_sorted.imp fun {p q} h => ?_
      rcases Prod.Lex.le_iff.mp h with hlt | ⟨heq, -⟩
      · exact le_of_lt hlt
      · exact le_of_eq heq
    rw [pairwise_iff_getElem] at hsorted ⊢
    intro i j hi hj hij
    simpa [assignOrdinals] using hsorted i j (by simpa [assignOrdinals] using hi)
      (by simpa [assignOrdinals] using hj) hij
  · obtain ⟨q, hq, heq⟩ := hsource p hp
    exact ⟨q, (mem_filter.mp hq).1, heq⟩

section matching

variable {baseline item : List (MonitoringBucketPoint V)}

theorem matchActualCoverage_matching (baseline item : List (MonitoringBucketPoint V))
    (tolerance : Int) (metric : String) : Matching tolerance metric item.zipIdx [] baseline.zipIdx
      (matchActualCoverage baseline item tolerance metric) := matchLoop_matching _ _

theorem mem_of_mem_zipIdx {points : List (MonitoringBucketPoint V)} (h : c ∈ points.zipIdx) :
    c.1 ∈ points :=
  mem_of_getElem? (mem_zipIdx_iff_getElem?.mp h)

variable {pair : Indexed V × Indexed V}

theorem left_mem_zipIdx
    (h : pair ∈ matchActualCoverage baseline item tolerance metric) : pair.1 ∈ baseline.zipIdx :=
  (matchActualCoverage_matching ..).lefts.subset (mem_map_of_mem h)

theorem pairs_compatible (hspan : ∀ p ∈ baseline ++ item, WithinSpan origin p)
    (h : pair ∈ matchActualCoverage baseline item tolerance metric) :
    Compatible tolerance metric pair.1.1 pair.2.1 := by
  have hmatching := matchActualCoverage_matching baseline item tolerance metric
  refine (compatible_iff (hspan _ ?_) (hspan _ ?_)).mpr
    ⟨hmatching.left_metric pair h, hmatching.eligible pair h⟩
  · exact mem_append_left _ (mem_of_mem_zipIdx (left_mem_zipIdx h))
  · exact mem_append_right _ (mem_of_mem_zipIdx (hmatching.right pair h).1)

theorem alignActualCoverage_pair {diff : Differences V}
    {first second points points' : List (MonitoringBucketPoint V)}
    (hfirst : prepared metric first = .ok points) (hsecond : prepared metric second = .ok points') :
    alignActualCoverage diff [first, second] 0 tolerance metric =
      .ok ([⟨0, metric, splitGapSegments points⟩,
        (alignItem diff points tolerance metric points' 1).1],
        [(alignItem diff points tolerance metric points' 1).2]) := by
  simp [alignActualCoverage, mapM_cons, hfirst, hsecond, bind, Except.bind, pure, Except.pure]

end matching

theorem prepared_of_length (h : (filterMonitoringBuckets item metric).length ≤ 2000) :
    prepared metric item =
      .ok (assignOrdinals (sortMonitoringBuckets (filterMonitoringBuckets item metric))) := by
  have hlength : (sortMonitoringBuckets (filterMonitoringBuckets item metric)).length ≤ 2000 := by
    rwa [sortMonitoringBuckets, Keyset.sorted, length_mergeSort]
  rw [prepared, if_neg (not_lt.mpr hlength)]

/-- The matching is one-to-one between the two lists. Where all times lie within 146 years, its pairs
have equal width and lie within the tolerance, no compatible buckets are left over, and a list that
keeps at most 2000 buckets is reported equal to itself. -/
theorem coverage_matching_maximal :
    (∀ (baseline candidates : List (MonitoringBucketPoint V)) (tolerance : Int) (metric : String),
      let pairs := matchActualCoverage baseline candidates tolerance metric
      (pairs.map fun pair => pair.1.2).Nodup ∧ (pairs.map fun pair => pair.2.2).Nodup ∧
      (∀ pair ∈ pairs, baseline[pair.1.2]? = some pair.1.1 ∧ candidates[pair.2.2]? = some pair.2.1) ∧
      ∀ origin, (∀ p ∈ baseline ++ candidates, WithinSpan origin p) →
        (∀ pair ∈ pairs, Compatible tolerance metric pair.1.1 pair.2.1) ∧
        ∀ l ∈ baseline.zipIdx, ∀ r ∈ candidates.zipIdx, (l.2 ∉ pairs.map fun pair => pair.1.2) →
          (r.2 ∉ pairs.map fun pair => pair.2.2) → ¬Compatible tolerance metric l.1 r.1) ∧
    ∀ (diff : Differences V) (item : List (MonitoringBucketPoint V)) (tolerance : Int)
      (metric : String) (origin : Int), 0 ≤ tolerance → (∀ p ∈ item, WithinSpan origin p) →
      (∀ p ∈ item, diff.isZero (diff.sub p.value p.value) = true) →
      (filterMonitoringBuckets item metric).length ≤ 2000 →
      let points := assignOrdinals (sortMonitoringBuckets (filterMonitoringBuckets item metric))
      matchActualCoverage points points tolerance metric = points.zipIdx.map (fun p => (p, p)) ∧
      ∃ series coverage, alignActualCoverage diff [item, item] 0 tolerance metric =
        .ok (series, [coverage]) ∧ coverage.matched = points.length ∧ coverage.equal = true := by
  refine ⟨fun baseline candidates tolerance metric => ?_,
    fun diff item tolerance metric origin htolerance hspan hfinite hlength => ?_⟩
  · have h := matchActualCoverage_matching baseline candidates tolerance metric
    refine ⟨?_, h.rights, fun pair hpair => ⟨mem_zipIdx_iff_getElem?.mp (left_mem_zipIdx hpair),
      mem_zipIdx_iff_getElem?.mp (h.right pair hpair).1⟩, fun origin hspan =>
      ⟨fun pair hpair => pairs_compatible hspan hpair, ?_⟩⟩
    · have hindices : (baseline.zipIdx.map Prod.snd).Nodup := by
        rw [zipIdx_map_snd]
        exact nodup_range'
      have := hindices.sublist (h.lefts.map Prod.snd)
      rwa [map_map] at this
    · intro l hl r hr hfree hnew hcompatible
      obtain ⟨hmetric, heligible⟩ := (compatible_iff
        (hspan _ (mem_append_left _ (mem_of_mem_zipIdx hl)))
        (hspan _ (mem_append_right _ (mem_of_mem_zipIdx hr)))).mp hcompatible
      have hfree' : l ∉ (matchActualCoverage baseline candidates tolerance metric).map Prod.fst := by
        intro hmem
        obtain ⟨pair, hpair, rfl⟩ := mem_map.mp hmem
        exact hfree (mem_map_of_mem hpair)
      have := h.maximal l hl hfree' hmetric r hr not_mem_nil hnew
      rw [heligible] at this
      cases this
  · extract_lets points
    have hpoints : prepared metric item = .ok points := prepared_of_length hlength
    obtain ⟨hprepared, -, hsource⟩ := prepared_eq_ok hpoints
    have hspan' : ∀ p ∈ points, WithinSpan origin p := by
      intro p hp
      obtain ⟨q, hq, heq⟩ := hsource p hp
      rw [heq]
      exact ⟨(hspan q hq).1, (hspan q hq).2, (hspan q hq).3, (hspan q hq).4⟩
    have hself : matchActualCoverage points points tolerance metric =
        points.zipIdx.map fun p => (p, p) :=
      matchLoop_self hprepared hspan' htolerance (nil_append points).symm (by simp)
    refine ⟨hself, _, _, alignActualCoverage_pair hpoints hpoints, by simp [alignItem, hself], ?_⟩
    · have hzero : ∀ p ∈ points.zipIdx, diff.isZero (diff.sub p.1.value p.1.value) = true := by
        intro p hp
        obtain ⟨q, hq, heq⟩ := hsource p.1 (mem_of_mem_zipIdx hp)
        rw [heq]
        exact hfinite q hq
      simp only [alignItem, hself, length_map, length_zipIdx, decide_true, Bool.true_and,
        all_map, all_eq_true]
      exact hzero

def sampleBucket (start : Int) : MonitoringBucketPoint Int :=
  ⟨"s", "m", start, start + 60000000000, 1, true, [], 0⟩

def intDifferences : Differences Int := ⟨(· - ·), (· = 0)⟩

theorem prepared_of_sorted {item : List (MonitoringBucketPoint V)}
    (hpresent : ∀ p ∈ item, p.present = true)
    (hsorted : item.Pairwise fun p q => bucketKey p ≤ bucketKey q) (hlength : item.length ≤ 2000) :
    prepared "" item = .ok (assignOrdinals item) := by
  have hfilter : filterMonitoringBuckets item "" = item :=
    filter_eq_self.mpr fun p hp => by simp [hpresent p hp]
  have hsort : sortMonitoringBuckets item = item := Keyset.sorted_of_pairwise hsorted
  rw [prepared_of_length (hfilter.symm ▸ hlength), hfilter, hsort]

/-- Buckets more than 292 years apart are paired whatever the tolerance, and a list is not equal to
itself under a negative tolerance. -/
theorem distant_buckets_matched :
    (matchActualCoverage [sampleBucket 10000000000000000000] [sampleBucket 0] 0 "").length = 1 ∧
      ∃ series coverage, alignActualCoverage intDifferences [[sampleBucket 0], [sampleBucket 0]] 0
        (-1) "" = .ok (series, [coverage]) ∧ coverage.equal = false := by
  have hprepared : prepared "" [sampleBucket 0] = .ok (assignOrdinals [sampleBucket 0]) :=
    prepared_of_sorted (by simp [sampleBucket]) (pairwise_singleton _ _) (by simp)
  exact ⟨by decide, _, _, alignActualCoverage_pair hprepared hprepared, by decide⟩

/-- Two buckets against the same two: both pairs are compatible, and nothing differs. -/
theorem coverage_matching_maximal_two :
    let item := [sampleBucket 0, sampleBucket 60000000000]
    (matchActualCoverage item item 1 "").length = 2 ∧
      (∀ pair ∈ matchActualCoverage item item 1 "", Compatible 1 "" pair.1.1 pair.2.1) ∧
      ∃ series coverage, alignActualCoverage intDifferences [item, item] 0 1 "" =
        .ok (series, [coverage]) ∧ coverage.matched = 2 ∧ coverage.equal = true := by
  extract_lets item
  have hspan : ∀ p ∈ item, WithinSpan 0 p := by
    intro p hp
    obtain rfl | rfl : p = sampleBucket 0 ∨ p = sampleBucket 60000000000 := by simpa [item] using hp
    all_goals exact ⟨by decide, by decide, by decide, by decide⟩
  have hspans : ∀ p ∈ item ++ item, WithinSpan 0 p :=
    fun p hp => hspan p ((mem_append.mp hp).elim id id)
  obtain ⟨-, series, coverage, halign, hmatched, hequal⟩ := coverage_matching_maximal.2
    intDifferences item 1 "" 0 (by decide) hspan (fun p _ => by simp [intDifferences]) (by decide)
  refine ⟨by decide, ((coverage_matching_maximal.1 item item 1 "").2.2.2 0 hspans).1, series,
    coverage, halign, hmatched.trans ?_, hequal⟩
  simp [assignOrdinals, sortMonitoringBuckets, Keyset.sorted, filterMonitoringBuckets, item,
    sampleBucket]

/-! ## Order -/

theorem flatten_splitLoop (previousEnd : Int) (segments : List (List (SeriesPoint V)))
    (current : List (SeriesPoint V)) (points : List (MonitoringBucketPoint V)) :
    (splitLoop previousEnd segments current points).flatten =
      segments.flatten ++ current ++ points.map seriesPoint := by
  induction points generalizing previousEnd segments current with
  | nil => simp [splitLoop]
  | cons p rest ih =>
    rw [splitLoop]
    split_ifs <;> simp [ih]

theorem flatten_splitGapSegments (points : List (MonitoringBucketPoint V)) :
    (splitGapSegments points).flatten = points.map seriesPoint := by
  cases points with
  | nil => rfl
  | cons p rest => rw [splitGapSegments, flatten_splitLoop]; rfl

/-- Buckets that start at the same time or more than twice the tolerance apart. -/
def Spaced (tolerance : Int) (item : List (MonitoringBucketPoint V)) : Prop :=
  ∀ p ∈ item, ∀ q ∈ item, p.start < q.start → 2 * tolerance < q.start - p.start

theorem withinSpan_of_prepared
    (h : prepared metric item = .ok points) (hspan : ∀ p ∈ item, WithinSpan origin p)
    {p : MonitoringBucketPoint V} (hp : p ∈ points) : WithinSpan origin p := by
  obtain ⟨q, hq, heq⟩ := (prepared_eq_ok h).2.2 p hp
  have h := hspan q hq
  rw [heq]
  exact ⟨h.start_ge, h.start_lt, h.stop_ge, h.stop_lt⟩

theorem Spaced.of_prepared
    (hspaced : Spaced tolerance item) (h : prepared metric item = .ok points) :
    Spaced tolerance points := by
  intro p hp q hq
  obtain ⟨p', hp', hpeq⟩ := (prepared_eq_ok h).2.2 p hp
  obtain ⟨q', hq', hqeq⟩ := (prepared_eq_ok h).2.2 q hq
  rw [hpeq, hqeq]
  exact hspaced p' hp' q' hq'

section pairs

variable {baseline item : List (MonitoringBucketPoint V)}
  (hbaseline : baseline.Pairwise fun p q => p.start ≤ q.start)

include hbaseline

theorem pairs_left_sorted : (matchActualCoverage baseline item tolerance metric).Pairwise
    fun a b => a.1.1.start ≤ b.1.1.start := by
  have hsorted : (baseline.zipIdx.map Prod.fst).Pairwise fun p q => p.start ≤ q.start := by
    rwa [zipIdx_map_fst]
  have := hsorted.sublist
    ((matchActualCoverage_matching baseline item tolerance metric).lefts.map Prod.fst)
  rw [map_map, pairwise_map] at this
  exact this

theorem pairs_right_sorted (hspan : ∀ p ∈ baseline ++ item, WithinSpan origin p)
    (hspaced : Spaced tolerance item) : (matchActualCoverage baseline item tolerance metric).Pairwise
      fun a b => a.2.1.start ≤ b.2.1.start := by
  refine (pairs_left_sorted hbaseline).imp_of_mem fun {a b} ha hb hle => not_lt.mp fun hcross => ?_
  have hitem : ∀ {pair}, pair ∈ matchActualCoverage baseline item tolerance metric →
      pair.2.1 ∈ item := fun h =>
    mem_of_mem_zipIdx ((matchActualCoverage_matching ..).right _ h).1
  -- both pairs lie within the tolerance, so their right ends are at most twice the tolerance apart
  have hdistance := hspaced _ (hitem hb) _ (hitem ha) hcross
  have hnear := abs_le.mp (pairs_compatible hspan ha).near
  have hnear' := abs_le.mp (pairs_compatible hspan hb).near
  omega

end pairs

section order

variable {diff : Differences V} {items : List (List (MonitoringBucketPoint V))}
  {baselineIndex : Int} {series : List (Series V)} {coverages : List (CoverageMatch V)}
  (h : alignActualCoverage diff items baselineIndex tolerance metric = .ok (series, coverages))
include h

theorem alignActualCoverage_eq_ok :
    ∃ source ∈ items, ∃ baseline, prepared metric source = .ok baseline ∧
      (∀ s ∈ series, ∃ (index : Nat) (item points : _), items[index]? = some item ∧
        prepared metric item = .ok points ∧
        ((index : Int) = baselineIndex ∧ s = ⟨index, metric, splitGapSegments points⟩ ∨
          (index : Int) ≠ baselineIndex ∧
            s = (alignItem diff baseline tolerance metric points index).1)) ∧
      ∀ m ∈ coverages, ∃ index item points, items[index]? = some item ∧
        prepared metric item = .ok points ∧
        m = (alignItem diff baseline tolerance metric points index).2 := by
  unfold alignActualCoverage at h
  obtain ⟨hindex, h⟩ := except_guard_eq_ok h
  obtain ⟨all, hall, h⟩ := except_bind_eq_ok h
  obtain ⟨rfl, rfl⟩ := Prod.mk.inj (Except.ok.inj h)
  have hprepared := forall₂_of_mapM hall
  have hsource : ∀ {index : Nat} {points}, all[index]? = some points →
      ∃ item, items[index]? = some item ∧ prepared metric item = .ok points := by
    intro index points hpoints
    obtain ⟨hlt, rfl⟩ := List.getElem?_eq_some_iff.mp hpoints
    have hlt' : index < items.length := hprepared.length_eq ▸ hlt
    exact ⟨items[index], getElem?_eq_getElem hlt', hprepared.get hlt' hlt⟩
  have hlength : baselineIndex.toNat < all.length := by
    have := hprepared.length_eq
    omega
  obtain ⟨source, hmem, hbaseline⟩ := hsource (getElem?_eq_getElem hlength)
  refine ⟨source, mem_of_getElem? hmem, _, hbaseline, fun s hs => ?_, fun m hm => ?_⟩
  · obtain ⟨entry, hentry, rfl⟩ := mem_map.mp hs
    obtain ⟨⟨points, index⟩, hpoints, rfl⟩ := mem_map.mp hentry
    obtain ⟨item, hitem, hpoints⟩ := hsource (mem_zipIdx_iff_getElem?.mp hpoints)
    refine ⟨index, item, points, hitem, hpoints, ?_⟩
    by_cases hself : (index : Int) = baselineIndex
    · exact .inl ⟨hself, by simp [hself]⟩
    · exact .inr ⟨hself, by simp [hself, getElem?_eq_getElem hlength]⟩
  · obtain ⟨entry, hentry, hm⟩ := mem_filterMap.mp hm
    obtain ⟨⟨points, index⟩, hpoints, rfl⟩ := mem_map.mp hentry
    obtain ⟨item, hitem, hpoints⟩ := hsource (mem_zipIdx_iff_getElem?.mp hpoints)
    refine ⟨index, item, points, hitem, hpoints, ?_⟩
    by_cases hself : (index : Int) = baselineIndex
    · simp [hself] at hm
    · simpa [hself, getElem?_eq_getElem hlength, eq_comm] using hm

/-- Aligned series are in the order of the baseline. The baseline itself and every item whose buckets
start more than twice the tolerance apart are in their own order as well. -/
theorem aligned_series_chronological :
    (∀ m ∈ coverages, m.deltas.Pairwise fun a b => a.baselineStart ≤ b.baselineStart) ∧
    (∀ s ∈ series, s.itemIndex = baselineIndex →
      s.segments.flatten.Pairwise fun a b => a.start ≤ b.start) ∧
    ∀ origin, (∀ item ∈ items, ∀ p ∈ item, WithinSpan origin p) →
      (∀ m ∈ coverages, Spaced tolerance (items.getD m.itemIndex []) →
        m.deltas.Pairwise fun a b => a.itemStart ≤ b.itemStart) ∧
      ∀ s ∈ series, Spaced tolerance (items.getD s.itemIndex []) →
        s.segments.flatten.Pairwise fun a b => a.start ≤ b.start := by
  obtain ⟨source, hsource, baseline, hbaseline, hseries, hcoverages⟩ := alignActualCoverage_eq_ok h
  have hsorted := (prepared_eq_ok hbaseline).2.1
  have hpairs : ∀ {origin} {index : Nat} {item points},
      (∀ item ∈ items, ∀ p ∈ item, WithinSpan origin p) →
      items[index]? = some item → prepared metric item = .ok points →
      Spaced tolerance (items.getD index []) →
      (matchActualCoverage baseline points tolerance metric).Pairwise
        fun a b => a.2.1.start ≤ b.2.1.start := by
    intro origin index item points hspan hitem hpoints hspaced
    rw [getD_eq_getElem?_getD, hitem, Option.getD_some] at hspaced
    have hwithin : ∀ p ∈ baseline ++ points, WithinSpan origin p := fun p hp =>
      (mem_append.mp hp).elim (withinSpan_of_prepared hbaseline (hspan _ hsource))
        (withinSpan_of_prepared hpoints (hspan _ (mem_of_getElem? hitem)))
    exact pairs_right_sorted hsorted hwithin (hspaced.of_prepared hpoints)
  refine ⟨fun m hm => ?_, fun s hs hself => ?_, fun origin hspan =>
    ⟨fun m hm hspaced => ?_, fun s hs hspaced => ?_⟩⟩
  · obtain ⟨index, item, points, -, -, rfl⟩ := hcoverages m hm
    exact pairwise_map.mpr (pairs_left_sorted hsorted)
  · obtain ⟨index, item, points, -, hpoints, ⟨-, rfl⟩ | ⟨hother, rfl⟩⟩ := hseries s hs
    · rw [flatten_splitGapSegments, pairwise_map]
      exact (prepared_eq_ok hpoints).2.1
    · exact absurd hself hother
  · obtain ⟨index, item, points, hitem, hpoints, rfl⟩ := hcoverages m hm
    exact pairwise_map.mpr (hpairs hspan hitem hpoints hspaced)
  · obtain ⟨index, item, points, hitem, hpoints, ⟨-, rfl⟩ | ⟨-, rfl⟩⟩ := hseries s hs
    · rw [flatten_splitGapSegments, pairwise_map]
      exact (prepared_eq_ok hpoints).2.1
    · dsimp only [alignItem]
      rw [flatten_splitGapSegments, pairwise_map, pairwise_map]
      exact hpairs hspan hitem hpoints hspaced

end order

def minuteBucket (second : Int) : MonitoringBucketPoint Int :=
  { sampleBucket 0 with start := second * 1000000000, stop := (second + 60) * 1000000000 }

theorem prepared_minutes {first second : Int} (h : first < second) :
    prepared "" [minuteBucket first, minuteBucket second] =
      .ok (assignOrdinals [minuteBucket first, minuteBucket second]) := by
  refine prepared_of_sorted ?_ (pairwise_pair.mpr ?_) (by simp)
  · simp [minuteBucket, sampleBucket]
  · exact Prod.Lex.le_iff.mpr (.inl (by simp [bucketKey, minuteBucket]; omega))

/-- Under a tolerance of three minutes the first bucket of the baseline takes the later one of the
item, and the series of the item runs backwards. -/
theorem matches_cross : ∃ series coverage, alignActualCoverage intDifferences
    [[minuteBucket 120, minuteBucket 180], [minuteBucket 0, minuteBucket 180]] 0 180000000000 "" =
      .ok (series, [coverage]) ∧
    coverage.deltas.map (fun d => d.itemStart) = [180000000000, 0] ∧
    series.map (fun s => s.segments.map fun segment => segment.map fun p => p.start) =
      [[[120000000000, 180000000000]], [[180000000000, 0]]] :=
  ⟨_, _, alignActualCoverage_pair (prepared_minutes (by decide)) (prepared_minutes (by decide)),
    by decide, by decide⟩

theorem aligned_series_chronological_minutes :
    ∃ series coverage, alignActualCoverage intDifferences
      [[minuteBucket 120, minuteBucket 180], [minuteBucket 120, minuteBucket 180]] 0 20000000000 "" =
        .ok (series, [coverage]) ∧
      coverage.matched = 2 ∧
      coverage.deltas.Pairwise fun a b => a.itemStart ≤ b.itemStart := by
  have hprepared := prepared_minutes (show (120 : Int) < 180 by decide)
  refine ⟨_, _, alignActualCoverage_pair hprepared hprepared, by decide, ?_⟩
  refine ((aligned_series_chronological (alignActualCoverage_pair hprepared hprepared)).2.2 0 ?_).1
    _ (mem_singleton_self _) ?_
  · intro item hitem p hp
    obtain rfl : item = [minuteBucket 120, minuteBucket 180] := by simpa using hitem
    rcases mem_pair.mp hp with rfl | rfl <;>
      exact ⟨by decide, by decide, by decide, by decide⟩
  · intro p hp q hq hlt
    rcases mem_pair.mp hp with rfl | rfl <;> rcases mem_pair.mp hq with rfl | rfl <;>
      revert hlt <;> decide

end Houfeng.Evidence
