import Houfeng.Foundation.Keyset
import Houfeng.Foundation.Timestamp
import Mathlib.Data.Prod.Lex
import Mathlib.Data.String.Basic

/-!
# Aligning the coverage of monitoring series

The buckets of a baseline and of another snapshot are paired greedily: every baseline bucket takes
the nearest unused bucket of equal width within the tolerance. Values are floating point numbers; of
them only the difference and the test for zero are used. Instants are in nanoseconds.
-/

namespace Houfeng.Evidence

/-- The difference of two values, and whether a value equals zero. -/
structure Differences (V : Type) where
  sub : V → V → V
  isZero : V → Bool

structure MonitoringBucketPoint (V : Type) where
  seriesID : String
  metric : String
  start : Int
  stop : Int
  value : V
  present : Bool
  hash : List UInt8
  ordinal : Nat

structure SeriesPoint (V : Type) where
  start : Int
  stop : Int
  value : V

/-- `Series`, without its unit, which is not set here. -/
structure Series (V : Type) where
  itemIndex : Nat
  metricID : String
  segments : List (List (SeriesPoint V))

structure CoverageBucketDelta (V : Type) where
  baselineStart : Int
  baselineEnd : Int
  itemStart : Int
  itemEnd : Int
  baselineValue : V
  itemValue : V
  delta : V

structure CoverageMatch (V : Type) where
  itemIndex : Nat
  matched : Nat
  unmatchedBaseline : Nat
  unmatchedItem : Nat
  deltas : List (CoverageBucketDelta V)
  equal : Bool

inductive AlignmentError
  | baseline
  | resultTooLarge (points : Nat)

variable {V : Type}

abbrev Indexed (V : Type) := MonitoringBucketPoint V × Nat

/-! ## Matching -/

/-- The smallest duration has no positive counterpart. -/
def absDuration (d : Int) : Int := if d < 0 then wrapDuration (-d) else d

def matchOffset (candidate baseline : MonitoringBucketPoint V) : Int :=
  wrapDuration (absDuration (since candidate.start baseline.start) +
    absDuration (since candidate.stop baseline.stop))

def bytesCompareHash : List UInt8 → List UInt8 → Int
  | a :: left, b :: right => if a < b then -1 else if b < a then 1 else bytesCompareHash left right
  | _, _ => 0

def compareBucketMatch (current candidate : MonitoringBucketPoint V)
    (candidateOffset currentOffset : Int) : Int :=
  if candidateOffset ≠ currentOffset then (if candidateOffset < currentOffset then -1 else 1)
  else if candidate.start < current.start then -1
  else if current.start < candidate.start then 1
  else if candidate.ordinal ≠ current.ordinal then
    (if candidate.ordinal < current.ordinal then -1 else 1)
  else bytesCompareHash candidate.hash current.hash

def eligible (tolerance : Int) (metric : String) (left right : MonitoringBucketPoint V) : Bool :=
  right.present && (metric = "" || right.metric = metric) &&
    since left.stop left.start = since right.stop right.start &&
    absDuration (since right.start left.start) ≤ tolerance &&
    absDuration (since right.stop left.stop) ≤ tolerance

/-- The inner loop: the best of the candidates that are admitted. -/
def bestMatch (left : MonitoringBucketPoint V) (admits : Indexed V → Bool) :
    Option (Indexed V) → List (Indexed V) → Option (Indexed V)
  | best, [] => best
  | none, c :: rest => bestMatch left admits (if admits c then some c else none) rest
  | some best, c :: rest =>
    bestMatch left admits
      (if admits c && compareBucketMatch best.1 c.1 (matchOffset c.1 left)
        (matchOffset best.1 left) < 0 then some c else some best) rest

/-- The outer loop; `used` holds the places of the candidates that are taken. -/
def matchLoop (tolerance : Int) (metric : String) (candidates : List (Indexed V)) :
    List Nat → List (Indexed V) → List (Indexed V × Indexed V)
  | _, [] => []
  | used, left :: rest =>
    if metric ≠ "" ∧ left.1.metric ≠ metric then matchLoop tolerance metric candidates used rest
    else
      match bestMatch left.1 (fun c => c.2 ∉ used && eligible tolerance metric left.1 c.1) none
        candidates with
      | none => matchLoop tolerance metric candidates used rest
      | some c => (left, c) :: matchLoop tolerance metric candidates (c.2 :: used) rest

/-- `matchActualCoverage`, with the points its pairs of places stand for. -/
def matchActualCoverage (baseline candidates : List (MonitoringBucketPoint V)) (tolerance : Int)
    (metric : String) : List (Indexed V × Indexed V) :=
  matchLoop tolerance metric candidates.zipIdx [] baseline.zipIdx

/-! ## Series -/

def filterMonitoringBuckets (item : List (MonitoringBucketPoint V)) (metric : String) :
    List (MonitoringBucketPoint V) :=
  item.filter fun p => p.present && (metric = "" || p.metric = metric)

/-- The order of `sortMonitoringBuckets`. -/
def bucketKey (p : MonitoringBucketPoint V) : Int ×ₗ Int ×ₗ String ×ₗ List Nat :=
  toLex (p.start, toLex (p.stop, toLex (p.seriesID, p.hash.map UInt8.toNat)))

def sortMonitoringBuckets (points : List (MonitoringBucketPoint V)) :
    List (MonitoringBucketPoint V) :=
  Keyset.sorted bucketKey points

def assignOrdinals (points : List (MonitoringBucketPoint V)) : List (MonitoringBucketPoint V) :=
  points.mapIdx fun i p => { p with ordinal := i }

def prepared (metric : String) (item : List (MonitoringBucketPoint V)) :
    Except AlignmentError (List (MonitoringBucketPoint V)) :=
  let filtered := sortMonitoringBuckets (filterMonitoringBuckets item metric)
  if 2000 < filtered.length then .error (.resultTooLarge filtered.length)
  else .ok (assignOrdinals filtered)

def seriesPoint (p : MonitoringBucketPoint V) : SeriesPoint V := ⟨p.start, p.stop, p.value⟩

/-- The loop of `splitGapSegments`, after a point that ends at `previousEnd`. -/
def splitLoop (previousEnd : Int) (segments : List (List (SeriesPoint V)))
    (current : List (SeriesPoint V)) :
    List (MonitoringBucketPoint V) → List (List (SeriesPoint V))
  | [] => segments ++ [current]
  | p :: rest =>
    if previousEnd < p.start then splitLoop p.stop (segments ++ [current]) [seriesPoint p] rest
    else splitLoop p.stop segments (current ++ [seriesPoint p]) rest

def splitGapSegments : List (MonitoringBucketPoint V) → List (List (SeriesPoint V))
  | [] => []
  | p :: rest => splitLoop p.stop [] [seriesPoint p] rest

def bucketDelta (diff : Differences V) (pair : Indexed V × Indexed V) : CoverageBucketDelta V where
  baselineStart := pair.1.1.start
  baselineEnd := pair.1.1.stop
  itemStart := pair.2.1.start
  itemEnd := pair.2.1.stop
  baselineValue := pair.1.1.value
  itemValue := pair.2.1.value
  delta := diff.sub pair.2.1.value pair.1.1.value

def alignItem (diff : Differences V) (baseline : List (MonitoringBucketPoint V)) (tolerance : Int)
    (metric : String) (item : List (MonitoringBucketPoint V)) (index : Nat) :
    Series V × CoverageMatch V :=
  let pairs := matchActualCoverage baseline item tolerance metric
  let deltas := pairs.map (bucketDelta diff)
  (⟨index, metric, splitGapSegments (pairs.map fun pair => pair.2.1)⟩,
    { itemIndex := index
      matched := pairs.length
      unmatchedBaseline := baseline.length - (pairs.map fun pair => pair.1.2).eraseDups.length
      unmatchedItem := item.length - (pairs.map fun pair => pair.2.2).eraseDups.length
      deltas
      equal := pairs.length = baseline.length && pairs.length = item.length &&
        deltas.all fun d => diff.isZero d.delta })

def alignActualCoverage (diff : Differences V) (items : List (List (MonitoringBucketPoint V)))
    (baselineIndex : Int) (tolerance : Int) (metric : String) :
    Except AlignmentError (List (Series V) × List (CoverageMatch V)) :=
  if baselineIndex < 0 ∨ (items.length : Int) ≤ baselineIndex then .error .baseline
  else do
    let items ← items.mapM (prepared metric)
    let baseline := items.getD baselineIndex.toNat []
    let aligned := items.zipIdx.map fun (item, index) =>
      if index = baselineIndex then ((⟨index, metric, splitGapSegments item⟩ : Series V), none)
      else
        let (series, coverage) := alignItem diff baseline tolerance metric item index
        (series, some coverage)
    pure (aligned.map Prod.fst, aligned.filterMap Prod.snd)

end Houfeng.Evidence
