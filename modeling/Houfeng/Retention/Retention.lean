import Houfeng.Foundation.Runs

/-!
# Retention

`PostgresRetentionRepository.ApplyRetention`. A pass turns raw rows into daily aggregates and
deletes the raw rows and the aggregates that are older than their layer. It is one REPEATABLE READ
transaction: it sees the tables as they were when it began and its own writes, and fails where a row
it writes has been changed since. The advisory lock keeps two passes apart, so that the statements
of one take effect together.

The statements are written once over a `Source` of rows. What a table has ever held and which rows
an aggregate was computed from are kept beside the columns.
-/

namespace Houfeng.Retention

/-! ## Times -/

def dayLength : Int := 86400000000

/-- `(t at time zone 'UTC')::date`, as the number of the day. -/
def utcDate (t : Int) : Int := t / dayLength

def startOfUTCDay (t : Int) : Int := utcDate t * dayLength

/-- How many days rows and aggregates are kept. -/
structure Policy where
  rawLayerDays : Int
  aggregateLayerDays : Int

/-- The policies `ApplyRetention` does not reject. -/
structure Policy.Valid (policy : Policy) : Prop where
  raw_ge : 30 ≤ policy.rawLayerDays
  raw_le : policy.rawLayerDays ≤ 365
  aggregate_pos : 0 < policy.aggregateLayerDays

/-- The moments a policy gives for one pass. -/
structure Cutoffs where
  stableBefore : Int
  rawCutoff : Int
  aggregateCutoff : Int

/-- The cutoffs of a pass at `now`; `AddDate` in UTC moves by whole days. -/
def Policy.cutoffs (policy : Policy) (now : Int) : Cutoffs where
  stableBefore := startOfUTCDay now
  rawCutoff := now - policy.rawLayerDays * dayLength
  aggregateCutoff := startOfUTCDay (now - policy.aggregateLayerDays * dayLength)

/-! ## Tables -/

/-- A table of raw rows: the key and time it is grouped by, and the columns of a group. -/
structure Source (R K S : Type) where
  key : R → K
  observedAt : R → Int
  summarize : List R → S

/-- A daily aggregate, with the rows it was computed from. -/
structure Aggregate (R S : Type) where
  summary : S
  finalized : Bool
  counted : List R

/-- A raw table and its table of daily aggregates, with all rows ever committed to the former. -/
structure Layer (R K S : Type) where
  raw : List R
  aggregates : K → Int → Option (Aggregate R S)
  committed : List R

variable {R K S : Type}

def Layer.finalizedBucket (l : Layer R K S) (k : K) (d : Int) : Bool :=
  (l.aggregates k d).any (·.finalized)

namespace Source

variable (src : Source R K S) (c : Cutoffs)

/-- The UTC day of a row. -/
def bucketDate (r : R) : Int := utcDate (src.observedAt r)

/-- The rows of a key and a day. -/
def bucket [DecidableEq K] (rows : List R) (k : K) (d : Int) : List R :=
  rows.filter fun r => src.key r = k ∧ src.bucketDate r = d

/-- The rows the upsert selects: those of days that are over and not finalized. -/
def upsertInput (snapshot : Layer R K S) : List R :=
  snapshot.raw.filter fun r => src.observedAt r < c.stableBefore ∧
    snapshot.finalizedBucket (src.key r) (src.bucketDate r) = false

/-- The aggregate an attempt would write for a key and a day. -/
def excluded [DecidableEq K] (snapshot : Layer R K S) (k : K) (d : Int) :
    Option (Aggregate R S) :=
  match src.bucket (src.upsertInput c snapshot) k d with
  | [] => none
  | r :: rows => some
    { summary := src.summarize (r :: rows)
      finalized := d * dayLength < c.rawCutoff
      counted := r :: rows }

/-- What an attempt that saw `snapshot` leaves of the current tables: expired rows and aggregates
are deleted, the other aggregates written. -/
def retain [DecidableEq K] [DecidableEq R] (snapshot current : Layer R K S) : Layer R K S where
  raw := current.raw.filter fun r => ¬ (r ∈ snapshot.raw ∧ src.observedAt r < c.rawCutoff)
  aggregates := fun k d =>
    if ((snapshot.aggregates k d).isSome ∨ (src.excluded c snapshot k d).isSome) ∧
        d < utcDate c.aggregateCutoff then none
    else if current.finalizedBucket k d then current.aggregates k d
    else (src.excluded c snapshot k d).or (current.aggregates k d)
  committed := current.committed

/-- No row that the pass writes has been changed since its snapshot; otherwise PostgreSQL answers
with a serialization failure. -/
structure Serializable (snapshot current : Layer R K S) : Prop where
  upserted : ∀ r ∈ src.upsertInput c snapshot,
    current.aggregates (src.key r) (src.bucketDate r) =
      snapshot.aggregates (src.key r) (src.bucketDate r)
  rows : ∀ r ∈ snapshot.raw, src.observedAt r < c.rawCutoff → r ∈ current.raw
  aggregates : ∀ k d a, snapshot.aggregates k d = some a → d < utcDate c.aggregateCutoff →
    current.aggregates k d = some a

end Source

/-! ## Transactions on one table -/

/-- A transaction in progress, with the tables it saw when it began. -/
structure Attempt (R K S : Type) where
  snapshot : Layer R K S
  cutoffs : Cutoffs

structure LayerState (R K S : Type) where
  layer : Layer R K S
  attempts : List (Attempt R K S)

/-- What happens to a table: rows are committed, or the pass at a place of the list of running
passes begins, commits or is rolled back. -/
inductive LayerLabel (R K S : Type)
  | insert (rows : List R)
  | begin (policy : Policy) (now : Int)
  | commit (place : Nat) (attempt : Attempt R K S)
  | rollback (place : Nat)

/-- The steps of one table. A pass that does not get the lock, fails or is retried is rolled
back. -/
inductive LayerStep [DecidableEq K] [DecidableEq R] (src : Source R K S) :
    LayerState R K S → LayerLabel R K S → LayerState R K S → Prop
  | insert {l : Layer R K S} {attempts : List (Attempt R K S)} (rows : List R)
    (hfresh : ∀ r ∈ rows, r ∉ l.committed) :
    LayerStep src ⟨l, attempts⟩ (.insert rows)
      ⟨{ l with raw := l.raw ++ rows, committed := l.committed ++ rows }, attempts⟩
  | begin {l : Layer R K S} {attempts : List (Attempt R K S)} {policy : Policy} (now : Int)
    (hvalid : policy.Valid) :
    LayerStep src ⟨l, attempts⟩ (.begin policy now) ⟨l, ⟨l, policy.cutoffs now⟩ :: attempts⟩
  | commit {l : Layer R K S} {before after : List (Attempt R K S)} {attempt : Attempt R K S}
    (hserializable : src.Serializable attempt.cutoffs attempt.snapshot l) :
    LayerStep src ⟨l, before ++ attempt :: after⟩ (.commit before.length attempt)
      ⟨src.retain attempt.cutoffs attempt.snapshot l, before ++ after⟩
  | rollback {l : Layer R K S} {before after : List (Attempt R K S)} {attempt : Attempt R K S} :
    LayerStep src ⟨l, before ++ attempt :: after⟩ (.rollback before.length) ⟨l, before ++ after⟩

/-! ## Host samples and probe observations -/

/-- The aggregate functions on `double precision` values, and the comparison with 0 and 100. -/
structure Statistics (F : Type) where
  percentage : F → Bool
  avg : List F → Option F
  max : List F → Option F
  avgInteger : List Int → Option F
  percentileCont95 : List Int → Option F

structure HostSample (F : Type) where
  id : Int
  monitoringInstanceID : String
  observedAt : Int
  cpuRatesValid : Option Bool
  cpuUsagePct : F
  load5 : F
  memUsedPct : F
  cpuIowaitPct : F
  cpuStealPct : F
  diskBusyPct : F
  isBackfilled : Bool
  maintenanceContext : Bool
deriving DecidableEq

structure HostSummary (F : Type) where
  sampleCount : Nat
  cpuValidSampleCount : Nat
  cpuValidBackfilledSampleCount : Nat
  cpuValidMaintenanceSampleCount : Nat
  avgCPUUsagePct : Option F
  maxCPUUsagePct : Option F
  avgLoad5 : Option F
  maxLoad5 : Option F
  avgMemUsedPct : Option F
  maxMemUsedPct : Option F
  avgCPUIowaitPct : Option F
  maxCPUIowaitPct : Option F
  avgCPUStealPct : Option F
  maxCPUStealPct : Option F
  avgDiskBusyPct : Option F
  maxDiskBusyPct : Option F
  backfilledSampleCount : Nat
  maintenanceSampleCount : Nat

structure ProbeObservation where
  id : Int
  targetID : String
  probeItemID : String
  observedAt : Int
  resultKind : String
  latencyMs : Option Int
  tlsExpiryDays : Option Int
  isBackfilled : Bool
  maintenanceContext : Bool
deriving DecidableEq

structure ProbeSummary (F : Type) where
  observationCount : Nat
  successCount : Nat
  failureCount : Nat
  avgLatencyMs : Option F
  p95LatencyMs : Option F
  minTLSExpiryDays : Option Int
  backfilledObservationCount : Nat
  maintenanceObservationCount : Nat

variable {F : Type} (stats : Statistics F)

/-- `cpu_rates_valid is not false` and three percentages. -/
def cpuValid (sample : HostSample F) : Bool :=
  sample.cpuRatesValid ≠ some false && stats.percentage sample.cpuUsagePct &&
    stats.percentage sample.cpuIowaitPct && stats.percentage sample.cpuStealPct

/-- Host samples, aggregated per monitoring instance. -/
def hostSource : Source (HostSample F) String (HostSummary F) where
  key := HostSample.monitoringInstanceID
  observedAt := HostSample.observedAt
  summarize := fun rows =>
    let valid := rows.filter (cpuValid stats)
    { sampleCount := rows.length
      cpuValidSampleCount := valid.length
      cpuValidBackfilledSampleCount := valid.countP (·.isBackfilled)
      cpuValidMaintenanceSampleCount := valid.countP (·.maintenanceContext)
      avgCPUUsagePct := stats.avg (valid.map (·.cpuUsagePct))
      maxCPUUsagePct := stats.max (valid.map (·.cpuUsagePct))
      avgLoad5 := stats.avg (rows.map (·.load5))
      maxLoad5 := stats.max (rows.map (·.load5))
      avgMemUsedPct := stats.avg (rows.map (·.memUsedPct))
      maxMemUsedPct := stats.max (rows.map (·.memUsedPct))
      avgCPUIowaitPct := stats.avg (valid.map (·.cpuIowaitPct))
      maxCPUIowaitPct := stats.max (valid.map (·.cpuIowaitPct))
      avgCPUStealPct := stats.avg (valid.map (·.cpuStealPct))
      maxCPUStealPct := stats.max (valid.map (·.cpuStealPct))
      avgDiskBusyPct := stats.avg (rows.map (·.diskBusyPct))
      maxDiskBusyPct := stats.max (rows.map (·.diskBusyPct))
      backfilledSampleCount := rows.countP (·.isBackfilled)
      maintenanceSampleCount := rows.countP (·.maintenanceContext) }

/-- Probe observations, aggregated per target and probe item. -/
def probeSource : Source ProbeObservation (String × String) (ProbeSummary F) where
  key := fun r => (r.targetID, r.probeItemID)
  observedAt := ProbeObservation.observedAt
  summarize := fun rows =>
    { observationCount := rows.length
      successCount := rows.countP (·.resultKind = "success")
      failureCount := rows.countP (·.resultKind = "failure")
      avgLatencyMs := stats.avgInteger (rows.filterMap (·.latencyMs))
      p95LatencyMs := stats.percentileCont95 (rows.filterMap (·.latencyMs))
      minTLSExpiryDays := (rows.filterMap (·.tlsExpiryDays)).min?
      backfilledObservationCount := rows.countP (·.isBackfilled)
      maintenanceObservationCount := rows.countP (·.maintenanceContext) }

/-! ## The system -/

/-- The tables of the center with the running passes; a pass has the same place in both lists. -/
structure World (F : Type) where
  host : LayerState (HostSample F) String (HostSummary F)
  probe : LayerState ProbeObservation (String × String) (ProbeSummary F)

def World.initial : World F := ⟨⟨⟨[], fun _ _ => none, []⟩, []⟩, ⟨⟨[], fun _ _ => none, []⟩, []⟩⟩

/-- A transaction of the center, as its effects on the two tables. -/
structure Label (F : Type) where
  host : LayerLabel (HostSample F) String (HostSummary F)
  probe : LayerLabel ProbeObservation (String × String) (ProbeSummary F)

inductive Label.Joint : Label F → Prop
  | insert (hostSamples : List (HostSample F)) (probeObservations : List ProbeObservation) :
    Joint ⟨.insert hostSamples, .insert probeObservations⟩
  | begin (policy : Policy) (now : Int) : Joint ⟨.begin policy now, .begin policy now⟩
  | commit (place : Nat) (host : Attempt (HostSample F) String (HostSummary F))
    (probe : Attempt ProbeObservation (String × String) (ProbeSummary F)) :
    Joint ⟨.commit place host, .commit place probe⟩
  | rollback (place : Nat) : Joint ⟨.rollback place, .rollback place⟩

/-- One transaction boundary of the center. -/
structure Step [DecidableEq F] (w : World F) (l : Label F) (w' : World F) : Prop where
  joint : l.Joint
  host : LayerStep (hostSource stats) w.host l.host w'.host
  probe : LayerStep (probeSource stats) w.probe l.probe w'.probe

def hostStep (e : RunStep (World F) (Label F)) :
    RunStep (LayerState (HostSample F) String (HostSummary F))
      (LayerLabel (HostSample F) String (HostSummary F)) :=
  ⟨e.before.host, e.label.host, e.after.host⟩

def probeStep (e : RunStep (World F) (Label F)) :
    RunStep (LayerState ProbeObservation (String × String) (ProbeSummary F))
      (LayerLabel ProbeObservation (String × String) (ProbeSummary F)) :=
  ⟨e.before.probe, e.label.probe, e.after.probe⟩

end Houfeng.Retention
