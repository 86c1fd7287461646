import Houfeng.Foundation.Runs

/-!
# Importing archives

`Service.DryRun`, `Service.Apply` and the purge of an imported record, as calls of several
processes on one database. A call is cut at each of its transactions, so others can come between
them. Each process has its own cache of plans, which a crash empties.

`Apply` looks for a tombstone and for an origin of the archive before it starts to write, and its
last transaction looks for the origin again, not for the tombstone.
-/

namespace Houfeng.Portability

abbrev Digest := String

inductive ImportJobState
  | quarantined
  | planned
  | applied
deriving DecidableEq

/-- The row of an import job. -/
structure ImportJob where
  actorID : String
  idempotencyKey : String
  jobState : ImportJobState
  archiveDigest : Digest
  destination : String
  lockVersion : Nat
  expiresAt : Int

/-- The target that a plan gives to an entity of the archive. -/
structure ImportRemap where
  entityKind : String
  sourceID : String
  targetID : String

/-- A row of `record_import_plans` with its mappings. -/
structure ImportPlan where
  importJobID : String
  planDigest : Digest
  remaps : List ImportRemap

/-- An archive as it is planned: its digest, the records its documents become, and the mappings. -/
structure PlannedArchive where
  digest : Digest
  documents : List String
  remaps : List ImportRemap

/-- What is written outside the tables of this component: evidence and attachments of a plan, and
the revisions of its records. -/
inductive ImportWrite
  | restored (planID : String)
  | revisions (recordIDs : List String)

/-- Reading an archive. `planArchive` draws new target ids; `rebindArchive` takes those of the
plan. -/
structure Archives (A : Type) where
  sha256 : A → Digest
  planArchive : A → String → PlannedArchive → Prop
  rebindArchive : A → List ImportRemap → String → Option PlannedArchive

/-- The tables. An origin has the record it was imported into first. -/
structure ImportTables (A : Type) where
  jobs : String → Option ImportJob
  plans : String → Option ImportPlan
  staged : String → Option A
  origins : Digest → Option String
  tombstones : Digest → Bool
  writes : List ImportWrite

structure DryRunRequest (A : Type) where
  actorID : String
  idempotencyKey : String
  archive : A
  destination : String
  expiresAt : Int

structure ApplyRequest where
  actorID : String
  planID : String
  lockVersion : Nat

/-- The plan as a process keeps it between `DryRun` and `Apply`. -/
structure CachedImportPlan where
  jobID : String
  lockVersion : Nat
  jobState : ImportJobState
  actorID : String
  expiresAt : Int
  archiveDigest : Digest
  destination : String
  documents : List String

def cachedImportPlan (jobID : String) (job : ImportJob) (planned : PlannedArchive) :
    CachedImportPlan where
  jobID
  lockVersion := job.lockVersion
  jobState := job.jobState
  actorID := job.actorID
  expiresAt := job.expiresAt
  archiveDigest := job.archiveDigest
  destination := job.destination
  documents := planned.documents

/-- Where a call is: before the transaction it is named after. -/
inductive ImportCall (A : Type)
  | dryTombstone (r : DryRunRequest A) (planned : PlannedArchive)
  | dryOrigin (r : DryRunRequest A) (planned : PlannedArchive)
  | dryClaim (r : DryRunRequest A) (planned : PlannedArchive)
  | dryPlan (r : DryRunRequest A) (planned : PlannedArchive) (jobID : String) (job : ImportJob)
    (planID : Option String)
  | dryStage (r : DryRunRequest A) (planned : PlannedArchive) (jobID : String) (job : ImportJob)
    (planID : String) (saved : Bool)
  | dryAdvance (planned : PlannedArchive) (jobID : String) (job : ImportJob) (planID : String)
  | dryCache (planned : PlannedArchive) (jobID : String) (job : ImportJob) (planID : String)
  | applyResolve (r : ApplyRequest)
  | applyJob (r : ApplyRequest) (plan : ImportPlan)
  | applyDecide (r : ApplyRequest) (cached : CachedImportPlan)
  | applyTombstone (r : ApplyRequest) (cached : CachedImportPlan)
  | applyOrigin (r : ApplyRequest) (cached : CachedImportPlan)
  | applyRestore (r : ApplyRequest) (cached : CachedImportPlan)
  | applyCommit (r : ApplyRequest) (cached : CachedImportPlan)
  | applyCache (r : ApplyRequest) (cached : CachedImportPlan)

/-- A call in progress. -/
structure Running (A : Type) where
  process : Nat
  call : ImportCall A

/-- The database, the caches of the processes and the calls that have been started. -/
structure ImportState (A : Type) where
  tables : ImportTables A
  caches : Nat → String → Option CachedImportPlan
  calls : Nat → Option (Running A)
  started : Nat

variable {A : Type}

namespace ImportState

variable (s : ImportState A)

def goOn (id process : Nat) (call : ImportCall A) : ImportState A :=
  { s with calls := Function.update s.calls id (some ⟨process, call⟩) }

def return_ (id : Nat) : ImportState A :=
  { s with calls := Function.update s.calls id none }

def start (process : Nat) (call : ImportCall A) : ImportState A :=
  { s.goOn s.started process call with started := s.started + 1 }

def cache (process : Nat) (planID : String) (cached : CachedImportPlan) : ImportState A :=
  { s with
    caches := Function.update s.caches process
      (Function.update (s.caches process) planID (some cached)) }

def withTables (tables : ImportTables A) : ImportState A := { s with tables }

end ImportState

namespace ImportTables

variable (db : ImportTables A)

/-- `AdvanceImportJob` and `markImportJobAppliedOnTx` on the row they have found. -/
def advanceJob (jobID : String) (job : ImportJob) (state : ImportJobState) : ImportTables A :=
  { db with
    jobs := Function.update db.jobs jobID
      (some { job with jobState := state, lockVersion := job.lockVersion + 1 }) }

variable (plan : ImportPlan) (recordID : String)

/-- The plan maps something to the record. -/
def mapsRecord : Bool :=
  plan.remaps.any fun m => m.entityKind = "record" && m.targetID = recordID

/-- The plan without the record. -/
def unmapped : List ImportRemap :=
  plan.remaps.filter fun m => ¬ (m.entityKind = "record" ∧ m.targetID = recordID)

/-- A purge of the record deletes the plan: it had mappings to the record and no others. -/
def emptied : Bool :=
  mapsRecord plan recordID && (unmapped plan recordID).isEmpty

end ImportTables

open ImportTables in
/-- `purge_record_portability`: what the tables are after the purge of a record. The digests of the
archives it was imported from are tombstoned, its origins, its mappings and what they leave empty
are deleted. -/
structure Purged (recordID : String) (db db' : ImportTables A) : Prop where
  tombstones : ∀ d, db'.tombstones d = true ↔ db.tombstones d = true ∨
    (∃ planID plan job, db.plans planID = some plan ∧ mapsRecord plan recordID = true ∧
      db.jobs plan.importJobID = some job ∧ job.archiveDigest = d) ∨ db.origins d = some recordID
  origins : ∀ d, db'.origins d = if db.origins d = some recordID then none else db.origins d
  plans : ∀ planID, db'.plans planID = (db.plans planID).bind fun plan =>
    if emptied plan recordID then none else some { plan with remaps := unmapped plan recordID }
  deleted : ∀ planID plan, db.plans planID = some plan → emptied plan recordID = true →
    db'.jobs plan.importJobID = none ∧ db'.staged plan.importJobID = none
  kept : ∀ jobID, (∀ planID plan, db.plans planID = some plan → plan.importJobID = jobID →
      emptied plan recordID = false) →
    db'.jobs jobID = db.jobs jobID ∧ db'.staged jobID = db.staged jobID
  writes : db'.writes = db.writes

/-- What a step is: a check for a tombstone that lets an `Apply` go on, the writing of evidence and
attachments, the transaction of an `Apply`, a compare-and-set of a job by a `DryRun`, a purge, or
anything else. -/
inductive ImportLabel
  | checked (id : Nat) (cached : CachedImportPlan)
  | restored (id : Nat) (cached : CachedImportPlan)
  | committed (id : Nat) (cached : CachedImportPlan)
  | advanced (id : Nat) (jobID : String) (lockVersion : Nat)
  | purged (recordID : String)
  | other

variable (archives : Archives A)

/-- The row `ClaimImportJob` inserts. -/
def newImportJob (r : DryRunRequest A) : ImportJob where
  actorID := r.actorID
  idempotencyKey := r.idempotencyKey
  jobState := .quarantined
  archiveDigest := archives.sha256 r.archive
  destination := r.destination
  lockVersion := 1
  expiresAt := r.expiresAt

/-- The steps of the calls of `DryRun`. A plan that exists is staged again if its archive is
missing. -/
inductive DryRunStep : ImportState A → ImportLabel → ImportState A → Prop
  | start {s : ImportState A} (process : Nat) (r : DryRunRequest A) (planned : PlannedArchive)
    (hplanned : archives.planArchive r.archive r.destination planned) :
    DryRunStep s .other (s.start process (.dryTombstone r planned))
  | tombstone {s : ImportState A} {id process : Nat} {r : DryRunRequest A}
    {planned : PlannedArchive} (hcall : s.calls id = some ⟨process, .dryTombstone r planned⟩)
    (hnone : s.tables.tombstones (archives.sha256 r.archive) = false) :
    DryRunStep s .other (s.goOn id process (.dryOrigin r planned))
  | origin {s : ImportState A} {id process : Nat} {r : DryRunRequest A} {planned : PlannedArchive}
    (hcall : s.calls id = some ⟨process, .dryOrigin r planned⟩)
    (hnone : s.tables.origins (archives.sha256 r.archive) = none) :
    DryRunStep s .other (s.goOn id process (.dryClaim r planned))
  | claimExisting {s : ImportState A} {id process : Nat} {r : DryRunRequest A}
    {planned : PlannedArchive} {jobID : String} {job : ImportJob} {planID : Option String}
    (hcall : s.calls id = some ⟨process, .dryClaim r planned⟩)
    (hjob : s.tables.jobs jobID = some job) (hactor : job.actorID = r.actorID)
    (hkey : job.idempotencyKey = r.idempotencyKey)
    (hdigest : job.archiveDigest = archives.sha256 r.archive)
    (hdestination : job.destination = r.destination)
    (hplan : ∀ x, planID = some x ↔ ∃ plan, s.tables.plans x = some plan ∧
      plan.importJobID = jobID) :
    DryRunStep s .other (s.goOn id process (.dryPlan r planned jobID job planID))
  | claimNew {s : ImportState A} {id process : Nat} {r : DryRunRequest A}
    {planned : PlannedArchive} {jobID : String}
    (hcall : s.calls id = some ⟨process, .dryClaim r planned⟩)
    (hnone : ∀ x job, s.tables.jobs x = some job →
      ¬ (job.actorID = r.actorID ∧ job.idempotencyKey = r.idempotencyKey))
    (hfresh : s.tables.jobs jobID = none) :
    DryRunStep s .other
      ((s.withTables { s.tables with
        jobs := Function.update s.tables.jobs jobID (some (newImportJob archives r)) }).goOn id
          process (.dryPlan r planned jobID (newImportJob archives r) none))
  | reuse {s : ImportState A} {id process : Nat} {r : DryRunRequest A}
    {planned rebound : PlannedArchive} {jobID planID : String} {job : ImportJob} {plan : ImportPlan}
    (hcall : s.calls id = some ⟨process, .dryPlan r planned jobID job (some planID)⟩)
    (hplan : s.tables.plans planID = some plan)
    (hrebound : archives.rebindArchive r.archive plan.remaps r.destination = some rebound)
    (hdigest : rebound.digest = plan.planDigest) :
    DryRunStep s .other (s.goOn id process (.dryStage r rebound jobID job planID false))
  | savePlan {s : ImportState A} {id process : Nat} {r : DryRunRequest A}
    {planned : PlannedArchive} {jobID planID : String} {job row : ImportJob}
    (hcall : s.calls id = some ⟨process, .dryPlan r planned jobID job none⟩)
    (hrow : s.tables.jobs jobID = some row) (hdestination : row.destination = r.destination)
    (hfresh : s.tables.plans planID = none)
    (hunique : ∀ x plan, s.tables.plans x = some plan → plan.importJobID ≠ jobID) :
    DryRunStep s .other
      ((s.withTables { s.tables with
        plans := Function.update s.tables.plans planID
          (some ⟨jobID, planned.digest, planned.remaps⟩) }).goOn id process
            (.dryStage r planned jobID job planID true))
  | stage {s : ImportState A} {id process : Nat} {r : DryRunRequest A} {planned : PlannedArchive}
    {jobID planID : String} {job : ImportJob} {saved : Bool}
    (hcall : s.calls id = some ⟨process, .dryStage r planned jobID job planID saved⟩) :
    DryRunStep s .other
      ((s.withTables { s.tables with
        staged := Function.update s.tables.staged jobID (some r.archive) }).goOn id process
          (if saved ∨ job.jobState = .quarantined then .dryAdvance planned jobID job planID
            else .dryCache planned jobID job planID))
  | advance {s : ImportState A} {id process : Nat} {planned : PlannedArchive}
    {jobID planID : String} {job row : ImportJob}
    (hcall : s.calls id = some ⟨process, .dryAdvance planned jobID job planID⟩)
    (hrow : s.tables.jobs jobID = some row) (hversion : row.lockVersion = job.lockVersion) :
    DryRunStep s (.advanced id jobID job.lockVersion)
      ((s.withTables (s.tables.advanceJob jobID row .planned)).goOn id process
        (.dryCache planned jobID
          { job with jobState := .planned, lockVersion := job.lockVersion + 1 } planID))
  | cache {s : ImportState A} {id process : Nat} {planned : PlannedArchive}
    {jobID planID : String} {job : ImportJob}
    (hcall : s.calls id = some ⟨process, .dryCache planned jobID job planID⟩) :
    DryRunStep s .other
      ((s.cache process planID (cachedImportPlan jobID job planned)).return_ id)

/-- The steps of an `Apply`. -/
inductive ApplyStep : ImportState A → ImportLabel → ImportState A → Prop
  | start {s : ImportState A} (process : Nat) (r : ApplyRequest) :
    ApplyStep s .other (s.start process (.applyResolve r))
  | cached {s : ImportState A} {id process : Nat} {r : ApplyRequest} {cached : CachedImportPlan}
    (hcall : s.calls id = some ⟨process, .applyResolve r⟩)
    (hcached : s.caches process r.planID = some cached) :
    ApplyStep s .other (s.goOn id process (.applyDecide r cached))
  | loadPlan {s : ImportState A} {id process : Nat} {r : ApplyRequest} {plan : ImportPlan}
    (hcall : s.calls id = some ⟨process, .applyResolve r⟩)
    (hcached : s.caches process r.planID = none) (hplan : s.tables.plans r.planID = some plan) :
    ApplyStep s .other (s.goOn id process (.applyJob r plan))
  | loadJob {s : ImportState A} {id process : Nat} {r : ApplyRequest} {plan : ImportPlan}
    {job : ImportJob} {archive : A} {planned : PlannedArchive}
    (hcall : s.calls id = some ⟨process, .applyJob r plan⟩)
    (hjob : s.tables.jobs plan.importJobID = some job)
    (hstaged : s.tables.staged plan.importJobID = some archive)
    (hdigest : archives.sha256 archive = job.archiveDigest)
    (hrebound : archives.rebindArchive archive plan.remaps job.destination = some planned)
    (hplanned : planned.digest = plan.planDigest) :
    ApplyStep s .other
      ((s.cache process r.planID (cachedImportPlan plan.importJobID job planned)).goOn id process
        (.applyDecide r (cachedImportPlan plan.importJobID job planned)))
  | applied {s : ImportState A} {id process : Nat} {r : ApplyRequest} {cached : CachedImportPlan}
    (hcall : s.calls id = some ⟨process, .applyDecide r cached⟩)
    (hactor : cached.actorID = r.actorID) (hstate : cached.jobState = .applied) :
    ApplyStep s .other (s.return_ id)
  | planned {s : ImportState A} {id process : Nat} {r : ApplyRequest} {cached : CachedImportPlan}
    (now : Int) (hcall : s.calls id = some ⟨process, .applyDecide r cached⟩)
    (hactor : cached.actorID = r.actorID) (hstate : cached.jobState = .planned)
    (hexpiry : now < cached.expiresAt) (hversion : r.lockVersion = cached.lockVersion) :
    ApplyStep s .other (s.goOn id process (.applyTombstone r cached))
  | tombstone {s : ImportState A} {id process : Nat} {r : ApplyRequest}
    {cached : CachedImportPlan} (hcall : s.calls id = some ⟨process, .applyTombstone r cached⟩)
    (hnone : s.tables.tombstones cached.archiveDigest = false) :
    ApplyStep s (.checked id cached) (s.goOn id process (.applyOrigin r cached))
  | origin {s : ImportState A} {id process : Nat} {r : ApplyRequest} {cached : CachedImportPlan}
    (hcall : s.calls id = some ⟨process, .applyOrigin r cached⟩)
    (hnone : s.tables.origins cached.archiveDigest = none) :
    ApplyStep s .other (s.goOn id process (.applyRestore r cached))
  | restore {s : ImportState A} {id process : Nat} {r : ApplyRequest} {cached : CachedImportPlan}
    (hcall : s.calls id = some ⟨process, .applyRestore r cached⟩) :
    ApplyStep s (.restored id cached)
      ((s.withTables { s.tables with writes := .restored r.planID :: s.tables.writes }).goOn id
        process (.applyCommit r cached))
  | commit {s : ImportState A} {id process : Nat} {r : ApplyRequest} {cached : CachedImportPlan}
    {job : ImportJob} {first : String} {rest : List String}
    (hcall : s.calls id = some ⟨process, .applyCommit r cached⟩)
    (horigin : s.tables.origins cached.archiveDigest = none)
    (hjob : s.tables.jobs cached.jobID = some job) (hstate : job.jobState = .planned)
    (hactor : job.actorID = r.actorID) (hversion : job.lockVersion = cached.lockVersion)
    (hdocuments : cached.documents = first :: rest) :
    ApplyStep s (.committed id cached)
      ((s.withTables { s.tables.advanceJob cached.jobID job .applied with
        origins := Function.update s.tables.origins cached.archiveDigest (some first)
        writes := .revisions (first :: rest) :: s.tables.writes }).goOn id process
          (.applyCache r cached))
  | cache {s : ImportState A} {id process : Nat} {r : ApplyRequest} {cached : CachedImportPlan}
    (hcall : s.calls id = some ⟨process, .applyCache r cached⟩) :
    ApplyStep s .other
      ((s.cache process r.planID { cached with jobState := .applied }).return_ id)

/-- The steps of the system. A call that fails returns; a crash ends the calls of a process and
empties its cache. -/
inductive ImportStep : ImportState A → ImportLabel → ImportState A → Prop
  | dryRun {s s' : ImportState A} {l : ImportLabel} (h : DryRunStep archives s l s') :
    ImportStep s l s'
  | apply {s s' : ImportState A} {l : ImportLabel} (h : ApplyStep archives s l s') :
    ImportStep s l s'
  | fail {s : ImportState A} (id : Nat) : ImportStep s .other (s.return_ id)
  | crash {s : ImportState A} (process : Nat) :
    ImportStep s .other { s with
      caches := Function.update s.caches process fun _ => none
      calls := fun id => (s.calls id).filter (·.process ≠ process) }
  | purge {s : ImportState A} {db : ImportTables A} (recordID : String)
    (h : Purged recordID s.tables db) : ImportStep s (.purged recordID) (s.withTables db)

def ImportState.empty : ImportState A :=
  ⟨⟨fun _ => none, fun _ => none, fun _ => none, fun _ => none, fun _ => false, []⟩,
    fun _ _ => none, fun _ => none, 0⟩

end Houfeng.Portability
