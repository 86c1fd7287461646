import Houfeng.Records.Registry
import Mathlib.Algebra.Ring.Int.Defs
import Mathlib.Data.List.Dedup

/-!
# Publishing activity

The tables of one projection generation and the transaction that publishes a batch of candidates
into it: classification, numbering and the intervals in which a revision is current. Times are
nanoseconds in a candidate and microseconds in a row.
-/

namespace Houfeng.Activity

open Records

/-! ## Tables -/

structure SubjectSnapshot where
  kind : String
  sourceID : String
  role : String
  primary : Bool
deriving DecidableEq

/-- A time whose microseconds are an `int64`, as `UnixMicro` requires. -/
def representable (t : Int) : Prop := -2 ^ 63 ≤ t / 1000 ∧ t / 1000 < 2 ^ 63

instance (t : Int) : Decidable (representable t) := by
  unfold representable
  infer_instance

/-- `CandidateEvent`. What is only shown is in `content`. -/
structure CandidateEvent where
  activityID : String
  sourceKind : String
  sourceEventID : String
  sourceVersion : Nat
  eventKind : String
  eventAt : Int
  recordedAt : Int
  subjects : List SubjectSnapshot
  recordID : String
  revisionID : String
  revisionNo : Nat
  opensRevision : Bool
  authScopeDigest : String
  canonicalHash : String
  content : String
  eventRange : representable eventAt
  recordedRange : representable recordedAt
deriving DecidableEq

/-- A row of `record_activity_projection` with its rows of `record_activity_subjects`. The tables do
not keep `opensRevision` and `revisionNo`. -/
structure Row where
  ingestSequence : Nat
  event : CandidateEvent
deriving DecidableEq

namespace Row

variable (r : Row)

def activityID : String := r.event.activityID
def recordID : String := r.event.recordID
def eventAt : Int := r.event.eventAt / 1000
def recordedAt : Int := r.event.recordedAt / 1000

end Row

/-- The sequences at which a revision was the current one. -/
structure Interval where
  recordID : String
  revisionID : String
  revisionNo : Nat
  validFrom : Nat
  validTo : Option Nat
deriving DecidableEq

/-- The tables: the active head with its rows, and the rows of the generations before. -/
structure Projection where
  generation : Nat
  published : Nat
  allocated : Nat
  rows : List Row
  intervals : List Interval
  retired : List Row
deriving DecidableEq

/-! ## Inserting -/

inductive PublishError
  | generationInactive
  | sourceHashMismatch (activityID : String)
  | revisionIntervalConflict (activityID revisionID : String)
  | recordFenced (recordID : String)
  | insertActivity (activityID : String)
  | insertSubject (activityID : String)
  | closeInterval (recordID : String)
  | openInterval (revisionID : String)
deriving DecidableEq

/-- What else a transaction meets: the records under a fenced or committed deletion reservation, and
the checks of the columns that are only shown. -/
structure Conditions where
  fenced : List String
  columns : CandidateEvent → Bool

def CandidateEvent.sourceKey (c : CandidateEvent) : String × String × Nat × String :=
  (c.sourceKind, c.sourceEventID, c.sourceVersion, c.eventKind)

def SubjectSnapshot.relation (s : SubjectSnapshot) : String × String × String :=
  (s.kind, s.sourceID, s.role)

/-- Fails for a fenced record and under the constraints of the tables. -/
def insertActivityRow (w : Conditions) (db : Projection) (sequence : Nat) (c : CandidateEvent) :
    Except PublishError Projection :=
  if c.recordID ≠ "" ∧ c.recordID ∈ w.fenced then .error (.recordFenced c.recordID)
  else if w.columns c = false ∨ (c.revisionID ≠ "" ∧ c.recordID = "") ∨
      c.activityID ∈ (db.rows ++ db.retired).map (·.activityID) ∨
      c.sourceKey ∈ (db.rows ++ db.retired).map (·.event.sourceKey) ∨
      sequence ∈ db.rows.map (·.ingestSequence) then .error (.insertActivity c.activityID)
  else if ¬ (c.subjects.map (·.relation)).Nodup then .error (.insertSubject c.activityID)
  else .ok { db with rows := db.rows ++ [⟨sequence, c⟩] }

def insertInterval (db : Projection) (sequence : Nat) (c : CandidateEvent) :
    Except PublishError Projection :=
  if validRecordRootID c.recordID = false ∨ wordIdentity "rrv_" c.revisionID = false ∨
      c.revisionNo = 0 ∨ 2 ^ 63 ≤ c.revisionNo ∨
      (c.recordID, c.revisionID) ∈ db.intervals.map (fun i => (i.recordID, i.revisionID)) then
    .error (.openInterval c.revisionID)
  else .ok { db with
    intervals := db.intervals ++ [⟨c.recordID, c.revisionID, c.revisionNo, sequence, none⟩] }

def Interval.openFor (recordID : String) (i : Interval) : Bool :=
  i.recordID = recordID && i.validTo.isNone

def Interval.closeAt (recordID : String) (sequence : Nat) (i : Interval) : Interval :=
  if i.openFor recordID then { i with validTo := some sequence } else i

/-- Closes the interval of the revision before; an older revision opens none. -/
def openRevisionInterval (db : Projection) (sequence : Nat) (c : CandidateEvent) :
    Except PublishError (Projection × Bool) :=
  match db.intervals.find? (·.openFor c.recordID) with
  | none => (insertInterval db sequence c).map (·, true)
  | some i =>
    if i.revisionID = c.revisionID then
      .error (.revisionIntervalConflict c.activityID c.revisionID)
    else if c.revisionNo ≤ i.revisionNo then .ok (db, false)
    else if sequence ≤ i.validFrom then .error (.closeInterval c.recordID)
    else (insertInterval
      { db with intervals := db.intervals.map (·.closeAt c.recordID sequence) } sequence c).map
        (·, true)

/-! ## The transaction -/

/-- `loadExistingActivityHashes`. -/
def existingHash (db : Projection) (activityID : String) : Option String :=
  ((db.rows ++ db.retired).find? (·.activityID = activityID)).map (·.event.canonicalHash)

/-- The candidates that are not stored yet, and how many are. -/
def classify (db : Projection) : List String → List CandidateEvent →
    Except PublishError (List CandidateEvent × Nat)
  | _, [] => .ok ([], 0)
  | seen, c :: cs =>
    if c.activityID ∈ seen then classify db seen cs
    else
      match existingHash db c.activityID with
      | none => do
        let (missing, present) ← classify db (c.activityID :: seen) cs
        .ok (c :: missing, present)
      | some hash =>
        if hash ≠ c.canonicalHash then .error (.sourceHashMismatch c.activityID)
        else do
          let (missing, present) ← classify db (c.activityID :: seen) cs
          .ok (missing, present + 1)

def CandidateEvent.businessOrder (c d : CandidateEvent) : Bool :=
  if c.eventAt ≠ d.eventAt then c.eventAt < d.eventAt
  else if c.recordedAt ≠ d.recordedAt then c.recordedAt < d.recordedAt
  else if c.sourceKind ≠ d.sourceKind then c.sourceKind < d.sourceKind
  else c.activityID ≤ d.activityID

/-- Stores a candidate and opens its revision. -/
def publishOne (w : Conditions) (db : Projection) (sequence : Nat) (c : CandidateEvent) :
    Except PublishError (Projection × Bool) := do
  let db ← insertActivityRow w db sequence c
  if c.opensRevision then openRevisionInterval db sequence c else .ok (db, true)

/-- Stores the candidates under consecutive sequences. -/
def publishMissing (w : Conditions) : Projection → Nat → List CandidateEvent →
    Except PublishError (Projection × Nat)
  | db, _, [] => .ok (db, 0)
  | db, sequence, c :: cs => do
    let (db, opened) ← publishOne w db sequence c
    let (db, superseded) ← publishMissing w db (sequence + 1) cs
    .ok (db, if opened then superseded else superseded + 1)

structure ActivityPublishResult where
  inserted : Nat
  alreadyPresent : Nat
  assignedFrom : Nat
  assignedThrough : Nat
  publishedThrough : Nat
  supersededRevisions : Nat
deriving DecidableEq

/-- `publishActivityBatchInTx`, with the head locked. -/
def publishActivityBatchInTx (w : Conditions) (db : Projection) (generation : Nat)
    (candidates : List CandidateEvent) : Except PublishError (Projection × ActivityPublishResult) :=
  if generation = 0 ∨ generation ≠ db.generation then .error .generationInactive
  else do
    let (missing, present) ← classify db [] candidates
    if missing.isEmpty then .ok (db, ⟨0, present, 0, 0, db.published, 0⟩)
    else do
      let (after, superseded) ← publishMissing w db (db.published + 1)
        (missing.mergeSort CandidateEvent.businessOrder)
      let through := db.published + missing.length
      .ok ({ after with published := through, allocated := max after.allocated through },
        ⟨missing.length, present, db.published + 1, through, through, superseded⟩)

end Houfeng.Activity
