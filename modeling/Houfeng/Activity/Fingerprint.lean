import Houfeng.Center.Syncing
import Houfeng.Foundation.Fallible
import Houfeng.Foundation.Framing

/-!
# Fingerprints of activity candidates

The canonical hash of a candidate and the relation hash of one of its subjects, with the check that
a candidate passes before it is published. Times are in microseconds; the registered kinds and the
derivation of activity ids are `Rules`.
-/

namespace Houfeng.Activity.Fingerprint

open Framing

structure SubjectSnapshot where
  kind : String
  sourceID : String
  role : String
  primary : Bool
  identity : AgentApi.StringMap
  liveRoute : String
  tombstoned : Bool

structure SourceIdentity where
  kind : String
  eventID : String
  version : UInt64

structure ActorSnapshot where
  actorID : String
  displayName : String

structure Presentation where
  version : UInt64
  title : String
  summary : String

/-- `CandidateEvent` without the hash it claims. Of the authorization scope only the visibility is
stored, and only as a digest: `visibility` is its canonical encoding (`CanonicalBytes`). -/
structure CandidateEvent where
  activityID : String
  source : SourceIdentity
  eventKind : String
  eventAt : Int64
  recordedAt : Int64
  backfilled : Bool
  actor : Option ActorSnapshot
  subjects : List SubjectSnapshot
  presentation : Presentation
  corrects : String
  severity : String
  recordID : String
  revisionID : String
  evidenceID : String
  revisionNo : UInt64
  opensRevision : Bool
  visibility : Bytes

/-! ## Hashes -/

abbrev Hash := Bytes → Vector UInt8 32

def utf8 (s : String) : Bytes := s.toByteArray.data.toList

def subjectSnapshotBytes (s : SubjectSnapshot) : Bytes :=
  parts [.text s.kind, .text s.sourceID, .text s.role, .text s.liveRoute, .flag s.primary,
    .flag s.tombstoned, .word (.ofNat s.identity.entries.length)] ++
  s.identity.entries.flatMap fun e => parts [.text e.1, .text e.2]

def actorParts : Option ActorSnapshot → List Part
  | some actor => [.text actor.actorID, .text actor.displayName]
  | none => [.word 0]

def canonicalParts (c : CandidateEvent) : List Part :=
  [.text c.activityID, .text c.source.kind, .text c.source.eventID, .word c.source.version,
    .text c.eventKind, .word c.eventAt.toUInt64, .word c.recordedAt.toUInt64, .text c.recordID,
    .text c.revisionID, .word c.revisionNo, .flag c.opensRevision, .text c.evidenceID,
    .text c.corrects, .text c.severity, .flag c.backfilled]

def presentationParts (c : CandidateEvent) : List Part :=
  [.word c.presentation.version, .text c.presentation.title, .text c.presentation.summary,
    .word (.ofNat c.subjects.length)]

/-- What the canonical hash is taken of. -/
def canonicalBytes (hash : Hash) (c : CandidateEvent) : Bytes :=
  utf8 "houfeng.record-activity.canonical.v1" ++ (parts (canonicalParts c) ++
    (parts (actorParts c.actor) ++ (parts (presentationParts c) ++
      c.subjects.flatMap fun s => (hash (subjectSnapshotBytes s)).toList)))

def computeCanonicalHash (hash : Hash) (c : CandidateEvent) : Vector UInt8 32 :=
  hash (canonicalBytes hash c)

def relationParts (c : CandidateEvent) : List Part :=
  [.text c.activityID, .text c.eventKind, .text c.source.kind, .word c.eventAt.toUInt64,
    .word c.recordedAt.toUInt64, .text c.recordID, .text c.revisionID, .text c.evidenceID]

/-- What the hash of a relation is taken of. -/
def relationBytes (hash : Hash) (c : CandidateEvent) (s : SubjectSnapshot) : Bytes :=
  utf8 "houfeng.record-activity.relation.v1" ++
    (parts (relationParts c) ++ (hash (subjectSnapshotBytes s)).toList)

def relationHash (hash : Hash) (c : CandidateEvent) (s : SubjectSnapshot) : Vector UInt8 32 :=
  hash (relationBytes hash c s)

def authScopeDigest (hash : Hash) (c : CandidateEvent) : Vector UInt8 32 :=
  hash c.visibility

/-- The columns of `record_activity_subjects` that `insertActivityRow` takes from a candidate and one
of its subjects, without the hash and the order of the relation. -/
structure RelationRow where
  activityID : String
  subject : SubjectSnapshot
  eventKind : String
  sourceKind : String
  eventAt : Int64
  recordedAt : Int64
  recordID : String
  revisionID : String
  evidenceID : String
  authScopeDigest : Vector UInt8 32

def relationRow (hash : Hash) (c : CandidateEvent) (s : SubjectSnapshot) : RelationRow where
  activityID := c.activityID
  subject := s
  eventKind := c.eventKind
  sourceKind := c.source.kind
  eventAt := c.eventAt
  recordedAt := c.recordedAt
  recordID := c.recordID
  revisionID := c.revisionID
  evidenceID := c.evidenceID
  authScopeDigest := authScopeDigest hash c

/-! ## The check of a candidate -/

/-- The checks that are parameters here. -/
structure Rules where
  validSourceIdentity : SourceIdentity → Bool
  validEventKind : String → Bool
  validSubject : SubjectSnapshot → Bool
  newActivityID : SourceIdentity → String → Option String

inductive CandidateError
  | foreignSourceCandidate
  | invalidSourceIdentity
  | invalidEventKind
  | invalidPresentation
  | invalidEventTime
  | candidateOutsideWindow
  | unreachableCandidate
  | incompleteRevisionClaim
  | undeterminedActivityID
  | candidateHashMismatch

/-- Go's zero time. -/
def zeroTime : Int64 := -62135596800000000

/-- A bound at the zero time is none. -/
structure ScanWindow where
  start : Int64
  through : Int64
  afterEventID : String

/-- The candidate lies in the window, behind its last event. -/
def ScanWindow.contains (w : ScanWindow) (c : CandidateEvent) : Prop :=
  (w.through = zeroTime ∨ c.recordedAt ≤ w.through) ∧
    (w.start = zeroTime ∨ w.start ≤ c.recordedAt ∧
      (c.recordedAt ≤ w.start → w.afterEventID = "" ∨ w.afterEventID < c.source.eventID))

instance (w : ScanWindow) (c : CandidateEvent) : Decidable (w.contains c) := by
  unfold ScanWindow.contains
  infer_instance

def Presentation.valid (p : Presentation) : Bool :=
  p.version = 1 && Center.trimSpace p.title ≠ "" && (Center.trimSpace p.title).length ≤ 256 &&
    p.summary.length ≤ 512

/-- All checks of a candidate; its hash is computed again. -/
def validateCandidate (rules : Rules) (hash : Hash) (kind : String) (window : ScanWindow)
    (c : CandidateEvent) (canonicalHash : Vector UInt8 32) : Except CandidateError Unit := do
  ensure (c.source.kind = kind) .foreignSourceCandidate
  ensure (rules.validSourceIdentity c.source = true) .invalidSourceIdentity
  ensure (rules.validEventKind c.eventKind = true) .invalidEventKind
  ensure (c.presentation.valid = true) .invalidPresentation
  ensure (c.eventAt ≠ zeroTime ∧ c.recordedAt ≠ zeroTime) .invalidEventTime
  ensure (window.contains c) .candidateOutsideWindow
  ensure (c.subjects ≠ [] ∧ c.subjects.all rules.validSubject = true) .unreachableCandidate
  ensure (c.opensRevision = true → c.recordID ≠ "" ∧ c.revisionID ≠ "" ∧ c.revisionNo ≠ 0)
    .incompleteRevisionClaim
  ensure (rules.newActivityID c.source c.eventKind = some c.activityID) .undeterminedActivityID
  ensure (canonicalHash = computeCanonicalHash hash c) .candidateHashMismatch

end Houfeng.Activity.Fingerprint
