import Houfeng.Activity.Projection
import Houfeng.Foundation.Keyset
import Houfeng.Foundation.Runs
import Mathlib.Data.Prod.Lex

/-!
# Activity pages

The statement that lists a subject's activity at a fixed watermark, the cursor that carries the
watermark and the position, and a reader who follows the cursors while batches are published. The
digests of query and actor and the sealing of a cursor are parameters.
-/

namespace Houfeng.Activity

open Records

/-! ## The statement -/

inductive View
  | activity
  | records
  | evidence

inductive VersionScope
  | history
  | current

/-- A normalized `Query`; its bounds are microseconds. -/
structure Query where
  subjectKind : String
  subjectSourceID : String
  view : View
  sources : List String
  eventKinds : List String
  start : Option Int
  stop : Option Int
  versions : VersionScope
  limit : Nat
  limited : 1 ≤ limit ∧ limit ≤ 100

def recordsViewEventKinds : List String :=
  ["record_created", "record_revised", "record_restored", "record_archived", "record_unarchived",
    "record_owner_changed", "record_participant_changed", "record_follow_up_changed"]

variable (db : Projection) (q : Query)

/-- `viewEventKinds`; `none` leaves the kinds open. -/
def Query.viewEventKinds : Option (List String) :=
  match q.view with
  | .records => some recordsViewEventKinds
  | .evidence => some ["evidence_captured"]
  | .activity => none

/-- The requested kinds, within the view. -/
def Query.resolvedEventKinds : Option (List String) :=
  if q.eventKinds.isEmpty then q.viewEventKinds
  else match q.viewEventKinds with
    | none => some q.eventKinds
    | some kinds => some (q.eventKinds.filter (· ∈ kinds))

/-- `AuthFilter`: `none` is unrestricted. -/
abbrev AuthFilter := Option (List String)

variable (auth : AuthFilter)

/-- The predicates on an event's own columns: the authorization digest and the view. -/
def matchesEvent (r : Row) : Bool :=
  auth.all (r.event.authScopeDigest ∈ ·) && q.resolvedEventKinds.all (r.event.eventKind ∈ ·) &&
    (q.sources.isEmpty || r.event.sourceKind ∈ q.sources) && q.start.all (· ≤ r.eventAt) &&
    q.stop.all (r.eventAt ≤ ·)

def matchesSubject (s : SubjectSnapshot) : Bool :=
  s.kind = q.subjectKind && s.sourceID = q.subjectSourceID

variable (asOf : Nat)

/-- The columns of `record_activity_subjects` (migration 0057). -/
def subjectColumns : List String :=
  ["activity_id", "subject_kind", "subject_source_id", "relation_role", "is_primary",
    "relation_order", "identity_snapshot", "live_route", "tombstoned", "projection_generation",
    "ingest_sequence", "event_kind", "source_kind", "event_at", "recorded_at", "record_id",
    "revision_id", "evidence_snapshot_id", "auth_scope_digest", "relation_hash", "created_at"]

/-- The columns of the relation `s` that the condition on versions reads. -/
def Query.versionColumns : List String :=
  match q.versions with
  | .history => []
  | .current => ["revision_id", "project_id", "projection_generation", "record_id"]

/-- The order of the timeline: newest event first, then newest recorded, then source kind and
identifier. -/
abbrev SortKey := Intᵒᵈ ×ₗ Intᵒᵈ ×ₗ String ×ₗ String

def SortKey.mk (eventAt recordedAt : Int) (sourceKind activityID : String) : SortKey :=
  toLex (OrderDual.toDual eventAt, toLex (OrderDual.toDual recordedAt, toLex (sourceKind, activityID)))

def Row.sortKey (r : Row) : SortKey :=
  .mk r.eventAt r.recordedAt r.event.sourceKind r.activityID

/-- The row comes behind the position. -/
def keysetAfter (position : SortKey) (r : Row) : Bool :=
  let eventAt := OrderDual.ofDual (ofLex position).1
  let recordedAt := OrderDual.ofDual (ofLex (ofLex position).2).1
  let sourceKind := (ofLex (ofLex (ofLex position).2).2).1
  let activityID := (ofLex (ofLex (ofLex position).2).2).2
  r.eventAt < eventAt || (r.eventAt = eventAt && r.recordedAt < recordedAt) ||
    (r.eventAt = eventAt && r.recordedAt = recordedAt && sourceKind < r.event.sourceKind) ||
    (r.eventAt = eventAt && r.recordedAt = recordedAt && r.event.sourceKind = sourceKind &&
      activityID < r.activityID)

/-- Every event with each of its subjects. -/
def Projection.relations : List (Row × SubjectSnapshot) :=
  db.rows.flatMap fun r => r.event.subjects.map (r, ·)

/-- The events that `buildSubjectActivityCandidateQuery` selects, each once (`distinct on`), for a
query without a condition on versions. -/
def matched (position : Option SortKey) : List Row :=
  ((db.relations.filter fun (r, s) => matchesSubject q s && matchesEvent q auth r &&
      (1 ≤ r.ingestSequence && r.ingestSequence ≤ asOf) &&
      position.all (keysetAfter · r)).map (·.1)).dedup

inductive ListError
  | cursorInvalid
  | cursorExpired
  | invalidCursor
  | subjectNotFound
  | undefinedColumn (column : String)
deriving DecidableEq

/-- The statement of a page. The database refuses one that reads a column the relation lacks. -/
def listCandidates (position : Option SortKey) (limit : Nat) : Except ListError (List String) :=
  match q.versionColumns.find? (· ∉ subjectColumns) with
  | some column => .error (.undefinedColumn column)
  | none =>
    .ok (((Keyset.sorted Row.sortKey (matched db q auth asOf position)).take limit).map
      (·.activityID))

/-- The rows of the identifiers. -/
def loadActivityEvents (ids : List String) : List Row :=
  ids.filterMap fun id => db.rows.find? (·.activityID = id)

/-! ## Cursors -/

/-- What a cursor is bound to, its watermark and its position. -/
structure CursorEnvelope where
  version : Nat
  queryDigest : String
  actorDigest : String
  generation : Nat
  asOf : Nat
  expiresAt : Int
  eventAt : Int
  recordedAt : Int
  sourceKind : String
  activityID : String

/-- The sealing of a cursor: JSON, padded to its bucket when it fits, encrypted and authenticated. -/
structure Sealing (τ : Type) where
  encrypt : CursorEnvelope → Option τ
  decrypt : τ → Option CursorEnvelope
  decrypt_encrypt : ∀ e t, encrypt e = some t → decrypt t = some e

/-- The microseconds of the zero `time.Time`. -/
def zeroMicro : Int := -62135596800000000

/-- `UnixMicro` in an `int64`. -/
def unixMicro (t : Int) : Int := (t + 2 ^ 63) % 2 ^ 64 - 2 ^ 63

def sourceKinds : List String :=
  ["record_domain", "evidence_snapshot", "asset_history", "monitoring_event", "command_audit"]

/-- `validateSortKey` of a position that is not empty. -/
def validPosition (eventAt recordedAt : Int) (sourceKind activityID : String) : Bool :=
  eventAt ≠ zeroMicro && recordedAt ≠ zeroMicro && sourceKind ∈ sourceKinds &&
    wordIdentity "act_" activityID

/-- What the pages of a reader share. -/
structure Setting (τ : Type) where
  sealing : Sealing τ
  query : Query
  queryDigest : String
  actorDigest : String
  auth : AuthFilter
  cursorTTL : Int

variable {τ : Type} (s : Setting τ) (generation : Nat)

/-- The cursor behind the last row of a page. -/
def encodeCursor (asOf : Nat) (expiresAt : Int) (last : Row) : Except ListError τ :=
  if generation = 0 ∨ expiresAt = zeroMicro ∨
      validPosition last.eventAt last.recordedAt last.event.sourceKind last.activityID = false then
    .error .invalidCursor
  else
    match s.sealing.encrypt
      { version := 1
        queryDigest := s.queryDigest
        actorDigest := s.actorDigest
        generation
        asOf
        expiresAt := unixMicro expiresAt
        eventAt := unixMicro last.eventAt
        recordedAt := unixMicro last.recordedAt
        sourceKind := last.event.sourceKind
        activityID := last.activityID } with
    | none => .error .invalidCursor
    | some token => .ok token

/-- The watermark and the position, which a token of the watermark alone does not have. -/
def bindCursor (now : Int) (token : τ) : Except ListError (Nat × Option SortKey) :=
  match s.sealing.decrypt token with
  | none => .error .cursorInvalid
  | some e =>
    if e.version ≠ 1 then .error .cursorExpired
    else if e.queryDigest ≠ s.queryDigest ∨ e.actorDigest ≠ s.actorDigest then .error .cursorInvalid
    else if e.generation ≠ generation then .error .cursorExpired
    else if e.expiresAt = 0 then .error .cursorInvalid
    else if ¬ now < e.expiresAt then .error .cursorExpired
    else if e.eventAt ≠ 0 ∨ e.recordedAt ≠ 0 ∨ e.sourceKind ≠ "" ∨ e.activityID ≠ "" then
      if validPosition e.eventAt e.recordedAt e.sourceKind e.activityID = false then
        .error .cursorInvalid
      else .ok (e.asOf, some (.mk e.eventAt e.recordedAt e.sourceKind e.activityID))
    else .ok (e.asOf, none)

/-! ## The service, statement by statement -/

/-- The head and the cursor: where a page is read. -/
def startPage (db : Projection) (now : Int) : Option τ → Except ListError (Nat × Option SortKey)
  | none => .ok (db.published, none)
  | some token => bindCursor s db.generation now token

/-- `resolveSubjectPresence`. -/
def subjectKnown : Bool :=
  db.relations.any fun (r, s) => matchesSubject q s && auth.all (r.event.authScopeDigest ∈ ·) &&
    (1 ≤ r.ingestSequence && r.ingestSequence ≤ asOf)

/-- A further event gives a cursor. -/
def finishPage (asOf : Nat) (now : Int) (events : List Row) :
    Except ListError (List Row × Option τ) :=
  if s.query.limit < events.length then
    match (events.take s.query.limit).getLast? with
    | none => .error .invalidCursor
    | some last => do
      let token ← encodeCursor s generation asOf (now + s.cursorTTL) last
      .ok (events.take s.query.limit, some token)
  else .ok (events, none)

/-! ## A reader among publishers -/

/-- Where the reader is: about to ask for a page, with the head and the cursor read, with the
identifiers listed, or at the end. -/
inductive Phase (τ : Type)
  | asking (cursor : Option τ)
  | started (asOf : Nat) (position : Option SortKey)
  | listed (asOf : Nat) (position : Option SortKey) (ids : List String)
  | done (asOf : Nat)

/-- Without a cursor the reader is done. -/
def nextPhase (asOf : Nat) : Option τ → Phase τ
  | none => .done asOf
  | some token => .asking (some token)

/-- The committed tables, what the transaction that holds the head's lock will commit, and the reader
with the pages it has got. -/
structure System (τ : Type) where
  db : Projection
  locked : Option Projection
  phase : Phase τ
  pages : List (List Row)

/-- Steps of a publisher and of the reader. -/
inductive Label
  | lock (w : Conditions) (generation : Nat) (candidates : List CandidateEvent)
  | commit
  | rollback
  | start (now : Int)
  | list (live : Bool)
  | load (now : Int)

/-- A publisher that gets the lock runs its transaction on the committed tables and keeps the lock
until it commits or rolls back; the statements of the reader see what is committed. A call of the
reader that fails changes nothing: it may ask again. -/
inductive Step (s : Setting τ) : System τ → Label → System τ → Prop
  | lock {sys : System τ} {w : Conditions} {generation : Nat} {candidates : List CandidateEvent}
      {db : Projection} {result : ActivityPublishResult} (hfree : sys.locked = none)
      (h : publishActivityBatchInTx w sys.db generation candidates = .ok (db, result)) :
      Step s sys (.lock w generation candidates) { sys with locked := some db }
  | commit {sys : System τ} {db : Projection} (h : sys.locked = some db) :
      Step s sys .commit { sys with db, locked := none }
  | rollback {sys : System τ} : Step s sys .rollback { sys with locked := none }
  | start {sys : System τ} {cursor : Option τ} {now : Int} {asOf : Nat} {position : Option SortKey}
      (hphase : sys.phase = .asking cursor)
      (h : startPage s sys.db now cursor = .ok (asOf, position)) :
      Step s sys (.start now) { sys with phase := .started asOf position }
  | list {sys : System τ} {asOf : Nat} {position : Option SortKey} {live : Bool} {ids : List String}
      (hphase : sys.phase = .started asOf position)
      (h : live = true ∨ subjectKnown sys.db s.query s.auth asOf = true)
      (hids : listCandidates sys.db s.query s.auth asOf position (s.query.limit + 1) = .ok ids) :
      Step s sys (.list live) { sys with phase := .listed asOf position ids }
  | load {sys : System τ} {asOf : Nat} {position : Option SortKey} {ids : List String} {now : Int}
      {page : List Row} {next : Option τ} (hphase : sys.phase = .listed asOf position ids)
      (h : finishPage s sys.db.generation asOf now (loadActivityEvents sys.db ids) =
        .ok (page, next)) :
      Step s sys (.load now) { sys with
        phase := nextPhase asOf next
        pages := sys.pages ++ [page] }

/-- A new generation, with the rows of the ones before, and a reader who has not asked yet. -/
def System.initial (retired : List Row) : System τ :=
  ⟨⟨generation, 0, 0, [], [], retired⟩, none, .asking none, []⟩

end Houfeng.Activity
