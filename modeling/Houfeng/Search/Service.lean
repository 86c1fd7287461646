import Houfeng.Search.Query
import Mathlib.Data.Prod.Lex

/-!
# Searching page by page

The published index, the statement that lists its candidates, the loop that reads them through the
authorized read path, and the cursor that binds the next page. Times are in microseconds. The digest
of a query, the transport of a cursor and the database's `lower` are parameters.
-/

namespace Houfeng.Search

open Records

/-! ## The index -/

structure IndexSubject where
  kind : String
  role : String
  sourceID : String
  isPrimary : Bool

/-- A row of `record_search_documents` with its subjects. -/
structure Document where
  recordID : String
  lifecycle : String
  recordType : String
  businessStatus : Option String
  statusGroup : Option String
  ownerID : Option String
  searchText : String
  tags : List String
  participantIDs : List String
  openActionCount : Nat
  nextActionDueAt : Option Int
  occurredAt : Option Int
  followUpAt : Option Int
  updatedAt : Int
  subjects : List IndexSubject

/-- The published generation. The table has one row for a record, with a valid identifier, and
`UnixMicro` can represent its times. -/
structure Index where
  generation : Nat
  documents : List Document
  published : generation ≠ 0
  nodup : (documents.map (·.recordID)).Nodup
  identity : ∀ d ∈ documents, validRecordRootID d.recordID = true
  range : ∀ d ∈ documents, -2 ^ 63 ≤ d.updatedAt ∧ d.updatedAt < 2 ^ 63

/-- The position in the sort order: the update time, then the identifier. -/
abbrev SortKey := Int ×ₗ String

def Document.sortKey (d : Document) : SortKey := toLex (d.updatedAt, d.recordID)

/-! ## The statement -/

/-- No character of the text is a wildcard. -/
def escapeSearchTextPattern (text : String) : List Char :=
  text.toList.flatMap fun c => if c = '\\' ∨ c = '%' ∨ c = '_' then ['\\', c] else [c]

/-- `like … escape '\'`. -/
def like : List Char → List Char → Bool
  | [], text => text.isEmpty
  | '%' :: pattern, [] => like pattern []
  | '%' :: pattern, c :: text => like pattern (c :: text) || like ('%' :: pattern) text
  | '\\' :: p :: pattern, c :: text => p = c && like pattern text
  | '_' :: pattern, _ :: text => like pattern text
  | p :: pattern, c :: text => p = c && like pattern text
  | _ :: _, [] => false
termination_by pattern text => pattern.length + text.length

variable (lower : String → String)

/-- The index text contains the text. -/
def matchesText (text : String) (d : Document) : Bool :=
  text = "" ||
    like ('%' :: (lower (String.ofList (escapeSearchTextPattern text))).toList ++ ['%'])
      d.searchText.toList

/-- `column = any(values)`; a null column matches nothing. -/
def matchesAny (values : List String) (column : Option String) : Bool :=
  values.isEmpty || column.any (· ∈ values)

/-- `column && values`. -/
def matchesOverlap (values column : List String) : Bool :=
  values.isEmpty || column.any (· ∈ values)

def matchesFollowUp (state : String) (now : Int) (d : Document) : Bool :=
  match state with
  | "none" => d.followUpAt.isNone
  | "scheduled" => d.followUpAt.any (now ≤ ·)
  | "overdue" => d.followUpAt.any (· < now)
  | _ => true

/-- `requireSearchActionState`. -/
def matchesAction (state : String) (now : Int) (d : Document) : Bool :=
  match state with
  | "none" => d.openActionCount = 0
  | "open" => 0 < d.openActionCount
  | "overdue" => d.nextActionDueAt.any (· < now)
  | _ => true

/-- `requireSearchTimeRange`. -/
def matchesRange (span : TimeRange) (column : Option Int) : Bool :=
  (span.start.all fun t => column.any (t.instant / 1000 ≤ ·)) &&
    span.stop.all fun t => column.any (· < t.instant / 1000)

def matchesSubject (filter : SubjectFilter) (s : IndexSubject) : Bool :=
  s.kind = filter.kind && (filter.role = "" || s.role = filter.role) &&
    (filter.sourceID = "" || s.sourceID = filter.sourceID) &&
    match filter.placement with
    | "primary" => s.isPrimary
    | "related" => !s.isPrimary
    | _ => true

/-- The filters of `buildRecordSearchCandidateQuery`, with the records under a fenced or committed
deletion reservation. -/
def matchesQuery (q : QueryValues) (now : Int) (reserved : List String) (d : Document) : Bool :=
  matchesText lower q.text d && matchesAny q.lifecycles (some d.lifecycle) &&
    matchesAny q.types (some d.recordType) && matchesAny q.statuses d.businessStatus &&
    matchesAny q.statusGroups d.statusGroup && matchesAny q.ownerIDs d.ownerID &&
    matchesOverlap q.participantIDs d.participantIDs && matchesOverlap q.tags d.tags &&
    matchesFollowUp q.followUp now d && matchesAction q.action now d &&
    matchesRange q.occurred d.occurredAt && matchesRange q.updated (some d.updatedAt) &&
    (q.subjects.isEmpty || q.subjects.any fun f => d.subjects.any (matchesSubject f)) &&
    !decide (d.recordID ∈ reserved)

/-- The key comes behind the position. -/
def after (sort : String) (position key : SortKey) : Prop :=
  if sort = "updated_at_asc" then position < key else key < position

instance (sort : String) (position key : SortKey) : Decidable (after sort position key) := by
  unfold after
  infer_instance

/-- The order of the statement. -/
def ordered (sort : String) (d e : Document) : Bool :=
  if sort = "updated_at_asc" then d.sortKey ≤ e.sortKey else e.sortKey ≤ d.sortKey

/-! ## Candidates -/

inductive ReadError
  | denied
  | recordNotFound
  | recordRevisionConflict
  | recordDeletionReserved
  | other (text : String)

inductive SearchError
  | invalidSearchRequest (text : String)
  | invalidCursor
  | read (e : ReadError)

/-- Errors that hide a candidate; any other fails the search. -/
def skippableSearchCandidateError : ReadError → Bool
  | .denied | .recordNotFound | .recordRevisionConflict | .recordDeletionReserved => true
  | .other _ => false

def candidateBatchSize : Nat := 200
def maxCandidateBatches : Nat := 20

/-- The microseconds of the zero `time.Time`. -/
def zeroMicro : Int := zeroInstant / 1000

/-- A position that can be bound: `validateSortKey` and the check of `page.After`. -/
def validSortKey (key : SortKey) : Bool :=
  (ofLex key).1 ≠ zeroMicro && validRecordRootID (ofLex key).2

/-- The next keys behind the position. -/
def listSearchCandidates (ix : Index) (q : QueryValues) (now : Int) (reserved : List String)
    (position : Option SortKey) (limit : Nat) : Except SearchError (List SortKey) :=
  if position.any (fun key => !validSortKey key) then
    .error (.invalidSearchRequest "candidate position")
  else
    let rows := ((ix.documents.filter fun d => matchesQuery lower q now reserved d &&
      position.all fun key => after q.sort key d.sortKey).mergeSort (ordered q.sort)).take limit
    if rows.all fun d => validSortKey d.sortKey then .ok (rows.map Document.sortKey)
    else .error (.invalidSearchRequest "candidate row")

/-! ## Pages -/

/-- What a cursor is bound to, and its position. -/
structure CursorEnvelope where
  version : Nat
  queryDigest : String
  actorDigest : String
  generation : Nat
  expiresAt : Int
  updatedAt : Int
  recordID : String

/-- The transport of a cursor: JSON in base64. -/
structure Transport (τ : Type) where
  encode : CursorEnvelope → τ
  decode : τ → Option CursorEnvelope
  decode_encode : ∀ e, decode (encode e) = some e

structure Page (τ ρ : Type) where
  records : List ρ
  nextCursor : Option τ

section

variable {τ ρ : Type}

/-- What a sequence of pages shares. -/
structure Setting (τ ρ : Type) where
  lower : String → String
  digest : Framing.Bytes → String
  transport : Transport τ
  index : Index
  reserved : List String
  reader : String → Except ReadError ρ
  query : Query
  actorDigest : String
  cursorTTL : Int

/-- The expiry is a time of the server and not the zero time. -/
def encodeCursor (s : Setting τ ρ) (expiresAt : Int) (key : SortKey) : Except SearchError τ :=
  if validSortKey key = false ∨ expiresAt = zeroMicro then .error .invalidCursor
  else .ok (s.transport.encode
    { version := 1
      queryDigest := s.digest s.query.canonicalBytes
      actorDigest := s.actorDigest
      generation := s.index.generation
      expiresAt
      updatedAt := (ofLex key).1
      recordID := (ofLex key).2 })

/-- The position of a cursor of this query, reader and generation. -/
def bindCursor (s : Setting τ ρ) (now : Int) (token : τ) : Except SearchError SortKey :=
  match s.transport.decode token with
  | none => .error .invalidCursor
  | some e =>
    if e.version ≠ 1 ∨ e.generation ≠ s.index.generation ∨
        e.queryDigest ≠ s.digest s.query.canonicalBytes ∨ e.actorDigest ≠ s.actorDigest then
      .error .invalidCursor
    else if e.expiresAt = 0 ∨ e.updatedAt = 0 then .error .invalidCursor
    else if ¬ now < e.expiresAt then .error .invalidCursor
    else if validSortKey (toLex (e.updatedAt, e.recordID)) = false then .error .invalidCursor
    else .ok (toLex (e.updatedAt, e.recordID))

/-- Reads the candidates until one more than a page is found. -/
def hydrate (reader : String → Except ReadError ρ) (pageSize : Nat) :
    List SortKey → List (SortKey × ρ) → Except SearchError (List (SortKey × ρ))
  | [], matched => .ok matched
  | c :: cs, matched =>
    match reader (ofLex c).2 with
    | .error e => if skippableSearchCandidateError e then hydrate reader pageSize cs matched
      else .error (.read e)
    | .ok record =>
      if pageSize < matched.length + 1 then .ok (matched ++ [(c, record)])
      else hydrate reader pageSize cs (matched ++ [(c, record)])

/-- The loop of `Search`, with the batches that are left. -/
def readAhead (s : Setting τ ρ) (now : Int) :
    Nat → Option SortKey → List (SortKey × ρ) → Except SearchError (List (SortKey × ρ))
  | 0, _, matched => .ok matched
  | batches + 1, position, matched =>
    if s.query.values.pageSize < matched.length then .ok matched
    else do
      let candidates ← listSearchCandidates s.lower s.index s.query.values now s.reserved position
        candidateBatchSize
      match candidates.getLast? with
      | none => .ok matched
      | some last =>
        let matched ← hydrate s.reader s.query.values.pageSize candidates matched
        if candidates.length < candidateBatchSize then .ok matched
        else readAhead s now batches (some last) matched

def startPosition (s : Setting τ ρ) (now : Int) : Option τ → Except SearchError (Option SortKey)
  | none => .ok none
  | some token => (bindCursor s now token).map some

/-- A further record gives a cursor. -/
def finishPage (s : Setting τ ρ) (now : Int) (matched : List (SortKey × ρ)) :
    Except SearchError (Page τ ρ) :=
  if s.query.values.pageSize < matched.length then
    match (matched.take s.query.values.pageSize).getLast? with
    | none => .error (.invalidSearchRequest "page size")
    | some last => do
      let token ← encodeCursor s (now + s.cursorTTL) last.1
      .ok ⟨(matched.take s.query.values.pageSize).map (·.2), some token⟩
  else .ok ⟨matched.map (·.2), none⟩

/-- One page. -/
def search (s : Setting τ ρ) (now : Int) (cursor : Option τ) : Except SearchError (Page τ ρ) := do
  let position ← startPosition s now cursor
  let matched ← readAhead s now maxCandidateBatches position []
  finishPage s now matched

/-- The pages from a cursor on, asked for one after the other at the times of the clock. -/
inductive Pages (s : Setting τ ρ) (clock : Nat → Int) : Nat → Option τ → List (Page τ ρ) → Prop
  | last {i : Nat} {cursor : Option τ} {page : Page τ ρ} (h : search s (clock i) cursor = .ok page)
      (hnone : page.nextCursor = none) : Pages s clock i cursor [page]
  | next {i : Nat} {cursor : Option τ} {page : Page τ ρ} {token : τ} {pages : List (Page τ ρ)}
      (h : search s (clock i) cursor = .ok page) (hsome : page.nextCursor = some token)
      (hrest : Pages s clock (i + 1) (some token) pages) : Pages s clock i cursor (page :: pages)

end

end Houfeng.Search
