import Houfeng.Foundation.Fallible
import Houfeng.Foundation.Keyset
import Houfeng.Foundation.Runs
import Houfeng.RecordPlatform.ContentFence
import Mathlib.Data.Prod.Lex
import Mathlib.Data.String.Basic

/-!
# Collaboration rows and the deletion fence of their record

The comments, actions, followers and search documents of one record, with the statements that read
them and those that edit a comment or an action. Every row carries the delivery epoch it was written
at, and most statements compare it with the epoch of the record. An abandoned deletion is previewed,
fenced, claimed and finalized as not committed; it touches only the rows of the fence.

Membership, authorization, the decoding of a render model and the checks of a row are parameters;
none depends on the epoch. The other rows that an edit writes are left out.
-/

namespace Houfeng.Collaboration

open RecordPlatform

inductive CollaborationError
  | recordDeletionReserved
  | recordRevisionConflict
  | denied
  | membershipDenied
  | commentConflict
  | commentNotFound
  | commentPolicyDenied
  | actionConflict
  | actionNotFound
  | invalidActionStateTransition
  | invalidActionFields
  | watchConflict
  | database

/-! ## Rows -/

inductive Lifecycle
  | active
  | archived
deriving DecidableEq

structure Root where
  currentRevisionID : Option String
  lockVersion : Nat
  authorizationEpoch : Nat
  lifecycle : Lifecycle

inductive CommentState
  | active
  | redacted
deriving DecidableEq

structure CommentRow where
  commentID : String
  authorID : String
  version : Nat
  state : CommentState
  bodyMarkdown : Option String
  renderModel : Option String
  createdAt : Int
  updatedAt : Int
  redactedAt : Option Int
  fenceEpoch : Nat

structure CommentRevisionRow where
  commentID : String
  version : Nat
  redactedAt : Option Int
  fenceEpoch : Nat

structure ReplyRow where
  childCommentID : String
  parentCommentID : String
  fenceEpoch : Nat

structure MentionRow where
  commentID : String
  version : Nat
  userID : String
  fenceEpoch : Nat

inductive ActionStatus
  | open
  | completed
  | cancelled
deriving DecidableEq

structure ActionRow where
  actionID : String
  version : Nat
  status : ActionStatus
  title : String
  details : String
  assigneeID : Option String
  dueAt : Option Int
  completedAt : Option Int
  subjectRevisionID : Option String
  createdAt : Int
  updatedAt : Int
  fenceEpoch : Nat

inductive FollowerPreference
  | default
  | watching
  | muted

structure FollowerSources where
  author : Bool
  owner : Bool
  participant : Bool
  comment : Bool
  mention : Bool
  action : Bool

structure FollowerRow where
  userID : String
  version : Nat
  preference : FollowerPreference
  sources : FollowerSources
  updatedAt : Int
  fenceEpoch : Nat

/-- A row of `record_search_documents`, as far as actions go. -/
structure SearchDocumentRow where
  generation : Nat
  openActionCount : Nat
  nextActionDueAt : Option Int
  fenceEpoch : Nat

/-- The rows of one record; `ρ` is the content of a revision. -/
structure CollaborationRows (ρ : Type) where
  root : Root
  revisions : List (String × ρ)
  comments : List CommentRow
  commentRevisions : List CommentRevisionRow
  replies : List ReplyRow
  mentions : List MentionRow
  actions : List ActionRow
  followers : List FollowerRow
  documents : List SearchDocumentRow

/-- No row was written at a later epoch. -/
structure CollaborationRows.WrittenBy {ρ : Type} (rows : CollaborationRows ρ) (epoch : Nat) :
    Prop where
  comments : ∀ row ∈ rows.comments, row.fenceEpoch ≤ epoch
  commentRevisions : ∀ row ∈ rows.commentRevisions, row.fenceEpoch ≤ epoch
  actions : ∀ row ∈ rows.actions, row.fenceEpoch ≤ epoch
  followers : ∀ row ∈ rows.followers, row.fenceEpoch ≤ epoch

/-- A record: the rows of its fence and its collaboration rows, none of them written at an epoch the
record has not reached. -/
structure Record (ρ : Type) where
  fence : ObjectRows
  rows : CollaborationRows ρ
  epoch : Nat
  deliveryEpoch : fence.deliveryEpoch = some epoch
  written : rows.WrittenBy epoch

/-! ## What readers get -/

/-- `CommentRecord` of the record; `μ` is the decoded render model. -/
structure CommentRecord (μ : Type) where
  commentID : String
  authorID : String
  version : Nat
  state : CommentState
  bodyMarkdown : String
  renderModel : Option μ
  replyToCommentID : String
  mentionUserIDs : List String
  createdAt : Int
  updatedAt : Int
  redactedAt : Option Int

structure ActionRecord where
  actionID : String
  version : Nat
  status : ActionStatus
  title : String
  details : String
  assigneeID : String
  dueAt : Option Int
  completedAt : Option Int
  subjectRevisionID : String
  createdAt : Int
  updatedAt : Int

structure WatchStatus where
  userID : String
  version : Nat
  preference : FollowerPreference
  sources : FollowerSources
  fenceEpoch : Nat
  updatedAt : Int

/-- What is decoded and checked of a row when it is read. -/
structure Services (μ : Type) where
  decodeRenderModel : String → Option μ
  validComment : CommentRecord μ → Bool
  validAction : ActionRecord → Bool
  validWatch : WatchStatus → Bool

variable {μ ρ : Type}

/-! ## Fences of readers and writers -/

variable (services : Services μ) (object : ObjectRef) (timestamp : Int) (s : ObjectRows)

def deletionReserved : Bool :=
  s.reservations.entries.any fun e =>
    e.2.object = object && (e.2.state = .fenced || e.2.state = .committed)

/-- It returns the epoch that `loadCollaborationRecordReadFenceBinding` reads next. -/
def assertRecordReadFence : Except CollaborationError Nat :=
  if deletionReserved object s then .error .recordDeletionReserved
  else match s.deliveryEpoch with
    | none => .error .recordDeletionReserved
    | some epoch =>
      if ∃ row ∈ s.fenceLease, row.live timestamp = true then .error .recordDeletionReserved
      else .ok epoch

/-- It returns the epoch that `loadCollaborationRecordFenceBinding` reads next. A missing epoch
begins at 0, and a reservation that is only previewed is no obstacle. -/
def assertRecordMutationFence : Except CollaborationError Nat :=
  if deletionReserved object s then .error .recordDeletionReserved
  else if ∃ row ∈ s.fenceLease, row.live timestamp = true then .error .recordDeletionReserved
  else .ok (s.deliveryEpoch.getD 0)

/-- What a command expects of the record, and what membership and authorization say about it. -/
structure Expectation where
  currentRevisionID : String
  recordLockVersion : Nat
  authorizationEpoch : Nat
  access : Except CollaborationError Unit

def Expectation.grant (e : Expectation) (conflict : CollaborationError) (root : Root) :
    Except CollaborationError Unit :=
  if root.currentRevisionID ≠ some e.currentRevisionID ∨ root.lockVersion ≠ e.recordLockVersion ∨
      root.authorizationEpoch ≠ e.authorizationEpoch ∨ root.lifecycle ≠ .active then
    .error conflict
  else e.access

/-! ## Readers -/

def readRecordRevision (request : Expectation) (s : ObjectRows) (rows : CollaborationRows ρ) :
    Except CollaborationError (String × ρ) := do
  let _ ← assertRecordReadFence object timestamp s
  request.access
  if rows.root.currentRevisionID ≠ some request.currentRevisionID ∨
      rows.root.lockVersion ≠ request.recordLockVersion ∨
      rows.root.authorizationEpoch ≠ request.authorizationEpoch then
    .error .recordRevisionConflict
  else match rows.revisions.find? (·.1 = request.currentRevisionID) with
    | none => .error .recordRevisionConflict
    | some revision => .ok revision

variable (rows : CollaborationRows ρ) (row : CommentRow)

def CommentRow.sortKey : Int ×ₗ String := toLex (row.createdAt, row.commentID)

def mentionUserIDs : List String :=
  Keyset.sorted id
    ((rows.mentions.filter fun m => m.commentID = row.commentID ∧ m.version = row.version ∧
      m.fenceEpoch = row.fenceEpoch).map (·.userID))

def scanComment (rows : CollaborationRows ρ) (row : CommentRow) :
    Except CollaborationError (CommentRecord μ) := do
  ensure (row.version ≠ 0) .commentConflict
  let renderModel ← match row.renderModel with
    | none => .ok none
    | some text => match services.decodeRenderModel text with
      | none => .error .commentConflict
      | some model => .ok (some model)
  let record : CommentRecord μ :=
    { commentID := row.commentID
      authorID := row.authorID
      version := row.version
      state := row.state
      bodyMarkdown := row.bodyMarkdown.getD ""
      renderModel
      replyToCommentID :=
        ((rows.replies.find? (·.childCommentID = row.commentID)).map (·.parentCommentID)).getD ""
      mentionUserIDs := if row.redactedAt.isSome then [] else mentionUserIDs rows row
      createdAt := row.createdAt
      updatedAt := row.updatedAt
      redactedAt := row.redactedAt }
  ensure (services.validComment record = true) .commentConflict
  return record

/-- The newest comments of the epoch, oldest first. -/
def listRecordComments (rows : CollaborationRows ρ) (epoch limit : Nat) :
    Except CollaborationError (List (CommentRecord μ)) :=
  let visible := rows.comments.filter (·.fenceEpoch = epoch)
  ((Keyset.sorted CommentRow.sortKey visible).reverse.take limit).reverse.mapM
    (scanComment services rows)

variable (command : Expectation)

def listComments (limit : Nat) (s : ObjectRows) (rows : CollaborationRows ρ) :
    Except CollaborationError (List (CommentRecord μ)) := do
  let epoch ← assertRecordReadFence object timestamp s
  command.grant .commentConflict rows.root
  listRecordComments services rows epoch limit

/-- Open actions first, then by due time with those without one last, then the latest update. -/
def ActionRow.sortKey (row : ActionRow) : Bool ×ₗ WithTop Int ×ₗ Int ×ₗ String :=
  toLex (decide (row.status ≠ .open), toLex ((row.dueAt : WithTop Int),
    toLex (-row.updatedAt, row.actionID)))

def scanAction (row : ActionRow) : Except CollaborationError ActionRecord := do
  ensure (row.version ≠ 0) .actionConflict
  let record : ActionRecord :=
    { actionID := row.actionID
      version := row.version
      status := row.status
      title := row.title
      details := row.details
      assigneeID := row.assigneeID.getD ""
      dueAt := row.dueAt
      completedAt := row.completedAt
      subjectRevisionID := row.subjectRevisionID.getD ""
      createdAt := row.createdAt
      updatedAt := row.updatedAt }
  ensure (services.validAction record = true) .actionConflict
  return record

/-- The actions of the epoch. -/
def listRecordActions (rows : CollaborationRows ρ) (epoch limit : Nat) :
    Except CollaborationError (List ActionRecord) :=
  let visible := rows.actions.filter (·.fenceEpoch = epoch)
  ((Keyset.sorted ActionRow.sortKey visible).take limit).mapM (scanAction services)

def listActions (limit : Nat) (s : ObjectRows) (rows : CollaborationRows ρ) :
    Except CollaborationError (List ActionRecord) := do
  let epoch ← assertRecordReadFence object timestamp s
  command.grant .actionConflict rows.root
  listRecordActions services rows epoch limit

/-- A row of another epoch is a conflict. -/
def loadRecordWatchStatus (rows : CollaborationRows ρ) (epoch : Nat) (userID : String) :
    Except CollaborationError WatchStatus :=
  match rows.followers.find? (·.userID = userID) with
  | none => .ok ⟨userID, 0, .default, ⟨false, false, false, false, false, false⟩, epoch, 0⟩
  | some row =>
    if row.version = 0 ∨ row.fenceEpoch ≠ epoch then .error .watchConflict
    else
      let status : WatchStatus :=
        ⟨userID, row.version, row.preference, row.sources, row.fenceEpoch, row.updatedAt⟩
      if services.validWatch status = false then .error .watchConflict else .ok status

def getWatch (userID : String) (s : ObjectRows) (rows : CollaborationRows ρ) :
    Except CollaborationError WatchStatus := do
  let epoch ← assertRecordReadFence object timestamp s
  command.grant .watchConflict rows.root
  loadRecordWatchStatus services rows epoch userID

/-- What a status says of the follower, apart from the epoch it was read at. -/
def WatchStatus.following (status : WatchStatus) :
    Nat × FollowerPreference × FollowerSources × Int :=
  (status.version, status.preference, status.sources, status.updatedAt)

/-- The action counts a search finds: those of the documents, which are withheld while the record is
reserved. -/
def indexedActionCounts (rows : CollaborationRows ρ) : List (Nat × Nat × Option Int) :=
  if deletionReserved object s then []
  else rows.documents.map fun d => (d.generation, d.openActionCount, d.nextActionDueAt)

variable (epoch : Nat)

/-- The count that `upsertRecordSearchDocument` writes into a document at an epoch. -/
def openActionCount : Nat :=
  (rows.actions.filter fun row => row.fenceEpoch = epoch ∧ row.status = .open).length

/-! ## Writers -/

inductive CommentMutationKind
  | edit
  | redact

structure CommentCommand where
  expectation : Expectation
  actorID : String
  moderator : Bool
  commentID : String
  expectedVersion : Nat
  bodyMarkdown : String
  renderModel : String
  mentionUserIDs : List String
  -- Whether every mentioned user is a member who may read the record.
  mentionsAllowed : Except CollaborationError Unit

structure CommentMutationResult where
  commentID : String
  version : Nat
  state : CommentState
  changedAt : Int

def lockRecordComment (commentID : String) : Except CollaborationError CommentRow :=
  match rows.comments.find? (·.commentID = commentID) with
  | none => .error .commentNotFound
  | some row => if row.version = 0 then .error .commentConflict else .ok row

def setComment : CollaborationRows ρ :=
  { rows with comments := rows.comments.map fun r => if r.commentID = row.commentID then row else r }

/-- A revision is added, the row takes the epoch of the record, and the mentions are those of the
new version. -/
def editRecordComment (timestamp : Int) (command : CommentCommand) (row : CommentRow) :
    Except CollaborationError (CollaborationRows ρ) := do
  let version := row.version + 1
  ensure (¬ ∃ r ∈ rows.commentRevisions, r.commentID = row.commentID ∧ r.version = version)
    .database
  ensure (row.updatedAt ≤ timestamp) .database
  let edited : CommentRow :=
    { row with
      version
      bodyMarkdown := some command.bodyMarkdown
      renderModel := some command.renderModel
      fenceEpoch := epoch
      updatedAt := timestamp }
  let rows := setComment rows edited
  return { rows with
    commentRevisions := ⟨row.commentID, version, none, epoch⟩ :: rows.commentRevisions
    mentions := command.mentionUserIDs.map (⟨row.commentID, version, ·, epoch⟩) ++ rows.mentions }

/-- The tombstone is written at the epoch of the record, and the guard of `record_comment_revisions`
accepts it only for revisions of that epoch. -/
def redactRecordComment (timestamp : Int) (row : CommentRow) :
    Except CollaborationError (CollaborationRows ρ) := do
  let kept := rows.commentRevisions.filter fun r => r.commentID = row.commentID ∧ r.redactedAt = none
  ensure (∀ r ∈ kept, r.fenceEpoch = epoch) .database
  ensure (kept.length = row.version) .commentConflict
  ensure (row.updatedAt ≤ timestamp) .database
  let redacted : CommentRow :=
    { row with
      version := row.version + 1
      state := .redacted
      bodyMarkdown := none
      renderModel := none
      redactedAt := some timestamp
      fenceEpoch := epoch
      updatedAt := timestamp }
  let rows := setComment rows redacted
  return { rows with
    commentRevisions := rows.commentRevisions.map fun r =>
      if r.commentID = row.commentID ∧ r.redactedAt = none then
        { r with redactedAt := some timestamp }
      else r }

/-- `CommitComment` of an edit or a redaction. -/
def commitComment (kind : CommentMutationKind) (command : CommentCommand) (s : ObjectRows)
    (rows : CollaborationRows ρ) :
    Except CollaborationError (CommentMutationResult × CollaborationRows ρ) := do
  let epoch ← assertRecordMutationFence object timestamp s
  command.expectation.grant .commentConflict rows.root
  let row ← lockRecordComment rows command.commentID
  ensure (row.version = command.expectedVersion) .commentConflict
  match kind with
  | .edit =>
    ensure (row.state = .active ∧ row.authorID = command.actorID) .commentPolicyDenied
    command.mentionsAllowed
    let rows ← editRecordComment rows epoch timestamp command row
    return (⟨row.commentID, row.version + 1, .active, timestamp⟩, rows)
  | .redact =>
    ensure (row.state = .active) .commentConflict
    ensure (row.authorID = command.actorID ∨ command.moderator = true) .commentPolicyDenied
    let rows ← redactRecordComment rows epoch timestamp row
    return (⟨row.commentID, row.version + 1, .redacted, timestamp⟩, rows)

inductive ActionMutationKind
  | update
  | complete
  | cancel
  | reopen
deriving DecidableEq

structure ActionCommand where
  expectation : Expectation
  actionID : String
  expectedVersion : Nat
  title : String
  details : String
  assigneeID : Option String
  dueAt : Option Int
  subjectRevisionID : Option String
  -- Whether the assignee is a member who may read the record.
  assigneeAllowed : Except CollaborationError Unit

structure ActionMutationResult where
  actionID : String
  version : Nat
  status : ActionStatus
  changedAt : Int

def lockRecordAction (actionID : String) : Except CollaborationError ActionRow :=
  match rows.actions.find? (·.actionID = actionID) with
  | none => .error .actionNotFound
  | some row => if row.version = 0 then .error .actionConflict else .ok row

def validateActionFields (command : ActionCommand) : Except CollaborationError Unit := do
  ensure (∀ revisionID ∈ command.subjectRevisionID, ∃ r ∈ rows.revisions, r.1 = revisionID)
    .invalidActionFields
  if command.assigneeID.isSome then command.assigneeAllowed else .ok ()

/-- The status a mutation leads to: an update keeps it, and `ValidateActionMutationTransition` guards
the others. -/
def nextActionStatus (kind : ActionMutationKind) (status : ActionStatus) :
    Except CollaborationError ActionStatus :=
  match kind, status with
  | .update, status => .ok status
  | .complete, .open => .ok .completed
  | .cancel, .open => .ok .cancelled
  | .reopen, .completed => .ok .open
  | .reopen, .cancelled => .ok .open
  | _, _ => .error .invalidActionStateTransition

def updateRecordAction (timestamp : Int) (kind : ActionMutationKind) (command : ActionCommand)
    (row : ActionRow) (status : ActionStatus) : CollaborationRows ρ :=
  let fields : ActionRow :=
    if kind = .update then
      { row with
        title := command.title
        details := command.details
        assigneeID := command.assigneeID
        dueAt := command.dueAt
        subjectRevisionID := command.subjectRevisionID }
    else row
  let updated : ActionRow :=
    { fields with
      version := row.version + 1
      status
      completedAt :=
        if status = .completed then (if kind = .update then row.completedAt else some timestamp)
        else none
      fenceEpoch := epoch
      updatedAt := timestamp }
  { rows with actions := rows.actions.map fun r => if r.actionID = row.actionID then updated else r }

/-- `CommitAction` of an update or a transition. -/
def commitAction (kind : ActionMutationKind) (command : ActionCommand) (s : ObjectRows)
    (rows : CollaborationRows ρ) :
    Except CollaborationError (ActionMutationResult × CollaborationRows ρ) := do
  let epoch ← assertRecordMutationFence object timestamp s
  command.expectation.grant .actionConflict rows.root
  (if kind = .update then validateActionFields rows command else .ok ())
  let row ← lockRecordAction rows command.actionID
  ensure (row.version = command.expectedVersion) .actionConflict
  let status ← nextActionStatus kind row.status
  ensure (row.createdAt ≤ timestamp) .database
  return (⟨row.actionID, row.version + 1, status, timestamp⟩,
    updateRecordAction rows epoch timestamp kind command row status)

/-! ## An abandoned deletion -/

/-- What workers do to a fenced reservation until it is resolved: they claim it, or renew its fence;
a call that fails changes nothing. -/
inductive WorkerStep (reservationID : String) : ObjectRows → Unit → ObjectRows → Prop
  | claimed {s s' : ObjectRows} {timestamp : Int} {provisional : Bool} {input : LeaseClaimInput}
      {owner : OwnerLease}
      (h : takeOverDeletionReservation timestamp reservationID provisional input s =
        .ok (owner, s')) : WorkerStep reservationID s () s'
  | renewed {s s' : ObjectRows} {timestamp duration : Int} {fence renewed : DeletionReservationFence}
      (hid : fence.reservationID = reservationID)
      (h : renewDeletionReservationFence timestamp fence duration s = .ok (renewed, s')) :
      WorkerStep reservationID s () s'
  | failed (s : ObjectRows) : WorkerStep reservationID s () s

/-- A deletion of the object that is previewed, fenced, worked on and finalized as not committed. -/
structure Abandoned (object : ObjectRef) (before : ObjectRows) (finalizedAt : Int)
    (after : ObjectRows) : Prop where
  attempt : ∃ (reservationID : String) (preview : Reservation) (fencedAt : Int)
    (input : ReservationFenceInput) (fence final : DeletionReservationFence) (releaseEpoch : Nat)
    (fenced worked : ObjectRows) (work : List (RunStep ObjectRows Unit)),
    reservationID ∉ before.reservations ∧
    preview.state = .previewed ∧ preview.object = object ∧
    input.reservationID = reservationID ∧
    fenceDeletionReservation object fencedAt input
      { before with reservations := before.reservations.insert reservationID preview } =
      .ok (fence, fenced) ∧
    Run (WorkerStep reservationID) fenced work worked ∧
    final.reservationID = reservationID ∧
    finalizeNotCommitted finalizedAt final releaseEpoch worked = .ok ((), after)

end Houfeng.Collaboration
