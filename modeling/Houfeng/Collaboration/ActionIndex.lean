import Houfeng.Collaboration.RecordFence

/-!
# The action counters of the search index

A new revision projects its record into the search document, with the number and the earliest due
time of the open actions. A lifecycle move rewrites the control columns of the document, and the
commands for actions write the rows of the actions.
-/

namespace Houfeng.Collaboration

open RecordPlatform

variable {ρ : Type}

/-- The columns of a search document that its writers compare and the action filters read. -/
structure ProjectedDocument where
  lockVersion : Nat
  fenceEpoch : Nat
  lifecycle : Lifecycle
  openActionCount : Nat
  nextActionDueAt : Option Int

/-- A record with its document in the published generation. -/
structure IndexedRecord (ρ : Type) where
  fence : ObjectRows
  rows : CollaborationRows ρ
  document : ProjectedDocument

def openActions (rows : CollaborationRows ρ) (epoch : Nat) : List ActionRow :=
  rows.actions.filter fun row => row.fenceEpoch = epoch ∧ row.status = .open

def upsertRecordSearchDocument (rows : CollaborationRows ρ) (epoch : Nat)
    (stored : ProjectedDocument) : ProjectedDocument :=
  if stored.lockVersion ≤ rows.root.lockVersion ∧ stored.fenceEpoch ≤ epoch then
    { lockVersion := rows.root.lockVersion
      fenceEpoch := epoch
      lifecycle := rows.root.lifecycle
      openActionCount := openActionCount rows epoch
      nextActionDueAt := ((openActions rows epoch).filterMap (·.dueAt)).min? }
  else stored

structure RevisionCommand (ρ : Type) where
  baseRevisionID : String
  lockVersion : Nat
  authorizationEpoch : Nat
  revisionID : String
  content : ρ
  -- Whether the canonical hash is that of the current revision.
  unchanged : Bool

variable (object : ObjectRef) (timestamp : Int)

/-- `commitRevisionOnTx` of an update, with the search participant. -/
def commitRevision (command : RevisionCommand ρ) (s : IndexedRecord ρ) :
    Except CollaborationError (IndexedRecord ρ) := do
  let epoch ← assertRecordMutationFence object timestamp s.fence
  let root := s.rows.root
  ensure (root.currentRevisionID = some command.baseRevisionID ∧
    root.lockVersion = command.lockVersion ∧
    root.authorizationEpoch = command.authorizationEpoch) .recordRevisionConflict
  if command.unchanged then return s
  let rows : CollaborationRows ρ :=
    { s.rows with
      root :=
        { root with
          currentRevisionID := some command.revisionID
          lockVersion := root.lockVersion + 1
          authorizationEpoch := root.authorizationEpoch + 1 }
      revisions := (command.revisionID, command.content) :: s.rows.revisions }
  return { s with rows, document := upsertRecordSearchDocument rows epoch s.document }

structure LifecycleCommand where
  currentRevisionID : String
  lockVersion : Nat
  authorizationEpoch : Nat
  targetLifecycle : Lifecycle

def projectRecordSearchLifecycle (root : Root) (stored : ProjectedDocument) : ProjectedDocument :=
  if stored.lockVersion ≤ root.lockVersion then
    { stored with lifecycle := root.lifecycle, lockVersion := root.lockVersion }
  else stored

def commitRecordLifecycle (command : LifecycleCommand) (s : IndexedRecord ρ) :
    Except CollaborationError (IndexedRecord ρ) := do
  let _ ← assertRecordMutationFence object timestamp s.fence
  let root := s.rows.root
  ensure (root.currentRevisionID = some command.currentRevisionID ∧
    root.lockVersion = command.lockVersion ∧
    root.authorizationEpoch = command.authorizationEpoch ∧
    root.lifecycle ≠ command.targetLifecycle) .recordRevisionConflict
  let root : Root :=
    { root with
      lifecycle := command.targetLifecycle
      lockVersion := root.lockVersion + 1
      authorizationEpoch := root.authorizationEpoch + 1 }
  let document := projectRecordSearchLifecycle root s.document
  return { s with rows := { s.rows with root }, document }

/-- `CommitAction` of a creation. -/
def createAction (command : ActionCommand) (s : ObjectRows) (rows : CollaborationRows ρ) :
    Except CollaborationError (CollaborationRows ρ) := do
  let epoch ← assertRecordMutationFence object timestamp s
  command.expectation.grant .actionConflict rows.root
  validateActionFields rows command
  ensure (∀ row ∈ rows.actions, row.actionID ≠ command.actionID) .database
  let row : ActionRow :=
    { actionID := command.actionID
      version := 1
      status := .open
      title := command.title
      details := command.details
      assigneeID := command.assigneeID
      dueAt := command.dueAt
      completedAt := none
      subjectRevisionID := command.subjectRevisionID
      createdAt := timestamp
      updatedAt := timestamp
      fenceEpoch := epoch }
  return { rows with actions := row :: rows.actions }

inductive RecordCommand (ρ : Type)
  | revise (command : RevisionCommand ρ)
  | move (command : LifecycleCommand)
  | create (command : ActionCommand)
  | mutate (kind : ActionMutationKind) (command : ActionCommand)

def RecordCommand.apply (s : IndexedRecord ρ) :
    RecordCommand ρ → Except CollaborationError (IndexedRecord ρ)
  | .revise command => commitRevision object timestamp command s
  | .move command => commitRecordLifecycle object timestamp command s
  | .create command => do
    let rows ← createAction object timestamp command s.fence s.rows
    return { s with rows }
  | .mutate kind command => do
    let r ← commitAction object timestamp kind command s.fence s.rows
    return { s with rows := r.2 }

def RecordStep (s : IndexedRecord ρ) (command : RecordCommand ρ) (s' : IndexedRecord ρ) : Prop :=
  ∃ timestamp, command.apply object timestamp s = .ok s'

end Houfeng.Collaboration
