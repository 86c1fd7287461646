import Houfeng.Foundation.Prog
import Houfeng.SyncQueue.Store

/-!
# What the agent runtime works with

The errors and the memory of `Runtime`, and the operations between which a process can be stopped:
calls of the queue, the HTTP client, the credential store and the providers, readings of the clock
and the context, and accesses to its own fields.
-/

namespace Houfeng.Runtime

open AgentApi SyncQueue

/-! ## Errors -/

/-- What the HTTP client fails with: an answer of the server with an error status, or none. -/
inductive ClientError
  | remote (statusCode : Int) (code : String) (retryAfter : Int)
  | transport

inductive SyncFailureKind
  | remote
  | transport

inductive SyncQueueAction
  | discard
  | terminal
  | retry
deriving DecidableEq

inductive PolicyCause
  | client (e : ClientError)
  | acknowledgement (message : String)
  | replayRetry

structure SyncPolicyError where
  kind : SyncFailureKind
  action : SyncQueueAction
  statusCode : Int
  code : String
  cause : PolicyCause

inductive RunError
  | policy (e : SyncPolicyError)
  | queueOperation (operation : String) (cause : QueueError)
  | currentEntryAmbiguous
  | currentEntryMissing
  | queue (cause : QueueError)
  | runtimeOperation (operation : String)
  | remoteOperation (operation : String) (kind : SyncFailureKind) (statusCode : Int)
    (code : String)
  | enrollmentNotBound (bindingStatus : String)
  | missingSyncToken
  | message (text : String)
  | wrapped (text : String) (cause : RunError)

/-- `errors.As` for a policy error. -/
def RunError.policy? : RunError → Option SyncPolicyError
  | .policy e => some e
  | .wrapped _ cause => cause.policy?
  | _ => none

def RunError.action? (e : RunError) : Option SyncQueueAction :=
  e.policy?.map SyncPolicyError.action

/-- `errors.Is(err, syncqueue.ErrAmbiguousDurability)`. -/
def RunError.isAmbiguousDurability : RunError → Bool
  | .queueOperation _ cause => cause = .ambiguousDurability
  | .queue cause => cause = .ambiguousDurability
  | .wrapped _ cause => cause.isAmbiguousDurability
  | _ => false

/-! ## Memory -/

/-- The fields of `Runtime` that change, without those that only throttle its log. Zero times are
`0`; `fatalDurabilityErr` lists the joined errors. -/
structure Memory where
  currentPlan : Option SyncPlan
  collectionStopped : Bool
  lastHostSampleAt : Time
  pendingResults : List CommandResult
  pendingIPReports : List IPQualityReportPayload
  backlogRetryNotBefore : Time
  nextLiveSequence : Int
  lastLiveSequence : Int
  fatalDurabilityErr : List RunError

def Memory.new : Memory where
  currentPlan := none
  collectionStopped := false
  lastHostSampleAt := 0
  pendingResults := []
  pendingIPReports := []
  backlogRetryNotBefore := 0
  nextLiveSequence := 0
  lastLiveSequence := 0
  fatalDurabilityErr := []

/-! ## Operations -/

/-- The operations. A request is sent and its answer received in two steps; the latter names the
request it belongs to, and a command names the action it is run for. -/
inductive Op
  | openSession (session : String)
  | close
  | replayState
  | reserveLiveSequences (count : Int)
  | enqueue (request : SyncRequest)
  | list
  | deleteMany (ids : List String)
  | markAttempt (id : String)
  | prune
  | checkSyncProtocol
  | enroll (token fingerprint : String)
  | send (request : SyncRequest)
  | receive (request : SyncRequest)
  | fingerprint
  | token
  | syncCredentials
  | saveSyncCredentials (monitoringInstanceID syncToken : String)
  | collectHostSample (at_ : Time)
  | collectContainers
  | collectProbes (plan : SyncPlan) (at_ : Time)
  | drainReports
  | maybeStart (plan : IPQualityPlan) (at_ : Time)
  | stopIPQuality
  | runCommand (action : PendingAction) (bin : String) (args : List String)
  | now
  | ctxErr
  | readMemory
  | writeMemory (m : Memory)

/-- The answer to a request: an error, or the decoded response if there is one. -/
abbrev Reply := Except ClientError (Option SyncResponse)

/-- The answer of each operation. Where an error is only passed on or logged, `none` or `false`
stands for it; `ctxErr` tells whether the context is done. -/
@[reducible] def Answer : Op → Type
  | .openSession _ | .close | .deleteMany _ | .markAttempt _ | .prune => Except QueueError Unit
  | .replayState => Except QueueError ReplayState
  | .reserveLiveSequences _ => Except QueueError (Int × Int)
  | .enqueue _ => Except QueueError String
  | .list => Except QueueError (List Entry)
  | .checkSyncProtocol | .saveSyncCredentials _ _ | .ctxErr => Bool
  | .enroll _ _ => Except ClientError EnrollmentResponse
  | .receive _ => Reply
  | .fingerprint | .token => Option String
  | .syncCredentials => Option (Option (String × String))
  | .collectHostSample _ => Option HostSamplePayload
  | .collectContainers => Option (List ContainerInfo)
  | .collectProbes _ _ => Option (List ProbeObservationPayload)
  | .drainReports => List IPQualityReportPayload
  | .runCommand _ _ _ => CommandResult
  | .now => Time
  | .readMemory => Memory
  | .send _ | .maybeStart _ _ | .stopIPQuality | .writeMemory _ => Unit

abbrev Action := Routine Op Answer RunError

def call (o : Op) : Action (Answer o) := Routine.call o

def assign (f : Memory → Memory) : Action Unit := do
  let m ← call .readMemory
  call (.writeMemory (f m))

def queueCall {α : Type} (operation : String) (answer : Except QueueError α) : Action α :=
  match answer with
  | .ok a => pure a
  | .error cause => throw (.queueOperation operation cause)

end Houfeng.Runtime
