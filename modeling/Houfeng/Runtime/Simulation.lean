import Houfeng.Runtime.Agent
import Houfeng.SyncQueue.Proofs.QueueProofs

/-!
# Executing the agent

Surroundings that answer every operation in one way make the agent a deterministic program, which
can be executed for a number of steps; what is executed is a run of the agent.
-/

namespace Houfeng.Runtime

open AgentApi SyncQueue

/-- Surroundings that answer every operation in one way: the queue in a fixed environment, the
given credentials, a server with the given replies, and providers that collect nothing. -/
structure Surroundings where
  env : SyncQueue.Env
  monitoringInstanceID : String
  syncToken : String
  fingerprint : String
  reply : SyncRequest → Reply

def Surroundings.perform (sur : Surroundings) (s : AgentState) :
    (o : Op) → Answer o × AgentState
  | .openSession session =>
    let r := openSession sur.env session s.world
    (r.1, { s with world := r.2 })
  | .close =>
    let r := close s.world
    (r.1, { s with world := r.2 })
  | .replayState => (replayState sur.env s.world, s)
  | .reserveLiveSequences count =>
    let r := reserveLiveSequences sur.env count s.world
    (r.1, { s with world := r.2 })
  | .enqueue request =>
    let r := enqueue sur.env request s.world
    (r.1, { s with world := r.2 })
  | .list => (list sur.env s.world, s)
  | .deleteMany ids =>
    let r := deleteMany sur.env ids s.world
    (r.1, { s with world := r.2 })
  | .markAttempt id =>
    let r := markAttempt sur.env id s.world
    (r.1, { s with world := r.2 })
  | .prune =>
    let r := prune sur.env s.world
    (r.1, { s with world := r.2 })
  | .checkSyncProtocol => (true, s)
  | .enroll _ _ => (.error .transport, s)
  | .send request => ((), { s with sent := request :: s.sent })
  | .receive request => (sur.reply request, s)
  | .fingerprint => (some sur.fingerprint, s)
  | .token => (none, s)
  | .syncCredentials => (some (some (sur.monitoringInstanceID, sur.syncToken)), s)
  | .saveSyncCredentials _ _ => (false, s)
  | .collectHostSample _ => (none, s)
  | .collectContainers => (none, s)
  | .collectProbes _ _ => (none, s)
  | .drainReports => ([], s)
  | .maybeStart _ _ => ((), s)
  | .stopIPQuality => ((), s)
  | .runCommand action _ _ => (⟨action.actionID, action.commandID, "", "", 0⟩, s)
  | .now => (sur.env.now, s)
  | .ctxErr => (false, s)
  | .readMemory => (s.memory, s)
  | .writeMemory m => ((), { s with memory := m })

theorem Surroundings.perform_effect (sur : Surroundings) {fixed : Option String}
    (hfits : ∀ session, fixed = some session → sessionOfToken sur.syncToken = session)
    (s : AgentState) (o : Op) : Effect fixed s o (sur.perform s o).1 (sur.perform s o).2 := by
  cases o with
  | openSession | reserveLiveSequences | enqueue | deleteMany | markAttempt | prune =>
    exact ⟨sur.env, rfl, rfl⟩
  | replayState | list => exact ⟨sur.env, rfl, rfl⟩
  | close | readMemory => exact ⟨rfl, rfl⟩
  | enroll => exact ⟨fun _ h => (by cases h), rfl⟩
  | syncCredentials =>
    refine ⟨fun credentials h => ?_, rfl⟩
    cases h
    exact hfits
  | _ => exact rfl

def defaultOptions : Options where
  maxEntries := 0
  maxAge := 0
  maxBytes := 0
  skipFsync := false

variable (cfg : Config) (sur : Surroundings)

def advance : Agent → Label × Agent
  | ⟨s, .off⟩ =>
    (.launch defaultOptions,
      ⟨{ s with
          world := { s.world with store := newFileStore defaultOptions }
          memory := .new
          log := [] }, .stopped⟩)
  | ⟨s, .stopped⟩ => (.run, ⟨s, .running none (program (run cfg))⟩)
  | ⟨s, .waiting authority⟩ =>
    (.tick sur.env.now, ⟨s, .running (some authority) (program (tick cfg authority sur.env.now))⟩)
  | ⟨s, .running authority (.call o k)⟩ =>
    let r := sur.perform s o
    (.operation ⟨o, r.1⟩,
      ⟨{ r.2 with log := ⟨o, r.1⟩ :: r.2.log }, .running authority (k r.1)⟩)
  | ⟨s, .running _ (.done (.waiting next))⟩ => (.proceed, ⟨s, .waiting next⟩)
  | ⟨s, .running _ (.done (.returned _))⟩ => (.proceed, ⟨s, .stopped⟩)

theorem advance_step (fixed : Option String)
    (hfits : ∀ session, fixed = some session → sessionOfToken sur.syncToken = session)
    (a : Agent) : AgentStep cfg fixed a (advance cfg sur a).1 (advance cfg sur a).2 := by
  obtain ⟨s, control⟩ := a
  cases control with
  | off => exact .launch s defaultOptions rfl
  | stopped => exact .run s
  | waiting authority => exact .tick s authority sur.env.now
  | running authority p =>
    cases p with
    | call o k => exact .operation authority o _ k ⟨_, sur.perform_effect hfits s o, rfl⟩
    | done phase =>
      cases phase with
      | waiting next => exact .wait s authority next
      | returned errs => exact .return_ s authority errs

def afterSteps : Nat → Agent → Agent
  | 0, a => a
  | n + 1, a => afterSteps n (advance cfg sur a).2

def stepsFrom : Nat → Agent → List (RunStep Agent Label)
  | 0, _ => []
  | n + 1, a =>
    ⟨a, (advance cfg sur a).1, (advance cfg sur a).2⟩ :: stepsFrom n (advance cfg sur a).2

theorem run_stepsFrom (fixed : Option String)
    (hfits : ∀ session, fixed = some session → sessionOfToken sur.syncToken = session)
    (n : Nat) (a : Agent) :
    Run (AgentStep cfg fixed) a (stepsFrom cfg sur n a) (afterSteps cfg sur n a) := by
  induction n generalizing a with
  | zero => exact .nil a
  | succ n ih => exact .cons (advance_step cfg sur fixed hfits a) (ih _)

/-! ## A sample agent -/

def sampleConfig : Config where
  hash := fun _ => Vector.replicate 32 0
  agentVersion := "1"
  syncCredentialStore := true
  hostSampleProvider := true
  probeProvider := true
  ipQualityProvider := true
  ipQualityStopper := true

def acknowledgement (disposition : Disposition) (request : SyncRequest) : Reply :=
  .ok (some
    { sessionID := request.sessionID
      producerID := request.producerID
      batchSequence := request.batchSequence
      batchDigest := hexEncode (canonicalSyncBatchDigest sampleConfig.hash request)
      disposition := disposition.text
      retiredThrough := 0
      stopCollection := false
      acceptedAt := ""
      status := ""
      plan := none })

def sampleSurroundings : Surroundings where
  env := sampleEnv 1
  monitoringInstanceID := "instance"
  syncToken := "session.secret"
  fingerprint := "fp"
  reply := acknowledgement .recorded

def sampleAgent : Agent where
  state := { world := sampleWorld, memory := .new, log := [], sent := [] }
  control := .off

theorem sampleAgent_initial : sampleAgent.Initial :=
  ⟨rfl, rfl, rfl, rfl, defaultOptions, rfl, rfl⟩

end Houfeng.Runtime
