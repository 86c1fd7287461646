import Houfeng.Foundation.Runs
import Houfeng.Runtime.Runtime

/-!
# The agent as a transition system

A process of the agent runs the programs of `Runtime` one operation at a time. It may be killed
between any two of them, and a power failure may leave any content of the queue file since the last
successful directory sync. The answers of the server are arbitrary.
-/

namespace Houfeng.Runtime

open AgentApi SyncQueue

structure Event where
  op : Op
  answer : Answer op

/-- The queue, the memory of the process, what it has done since it was launched, and every request
the agent has ever sent; the newest first. -/
structure AgentState where
  world : World
  memory : Memory
  log : List Event
  sent : List SyncRequest

def OnQueue {α : Type} (s : AgentState) (result : α × World) (answer : α) (s' : AgentState) :
    Prop :=
  result.1 = answer ∧ s' = { s with world := result.2 }

/-- What an operation may answer and leave. With a `fixed` session, every sync token the agent is
given belongs to it. -/
def Effect (fixed : Option String) (s : AgentState) : (o : Op) → Answer o → AgentState → Prop
  | .openSession session, answer, s' =>
    ∃ env, OnQueue s (openSession env session s.world) answer s'
  | .close, answer, s' => OnQueue s (close s.world) answer s'
  | .replayState, answer, s' => ∃ env, replayState env s.world = answer ∧ s' = s
  | .reserveLiveSequences count, answer, s' =>
    ∃ env, OnQueue s (reserveLiveSequences env count s.world) answer s'
  | .enqueue request, answer, s' => ∃ env, OnQueue s (enqueue env request s.world) answer s'
  | .list, answer, s' => ∃ env, list env s.world = answer ∧ s' = s
  | .deleteMany ids, answer, s' => ∃ env, OnQueue s (deleteMany env ids s.world) answer s'
  | .markAttempt id, answer, s' => ∃ env, OnQueue s (markAttempt env id s.world) answer s'
  | .prune, answer, s' => ∃ env, OnQueue s (prune env s.world) answer s'
  | .enroll _ _, answer, s' =>
    (∀ enrollment, answer = .ok enrollment → ∀ session, fixed = some session →
      sessionOfToken enrollment.syncToken = session) ∧ s' = s
  | .syncCredentials, answer, s' =>
    (∀ credentials, answer = some (some credentials) → ∀ session, fixed = some session →
      sessionOfToken credentials.2 = session) ∧ s' = s
  | .send request, _, s' => s' = { s with sent := request :: s.sent }
  | .readMemory, answer, s' => answer = s.memory ∧ s' = s
  | .writeMemory m, _, s' => s' = { s with memory := m }
  | _, _, s' => s' = s

def agentOperation (fixed : Option String) : Prog.Steps Op Answer AgentState :=
  fun s o answer s' =>
    ∃ s₁, Effect fixed s o answer s₁ ∧ s' = { s₁ with log := ⟨o, answer⟩ :: s₁.log }

def program (x : Action Phase) : Prog Op Answer Phase :=
  x.run.bind fun
    | .ok phase => .done phase
    | .error e => .done (.returned [e])

/-- What the process does: there is none, or its `Runtime` is not running, waits for the next tick,
or executes a program for an authority. -/
inductive Control
  | off
  | stopped
  | waiting (authority : SyncAuthority)
  | running (authority : Option SyncAuthority) (p : Prog Op Answer Phase)

structure Agent where
  state : AgentState
  control : Control

inductive Label
  | launch (opts : Options)
  | run
  | tick (at_ : Time)
  | cancel
  | operation (e : Event)
  | proceed
  | kill
  | powerFailure (left_ : Content)

variable (cfg : Config) (fixed : Option String)

/-- The steps of the agent. Its queue syncs every write. -/
inductive AgentStep : Agent → Label → Agent → Prop
  | launch (s : AgentState) (opts : Options) (hsync : opts.skipFsync = false) :
    AgentStep ⟨s, .off⟩ (.launch opts)
      ⟨{ s with
          world := { s.world with store := newFileStore opts }
          memory := .new
          log := [] }, .stopped⟩
  | run (s : AgentState) : AgentStep ⟨s, .stopped⟩ .run ⟨s, .running none (program (run cfg))⟩
  | tick (s : AgentState) (authority : SyncAuthority) (at_ : Time) :
    AgentStep ⟨s, .waiting authority⟩ (.tick at_)
      ⟨s, .running (some authority) (program (tick cfg authority at_))⟩
  | cancel (s : AgentState) (authority : SyncAuthority) :
    AgentStep ⟨s, .waiting authority⟩ .cancel
      ⟨s, .running (some authority) (program (leave []))⟩
  | operation {s s' : AgentState} (authority : Option SyncAuthority) (o : Op) (answer : Answer o)
    (k : Answer o → Prog Op Answer Phase) (h : agentOperation fixed s o answer s') :
    AgentStep ⟨s, .running authority (.call o k)⟩ (.operation ⟨o, answer⟩)
      ⟨s', .running authority (k answer)⟩
  | wait (s : AgentState) (authority : Option SyncAuthority) (next : SyncAuthority) :
    AgentStep ⟨s, .running authority (.done (.waiting next))⟩ .proceed ⟨s, .waiting next⟩
  | return_ (s : AgentState) (authority : Option SyncAuthority) (errs : List RunError) :
    AgentStep ⟨s, .running authority (.done (.returned errs))⟩ .proceed ⟨s, .stopped⟩
  | kill (s : AgentState) (c : Control) : AgentStep ⟨s, c⟩ .kill ⟨s, .off⟩
  | powerFailure (s : AgentState) (c : Control) (left_ : Content)
    (h : left_ ∈ s.world.disk.snapshots) :
    AgentStep ⟨s, c⟩ (.powerFailure left_)
      ⟨{ s with world := { s.world with disk := { durable := left_, later := [] } } }, .off⟩

/-- An agent that has never run, with whatever its queue file holds. -/
structure Agent.Initial (a : Agent) : Prop where
  off : a.control = .off
  sent : a.state.sent = []
  log : a.state.log = []
  memory : a.state.memory = .new
  store : ∃ opts : Options, opts.skipFsync = false ∧ a.state.world.store = newFileStore opts

end Houfeng.Runtime
