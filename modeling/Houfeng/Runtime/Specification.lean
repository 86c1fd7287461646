import Houfeng.Runtime.Agent
import Houfeng.SyncQueue.Proofs.HistoryProofs

/-!
# What the runtime is allowed to do

The contract of the runtime towards its queue and its server, as a permission for every operation:
what a request must agree with, why entries may be deleted and payloads dropped, and which live
sequences belong to the process. `AgentInvariant` is what permitted operations keep.
-/

namespace Houfeng.Runtime

open AgentApi SyncQueue

/-! ## Histories -/

def lastReceive : List Event → Option (SyncRequest × Reply)
  | [] => none
  | ⟨.receive request, reply⟩ :: _ => some (request, reply)
  | _ :: log => lastReceive log

def Event.wrote : Event → Bool
  | ⟨.enqueue _, .ok _⟩ => true
  | ⟨.reserveLiveSequences _, .ok _⟩ => true
  | _ => false

def Written (log : List Event) : Prop := log.any Event.wrote = true

variable (cfg : Config)

def StopAnswered (log : List Event) : Prop :=
  ∃ request response, lastReceive log = some (request, .ok (some response)) ∧
    validateSyncAcknowledgement cfg request (some response) = .ok response ∧
    response.disposition ≠ Disposition.deferred.text ∧ response.stopCollection = true

/-! ## Deleting and dropping -/

inductive DeleteReason (authority : Option SyncAuthority) (log : List Event)
    (queued : SyncRequest) : Prop
  | acknowledged {request : SyncRequest} {response : SyncResponse}
    (hlast : lastReceive log = some (request, .ok (some response)))
    (hvalid : validateSyncAcknowledgement cfg request (some response) = .ok response)
    (hsession : response.sessionID = queued.sessionID)
    (hproducer : response.producerID = queued.producerID)
    (hsequence : response.batchSequence = queued.batchSequence)
    (hdigest : response.batchDigest = hexEncode (canonicalSyncBatchDigest cfg.hash queued))
    (hdisposition : response.disposition ∈ [Disposition.recorded.text,
      Disposition.exactDuplicate.text, Disposition.suppressed.text])
  | rejected {request : SyncRequest} {code : String} {retryAfter : Int}
    (hlast : lastReceive log = some (request, .error (.remote 400 code retryAfter)))
    (hcode : code = errorCodeInvalidJSON ∨ code = errorCodeInvalidRequest)
    (hrequest : canonicalSyncBatchDocument request = canonicalSyncBatchDocument queued)
  | stale {a : SyncAuthority} (hauthority : authority = some a)
    (hmismatch : (syncQueueAuthorityMismatch queued a).isSome)
  | stopped (hstop : StopAnswered cfg log)

/-- Whatever a power failure leaves holds the entry, up to its attempts. -/
def Stored (d : Disk) (e : Entry) : Prop :=
  ∀ c ∈ d.snapshots, ∃ state, c = .envelope state ∧
    ∃ e' ∈ state.entries, e'.id = e.id ∧ e'.request = e.request

def queuedReport (id : String) (report : IPQualityReportPayload) : IPQualityReportPayload :=
  { report with
    syncBatchID := id
    providerResults := appendNil report.providerResults
    serviceUnlocks := appendNil report.serviceUnlocks }

/-- The buffered payloads that an assignment drops are stored in an entry, or collection has been
stopped. -/
structure KeepsPayloads (s : AgentState) (m : Memory) : Prop where
  results : ∀ x ∈ s.memory.pendingResults, x ∈ m.pendingResults ∨
    (∃ e, Stored s.world.disk e ∧ x ∈ e.request.commandResults.items) ∨ StopAnswered cfg s.log
  reports : ∀ x ∈ s.memory.pendingIPReports, x ∈ m.pendingIPReports ∨
    (∃ e, Stored s.world.disk e ∧ ∃ id, queuedReport id x ∈ e.request.ipQualityReports.items) ∨
      StopAnswered cfg s.log

/-! ## Live sequences -/

def LiveFree (sent : List SyncRequest) (n : Int) : Prop :=
  ∀ r ∈ sent, ∀ l, r.liveSignal = some l → l.sequence < n

/-- Whatever a power failure leaves has reserved the live sequences up to `n` for the session. -/
def ReservedThrough (session : String) (d : Disk) (n : Int) : Prop :=
  ∀ c ∈ d.snapshots, ∃ state, c = .envelope state ∧ state.sessionID = session ∧
    n ≤ state.liveReservedThrough

/-- The rest of the block in memory is reserved, and none of it has been sent. -/
def BlockOwned (session : String) (s : AgentState) (m : Memory) : Prop :=
  m.nextLiveSequence ≠ 0 → LiveFree s.sent m.nextLiveSequence ∧
    m.nextLiveSequence ≤ m.lastLiveSequence ∧
    ReservedThrough session s.world.disk m.lastLiveSequence

/-! ## Sending -/

/-- The request carries the replay state of the envelope, and the document of the entry with its
sequence. -/
structure Current (state : Envelope) (r : SyncRequest) : Prop where
  session : r.sessionID = state.sessionID
  producer : r.producerID = state.producerID
  allocated : r.allocatedThrough = state.lastAllocatedBatchSeq
  retired : r.retiredThrough = state.retiredBatchFloor
  sequence_le : r.batchSequence ≤ state.lastAllocatedBatchSeq
  document : ∀ e ∈ state.entries, e.request.batchSequence = r.batchSequence →
    canonicalSyncBatchDocument e.request = canonicalSyncBatchDocument r

variable (fixed : Option String)

/-- A request may be sent: the queue is durable, the request is current, and its live sequence is
new. -/
structure Sendable (s : AgentState) (r : SyncRequest) : Prop where
  sound : s.world.store.poison = false
  written : Written s.log
  current : ∃ state, s.world.disk.visible = .envelope state ∧ state.Valid ∧
    s.world.store.session = some state.sessionID ∧ Current state r
  live : ∀ session, fixed = some session → ∀ l, r.liveSignal = some l →
    LiveFree s.sent l.sequence ∧ ReservedThrough session s.world.disk l.sequence ∧
      (s.memory.nextLiveSequence ≠ 0 → l.sequence < s.memory.nextLiveSequence)

def Permitted (authority : Option SyncAuthority) (s : AgentState) : Op → Prop
  | .openSession session => ∀ x, fixed = some x → session = x
  | .send r => Sendable fixed s r
  | .deleteMany ids => ∀ state, s.world.disk.visible = .envelope state →
    ∀ e ∈ state.entries, e.id ∈ ids → DeleteReason cfg authority s.log e.request
  | .writeMemory m => KeepsPayloads cfg s m ∧ (m.nextLiveSequence ≠ 0 → Written s.log) ∧
    ∀ session, fixed = some session → BlockOwned session s m
  | _ => True

/-! ## The invariant -/

/-- The envelope is at least what the request was sent from. -/
structure CoveredBy (r : SyncRequest) (state : Envelope) : Prop where
  session : r.sessionID = state.sessionID
  producer : r.producerID = state.producerID
  allocated : r.allocatedThrough ≤ state.lastAllocatedBatchSeq
  retired : r.retiredThrough ≤ state.retiredBatchFloor
  sequence_le : r.batchSequence ≤ state.lastAllocatedBatchSeq
  live : ∀ l, r.liveSignal = some l → l.sequence ≤ state.liveReservedThrough
  document : ∀ e ∈ state.entries, e.request.batchSequence = r.batchSequence →
    canonicalSyncBatchDocument e.request = canonicalSyncBatchDocument r

def Covers (session : String) (r : SyncRequest) (c : Content) : Prop :=
  ∃ state, c = .envelope state ∧ state.sessionID = session ∧ CoveredBy r state

/-- What holds of an agent that keeps to one session. -/
structure SessionInvariant (session : String) (s : AgentState) : Prop where
  opened : ∀ x, s.world.store.session = some x → x = session
  covered : ∀ r ∈ s.sent, ∀ c ∈ s.world.disk.snapshots, Covers session r c
  block : BlockOwned session s s.memory
  increasing : s.sent.Pairwise fun r r' => ∀ l l', r.liveSignal = some l →
    r'.liveSignal = some l' → l'.sequence < l.sequence

/-- What permitted operations keep. -/
structure AgentInvariant (s : AgentState) : Prop where
  syncs : s.world.store.opts.skipFsync = false
  synced : Written s.log → s.world.Synced
  reserved : s.memory.nextLiveSequence ≠ 0 → Written s.log
  session : ∀ session, fixed = some session → SessionInvariant session s

end Houfeng.Runtime
