import Houfeng.AgentApi.Encoding
import Houfeng.Foundation.Timestamp

/-!
# The queue file

The envelope an agent persists: the replay authority of one session and a bounded FIFO of requests.
A file is modelled by what it decodes to; `decodeEnvelope` is the check every read makes, and
`pruneEnvelope` drops the oldest entries until the envelope is within its limits.
-/

namespace Houfeng.SyncQueue

open AgentApi

/-! ## Backfilled copies

A queued request is sent again as a copy whose facts are marked as backfilled and which carries no
live signal. -/

/-- `append([]T(nil), s...)`: an empty slice is copied to nil. -/
def appendNil {α : Type} (s : Slice α) : Slice α := if s.items = [] then none else s

/-- `cloneIPQualityReports`. The deep copies change no value except that an empty list of provider
results or service unlocks becomes nil. -/
def cloneIPQualityReports (reports : Slice IPQualityReportPayload) :
    Slice IPQualityReportPayload :=
  if reports.items = [] then none
  else some (reports.items.map fun report =>
    { report with
      providerResults := appendNil report.providerResults
      serviceUnlocks := appendNil report.serviceUnlocks })

def cloneRequest (request : SyncRequest) : SyncRequest :=
  { request with
    heartbeats := appendNil request.heartbeats
    hostSamples := appendNil request.hostSamples
    probeObservations := appendNil request.probeObservations
    ipQualityReports := cloneIPQualityReports request.ipQualityReports }

/-- The request as it is sent: its facts marked, without a live signal. -/
def withBackfilledFacts (request : SyncRequest) (backfilled : Bool) : SyncRequest :=
  let cloned := cloneRequest request
  { cloned with
    liveSignal := none
    heartbeats := cloned.heartbeats.map (List.map ({ · with isBackfilled := backfilled }))
    hostSamples := cloned.hostSamples.map (List.map ({ · with isBackfilled := backfilled }))
    probeObservations :=
      cloned.probeObservations.map (List.map ({ · with isBackfilled := backfilled }))
    ipQualityReports :=
      cloned.ipQualityReports.map (List.map ({ · with isBackfilled := backfilled })) }

/-! ## Errors -/

/-- `math.MaxInt64`, and `math.MaxInt` on the 64-bit platforms of the agent. -/
def maxInt64 : Int := 9223372036854775807

/-- The errors of the queue, as far as callers can tell them apart. -/
inductive QueueError
  | ambiguousDurability
  | context
  | sessionRequired
  | closeBeforeSessionChange
  | requiresOpenSession
  | lock
  | io
  | legacyQueueNotDrained
  | invalidLegacyQueue
  | invalidJSON
  | duplicateKey
  | replayBounds
  | entryBounds
  | factIdentity
  | retiredFloor
  | sessionChangedWhileOpen
  | newProducer
  | marshal
  | entryExceedsCapacity
  | reservationCount
  | liveSequenceOverflow
  | requestSessionMismatch
  | batchSequenceOverflow
  | attemptOverflow
deriving DecidableEq

structure Options where
  maxEntries : Int
  maxAge : Int
  maxBytes : Int
  skipFsync : Bool

/-- The defaults `NewFileStore` fills in: 65536 entries, 72 hours, 64 MiB. -/
def Options.withDefaults (opts : Options) : Options where
  maxEntries := if opts.maxEntries ≤ 0 then 65536 else opts.maxEntries
  maxAge := if opts.maxAge ≤ 0 then 72 * 3600 * 1000000000 else opts.maxAge
  maxBytes := if opts.maxBytes ≤ 0 then 64 * 1024 * 1024 else opts.maxBytes
  skipFsync := opts.skipFsync

/-- A request that waits to be acknowledged. -/
structure Entry where
  id : String
  createdAt : Time
  attempts : Int
  request : SyncRequest

/-- The content of the queue file. -/
structure Envelope where
  version : Int
  sessionID : String
  producerID : String
  lastAllocatedBatchSeq : Int
  retiredBatchFloor : Int
  liveReservedThrough : Int
  entries : List Entry

/-! ## Encoding -/

def Entry.toJson? (entry : Entry) : Option Json := do
  let createdAt ← formatTime entry.createdAt
  pure <| Json.ofFields
    [("id", writeStr entry.id), ("created_at", writeStr createdAt),
     ("attempts", writeInt entry.attempts), ("request", some (encodeSyncRequest entry.request))]

def Envelope.jsonAround (state : Envelope) (entries : List Json) : Json :=
  Json.ofFields
    [("version", writeInt state.version), ("session_id", writeStr state.sessionID),
     ("producer_id", writeStr state.producerID),
     ("last_allocated_batch_seq", writeInt state.lastAllocatedBatchSeq),
     ("retired_batch_floor", writeInt state.retiredBatchFloor),
     ("live_reserved_through", writeInt state.liveReservedThrough),
     ("entries", some (.arr entries))]

def Envelope.toJson? (state : Envelope) : Option Json :=
  (state.entries.mapM Entry.toJson?).map state.jsonAround

/-! ## Decoding -/

def batchIdentityMatches (r : SyncRequest) (id : String) : Bool :=
  (r.heartbeats.items.all fun fact => fact.syncBatchID = id) &&
    (r.hostSamples.items.all fun fact => fact.syncBatchID = id) &&
    (r.probeObservations.items.all fun fact => fact.syncBatchID = id) &&
    r.ipQualityReports.items.all fun fact => fact.syncBatchID = id

/-- The bounds of one entry, after the one with sequence `previous` and time `previousTime`. The
last bound is that of the `int` the attempts decode into. -/
def entryBounds (state : Envelope) (previous : Int) (previousTime : Time) (entry : Entry) : Bool :=
  let r := entry.request
  r.protocolRevision = syncProtocolRevision && r.sessionID = state.sessionID &&
    r.producerID = state.producerID && previous < r.batchSequence &&
    r.batchSequence ≤ state.lastAllocatedBatchSeq && r.batchSequence ≤ r.allocatedThrough &&
    r.allocatedThrough ≤ state.lastAllocatedBatchSeq && 0 ≤ r.retiredThrough &&
    r.retiredThrough < r.batchSequence && r.retiredThrough ≤ state.retiredBatchFloor &&
    r.liveSignal.isNone && entry.id = batchIdentity state.producerID r.batchSequence &&
    entry.createdAt ≠ 0 && (previousTime = 0 || previousTime < entry.createdAt) &&
    0 ≤ entry.attempts && entry.attempts ≤ maxInt64

/-- Identities, sequences and times of the entries, in order. -/
def checkEntries (state : Envelope) : Int → Time → List Entry → Except QueueError Unit
  | _, _, [] => .ok ()
  | previous, previousTime, entry :: rest =>
    if entryBounds state previous previousTime entry = false then .error .entryBounds
    else if batchIdentityMatches entry.request
        (batchIdentity state.producerID entry.request.batchSequence) = false then
      .error .factIdentity
    else checkEntries state entry.request.batchSequence entry.createdAt rest

/-- The floor an envelope must have: just below its first entry. -/
def expectedFloor (state : Envelope) : Int :=
  match state.entries with
  | [] => state.lastAllocatedBatchSeq
  | entry :: _ => entry.request.batchSequence - 1

/-- The bounds of the replay state; the upper ones are those of the `int64` fields. -/
def replayBounds (state : Envelope) : Bool :=
  state.version = 2 && state.sessionID ≠ "" && validSyncProducerID state.producerID &&
    0 ≤ state.lastAllocatedBatchSeq && 0 ≤ state.retiredBatchFloor &&
    state.retiredBatchFloor ≤ state.lastAllocatedBatchSeq && 0 ≤ state.liveReservedThrough &&
    state.lastAllocatedBatchSeq ≤ maxInt64 && state.liveReservedThrough ≤ maxInt64

/-- The checks of an envelope that was read. -/
def decodeEnvelope (state : Envelope) : Except QueueError Envelope :=
  if (state.entries.all fun e => (encodeSyncRequest e.request).noDuplicateKeys) = false then
    .error .duplicateKey
  else if replayBounds state = false then .error .replayBounds
  else do
    checkEntries state state.retiredBatchFloor 0 state.entries
    if state.retiredBatchFloor ≠ expectedFloor state then .error .retiredFloor
    else .ok state

/-! ## Retiring and pruning -/

/-- Retires what is below every entry. -/
def advanceFloor (state : Envelope) : Envelope :=
  { state with retiredBatchFloor := max state.retiredBatchFloor (expectedFloor state) }

/-- The entries that are young enough, and of these the last `MaxEntries`. -/
def pruneByAgeAndCount (opts : Options) (now : Time) (entries : List Entry) : List Entry :=
  let young := entries.dropWhile fun entry => entry.createdAt < now - opts.maxAge
  if (young.length : Int) > opts.maxEntries then
    young.drop (young.length - opts.maxEntries.toNat)
  else young

def withMeasured (state : Envelope) (measured : List (Entry × Nat)) : Envelope :=
  advanceFloor { state with entries := measured.map Prod.fst }

def measuredSize (state : Envelope) (measured : List (Entry × Nat)) : Nat :=
  (state.jsonAround []).size + (measured.map Prod.snd).sum + (measured.length - 1)

/-- The byte loop: drops the first entry until the envelope fits. -/
def pruneByBytes (opts : Options) (state : Envelope) :
    List (Entry × Nat) → Except QueueError Envelope
  | [] =>
    let state := withMeasured state []
    if measuredSize state [] ≤ opts.maxBytes then .ok state else .error .entryExceedsCapacity
  | first :: rest =>
    let state := withMeasured state (first :: rest)
    if measuredSize state (first :: rest) ≤ opts.maxBytes then .ok state
    else pruneByBytes opts state rest

/-- Drops entries that are too old, too many or too large, oldest first. -/
def pruneEnvelope (opts : Options) (now : Time) (state : Envelope) :
    Except QueueError Envelope := do
  let entries := pruneByAgeAndCount opts now state.entries
  match entries.mapM fun entry => entry.toJson?.map fun payload => (entry, payload.size) with
  | none => .error .marshal
  | some measured => pruneByBytes opts { state with entries } measured

end Houfeng.SyncQueue
