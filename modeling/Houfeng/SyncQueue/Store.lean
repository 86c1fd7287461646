import Houfeng.SyncQueue.Envelope

/-!
# The file store

`FileStore` keeps the envelope in one file that it replaces by rename. A power failure may leave the
content of the last successful directory sync or of any rename after it, so the disk is the list of
these; a reader sees the newest. The clock, the random producer and the steps that fail are
arguments of every call.
-/

namespace Houfeng.SyncQueue

open AgentApi

/-! ## Disk -/

/-- What a read of the file may find. -/
inductive Content
  | missing
  | legacy (entries : Nat)
  | brokenLegacy
  | envelope (state : Envelope)
  | other

/-- The file after the last directory sync, and after each rename since. -/
structure Disk where
  durable : Content
  later : List Content

/-- The content a running process reads. -/
def Disk.visible (d : Disk) : Content := d.later.getLastD d.durable

/-- What may be found after a crash. -/
def Disk.snapshots (d : Disk) : List Content := d.durable :: d.later

/-- An atomic replacement, durable once the directory is synced. -/
def Disk.rename (d : Disk) (c : Content) (synced : Bool) : Disk :=
  if synced then { durable := c, later := [] } else { d with later := d.later ++ [c] }

/-! ## Store -/

/-- The session it is open for, and whether a directory sync has failed. -/
structure FileStore where
  opts : Options
  session : Option String
  poison : Bool

def newFileStore (opts : Options) : FileStore :=
  { opts := opts.withDefaults, session := none, poison := false }

/-- The disk and the store of one process. -/
structure World where
  disk : Disk
  store : FileStore

/-- Where a write fails. -/
inductive WriteFault
  | none
  | beforeRename
  | directorySync
deriving DecidableEq

/-- What goes wrong during one call, and its clocks. -/
structure Env where
  ctxDone : Bool
  lockFails : Bool
  readFails : Bool
  ctxDoneAfterRead : Bool
  now : Time
  pruneNow : Time
  producer : Option { id : String // validSyncProducerID id = true }
  retireWrite : WriteFault
  write : WriteFault

/-- Writes the file; an unsynced directory poisons the store. -/
def writeEnvelope (fault : WriteFault) (state : Envelope) (w : World) :
    Except QueueError Unit × World :=
  match state.toJson? with
  | none => (.error .marshal, w)
  | some payload =>
    if (payload.size : Int) > w.store.opts.maxBytes then (.error .entryExceedsCapacity, w)
    else if fault = .beforeRename then (.error .io, w)
    else if w.store.opts.skipFsync then
      (.ok (), { w with disk := w.disk.rename (.envelope state) false })
    else if fault = .directorySync then
      (.error .ambiguousDurability,
        { disk := w.disk.rename (.envelope state) false, store := { w.store with poison := true } })
    else (.ok (), { w with disk := w.disk.rename (.envelope state) true })

def decodeContent : Content → Except QueueError Envelope
  | .missing => .error .io
  | .legacy _ | .brokenLegacy | .other => .error .invalidJSON
  | .envelope state => decodeEnvelope state

variable (env : Env) (w : World)

/-- The stored envelope, if it is one of the open session. -/
def readEnvelope : Except QueueError Envelope :=
  if env.readFails then .error .io
  else do
    let state ← decodeContent w.disk.visible
    if w.store.session.any (· ≠ state.sessionID) then .error .sessionChangedWhileOpen
    else .ok state

def ready : Except QueueError Unit :=
  if w.store.poison then .error .ambiguousDurability
  else if env.ctxDone then .error .context
  else if w.store.session.isNone then .error .requiresOpenSession
  else .ok ()

/-! ## Opening -/

/-- What the file says to `OpenSession`: the state it holds, or nothing to go on from. -/
def loadContent (c : Content) : Except QueueError (Option Envelope) :=
  if env.readFails then .error .io
  else match c with
    | .missing => .ok none
    | .legacy n => if n = 0 then .ok none else .error .legacyQueueNotDrained
    | .brokenLegacy => .error .invalidLegacyQueue
    | .envelope state => (decodeEnvelope state).map some
    | .other => .error .invalidJSON

variable (session : String)

def initialEnvelope (producer : String) : Envelope where
  version := 2
  sessionID := session
  producerID := producer
  lastAllocatedBatchSeq := 0
  retiredBatchFloor := 0
  liveReservedThrough := 0
  entries := []

variable (state : Envelope)

/-- Drops all entries and retires their sequences. -/
def retireAll : Envelope :=
  { state with entries := [], retiredBatchFloor := state.lastAllocatedBatchSeq }

def opened (w : World) : World :=
  { w with store := { w.store with session := some session } }

/-- The end of `OpenSession`: a new producer for the session. -/
def bootstrap (w : World) : Except QueueError Unit × World :=
  match env.producer with
  | none => (.error .newProducer, w)
  | some producer =>
    match writeEnvelope env.write (initialEnvelope session producer) w with
    | (.error e, w') => (.error e, w')
    | (.ok (), w') => (.ok (), opened session w')

/-- Takes the queue over for a session; that of another one is emptied first. -/
def openSession (w : World) : Except QueueError Unit × World :=
  if w.store.poison then (.error .ambiguousDurability, w)
  else if env.ctxDone then (.error .context, w)
  else if session = "" then (.error .sessionRequired, w)
  else match w.store.session with
    | some current =>
      if session = current then ((readEnvelope env w).map fun _ => (), w)
      else (.error .closeBeforeSessionChange, w)
    | none =>
      if env.lockFails then (.error .lock, w)
      else match loadContent env w.disk.visible with
        | .error e => (.error e, w)
        | .ok none => bootstrap env session w
        | .ok (some state) =>
          if state.sessionID = session then (.ok (), opened session w)
          else match writeEnvelope env.retireWrite (retireAll state) w with
            | (.error e, w') => (.error e, w')
            | (.ok (), w') => bootstrap env session w'

def close : Except QueueError Unit × World :=
  (if w.store.poison then .error .ambiguousDurability else .ok (),
    { w with store := { w.store with session := none } })

/-! ## Reading -/

/-- Session, producer and the two watermarks. -/
structure ReplayState where
  sessionID : String
  producerID : String
  allocatedThrough : Int
  retiredThrough : Int

def readOpen : Except QueueError Envelope := do
  ready env w
  let state ← readEnvelope env w
  if env.ctxDoneAfterRead then .error .context else .ok state

def Envelope.replayState : ReplayState where
  sessionID := state.sessionID
  producerID := state.producerID
  allocatedThrough := state.lastAllocatedBatchSeq
  retiredThrough := state.retiredBatchFloor

def replayState : Except QueueError ReplayState :=
  (readOpen env w).map Envelope.replayState

def list : Except QueueError (List Entry) :=
  (readOpen env w).map Envelope.entries

/-! ## Changing -/

/-- Writes what a change gives, if it succeeds. -/
def commit {α : Type} (env : Env) (w : World) (change : Except QueueError (α × Envelope)) :
    Except QueueError α × World :=
  match change with
  | .error e => (.error e, w)
  | .ok (a, state) =>
    match writeEnvelope env.write state w with
    | (.error e, w') => (.error e, w')
    | (.ok (), w') => (.ok a, w')

def reserveChange (count : Int) (state : Envelope) :
    Except QueueError ((Int × Int) × Envelope) :=
  if state.liveReservedThrough > maxInt64 - count then .error .liveSequenceOverflow
  else
    .ok ((state.liveReservedThrough + 1, state.liveReservedThrough + count),
      { state with liveReservedThrough := state.liveReservedThrough + count })

/-- Reserves the next block of live sequences. -/
def reserveLiveSequences (count : Int) (w : World) : Except QueueError (Int × Int) × World :=
  commit env w do
    ready env w
    if count ≠ liveSequenceReservation then .error .reservationCount
    else reserveChange count (← readEnvelope env w)

variable (request : SyncRequest)

/-- Gives every fact of the request the identity of its batch. -/
def setBatchIdentity (id : String) : SyncRequest :=
  { request with
    heartbeats := request.heartbeats.map (List.map ({ · with syncBatchID := id }))
    hostSamples := request.hostSamples.map (List.map ({ · with syncBatchID := id }))
    probeObservations := request.probeObservations.map (List.map ({ · with syncBatchID := id }))
    ipQualityReports := request.ipQualityReports.map (List.map ({ · with syncBatchID := id })) }

def queuedRequest : SyncRequest :=
  let sequence := state.lastAllocatedBatchSeq + 1
  setBatchIdentity
    { cloneRequest request with
      liveSignal := none
      protocolRevision := syncProtocolRevision
      producerID := state.producerID
      batchSequence := sequence
      allocatedThrough := sequence
      retiredThrough := state.retiredBatchFloor }
    (batchIdentity state.producerID sequence)

/-- When the entry counts as created: now, but after the last entry. -/
def creationTime (now : Time) (entries : List Entry) : Time :=
  match entries.getLast? with
  | none => now
  | some last => if last.createdAt < now then now else last.createdAt + 1

def newEntry (now : Time) (state : Envelope) (request : SyncRequest) : Entry where
  id := batchIdentity state.producerID (state.lastAllocatedBatchSeq + 1)
  createdAt := creationTime now state.entries
  attempts := 0
  request := queuedRequest state request

/-- The envelope with the request as its last entry. -/
def appendRequest (now : Time) (state : Envelope) (request : SyncRequest) : Envelope :=
  { state with
    lastAllocatedBatchSeq := state.lastAllocatedBatchSeq + 1
    entries := state.entries ++ [newEntry now state request] }

/-- The state after an `Enqueue`, and the id of the new entry. -/
def enqueueChange (opts : Options) (request : SyncRequest) (state : Envelope) :
    Except QueueError (String × Envelope) :=
  if request.sessionID ≠ state.sessionID then .error .requestSessionMismatch
  else if state.lastAllocatedBatchSeq = maxInt64 then .error .batchSequenceOverflow
  else do
    let id := batchIdentity state.producerID (state.lastAllocatedBatchSeq + 1)
    let state ← pruneEnvelope opts env.pruneNow (appendRequest env.now state request)
    if state.entries.getLast?.all (·.id ≠ id) then .error .entryExceedsCapacity
    else .ok (id, state)

/-- Appends the request and prunes. -/
def enqueue (w : World) : Except QueueError String × World :=
  commit env w do
    ready env w
    enqueueChange env w.store.opts request (← readEnvelope env w)

/-- Reads the envelope, changes it and writes it back. -/
def mutate (mutation : Envelope → Except QueueError Envelope) (w : World) :
    Except QueueError Unit × World :=
  commit env w do
    ready env w
    let state ← mutation (← readEnvelope env w)
    pure ((), state)

def deleteEntries (ids : List String) (state : Envelope) : Envelope :=
  advanceFloor { state with entries := state.entries.filter fun entry => entry.id ∉ ids }

/-- Removes the entries with these ids. -/
def deleteMany (ids : List String) : World → Except QueueError Unit × World :=
  mutate env fun state => .ok (deleteEntries ids state)

def countAttempt (id : String) : List Entry → Except QueueError (List Entry)
  | [] => .ok []
  | entry :: rest =>
    if entry.id = id then
      if entry.attempts = maxInt64 then .error .attemptOverflow
      else .ok ({ entry with attempts := entry.attempts + 1 } :: rest)
    else (countAttempt id rest).map (entry :: ·)

/-- Counts one more attempt of the entry. -/
def markAttempt (id : String) : World → Except QueueError Unit × World :=
  mutate env fun state => (countAttempt id state.entries).map fun entries => { state with entries }

def prune : Except QueueError Unit × World :=
  mutate env (pruneEnvelope w.store.opts env.pruneNow) w

/-! ## Calls -/

/-- The calls that may change the queue; `reopen` is a new store on the same file. -/
inductive Op
  | openSession (session : String)
  | reserveLiveSequences (count : Int)
  | enqueue (request : SyncRequest)
  | deleteMany (ids : List String)
  | markAttempt (id : String)
  | prune
  | close
  | reopen (opts : Options)

def withoutResult {α : Type} (answer : Except QueueError α × World) :
    Except QueueError Unit × World :=
  (answer.1.map fun _ => (), answer.2)

/-- The answer to a call and what it leaves. -/
def perform (op : Op) (w : World) : Except QueueError Unit × World :=
  match op with
  | .openSession session => openSession env session w
  | .reserveLiveSequences count => withoutResult (reserveLiveSequences env count w)
  | .enqueue request => withoutResult (enqueue env request w)
  | .deleteMany ids => deleteMany env ids w
  | .markAttempt id => markAttempt env id w
  | .prune => prune env w
  | .close => close w
  | .reopen opts => (.ok (), { w with store := newFileStore opts })

structure Call where
  env : Env
  op : Op
  answer : Except QueueError Unit

def queueStep (call : Call) (w' : World) : Prop :=
  perform call.env call.op w = (call.answer, w')

end Houfeng.SyncQueue
