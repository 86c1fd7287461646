import Houfeng.AgentApi.Proofs.BatchDigestProofs
import Houfeng.Runtime.Proofs.OperationProofs

/-!
# Transmissions are permitted

One lemma for every function that applies an answer, attaches a live signal or transmits a request:
from any state of the invariant all its operations are permitted, and what it returns. An entry
that was listed stays known: an entry found later under its id has its request.
-/

namespace Houfeng.Runtime

open AgentApi SyncQueue Routine

variable {cfg : Config} {fixed : Option String} {authority : Option SyncAuthority}
  {s s' : AgentState}

/-! ## Plans -/

theorem stopIPQuality_fine (hinv : AgentInvariant fixed s) :
    Calm cfg fixed authority (stopIPQuality cfg) s := by
  have hdrain (s0 : AgentState) : Calm cfg fixed authority (do let _ ← call .drainReports; pure ()) s0 :=
    fine_quiet rfl trivial fun _ s1 _ _ hinner => safe_pure hinner
  unfold stopIPQuality
  split_ifs
  · exact safe_pure (.refl hinv)
  · exact hdrain s
  · refine fine_quiet rfl trivial fun _ s1 _ _ hinner => ?_
    exact safe_imp (hdrain s1) (fun _ s2 h => hinner.trans h) fun _ _ h => h

variable {response : SyncResponse}

structure Applied (fixed : Option String) (response : SyncResponse) (s s' : AgentState) : Prop where
  within : Within fixed s s'
  last : lastReceive s'.log = lastReceive s.log
  sent : s'.sent = s.sent
  stopped : s'.memory.collectionStopped = response.stopCollection

theorem Applied.inner {s'' : AgentState} (h : Applied fixed response s s')
    (hi : Inner fixed s' s'') : Applied fixed response s s'' :=
  ⟨h.within.trans hi.within, hi.last.trans h.last, hi.sent.trans h.sent, hi.stopped.trans h.stopped⟩

/-- A plan is applied after an answer; only a stop drops the buffered payloads. -/
theorem applySyncPlan_fine (hinv : AgentInvariant fixed s)
    (hstop : response.stopCollection = true → StopAnswered cfg s.log) :
    Fine cfg fixed authority (fun _ s' => Applied fixed response s s') (fun _ _ => False)
      (applySyncPlan cfg response) s := by
  unfold applySyncPlan
  split_ifs with hs
  · have hstop := hstop hs
    refine safe_bind (fine_assign ⟨fun _ _ => .inr (.inr hstop), fun _ _ => .inr (.inr hstop)⟩
      hinv.reserved (fun session hfixed => (hinv.session session hfixed).block) fun s1 h1 => ?_)
    have happlied : Applied fixed response s s1 :=
      ⟨h1.within, h1.last, h1.sent, by rw [h1.memory, hs]; rfl⟩
    exact safe_imp (stopIPQuality_fine h1.within.inv) (fun _ s2 h => happlied.inner h) fun _ _ h => h
  · refine safe_bind (fine_assign_other hinv (by simp) fun s1 h1 => ?_)
    have happlied : Applied fixed response s s1 :=
      ⟨h1.within, h1.last, h1.sent, by rw [h1.memory, Bool.eq_false_iff.mpr hs]⟩
    cases response.plan.bind (·.pendingAction) with
    | none => exact safe_pure happlied
    | some action =>
      dsimp only
      cases whitelist.lookup action.commandID with
      | none => exact safe_pure happlied
      | some command =>
        refine fine_quiet rfl trivial fun result s2 _ hsame hinner => ?_
        exact fine_assign_other hinner.within.inv (by simp) fun s3 h3 =>
          happlied.inner (hinner.trans (h3.inner rfl))

/-! ## Live signals -/

def LiveReady (fixed : Option String) (s : AgentState) (l : LiveSignal) : Prop :=
  ∀ session, fixed = some session → LiveFree s.sent l.sequence ∧
    ReservedThrough session s.world.disk l.sequence ∧
      (s.memory.nextLiveSequence ≠ 0 → l.sequence < s.memory.nextLiveSequence)

theorem LiveReady.same {l : LiveSignal} (h : LiveReady fixed s l) (hsame : Same s s') :
    LiveReady fixed s' l := by
  unfold LiveReady at h ⊢
  rwa [hsame.sent, hsame.world, hsame.memory]

/-- A fresh block lies above everything that was sent: all of it was covered by the envelope the
block has been reserved in. -/
theorem reserved_block {count : Int} {block : Int × Int} {session : String}
    (hinv : SessionInvariant session s) (hsync : s.world.store.opts.skipFsync = false)
    (h : Effect fixed s (.reserveLiveSequences count) (.ok block) s') :
    LiveFree s.sent block.1 ∧ block.1 ≤ block.2 ∧
      ReservedThrough session s'.world.disk block.2 := by
  obtain ⟨state, state', hvisible, hvalid, hsession, hrel, hdisk⟩ := reserve_ok h hsync
  have hfirst : block.1 = state.liveReservedThrough + 1 := by rw [hrel.block]
  have hlast : block.2 = state.liveReservedThrough + 1024 := by rw [hrel.block]
  refine ⟨fun r hr l hl => ?_, by omega, fun c hc => ?_⟩
  · obtain ⟨covering, heq, -, hcovered⟩ := hinv.covered r hr _ s.world.disk.visible_mem_snapshots
    rw [hvisible] at heq
    cases heq
    have := hcovered.live l hl
    omega
  · rw [hdisk] at hc
    refine ⟨state', List.mem_singleton.mp hc, ?_, ?_⟩
    · rw [hrel.state]
      exact hinv.opened _ hsession
    · rw [hrel.state, hlast]

theorem ensureLiveBlock_fine :
    Fine cfg fixed authority
      (fun _ s' => Inner fixed s s' ∧ s'.memory.nextLiveSequence ≠ 0)
      (fun e s' => e.policy? = none ∧ Inner fixed s s') ensureLiveBlock s := by
  refine fine_read fun s1 hsame1 hinner1 => ?_
  split_ifs with hnext
  · refine safe_pure ⟨hinner1, ?_⟩
    rw [hsame1.memory]
    exact hnext
  refine fine_inner rfl trivial fun answer s2 hstep hinner2 => ?_
  have hinner := hinner1.trans hinner2
  refine fine_queueCall (fun block hanswer => ?_) fun e _ => ⟨rfl, hinner⟩
  subst hanswer
  obtain ⟨s3, heffect, rfl⟩ := hstep
  have hinv1 := hinner1.within.inv
  have hwritten : Written (⟨.reserveLiveSequences liveSequenceReservation, .ok block⟩ :: s3.log) :=
    Written.of_event rfl
  have hsent : s3.sent = s1.sent := by
    obtain ⟨env, -, rfl⟩ := heffect
    rfl
  have hne : block.1 ≠ 0 := by
    obtain ⟨state, state', -, hvalid, -, hrel, -⟩ := reserve_ok heffect hinv1.syncs
    have := hvalid.live_nonneg
    rw [hrel.block]
    dsimp only
    omega
  refine fine_assign ⟨fun x hx => .inl hx, fun x hx => .inl hx⟩ (fun _ => hwritten)
    (fun session hfixed _ => ?_) fun s4 h4 => ⟨hinner.trans (h4.inner rfl), ?_⟩
  · have := reserved_block (hinv1.session session hfixed) hinv1.syncs heffect
    rw [← hsent] at this
    exact this
  · rw [h4.memory]
    exact hne

variable {request : SyncRequest}

/-- The signal that is attached has a sequence above all that were sent, and the rest of the block
stays above it. -/
theorem attachLiveSignal_fine {fingerprint : String} (hinv : AgentInvariant fixed s) :
    Fine cfg fixed authority
      (fun r s' => ∃ l, r = { request with liveSignal := some l } ∧ LiveReady fixed s' l ∧
        Written s'.log ∧ Inner fixed s s')
      (fun e s' => e.policy? = none ∧ Inner fixed s s')
      (attachLiveSignal request fingerprint) s := by
  unfold attachLiveSignal
  split_ifs
  · exact safe_throw ⟨rfl, .refl hinv⟩
  refine safe_bind (safe_imp ensureLiveBlock_fine ?_ fun e s' h => h)
  rintro - s1 ⟨hinner1, hnext⟩
  refine fine_read fun s2 hsame2 hinner2 => ?_
  have hinv2 := hinner2.within.inv
  have hnext2 : s2.memory.nextLiveSequence ≠ 0 := by rwa [hsame2.memory]
  have hmemory : s1.memory = s2.memory := hsame2.memory.symm
  rw [hmemory]
  refine safe_bind (fine_assign ⟨fun x hx => .inl hx, fun x hx => .inl hx⟩
    (fun _ => hinv2.reserved hnext2) (fun session hfixed => ?_) fun s3 h3 => ?_)
  · obtain ⟨hfree, hle, hreserved⟩ := (hinv2.session session hfixed).block hnext2
    intro hne
    dsimp only at hne ⊢
    by_cases hlast : s2.memory.nextLiveSequence = s2.memory.lastLiveSequence
    · rw [if_pos hlast] at hne
      exact absurd rfl hne
    · rw [if_neg hlast]
      exact ⟨fun r hr l hl => (hfree r hr l hl).trans (Int.lt_succ _), by omega, hreserved⟩
  · have hinner3 := hinner1.trans (hinner2.trans (h3.inner rfl))
    refine safe_pure ⟨_, rfl, fun session hfixed => ?_, ?_, hinner3⟩
    · obtain ⟨hfree, hle, hreserved⟩ := (hinv2.session session hfixed).block hnext2
      rw [h3.sent, h3.world, h3.memory]
      refine ⟨hfree, fun c hc => ?_, fun hne => ?_⟩
      · obtain ⟨state, heq, hsession, hreserved⟩ := hreserved c hc
        exact ⟨state, heq, hsession, hle.trans hreserved⟩
      · dsimp only at hne ⊢
        split_ifs at hne ⊢ with hlast
        · exact absurd rfl hne
        · exact Int.lt_succ _
    · exact h3.within.written (hinv2.reserved hnext2)

/-! ## Transmitting -/

/-- A listed entry: an entry found under its id still has its request. -/
structure Known (s : AgentState) (e : Entry) : Prop where
  positive : 0 < e.request.batchSequence
  identity : e.id = batchIdentity e.request.producerID e.request.batchSequence
  found : ∀ state, s.world.disk.visible = .envelope state →
    e.request.batchSequence ≤ state.lastAllocatedBatchSeq ∧
      ∀ e' ∈ state.entries, e'.id = e.id → e'.request = e.request

variable {e : Entry}

theorem Known.within (h : Known s e) (hw : Within fixed s s') : Known s' e := by
  refine ⟨h.positive, h.identity, fun state' hvisible' => ?_⟩
  obtain ⟨state, hvisible, hshrinks⟩ := hw.shrinks state' hvisible'
  obtain ⟨hle, hfound⟩ := h.found state hvisible
  refine ⟨hshrinks.allocated ▸ hle, fun e' he' hid => ?_⟩
  obtain ⟨e0, he0, hid0, hrequest⟩ := hshrinks.entries e' he'
  rw [← hrequest]
  exact hfound e0 he0 (hid0.trans hid)

variable {state : Envelope}

theorem known_of_valid (hvisible : s.world.disk.visible = .envelope state) (hvalid : state.Valid)
    (he : e ∈ state.entries) : Known s e := by
  have hv := hvalid.entry e he
  refine ⟨lt_of_le_of_lt hv.retired_nonneg hv.retired_lt, hv.producer ▸ hv.identity,
    fun state' hvisible' => ?_⟩
  rw [hvisible] at hvisible'
  cases hvisible'
  exact ⟨hv.sequence_le, fun e' he' hid => congrArg Entry.request (hvalid.eq_of_id_eq he' he hid)⟩

theorem document_refreshed (r : SyncRequest) (revision allocated retired : Int) :
    canonicalSyncBatchDocument { r with
      protocolRevision := revision
      allocatedThrough := allocated
      retiredThrough := retired } = canonicalSyncBatchDocument r :=
  canonicalSyncBatchDocument_congr rfl

theorem refreshReplayState_fine :
    Fine cfg fixed authority
      (fun r s' => Same s s' ∧ Inner fixed s s' ∧ ∃ state,
        s'.world.disk.visible = .envelope state ∧ state.Valid ∧ s'.world.store.poison = false ∧
        s'.world.store.session = some state.sessionID ∧ request.sessionID = state.sessionID ∧
        (0 < request.batchSequence → request.producerID = state.producerID) ∧
        r = { request with
          protocolRevision := syncProtocolRevision
          producerID := state.producerID
          allocatedThrough := state.lastAllocatedBatchSeq
          retiredThrough := state.retiredBatchFloor })
      (fun e s' => e.policy? = none ∧ Inner fixed s s') (refreshReplayState request) s := by
  refine fine_quiet rfl trivial fun answer s1 hstep hsame hinner => ?_
  refine fine_queueCall (fun replay hanswer => ?_) fun e _ => ⟨rfl, hinner⟩
  obtain ⟨s2, ⟨env, hread, rfl⟩, rfl⟩ := hstep
  rw [hanswer, replayState] at hread
  rcases hopen : readOpen env s2.world with _ | state <;> rw [hopen] at hread
  · cases hread
  obtain rfl := (Except.ok.inj hread).symm
  obtain ⟨hpoison, hvisible, hvalid, hsession⟩ := readOpen_eq_ok hopen
  split_ifs with hmismatch
  · exact safe_throw ⟨rfl, hinner⟩
  · rw [not_or, not_not, not_and, not_not] at hmismatch
    exact safe_pure ⟨hsame, hinner, state, hvisible, hvalid, hpoison, hsession, hmismatch.1,
      hmismatch.2, rfl⟩

/-- A request the runtime transmits: a control request, or one with the document of a known
entry. -/
structure Transmittable (fixed : Option String) (s : AgentState) (request : SyncRequest) : Prop where
  written : Written s.log
  live : ∀ l, request.liveSignal = some l → LiveReady fixed s l
  origin : request.batchSequence = 0 ∨ ∃ e, Known s e ∧
    canonicalSyncBatchDocument request = canonicalSyncBatchDocument e.request

def Acked (cfg : Config) (s : AgentState) (request : SyncRequest) (response : SyncResponse) :
    Prop :=
  ∃ r, lastReceive s.log = some (r, .ok (some response)) ∧
    validateSyncAcknowledgement cfg r (some response) = .ok response ∧
    (0 < request.batchSequence →
      canonicalSyncBatchDocument r = canonicalSyncBatchDocument request)

def Rejected (s : AgentState) (request : SyncRequest) : Prop :=
  ∃ r code retryAfter, lastReceive s.log = some (r, .error (.remote 400 code retryAfter)) ∧
    (code = errorCodeInvalidJSON ∨ code = errorCodeInvalidRequest) ∧
    (0 < request.batchSequence →
      canonicalSyncBatchDocument r = canonicalSyncBatchDocument request)

theorem Acked.inner (h : Acked cfg s request response) (hi : Inner fixed s s') :
    Acked cfg s' request response := by
  unfold Acked at h ⊢
  rwa [hi.last]

theorem Rejected.inner (h : Rejected s request) (hi : Inner fixed s s') : Rejected s' request := by
  unfold Rejected at h ⊢
  rwa [hi.last]

theorem Acked.stopAnswered (h : Acked cfg s request response)
    (hdeferred : response.disposition ≠ Disposition.deferred.text)
    (hstop : response.stopCollection = true) : StopAnswered cfg s.log := by
  obtain ⟨r, hlast, hvalid, -⟩ := h
  exact ⟨r, response, hlast, hvalid, hdeferred, hstop⟩

structure Valid (cfg : Config) (request : SyncRequest) (response : SyncResponse) : Prop where
  session : response.sessionID = request.sessionID
  producer : response.producerID = request.producerID
  sequence : response.batchSequence = request.batchSequence
  digest : response.batchDigest = hexEncode (canonicalSyncBatchDigest cfg.hash request)
  disposition : response.disposition ∈ [Disposition.recorded.text, Disposition.exactDuplicate.text,
    Disposition.suppressed.text, Disposition.deferred.text]

theorem validateSyncAcknowledgement_ok {response : Option SyncResponse} {accepted : SyncResponse}
    (h : validateSyncAcknowledgement cfg request response = .ok accepted) :
    response = some accepted ∧ Valid cfg request accepted := by
  unfold validateSyncAcknowledgement at h
  cases response with
  | none => cases h
  | some response =>
    dsimp only at h
    split_ifs at h with hidentity hdigest hdisposition
    obtain rfl := Except.ok.inj h
    rw [not_or, not_or, not_not, not_not, not_not] at hidentity
    exact ⟨rfl, hidentity.1, hidentity.2.1, hidentity.2.2, not_not.mp hdigest, hdisposition⟩

theorem noteRetryAfter_fine {e : ClientError} (hinv : AgentInvariant fixed s) :
    Calm cfg fixed authority (noteRetryAfter e) s := by
  cases e with
  | transport => exact safe_pure (.refl hinv)
  | remote statusCode code retryAfter =>
    unfold noteRetryAfter
    dsimp only
    by_cases hstatus : statusCode = 429 ∨ statusCode = 503
    · rw [if_pos hstatus]
      refine fine_quiet rfl trivial fun now s1 _ _ hinner => ?_
      exact fine_assign_other hinner.within.inv (by simp) fun s2 h2 => hinner.trans (h2.inner rfl)
    · rw [if_neg hstatus]
      exact safe_pure (.refl hinv)

theorem classifySyncFailure_discard {e : ClientError}
    (h : (classifySyncFailure e).action = .discard) :
    ∃ code retryAfter, e = .remote 400 code retryAfter ∧
      (code = errorCodeInvalidJSON ∨ code = errorCodeInvalidRequest) := by
  cases e with
  | transport => cases h
  | remote statusCode code retryAfter =>
    simp only [classifySyncFailure] at h
    split_ifs at h with hretry hdiscard
    obtain ⟨rfl, hcode⟩ := hdiscard
    exact ⟨code, retryAfter, rfl, hcode⟩

theorem Transmittable.sendable {r : SyncRequest} (h : Transmittable fixed s request)
    (hsame : Same s s') (hvisible : s'.world.disk.visible = .envelope state) (hvalid : state.Valid)
    (hpoison : s'.world.store.poison = false)
    (hsession : s'.world.store.session = some state.sessionID)
    (hrequest : request.sessionID = state.sessionID)
    (hproducer : 0 < request.batchSequence → request.producerID = state.producerID)
    (hr : r = { request with
      protocolRevision := syncProtocolRevision
      producerID := state.producerID
      allocatedThrough := state.lastAllocatedBatchSeq
      retiredThrough := state.retiredBatchFloor }) :
    Sendable fixed s' r ∧ (0 < request.batchSequence →
      canonicalSyncBatchDocument r = canonicalSyncBatchDocument request) := by
  have hdocument : 0 < request.batchSequence →
      canonicalSyncBatchDocument r = canonicalSyncBatchDocument request := by
    intro hpos
    rw [hr, ← hproducer hpos]
    exact document_refreshed request _ _ _
  have hsequence : r.batchSequence = request.batchSequence := by rw [hr]
  refine ⟨⟨hpoison, hsame.written h.written, ⟨state, hvisible, hvalid, hsession, ?_⟩, ?_⟩, hdocument⟩
  · have hcurrent : r.batchSequence ≤ state.lastAllocatedBatchSeq ∧
        ∀ e ∈ state.entries, e.request.batchSequence = r.batchSequence →
          canonicalSyncBatchDocument e.request = canonicalSyncBatchDocument r := by
      rcases h.origin with hzero | ⟨e, hknown, hdoc⟩
      · rw [hsequence, hzero]
        refine ⟨hvalid.floor_nonneg.trans hvalid.floor_le, fun e he hseq => ?_⟩
        have hv := hvalid.entry e he
        exact absurd (hseq ▸ lt_of_le_of_lt hv.retired_nonneg hv.retired_lt) (lt_irrefl _)
      · obtain ⟨-, hp, hq, -⟩ := identity_eq_of_document_eq hdoc
        have hpos : 0 < request.batchSequence := hq ▸ hknown.positive
        obtain ⟨hle, hfound⟩ := hknown.found state (by rw [← hsame.world]; exact hvisible)
        rw [hsequence, hq]
        refine ⟨hle, fun e' he' hseq => ?_⟩
        have hid : e'.id = e.id := by
          rw [(hvalid.entry e' he').identity, hknown.identity, hseq, ← hp, hproducer hpos]
        rw [hfound e' he' hid, ← hdoc, hdocument hpos]
    exact
      { session := by rw [hr]; exact hrequest
        producer := by rw [hr]
        allocated := by rw [hr]
        retired := by rw [hr]
        sequence_le := hcurrent.1
        document := hcurrent.2 }
  · intro session hfixed l hl
    rw [hr] at hl
    exact (h.live l hl).same hsame session hfixed

/-- What a failed transmission says: only a rejection is answered by a discard. -/
def Failed (s : AgentState) (request : SyncRequest) (e : RunError) : Prop :=
  ∀ p, e.policy? = some p → p.action = .discard → Rejected s request

def Transmits (prepared : SyncRequest → Prop) (sent sent' : List SyncRequest) : Prop :=
  ∃ request revision producer allocated retired, prepared request ∧ sent' = { request with
    protocolRevision := revision
    producerID := producer
    allocatedThrough := allocated
    retiredThrough := retired } :: sent

/-- One request was sent; collection was neither stopped nor resumed. -/
structure Exchanged (fixed : Option String) (prepared : SyncRequest → Prop) (s s' : AgentState) :
    Prop where
  within : Within fixed s s'
  sent : Transmits prepared s.sent s'.sent
  stopped : s'.memory.collectionStopped = s.memory.collectionStopped

variable {p : SyncRequest → Prop} {s'' : AgentState}

theorem Inner.exchanged (h : Inner fixed s s') (h' : Exchanged fixed p s' s'') :
    Exchanged fixed p s s'' :=
  ⟨h.within.trans h'.within, h.sent ▸ h'.sent, h'.stopped.trans h.stopped⟩

theorem Exchanged.inner (h : Exchanged fixed p s s') (h' : Inner fixed s' s'') :
    Exchanged fixed p s s'' :=
  ⟨h.within.trans h'.within, h'.sent ▸ h.sent, h'.stopped.trans h.stopped⟩

theorem transmitSyncRequest_fine (h : Transmittable fixed s request) (hprepared : p request) :
    Fine cfg fixed authority
      (fun response s' => Exchanged fixed p s s' ∧ Acked cfg s' request response)
      (fun e s' => e.policy? = none ∧ Inner fixed s s' ∨
        Exchanged fixed p s s' ∧ Failed s' request e)
      (transmitSyncRequest cfg request) s := by
  refine safe_bind (safe_imp refreshReplayState_fine ?_ fun e s' he => .inl he)
  rintro r s1 ⟨hsame, hinner1, state, hvisible, hvalid, hpoison, hsession, hrequest, hproducer, hr⟩
  obtain ⟨hsend, hdocument⟩ :=
    h.sendable hsame hvisible hvalid hpoison hsession hrequest hproducer hr
  refine safe_call_bind (o := Op.send r) hsend fun _ s2 hstep2 => ?_
  refine safe_call_bind (o := Op.receive r) trivial fun reply s3 hstep3 => ?_
  have hwithin3 := (within_of_operation rfl hstep2).trans (within_of_operation rfl hstep3)
  have hinv3 := hstep3.2
  obtain ⟨⟨s4, rfl, rfl⟩, -⟩ := hstep2
  obtain ⟨⟨s5, rfl, rfl⟩, -⟩ := hstep3
  have hexchanged := hinner1.exchanged
    ⟨hwithin3, ⟨_, _, _, _, _, hprepared, congrArg (· :: s1.sent) hr⟩, rfl⟩
  cases reply with
  | error e =>
    refine safe_bind (safe_imp (noteRetryAfter_fine hinv3) ?_ fun _ _ hfalse => hfalse.elim)
    intro _ s4 hinner4
    refine safe_throw (.inr ⟨hexchanged.inner hinner4, fun p hp haction => ?_⟩)
    obtain rfl := Option.some.inj hp
    obtain ⟨code, retryAfter, rfl, hcode⟩ := classifySyncFailure_discard haction
    exact ⟨r, code, retryAfter, hinner4.last, hcode, hdocument⟩
  | ok response =>
    dsimp only
    cases hcheck : validateSyncAcknowledgement cfg r response with
    | error message =>
      refine safe_throw (.inr ⟨hexchanged, fun p hp haction => ?_⟩)
      obtain rfl := Option.some.inj hp
      cases haction
    | ok accepted =>
      obtain ⟨rfl, -⟩ := validateSyncAcknowledgement_ok hcheck
      exact safe_pure ⟨hexchanged, r, rfl, hcheck, hdocument⟩

/-- Every fact of the request is marked as backfilled. -/
structure Backfilled (request : SyncRequest) : Prop where
  heartbeats : ∀ x ∈ request.heartbeats.items, x.isBackfilled = true
  hostSamples : ∀ x ∈ request.hostSamples.items, x.isBackfilled = true
  probeObservations : ∀ x ∈ request.probeObservations.items, x.isBackfilled = true
  ipQualityReports : ∀ x ∈ request.ipQualityReports.items, x.isBackfilled = true

theorem withBackfilledFacts_backfilled (request : SyncRequest) :
    Backfilled (withBackfilledFacts request true) := by
  constructor <;> intro x hx <;>
    simp only [withBackfilledFacts, Slice.items_map, List.mem_map] at hx <;>
    obtain ⟨y, -, rfl⟩ := hx <;> rfl

/-- What is transmitted for an entry: the current one as it is queued with a live signal, one of the
backlog without a live signal and with every fact marked as backfilled. -/
def Prepared (entry : Entry) (current : Bool) (request : SyncRequest) : Prop :=
  if current then ∃ l, request = { entry.request with liveSignal := some l }
  else request = withBackfilledFacts entry.request true ∧ Backfilled request ∧
    request.liveSignal = none

theorem syncRequest_fine {entry : Entry} {current : Bool} (hinv : AgentInvariant fixed s)
    (hknown : Known s entry) (hwritten : Written s.log) :
    Fine cfg fixed authority
      (fun response s' => Exchanged fixed (Prepared entry current) s s' ∧
        Acked cfg s' entry.request response)
      (fun e s' => e.policy? = none ∧ Inner fixed s s' ∨
        Exchanged fixed (Prepared entry current) s s' ∧ Failed s' entry.request e)
      (syncRequest cfg entry current) s := by
  have htransmit {s1 : AgentState} {request : SyncRequest} (hinner : Inner fixed s s1)
      (hprepared : Prepared entry current request)
      (hlive : ∀ l, request.liveSignal = some l → LiveReady fixed s1 l)
      (hdoc : canonicalSyncBatchDocument request = canonicalSyncBatchDocument entry.request) :
      Fine cfg fixed authority
        (fun response s' => Exchanged fixed (Prepared entry current) s s' ∧
          Acked cfg s' entry.request response)
        (fun e s' => e.policy? = none ∧ Inner fixed s s' ∨
          Exchanged fixed (Prepared entry current) s s' ∧ Failed s' entry.request e)
        (transmitSyncRequest cfg request) s1 := by
    obtain ⟨-, -, hseq, -⟩ := identity_eq_of_document_eq hdoc
    have htransmittable : Transmittable fixed s1 request := ⟨hinner.within.written hwritten, hlive,
      Or.inr ⟨entry, hknown.within hinner.within, hdoc⟩⟩
    refine safe_imp (transmitSyncRequest_fine htransmittable hprepared) ?_ ?_
    · rintro response s2 ⟨hexchanged, r, hlast, hvalid, hdocument⟩
      exact ⟨hinner.exchanged hexchanged, r, hlast, hvalid,
        fun hpos => (hdocument (hseq ▸ hpos)).trans hdoc⟩
    · rintro e s2 (⟨hpolicy, hinner2⟩ | ⟨hexchanged, hfailed⟩)
      · exact .inl ⟨hpolicy, hinner.trans hinner2⟩
      refine .inr ⟨hinner.exchanged hexchanged, fun p hp haction => ?_⟩
      obtain ⟨r, code, retryAfter, hlast, hcode, hdocument⟩ := hfailed p hp haction
      exact ⟨r, code, retryAfter, hlast, hcode, fun hpos => (hdocument (hseq ▸ hpos)).trans hdoc⟩
  unfold syncRequest
  split_ifs with hcurrent
  · refine safe_bind (safe_imp (attachLiveSignal_fine hinv) ?_ fun e s' he => .inl he)
    rintro request s1 ⟨l, rfl, hready, -, hinner⟩
    refine htransmit hinner (by rw [hcurrent]; exact ⟨l, rfl⟩) (fun l' hl' => ?_)
      (canonicalSyncBatchDocument_congr rfl)
    obtain rfl := Option.some.inj hl'
    exact hready
  · refine htransmit (.refl hinv) ?_ nofun
      (canonicalSyncBatchDocument_congr (documentFields_withBackfilledFacts _ _))
    rw [Bool.eq_false_iff.mpr hcurrent]
    exact ⟨rfl, withBackfilledFacts_backfilled _, rfl⟩

end Houfeng.Runtime
