import Houfeng.Collaboration.ExternalDelivery
import Mathlib.Data.List.Perm.Subperm

/-!
# Deliveries are not repeated

What one step of a worker does to the rows and to its phase, the invariant of the rows with the
workers that hold a claim or an attempt, and what it says about the sends of a whole run.
-/

namespace Houfeng.Collaboration

open RecordPlatform List Function Tx

variable {config : DeliveryConfig}

/-! ## Transactions -/

variable {timestamp : Int} {s s' : DeliveryStore} {u : Unit}

theorem assertOutboxClaim_eq_ok {claim : ClaimedOutboxEvent}
    (h : assertOutboxClaim timestamp claim s = .ok (u, s')) :
    s' = s ∧ s.outbox.ownedBy claim = true := by
  obtain ⟨-, h⟩ := check_bind_eq_ok h
  obtain ⟨howned, rfl⟩ := check_eq_ok h
  exact ⟨rfl, howned.1⟩

theorem loadExternalDelivery_eq_ok {deliveryID : String} {delivery : Option DeliveryRow}
    (h : loadExternalDelivery deliveryID s = .ok (delivery, s')) :
    s' = s ∧ ∀ row ∈ delivery, s.delivery = some row := by
  replace h := get_bind_eq_ok h
  cases hdelivery : s.delivery with
  | none =>
    rw [hdelivery] at h
    cases h
    exact ⟨rfl, nofun⟩
  | some row =>
    simp only [hdelivery] at h
    split_ifs at h
    · cases h
      exact ⟨rfl, nofun⟩
    · obtain ⟨-, h⟩ := check_bind_eq_ok h
      cases h
      exact ⟨rfl, fun _ h => h⟩

theorem insertExternalDeliveryAttempt_eq_ok {row : AttemptRow}
    (h : insertExternalDeliveryAttempt row s = .ok (u, s')) :
    s' = { s with attempts := s.attempts ++ [row] } := by
  replace h := get_bind_eq_ok h
  obtain ⟨-, h⟩ := check_bind_eq_ok h
  cases h
  rfl

def DeliveryState.waiting (state : DeliveryState) : Prop := state = .pending ∨ state = .retryWait

/-- The recipient had access to the record at the epochs that the delivery was made at. -/
def Authorized (observed : Observed) (key : DeliveryKey) : Prop :=
  ∃ access, observed.access = .found access ∧ access.verdict = .found () ∧
    access.authorizationEpoch = key.authorizationEpoch ∧
    access.recordFenceEpoch = key.recordFenceEpoch

/-- What a preparation does to the delivery and its attempts. -/
inductive PrepareEffect (timestamp : Int) (observed : Observed) (s : DeliveryStore) :
    Preparation → DeliveryStore → Prop
  | unchanged (settlement : Settlement) : PrepareEffect timestamp observed s (.done settlement) s
  | takenOver {row : DeliveryRow} {startedAt : Int} (hrow : s.delivery = some row)
      (hstate : row.state = .processing) :
      PrepareEffect timestamp observed s (.done .complete)
        { s with
          delivery := some (row.ended .unknownOutcome "lease_takeover_unknown")
          attempts := s.attempts ++ [⟨row.attemptCount, .unknownOutcome, "lease_takeover_unknown",
            startedAt, timestamp⟩] }
  | cancelled {row : DeliveryRow} {reason : String} (hrow : s.delivery = some row)
      (hstate : row.state.waiting) (hroom : row.attemptCount < maxNotificationDeliveryAttempts) :
      PrepareEffect timestamp observed s (.done .cancel)
        { s with
          delivery := some (row.cancelled reason)
          attempts := s.attempts ++
            [⟨row.attemptCount + 1, .cancelled, reason, timestamp, timestamp⟩] }
  | started {row : DeliveryRow} (hrow : s.delivery = some row) (hstate : row.state.waiting)
      (hroom : row.attemptCount < maxNotificationDeliveryAttempts)
      (hauthorized : Authorized observed row.key) :
      PrepareEffect timestamp observed s (.prepared ⟨row.key, row.attemptCount + 1, timestamp⟩)
        { s with delivery := some (row.started timestamp) }

variable {observed : Observed} {row : DeliveryRow} {p : Preparation}

theorem prepareCancelledExternalDelivery_eq_ok {reason : String}
    (hrow : s.delivery = some row) (hstate : row.state.waiting)
    (h : prepareCancelledExternalDelivery timestamp row reason s = .ok (p, s')) :
    PrepareEffect timestamp observed s p s' := by
  obtain ⟨hroom, h⟩ := check_bind_eq_ok h
  obtain ⟨_, s1, hinsert, h⟩ := bind_eq_ok h
  rw [insertExternalDeliveryAttempt_eq_ok hinsert] at h
  cases h
  exact .cancelled hrow hstate hroom

theorem startExternalDeliveryAttempt_eq_ok (hrow : s.delivery = some row)
    (hstate : row.state.waiting) (hauthorized : Authorized observed row.key)
    (h : startExternalDeliveryAttempt timestamp row s = .ok (p, s')) :
    PrepareEffect timestamp observed s p s' := by
  obtain ⟨hroom, h⟩ := check_bind_eq_ok h
  cases h
  exact .started hrow hstate hroom hauthorized

theorem authorizeInboxCandidate_eq_found {access : Lookup RecordAccess}
    {candidate candidate' : InboxCandidate}
    (h : authorizeInboxCandidate access candidate = .found candidate') :
    candidate' = candidate ∧ ∃ current, access = .found current ∧ current.verdict = .found () ∧
      current.authorizationEpoch = candidate.authorizationEpoch ∧
      current.recordFenceEpoch = candidate.recordFenceEpoch := by
  cases access with
  | missing => cases h
  | failed => cases h
  | found current =>
    rw [authorizeInboxCandidate] at h
    split_ifs at h with hepochs
    cases hverdict : current.verdict with
    | missing => simp [hverdict] at h
    | failed => simp [hverdict] at h
    | found u =>
      rw [hverdict] at h
      cases h
      push Not at hepochs
      exact ⟨rfl, current, rfl, hverdict, hepochs.2.symm, hepochs.1.symm⟩

theorem prepareWaiting_eq_ok (hrow : s.delivery = some row)
    (hstate : row.state.waiting) (h : prepareWaiting timestamp observed row s = .ok (p, s')) :
    PrepareEffect timestamp observed s p s' := by
  rw [prepareWaiting] at h
  cases hcandidate : observed.candidate with
  | failed => simp [hcandidate] at h
  | missing =>
    rw [hcandidate] at h
    exact prepareCancelledExternalDelivery_eq_ok hrow hstate h
  | found candidate =>
    simp only [hcandidate] at h
    cases hfound : authorizeInboxCandidate observed.access candidate with
    | failed => simp [hfound] at h
    | missing =>
      rw [hfound] at h
      exact prepareCancelledExternalDelivery_eq_ok hrow hstate h
    | found candidate' =>
      obtain ⟨rfl, current, hcurrent, hverdict, hauth, hfence⟩ :=
        authorizeInboxCandidate_eq_found hfound
      simp only [hfound] at h
      split_ifs at h with hmatch
      · exact prepareCancelledExternalDelivery_eq_ok hrow hstate h
      · cases hbinding : observed.binding with
        | failed => simp [hbinding] at h
        | missing =>
          rw [hbinding] at h
          exact prepareCancelledExternalDelivery_eq_ok hrow hstate h
        | found valid =>
          cases valid with
          | false =>
            rw [hbinding] at h
            exact prepareCancelledExternalDelivery_eq_ok hrow hstate h
          | true =>
            rw [hbinding] at h
            obtain ⟨-, h⟩ := check_bind_eq_ok h
            refine startExternalDeliveryAttempt_eq_ok hrow hstate ?_ h
            simp only [DeliveryRow.matchesCandidate, Bool.not_eq_false, Bool.and_eq_true,
              decide_eq_true_eq] at hmatch
            obtain ⟨⟨-, hauth'⟩, hfence'⟩ := hmatch
            exact ⟨current, hcurrent, hverdict, hauth.trans hauth', hfence.trans hfence'⟩

theorem prepareExternalDelivery_eq_ok {claim : ClaimedOutboxEvent}
    (h : prepareExternalDelivery timestamp observed claim s = .ok (p, s')) :
    s.outbox.ownedBy claim = true ∧ PrepareEffect timestamp observed s p s' := by
  obtain ⟨_, howned, h⟩ := read_bind_eq_ok assertOutboxClaim_eq_ok h
  refine ⟨howned, ?_⟩
  obtain ⟨delivery, hdelivery, h⟩ := read_bind_eq_ok loadExternalDelivery_eq_ok h
  cases delivery with
  | none =>
    cases h
    exact .unchanged _
  | some row =>
    have hrow := hdelivery row rfl
    simp only at h
    split_ifs at h
    · cases h
      exact .unchanged _
    · cases hstate : row.state with
      | sent | permanentFailure | unknownOutcome | cancelled =>
        rw [hstate] at h
        cases h
        exact .unchanged _
      | processing =>
        rw [hstate] at h
        simp only [finalizeUnknownExternalDeliveryTakeover] at h
        cases hstarted : row.attemptStartedAt with
        | none => simp [hstarted] at h
        | some startedAt =>
          rw [hstarted] at h
          obtain ⟨-, h⟩ := check_bind_eq_ok h
          obtain ⟨_, s1, hinsert, h⟩ := bind_eq_ok h
          rw [insertExternalDeliveryAttempt_eq_ok hinsert] at h
          cases h
          exact .takenOver hrow hstate
      | pending =>
        rw [hstate] at h
        exact prepareWaiting_eq_ok hrow (.inl hstate) h
      | retryWait =>
        rw [hstate] at h
        obtain ⟨-, h⟩ := check_bind_eq_ok h
        exact prepareWaiting_eq_ok hrow (.inr hstate) h

def concludedStore (s : DeliveryStore) (row : DeliveryRow) (timestamp : Int) (attempt : Attempt)
    (outcome : ProviderOutcome) (retryAfter : Int) : DeliveryStore :=
  let result := row.concluded attempt.attempt timestamp retryAfter outcome
  { s with
    delivery := some result.2.1
    attempts := s.attempts ++
      [⟨attempt.attempt, result.1, result.2.1.reasonCode, attempt.startedAt, timestamp⟩] }

variable {retryAfter : Int} {outcome : ProviderOutcome} {settlement : Settlement}

theorem finalizeExternalDelivery_eq_ok {claim : ClaimedOutboxEvent} {attempt : Attempt}
    (h : finalizeExternalDelivery timestamp claim attempt outcome retryAfter s =
      .ok (settlement, s')) :
    s.outbox.ownedBy claim = true ∧ ∃ row, s.delivery = some row ∧ row.state = .processing ∧
      row.attemptCount = attempt.attempt ∧
      s' = concludedStore s row timestamp attempt outcome retryAfter := by
  obtain ⟨-, h⟩ := check_bind_eq_ok h
  obtain ⟨_, howned, h⟩ := read_bind_eq_ok assertOutboxClaim_eq_ok h
  obtain ⟨delivery, hdelivery, h⟩ := read_bind_eq_ok loadExternalDelivery_eq_ok h
  cases delivery with
  | none => cases h
  | some row =>
    obtain ⟨hrow, h⟩ := check_bind_eq_ok h
    obtain ⟨_, s1, hinsert, h⟩ := bind_eq_ok h
    rw [insertExternalDeliveryAttempt_eq_ok hinsert] at h
    cases h
    have hcount : row.attemptCount = attempt.attempt := by
      have hmatch := hrow.1
      simp only [DeliveryRow.matchesAttempt, Bool.and_eq_true, decide_eq_true_eq] at hmatch
      exact hmatch.1.2
    exact ⟨howned, row, hdelivery row rfl, hrow.2, hcount, rfl⟩

/-- A claim of the outbox row: the next generation, over an owner whose lease is over. -/
structure Claims (timestamp : Int) (s : DeliveryStore) (claim : ClaimedOutboxEvent)
    (s' : DeliveryStore) : Prop where
  owned : s'.outbox.ownedBy claim = true
  generation : claim.owner.generation = s.outbox.ownerGeneration + 1
  expired : ∀ owner, s.outbox.ownedBy owner = true → owner.owner.expiresAt ≤ timestamp
  delivery : s'.delivery = s.delivery
  attempts : s'.attempts = s.attempts

theorem OutboxRow.ownedBy_iff {row : OutboxRow} {claim : ClaimedOutboxEvent} :
    row.ownedBy claim = true ↔ row.status = .processing ∧ row.ownerID = claim.owner.ownerID ∧
      row.ownerGeneration = claim.owner.generation ∧
      row.ownerExpiresAt = some claim.owner.expiresAt := by
  simp [OutboxRow.ownedBy, and_assoc]

theorem claimOutbox_eq_ok {input : OutboxClaimInput} {result : Option ClaimedOutboxEvent}
    (h : claimOutbox timestamp input s = .ok (result, s')) :
    (result = none ∧ s' = s) ∨ ∃ claim, result = some claim ∧ Claims timestamp s claim s' := by
  obtain ⟨-, h⟩ := check_bind_eq_ok h
  replace h := get_bind_eq_ok h
  split_ifs at h with hclaimable
  · obtain ⟨-, h⟩ := check_bind_eq_ok h
    cases h
    refine .inr ⟨_, rfl, OutboxRow.ownedBy_iff.mpr ⟨rfl, rfl, rfl, rfl⟩, rfl, ?_, rfl, rfl⟩
    intro owner howner
    obtain ⟨hprocessing, -, -, hexpires⟩ := OutboxRow.ownedBy_iff.mp howner
    rcases hclaimable.1 with ⟨hpending, -⟩ | ⟨-, expiresAt, hmem, hle⟩
    · rw [hprocessing] at hpending
      cases hpending
    · rw [hexpires] at hmem
      cases hmem
      exact hle
  · cases h
    exact .inl ⟨rfl, rfl⟩

theorem settleOutbox_eq_ok {claim : ClaimedOutboxEvent}
    (h : settleOutbox timestamp claim settlement s = .ok (u, s')) :
    s.outbox.ownedBy claim = true ∧
      s' = { s with outbox := s.outbox.settled timestamp settlement } := by
  obtain ⟨-, h⟩ := check_bind_eq_ok h
  replace h := get_bind_eq_ok h
  obtain ⟨howned, h⟩ := check_bind_eq_ok h
  cases h
  exact ⟨howned.1, rfl⟩

@[simp] theorem OutboxRow.settled_ownerGeneration (row : OutboxRow) (timestamp : Int)
    (settlement : Settlement) :
    (row.settled timestamp settlement).ownerGeneration = row.ownerGeneration := by
  cases settlement <;> rfl

theorem call_cases {α : Type} (fate : Fate) (x : DeliveryTx α) (s : DeliveryStore) :
    (∃ e, call fate x s = (.error e, s)) ∨
      ∃ a s', x s = .ok (a, s') ∧ (call fate x s = (.ok a, s') ∨ ∃ e, call fate x s = (.error e, s')) := by
  cases hx : x s with
  | error e =>
    refine .inl ?_
    cases fate with
    | answered => exact ⟨e, run_of_error hx⟩
    | unanswered => exact ⟨.database, by rw [call, run_of_error hx]⟩
    | failed => exact ⟨.database, rfl⟩
  | ok p =>
    cases fate with
    | answered => exact .inr ⟨p.1, p.2, rfl, .inl (run_of_ok hx)⟩
    | unanswered => exact .inr ⟨p.1, p.2, rfl, .inr ⟨.database, by rw [call, run_of_ok hx]⟩⟩
    | failed => exact .inl ⟨.database, rfl⟩

/-! ## Steps of a worker -/

def Phase.claim : Phase → Option ClaimedOutboxEvent
  | .idle => none
  | .claimed claim => some claim
  | .prepared claim _ => some claim
  | .cleared claim _ _ => some claim
  | .sending claim _ => some claim
  | .answered claim _ _ => some claim
  | .settling claim _ => some claim

def Phase.attempt : Phase → Option Attempt
  | .prepared _ attempt => some attempt
  | .cleared _ attempt _ => some attempt
  | .sending _ attempt => some attempt
  | .answered _ attempt _ => some attempt
  | _ => none

def Phase.unsent : Phase → Option Attempt
  | .prepared _ attempt => some attempt
  | .cleared _ attempt _ => some attempt
  | _ => none

variable {p : Phase}

theorem Phase.attempt_of_unsent {attempt : Attempt} (h : p.unsent = some attempt) :
    p.attempt = some attempt := by
  cases p <;> first | exact h | cases h

theorem Phase.claim_of_attempt {attempt : Attempt} (h : p.attempt = some attempt) :
    ∃ claim, p.claim = some claim := by
  cases p <;> first | exact ⟨_, rfl⟩ | cases h

/-- What a step of a worker can do. -/
inductive WorkEffect (e : Encounter) : Phase → DeliveryStore → Phase → DeliveryStore → Prop
  /-- The worker keeps or drops what it has, and the store does not change. -/
  | quiet {p p' : Phase} {s : DeliveryStore}
      (hclaim : ∀ claim, p'.claim = some claim → p.claim = some claim)
      (hattempt : ∀ attempt, p'.attempt = some attempt → p.attempt = some attempt)
      (hunsent : ∀ attempt, p'.unsent = some attempt → p.unsent = some attempt) :
      WorkEffect e p s p' s
  | claims {p' : Phase} {s s' : DeliveryStore} {claim : ClaimedOutboxEvent}
      (hclaims : Claims e.timestamp s claim s') (hphase : p' = .claimed claim ∨ p' = .idle) :
      WorkEffect e .idle s p' s'
  | prepares {p' : Phase} {s s' : DeliveryStore} {claim : ClaimedOutboxEvent}
      {preparation : Preparation} (howned : s.outbox.ownedBy claim = true)
      (heffect : PrepareEffect e.timestamp e.observed s preparation s')
      (hphase : (∃ attempt, preparation = .prepared attempt ∧ p' = .prepared claim attempt) ∨
        ∃ settlement, p' = .settling claim settlement) :
      WorkEffect e (.claimed claim) s p' s'
  | concludes {s : DeliveryStore} {claim : ClaimedOutboxEvent} {attempt : Attempt}
      {outcome : ProviderOutcome} {row : DeliveryRow} {retryAfter : Int} {settlement : Settlement}
      (howned : s.outbox.ownedBy claim = true) (hrow : s.delivery = some row)
      (hstate : row.state = .processing) (hcount : row.attemptCount = attempt.attempt) :
      WorkEffect e (.answered claim attempt outcome) s (.settling claim settlement)
        (concludedStore s row e.timestamp attempt outcome retryAfter)
  | settles {s : DeliveryStore} {claim : ClaimedOutboxEvent} {settlement : Settlement}
      (howned : s.outbox.ownedBy claim = true) :
      WorkEffect e (.settling claim settlement) s .idle
        { s with outbox := s.outbox.settled e.timestamp settlement }

variable {e : Encounter} {claim : ClaimedOutboxEvent} {attempt : Attempt}

theorem WorkEffect.to_settling (hclaim : p.claim = some claim) :
    WorkEffect e p s (.settling claim settlement) s := by
  refine .quiet ?_ nofun nofun
  intro claim' h
  cases h
  exact hclaim

theorem advance_effect (config : DeliveryConfig) (e : Encounter) (p : Phase) (s : DeliveryStore) :
    WorkEffect e p s (advance config e p s).1 (advance config e p s).2 := by
  cases p with
  | idle =>
    simp only [advance]
    rcases call_cases e.fate (claimOutbox e.timestamp e.input) s with
      ⟨err, hcall⟩ | ⟨result, s', hok, hcall⟩
    · rw [hcall]
      exact .quiet (fun _ h => h) (fun _ h => h) (fun _ h => h)
    · rcases claimOutbox_eq_ok hok with ⟨rfl, rfl⟩ | ⟨claim, rfl, hclaims⟩
      · rcases hcall with hcall | ⟨err, hcall⟩ <;>
          · rw [hcall]
            exact .quiet (fun _ h => h) (fun _ h => h) (fun _ h => h)
      · rcases hcall with hcall | ⟨err, hcall⟩
        · rw [hcall]
          exact .claims hclaims (.inl rfl)
        · rw [hcall]
          exact .claims hclaims (.inr rfl)
  | claimed claim =>
    simp only [advance]
    rcases call_cases e.fate (prepareExternalDelivery e.timestamp e.observed claim) s with
      ⟨err, hcall⟩ | ⟨preparation, s', hok, hcall⟩
    · rw [hcall]
      exact .to_settling rfl
    · obtain ⟨howned, heffect⟩ := prepareExternalDelivery_eq_ok hok
      rcases hcall with hcall | ⟨err, hcall⟩
      · rw [hcall]
        cases preparation with
        | prepared attempt => exact .prepares howned heffect (.inl ⟨attempt, rfl, rfl⟩)
        | done settlement => exact .prepares howned heffect (.inr ⟨settlement, rfl⟩)
      · rw [hcall]
        exact .prepares howned heffect (.inr ⟨_, rfl⟩)
  | prepared claim attempt =>
    simp only [advance]
    cases clearance config e claim with
    | none => exact .to_settling rfl
    | some deadline => exact .quiet (fun _ h => h) (fun _ h => h) (fun _ h => h)
  | cleared claim attempt deadline =>
    exact .quiet (fun _ h => h) (fun _ h => h) nofun
  | sending claim attempt =>
    exact .quiet (fun _ h => h) (fun _ h => h) nofun
  | answered claim attempt outcome =>
    simp only [advance]
    cases retryAfterOutcome config attempt outcome with
    | none => exact .to_settling rfl
    | some retryAfter =>
      dsimp only
      rcases call_cases e.fate
        (finalizeExternalDelivery e.timestamp claim attempt outcome retryAfter) s with
        ⟨err, hcall⟩ | ⟨settlement, s', hok, hcall⟩
      · rw [hcall]
        exact .to_settling rfl
      · obtain ⟨howned, row, hrow, hstate, hcount, rfl⟩ := finalizeExternalDelivery_eq_ok hok
        rcases hcall with hcall | ⟨err, hcall⟩ <;>
          · rw [hcall]
            exact .concludes howned hrow hstate hcount
  | settling claim settlement =>
    simp only [advance]
    rcases call_cases e.fate (settleOutbox e.timestamp claim settlement) s with
      ⟨err, hcall⟩ | ⟨u, s', hok, hcall⟩
    · rw [hcall]
      exact .quiet nofun nofun nofun
    · obtain ⟨howned, rfl⟩ := settleOutbox_eq_ok hok
      rcases hcall with hcall | ⟨err, hcall⟩ <;>
        · rw [hcall]
          exact .settles howned

variable {deadline : Int}

theorem advance_cleared (h : (advance config e p s).1 = .cleared claim attempt deadline) :
    deadline < claim.owner.expiresAt := by
  cases p with
  | idle =>
    simp only [advance] at h
    split at h <;> cases h
  | claimed claim =>
    simp only [advance] at h
    split at h <;> cases h
  | prepared claim attempt =>
    simp only [advance] at h
    split at h
    · rename_i deadline' hclear
      cases h
      have hmargin : leaseSafetyMargin = 1000 := rfl
      rw [clearance] at hclear
      split_ifs at hclear with hlive hlong <;>
        · cases hclear
          omega
    · cases h
  | cleared => cases h
  | sending => cases h
  | answered =>
    simp only [advance] at h
    split at h <;> cases h
  | settling => cases h

/-! ## The log of attempts -/

/-- Attempts 1 to `n` were recorded as temporary failures, in this order and nothing else. -/
def Failed (n : Nat) (attempts : List AttemptRow) : Prop :=
  attempts.map (fun row => (row.attemptNo, row.outcome)) =
    (List.range n).map fun k => (k + 1, AttemptOutcome.temporaryFailure)

variable {n : Nat} {attempts : List AttemptRow}

theorem Failed.mem {k : Nat} (h : Failed n attempts) (hk : 1 ≤ k) (hn : k ≤ n) :
    ∃ row ∈ attempts, row.attemptNo = k ∧ row.outcome = .temporaryFailure := by
  have hmem : (k, AttemptOutcome.temporaryFailure) ∈
      attempts.map fun row => (row.attemptNo, row.outcome) := by
    rw [h]
    exact mem_map.mpr ⟨k - 1, mem_range.mpr (by omega), by rw [Nat.sub_add_cancel hk]⟩
  obtain ⟨row, hrow, heq⟩ := mem_map.mp hmem
  exact ⟨row, hrow, congrArg Prod.fst heq, congrArg Prod.snd heq⟩

theorem Failed.numbers (h : Failed n attempts) :
    attempts.map AttemptRow.attemptNo = (List.range n).map (· + 1) := by
  have hfst := congrArg (List.map Prod.fst) h
  simpa only [map_map, comp_def] using hfst

theorem Failed.snoc {row : AttemptRow} (h : Failed n attempts) (hno : row.attemptNo = n + 1)
    (houtcome : row.outcome = .temporaryFailure) : Failed (n + 1) (attempts ++ [row]) := by
  rw [Failed, map_append, h, range_succ, map_append]
  simp [hno, houtcome]

def DeliveryState.terminal : DeliveryState → Prop
  | .sent => True
  | .cancelled => True
  | .permanentFailure => True
  | .unknownOutcome => True
  | _ => False

/-- The log has the attempts before the last one, which failed, and the last one once it has ended.
-/
inductive RowLogged (row : DeliveryRow) (attempts : List AttemptRow) : Prop
  | waiting (hstate : row.state.waiting) (hfailed : Failed row.attemptCount attempts)
  | processing {n : Nat} (hstate : row.state = .processing) (hcount : row.attemptCount = n + 1)
      (hfailed : Failed n attempts)
  | ended {n : Nat} {prior : List AttemptRow} {last : AttemptRow} (hstate : row.state.terminal)
      (hcount : row.attemptCount = n + 1) (hattempts : attempts = prior ++ [last])
      (hfailed : Failed n prior) (hlast : last.attemptNo = n + 1)

structure Logged (s : DeliveryStore) : Prop where
  row : ∀ row, s.delivery = some row →
    RowLogged row s.attempts ∧ row.attemptCount ≤ maxNotificationDeliveryAttempts
  absent : s.delivery = none → s.attempts = []

theorem RowLogged.of_waiting (h : RowLogged row attempts) (hstate : row.state.waiting) :
    Failed row.attemptCount attempts := by
  cases h with
  | waiting _ hfailed => exact hfailed
  | processing h => rcases hstate with hstate | hstate <;> rw [hstate] at h <;> cases h
  | ended h => rcases hstate with hstate | hstate <;> rw [hstate] at h <;> cases h

theorem RowLogged.of_processing (h : RowLogged row attempts) (hstate : row.state = .processing) :
    ∃ n, row.attemptCount = n + 1 ∧ Failed n attempts := by
  cases h with
  | waiting h => rcases h with h | h <;> rw [hstate] at h <;> cases h
  | processing _ hcount hfailed => exact ⟨_, hcount, hfailed⟩
  | ended h => rw [hstate] at h; cases h

theorem RowLogged.of_terminal (h : RowLogged row attempts) (hstate : row.state.terminal) :
    ∃ n prior last, row.attemptCount = n + 1 ∧ attempts = prior ++ [last] ∧ Failed n prior := by
  cases h with
  | waiting h => rcases h with h | h <;> rw [h] at hstate <;> cases hstate
  | processing h => rw [h] at hstate; cases hstate
  | ended _ hcount hattempts hfailed => exact ⟨_, _, _, hcount, hattempts, hfailed⟩

theorem Logged.nodup (h : Logged s) : (s.attempts.map AttemptRow.attemptNo).Nodup := by
  have hnumbers : ∀ n : Nat, ((List.range n).map (· + 1)).Nodup := by
    intro n
    refine Pairwise.map (· + 1) ?_ (nodup_range (n := n))
    intro a b hne heq
    exact hne (Nat.succ.inj heq)
  cases hdelivery : s.delivery with
  | none =>
    rw [h.absent hdelivery]
    exact nodup_nil
  | some row =>
    cases (h.row row hdelivery).1 with
    | waiting _ hfailed =>
      rw [hfailed.numbers]
      exact hnumbers _
    | processing _ _ hfailed =>
      rw [hfailed.numbers]
      exact hnumbers _
    | @ended n prior last _ _ hattempts hfailed hlast =>
      have hall : s.attempts.map AttemptRow.attemptNo = (List.range (n + 1)).map (· + 1) := by
        rw [hattempts, map_append, hfailed.numbers, range_succ, map_append]
        simp [hlast]
      rw [hall]
      exact hnumbers _

theorem Logged.of_row (hrow : RowLogged row attempts)
    (hmax : row.attemptCount ≤ maxNotificationDeliveryAttempts) :
    Logged { s with delivery := some row, attempts := attempts } :=
  ⟨fun row' h => by cases h; exact ⟨hrow, hmax⟩, nofun⟩

variable {preparation : Preparation}

theorem Logged.prepare (h : Logged s) (heffect : PrepareEffect timestamp observed s preparation s') :
    Logged s' := by
  cases heffect with
  | unchanged => exact h
  | @takenOver row startedAt hrow hstate =>
    obtain ⟨hlog, hmax⟩ := h.row row hrow
    obtain ⟨n, hcount, hfailed⟩ := hlog.of_processing hstate
    exact .of_row (.ended trivial hcount rfl hfailed hcount) hmax
  | @cancelled row reason hrow hstate hroom =>
    have hfailed := (h.row row hrow).1.of_waiting hstate
    exact .of_row (.ended trivial rfl rfl hfailed rfl) hroom
  | @started row hrow hstate hroom =>
    have hfailed := (h.row row hrow).1.of_waiting hstate
    exact .of_row (.processing rfl rfl hfailed) hroom

theorem Logged.conclude (h : Logged s) (hrow : s.delivery = some row)
    (hstate : row.state = .processing) (hattempt : row.attemptCount = attempt.attempt) :
    Logged (concludedStore s row timestamp attempt outcome retryAfter) := by
  obtain ⟨hlog, hmax⟩ := h.row row hrow
  obtain ⟨n, hcount, hfailed⟩ := hlog.of_processing hstate
  have hno : attempt.attempt = n + 1 := hattempt.symm.trans hcount
  cases outcome with
  | sent => exact .of_row (.ended trivial hcount rfl hfailed hno) hmax
  | permanentFailure => exact .of_row (.ended trivial hcount rfl hfailed hno) hmax
  | unknownOutcome => exact .of_row (.ended trivial hcount rfl hfailed hno) hmax
  | temporaryFailure =>
    simp only [concludedStore, DeliveryRow.concluded]
    split_ifs
    · refine .of_row (.waiting (.inr rfl) ?_) hmax
      show Failed row.attemptCount _
      rw [hcount]
      exact hfailed.snoc hno rfl
    · exact .of_row (.ended trivial hcount rfl hfailed hno) hmax

/-! ## The invariant -/

/-- The claim still owns the outbox row, or it was superseded when its lease was over. -/
def Held (now : Int) (s : DeliveryStore) (claim : ClaimedOutboxEvent) : Prop :=
  s.outbox.ownedBy claim = true ∨
    (claim.owner.generation < s.outbox.ownerGeneration ∧ claim.owner.expiresAt ≤ now)

/-- The delivery is at the attempt that was prepared under the claim: it is still processing, or
another worker took it over and gave it up as unknown. -/
def Holding (s : DeliveryStore) (claim : ClaimedOutboxEvent) (attempt : Attempt) : Prop :=
  ∃ row, s.delivery = some row ∧ row.attemptCount = attempt.attempt ∧
    (row.state = .processing ∨
      (row.state = .unknownOutcome ∧ row.reasonCode = "lease_takeover_unknown" ∧
        claim.owner.generation < s.outbox.ownerGeneration))

structure Working (now : Int) (s : DeliveryStore) (p : Phase) : Prop where
  held : ∀ claim, p.claim = some claim → Held now s claim
  holding : ∀ claim attempt, p.claim = some claim → p.attempt = some attempt →
    Holding s claim attempt
  deadline : ∀ claim attempt deadline, p = .cleared claim attempt deadline →
    deadline < claim.owner.expiresAt

/-- Two workers have different claims, and at most one of them has an attempt. -/
structure Apart (p q : Phase) : Prop where
  claims : ∀ claim claim', p.claim = some claim → q.claim = some claim' →
    claim.owner.generation ≠ claim'.owner.generation
  attempts : p.attempt = none ∨ q.attempt = none

/-- What holds in every reachable state. -/
structure DeliveryInv (s : DeliverySystem) : Prop where
  log : Logged s.store
  working : ∀ w, Working s.now s.store (s.workers w)
  apart : ∀ v w, v ≠ w → Apart (s.workers v) (s.workers w)

variable {now : Int}

theorem Held.generation_le (h : Held now s claim) :
    claim.owner.generation ≤ s.outbox.ownerGeneration := by
  rcases h with h | h
  · exact Nat.le_of_eq (OutboxRow.ownedBy_iff.mp h).2.2.1.symm
  · exact Nat.le_of_lt h.1

variable {q : Phase}

theorem Apart.symm (h : Apart p q) : Apart q p :=
  ⟨fun claim claim' hq hp heq => h.claims claim' claim hp hq heq.symm, h.attempts.symm⟩

variable {p' : Phase}

theorem Apart.mono (h : Apart p q) (hclaim : ∀ claim, p'.claim = some claim → p.claim = some claim)
    (hattempt : ∀ attempt, p'.attempt = some attempt → p.attempt = some attempt) : Apart p' q := by
  refine ⟨fun claim claim' hp hq => h.claims claim claim' (hclaim claim hp) hq, ?_⟩
  rcases h.attempts with hp | hq
  · refine .inl ?_
    cases hp' : p'.attempt with
    | none => rfl
    | some attempt => rw [hattempt attempt hp'] at hp; cases hp
  · exact .inr hq

theorem working_idle (now : Int) (s : DeliveryStore) : Working now s .idle :=
  ⟨nofun, nofun, nofun⟩

theorem apart_idle (q : Phase) : Apart .idle q := ⟨nofun, .inl rfl⟩

theorem Working.superseded {claim claim' : ClaimedOutboxEvent} (hq : Working now s q)
    (hapart : Apart p q) (hp : p.claim = some claim) (hq' : q.claim = some claim')
    (howned : s.outbox.ownedBy claim = true) :
    claim'.owner.generation < s.outbox.ownerGeneration ∧ claim'.owner.expiresAt ≤ now := by
  rcases hq.held claim' hq' with howned' | hright
  · have hgen := (OutboxRow.ownedBy_iff.mp howned).2.2.1
    have hgen' := (OutboxRow.ownedBy_iff.mp howned').2.2.1
    exact absurd (hgen.symm.trans hgen') (hapart.claims claim claim' hp hq')
  · exact hright

theorem Working.no_attempt (h : Working now s p) (hrow : s.delivery = some row)
    (hstate : row.state.waiting) :
    p.attempt = none := by
  cases hattempt : p.attempt with
  | none => rfl
  | some attempt =>
    obtain ⟨claim, hclaim⟩ := Phase.claim_of_attempt hattempt
    obtain ⟨row', hrow', -, hstate'⟩ := h.holding claim attempt hclaim hattempt
    rw [hrow] at hrow'
    cases hrow'
    rcases hstate with hstate | hstate <;> rcases hstate' with hstate' | ⟨hstate', -⟩ <;>
      · rw [hstate] at hstate'
        cases hstate'

/-- A worker without an attempt only depends on the outbox row. -/
theorem Working.of_outbox (h : Working now s p) (hattempt : p.attempt = none)
    (houtbox : s'.outbox = s.outbox) : Working now s' p := by
  refine ⟨fun claim hclaim => ?_, fun claim attempt _ h => ?_, h.deadline⟩
  · have hheld := h.held claim hclaim
    rwa [Held, ← houtbox] at hheld
  · rw [hattempt] at h
    cases h

/-! ## Steps keep the invariant -/

theorem PrepareEffect.outbox (h : PrepareEffect timestamp observed s preparation s') :
    s'.outbox = s.outbox := by
  cases h <;> rfl

theorem Working.others (heffect : WorkEffect e p s p' s') (hnow : e.timestamp ≤ now)
    (hapart : Apart p q) (hq : Working now s q) : Working now s' q := by
  cases heffect with
  | quiet => exact hq
  | @claims _ _ _ claim hclaims =>
    have hgen := (OutboxRow.ownedBy_iff.mp hclaims.owned).2.2.1.trans hclaims.generation
    -- whoever owned the row lost it with the end of the lease
    refine ⟨fun claim' hclaim' => .inr ?_, ?_, hq.deadline⟩
    · have hheld := hq.held claim' hclaim'
      refine ⟨?_, ?_⟩
      · have hle := hheld.generation_le
        omega
      · rcases hheld with howned | hright
        · exact Int.le_trans (hclaims.expired claim' howned) hnow
        · exact hright.2
    · intro claim' attempt hclaim' hattempt
      obtain ⟨row, hrow, hcount, hstate⟩ := hq.holding claim' attempt hclaim' hattempt
      refine ⟨row, hclaims.delivery.trans hrow, hcount, hstate.imp_right ?_⟩
      rintro ⟨hunknown, hreason, hlt⟩
      exact ⟨hunknown, hreason, by omega⟩
  | @prepares _ _ _ claim preparation howned hprepare _ =>
    cases hprepare with
    | unchanged => exact hq
    | cancelled hrow hstate => exact hq.of_outbox (hq.no_attempt hrow hstate) rfl
    | started hrow hstate => exact hq.of_outbox (hq.no_attempt hrow hstate) rfl
    | @takenOver row startedAt hrow hstate =>
      refine ⟨hq.held, fun claim' attempt hclaim' hattempt => ?_, hq.deadline⟩
      obtain ⟨row', hrow', hcount, -⟩ := hq.holding claim' attempt hclaim' hattempt
      rw [hrow] at hrow'
      cases hrow'
      exact ⟨_, rfl, hcount, .inr ⟨rfl, rfl, (hq.superseded hapart rfl hclaim' howned).1⟩⟩
  | concludes =>
    rcases hapart.attempts with hattempt | hattempt
    · cases hattempt
    · exact hq.of_outbox hattempt rfl
  | @settles _ claim settlement howned =>
    refine ⟨fun claim' hclaim' => .inr ?_, fun claim' attempt hclaim' hattempt => ?_, hq.deadline⟩
    · rw [OutboxRow.settled_ownerGeneration]
      exact hq.superseded hapart rfl hclaim' howned
    · obtain ⟨row, hrow, hcount, hstate⟩ := hq.holding claim' attempt hclaim' hattempt
      refine ⟨row, hrow, hcount, ?_⟩
      rwa [OutboxRow.settled_ownerGeneration]

theorem Working.self (heffect : WorkEffect e p s p' s')
    (hcleared : ∀ claim attempt deadline, p' = .cleared claim attempt deadline →
      deadline < claim.owner.expiresAt) (hp : Working now s p) : Working now s' p' := by
  cases heffect with
  | quiet hclaim hattempt =>
    exact ⟨fun claim h => hp.held claim (hclaim claim h),
      fun claim attempt h h' => hp.holding claim attempt (hclaim claim h) (hattempt attempt h'),
      hcleared⟩
  | claims hclaims hphase =>
    rcases hphase with rfl | rfl
    · refine ⟨fun claim h => ?_, nofun, hcleared⟩
      cases h
      exact .inl hclaims.owned
    · exact working_idle now s'
  | @prepares _ _ _ claim preparation howned hprepare hphase =>
    have howned' : s'.outbox.ownedBy claim = true := by rwa [hprepare.outbox]
    rcases hphase with ⟨attempt, rfl, rfl⟩ | ⟨settlement, rfl⟩
    · refine ⟨fun claim' h => ?_, fun claim' attempt' h h' => ?_, hcleared⟩
      · cases h
        exact .inl howned'
      · cases h
        cases h'
        cases hprepare
        exact ⟨_, rfl, rfl, .inl rfl⟩
    · refine ⟨fun claim' h => ?_, nofun, hcleared⟩
      cases h
      exact .inl howned'
  | @concludes _ claim _ _ _ _ _ howned =>
    refine ⟨fun claim' h => ?_, nofun, hcleared⟩
    cases h
    exact .inl howned
  | settles => exact working_idle now _

theorem Apart.step (heffect : WorkEffect e p s p' s') (hapart : Apart p q) (hq : Working now s q) :
    Apart p' q := by
  cases heffect with
  | quiet hclaim hattempt => exact hapart.mono hclaim hattempt
  | @claims _ _ _ claim hclaims hphase =>
    rcases hphase with rfl | rfl
    · refine ⟨fun claim1 claim' h hclaim' => ?_, .inl rfl⟩
      cases h
      have hle := (hq.held claim' hclaim').generation_le
      have hgen := hclaims.generation
      omega
    · exact apart_idle q
  | @prepares _ _ _ claim preparation howned hprepare hphase =>
    rcases hphase with ⟨attempt, rfl, rfl⟩ | ⟨settlement, rfl⟩
    · refine ⟨fun claim1 claim' h => hapart.claims claim1 claim' h, .inr ?_⟩
      cases hprepare with
      | started hrow hstate => exact hq.no_attempt hrow hstate
    · exact hapart.mono (fun _ h => h) nofun
  | concludes => exact hapart.mono (fun _ h => h) nofun
  | settles => exact apart_idle q

theorem Logged.step (h : Logged s) (heffect : WorkEffect e p s p' s') : Logged s' := by
  cases heffect with
  | quiet => exact h
  | claims hclaims =>
    exact ⟨fun row hrow => by rw [hclaims.attempts]; exact h.row row (hclaims.delivery ▸ hrow),
      fun habsent => hclaims.attempts.trans (h.absent (hclaims.delivery ▸ habsent))⟩
  | prepares _ hprepare => exact h.prepare hprepare
  | concludes _ hrow hstate hcount => exact h.conclude hrow hstate hcount
  | settles => exact ⟨h.row, h.absent⟩

variable {w : Nat}

/-- The invariant after one worker has moved: the log, the worker itself, and the others. -/
theorem DeliveryInv.update {s : DeliverySystem} (h : DeliveryInv s) {store : DeliveryStore}
    (hlog : Logged store) (hself : Working s.now store p')
    (hothers : ∀ v, v ≠ w → Working s.now store (s.workers v))
    (hapart : ∀ v, v ≠ w → Apart p' (s.workers v)) :
    DeliveryInv { s with store := store, workers := Function.update s.workers w p' } := by
  refine ⟨hlog, fun v => ?_, fun v v' hne => ?_⟩
  · show Working s.now store (Function.update s.workers w p' v)
    by_cases hv : v = w
    · rwa [hv, update_self]
    · rw [update_of_ne hv]
      exact hothers v hv
  · show Apart (Function.update s.workers w p' v) (Function.update s.workers w p' v')
    by_cases hv : v = w
    · rw [hv, update_self, update_of_ne (hv ▸ Ne.symm hne)]
      exact hapart v' (hv ▸ Ne.symm hne)
    · rw [update_of_ne hv]
      by_cases hv' : v' = w
      · rw [hv', update_self]
        exact (hapart v hv).symm
      · rw [update_of_ne hv']
        exact h.apart v v' hne

theorem DeliveryInv.step {s s' : DeliverySystem} {label : DeliveryLabel} (h : DeliveryInv s)
    (hstep : DeliveryStep config s label s') : DeliveryInv s' := by
  cases hstep with
  | @tick now hnow =>
    refine ⟨h.log, fun w => ⟨fun claim hclaim => ?_, (h.working w).holding, (h.working w).deadline⟩,
      h.apart⟩
    rcases (h.working w).held claim hclaim with howned | ⟨hlt, hexpired⟩
    · exact .inl howned
    · exact .inr ⟨hlt, Int.le_trans hexpired hnow⟩
  | @work w e hnow =>
    have heffect := advance_effect config e (s.workers w) s.store
    refine h.update (h.log.step heffect) ?_ (fun v hv => ?_) (fun v hv => ?_)
    · exact (h.working w).self heffect fun _ _ _ hcleared => advance_cleared hcleared
    · exact .others heffect hnow (h.apart w v (Ne.symm hv)) (h.working v)
    · exact (h.apart w v (Ne.symm hv)).step heffect (h.working v)
  | @crash w =>
    exact h.update h.log (working_idle s.now s.store) (fun v _ => h.working v)
      (fun v _ => apart_idle _)

theorem Scheduled.inv {s : DeliverySystem} (h : Scheduled s) : DeliveryInv s := by
  refine ⟨⟨fun row hrow => ?_, fun _ => h.attempts⟩, fun w => ?_, fun v w _ => ?_⟩
  · obtain ⟨hstate, hcount, -⟩ := h.delivery row hrow
    refine ⟨.waiting (.inl hstate) ?_, by rw [hcount]; exact Nat.zero_le _⟩
    rw [hcount, h.attempts]
    rfl
  · rw [h.workers w]
    exact working_idle s.now s.store
  · rw [h.workers v]
    exact apart_idle _

/-! ## Sends -/

def sendOf (e : RunStep DeliverySystem DeliveryLabel) : Option Attempt :=
  match e.label with
  | .work w _ =>
    match e.before.workers w with
    | .cleared _ attempt _ => some attempt
    | _ => none
  | _ => none

def sends (t : List (RunStep DeliverySystem DeliveryLabel)) : List Nat :=
  (t.filterMap sendOf).map Attempt.attempt

def Prepares (e : RunStep DeliverySystem DeliveryLabel) (attempt : Attempt) : Prop :=
  ∃ w encounter claim, e.label = .work w encounter ∧ e.before.workers w = .claimed claim ∧
    e.after.workers w = .prepared claim attempt ∧ Authorized encounter.observed attempt.key

/-- The open attempt got an unknown outcome. -/
def TakenOver (row : DeliveryRow) (s s' : DeliveryStore) : Prop :=
  s'.delivery = some (row.ended .unknownOutcome "lease_takeover_unknown") ∧
    ∃ record, s'.attempts = s.attempts ++ [record] ∧ record.attemptNo = row.attemptCount ∧
      record.outcome = .unknownOutcome

/-- What a step does to the delivery: it leaves it alone, counts a waiting one up, or ends the
attempt of a processing one, its own or one that it takes over. -/
theorem WorkEffect.row_cases (heffect : WorkEffect e p s p' s') (hrow : s.delivery = some row) :
    ∃ row', s'.delivery = some row' ∧
      (row' = row ∨ (row.state.waiting ∧ row'.attemptCount = row.attemptCount + 1) ∨
        row.state = .processing ∧ row'.attemptCount = row.attemptCount ∧
          (p.attempt = none → TakenOver row s s')) := by
  cases heffect with
  | quiet => exact ⟨row, hrow, .inl rfl⟩
  | claims hclaims => exact ⟨row, hclaims.delivery.trans hrow, .inl rfl⟩
  | prepares _ hprepare =>
    cases hprepare with
    | unchanged => exact ⟨row, hrow, .inl rfl⟩
    | takenOver hrow' hstate =>
      cases hrow.symm.trans hrow'
      exact ⟨_, rfl, .inr (.inr ⟨hstate, rfl, fun _ => ⟨rfl, _, rfl, rfl, rfl⟩⟩)⟩
    | cancelled hrow' hstate =>
      cases hrow.symm.trans hrow'
      exact ⟨_, rfl, .inr (.inl ⟨hstate, rfl⟩)⟩
    | started hrow' hstate =>
      cases hrow.symm.trans hrow'
      exact ⟨_, rfl, .inr (.inl ⟨hstate, rfl⟩)⟩
  | @concludes _ _ _ outcome _ _ _ _ hrow' hstate =>
    cases hrow.symm.trans hrow'
    refine ⟨_, rfl, .inr (.inr ⟨hstate, ?_, nofun⟩)⟩
    cases outcome with
    | temporaryFailure =>
      simp only [DeliveryRow.concluded]
      split_ifs <;> rfl
    | sent => rfl
    | permanentFailure => rfl
    | unknownOutcome => rfl
  | settles => exact ⟨row, hrow, .inl rfl⟩

theorem WorkEffect.count_le (heffect : WorkEffect e p s p' s') (hrow : s.delivery = some row) :
    ∃ row', s'.delivery = some row' ∧ row.attemptCount ≤ row'.attemptCount := by
  obtain ⟨row', hrow', hcases⟩ := heffect.row_cases hrow
  refine ⟨row', hrow', ?_⟩
  rcases hcases with rfl | ⟨-, hcount⟩ | ⟨-, hcount, -⟩ <;> omega

/-- An attempt of a worker was there a step before, and is not unsent again, or it was prepared and
is the next of the delivery. -/
theorem WorkEffect.attempt_kept (heffect : WorkEffect e p s p' s') (h : p'.attempt = some attempt) :
    (p.attempt = some attempt ∧ (p'.unsent = some attempt → p.unsent = some attempt)) ∨
      ∃ claim row, p = .claimed claim ∧ p' = .prepared claim attempt ∧
        Authorized e.observed attempt.key ∧ s.delivery = some row ∧
        attempt.attempt = row.attemptCount + 1 := by
  cases heffect with
  | quiet _ hattempt hunsent => exact .inl ⟨hattempt attempt h, hunsent attempt⟩
  | claims _ hphase => rcases hphase with rfl | rfl <;> cases h
  | @prepares _ _ _ claim _ _ hprepare hphase =>
    rcases hphase with ⟨attempt', rfl, rfl⟩ | ⟨_, rfl⟩
    · cases h
      cases hprepare with
      | @started row hrow _ _ hauthorized =>
        exact .inr ⟨claim, row, rfl, rfl, hauthorized, hrow, rfl⟩
    · cases h
  | concludes => cases h
  | settles => cases h

/-- A history and the state it ends in: no attempt was sent twice, none above the count of the
delivery, none that a worker still has to send; and every attempt of a worker was prepared. -/
structure SendInv (t : List (RunStep DeliverySystem DeliveryLabel)) (s : DeliverySystem) :
    Prop where
  inv : DeliveryInv s
  nodup : (sends t).Nodup
  counted : ∀ n ∈ sends t, 1 ≤ n ∧ ∃ row, s.store.delivery = some row ∧ n ≤ row.attemptCount
  fresh : ∀ w attempt, (s.workers w).unsent = some attempt → attempt.attempt ∉ sends t
  prepared : ∀ w attempt, (s.workers w).attempt = some attempt → ∃ e ∈ t, Prepares e attempt

variable {s s' : DeliverySystem}

theorem DeliveryInv.attempt_counted (h : DeliveryInv s)
    (hattempt : (s.workers w).attempt = some attempt) :
    1 ≤ attempt.attempt ∧ ∃ row, s.store.delivery = some row ∧
      row.attemptCount = attempt.attempt := by
  obtain ⟨claim, hclaim⟩ := Phase.claim_of_attempt hattempt
  obtain ⟨row, hrow, hcount, hstate⟩ := (h.working w).holding claim attempt hclaim hattempt
  refine ⟨?_, row, hrow, hcount⟩
  have hlog := (h.log.row row hrow).1
  rcases hstate with hstate | ⟨hstate, -⟩
  · obtain ⟨n, hn, -⟩ := hlog.of_processing hstate
    omega
  · obtain ⟨n, _, _, hn, -⟩ := hlog.of_terminal (by rw [hstate]; exact trivial)
    omega

theorem sends_append (t t' : List (RunStep DeliverySystem DeliveryLabel)) :
    sends (t ++ t') = sends t ++ sends t' := by
  rw [sends, filterMap_append, map_append, sends, sends]

variable {t : List (RunStep DeliverySystem DeliveryLabel)}

theorem sends_snoc_of_none {e : RunStep DeliverySystem DeliveryLabel} (h : sendOf e = none) :
    sends (t ++ [e]) = sends t := by
  have hlast : sends [e] = [] := by rw [sends, filterMap_cons_none h]; rfl
  rw [sends_append, hlast, append_nil]

theorem sends_snoc_of_some {e : RunStep DeliverySystem DeliveryLabel}
    (h : sendOf e = some attempt) :
    sends (t ++ [e]) = sends t ++ [attempt.attempt] := by
  have hlast : sends [e] = [attempt.attempt] := by rw [sends, filterMap_cons_some h]; rfl
  rw [sends_append, hlast]

/-- A step that sends nothing: the sends of the history stay below the count, and what a worker has
to send is none of them. -/
theorem SendInv.of_no_send {label : DeliveryLabel} (h : SendInv t s)
    (hinv : DeliveryInv s') (hsend : sendOf ⟨s, label, s'⟩ = none)
    (hcount : ∀ row, s.store.delivery = some row →
      ∃ row', s'.store.delivery = some row' ∧ row.attemptCount ≤ row'.attemptCount)
    (hattempt : ∀ w attempt, (s'.workers w).attempt = some attempt →
      ((s.workers w).attempt = some attempt ∧
        ((s'.workers w).unsent = some attempt → (s.workers w).unsent = some attempt)) ∨
      (Prepares ⟨s, label, s'⟩ attempt ∧
        ∃ row, s.store.delivery = some row ∧ attempt.attempt = row.attemptCount + 1)) :
    SendInv (t ++ [⟨s, label, s'⟩]) s' := by
  have hsends := sends_snoc_of_none (t := t) hsend
  refine ⟨hinv, by rw [hsends]; exact h.nodup, fun n hn => ?_, fun w attempt hw => ?_,
    fun w attempt hw => ?_⟩
  · rw [hsends] at hn
    obtain ⟨hpos, row, hrow, hle⟩ := h.counted n hn
    obtain ⟨row', hrow', hle'⟩ := hcount row hrow
    exact ⟨hpos, row', hrow', Nat.le_trans hle hle'⟩
  · rw [hsends]
    rcases hattempt w attempt (Phase.attempt_of_unsent hw) with ⟨-, hold⟩ | ⟨-, row, hrow, hnext⟩
    · exact h.fresh w attempt (hold hw)
    · intro hmem
      obtain ⟨-, row', hrow', hle⟩ := h.counted _ hmem
      rw [hrow] at hrow'
      cases hrow'
      omega
  · rcases hattempt w attempt hw with ⟨hold, -⟩ | ⟨hnew, -⟩
    · obtain ⟨e, he, hprepares⟩ := h.prepared w attempt hold
      exact ⟨e, mem_append_left _ he, hprepares⟩
    · exact ⟨_, mem_append_right _ (mem_singleton_self _), hnew⟩

/-- A step that sends: the attempt was not sent before, and its worker has nothing more to send. -/
theorem SendInv.of_send (h : SendInv t s) (hphase : s.workers w = .cleared claim attempt deadline)
    (hs' : s' = { s with workers := Function.update s.workers w (.sending claim attempt) })
    (hinv : DeliveryInv s') : SendInv (t ++ [⟨s, .work w e, s'⟩]) s' := by
  have hsends : sends (t ++ [⟨s, .work w e, s'⟩]) = sends t ++ [attempt.attempt] :=
    sends_snoc_of_some (by simp only [sendOf, hphase])
  have hattempt : (s.workers w).attempt = some attempt := by rw [hphase]; rfl
  have hself : s'.workers w = .sending claim attempt := by
    rw [hs']
    exact update_self ..
  have hother : ∀ v, v ≠ w → s'.workers v = s.workers v := by
    intro v hv
    rw [hs']
    exact update_of_ne hv ..
  have hstore : s'.store = s.store := by rw [hs']
  refine ⟨hinv, ?_, fun n hn => ?_, fun v attempt' hv => ?_, fun v attempt' hv => ?_⟩
  · rw [hsends, nodup_append]
    refine ⟨h.nodup, pairwise_singleton _ _, fun n hn m hm => ?_⟩
    rw [mem_singleton.mp hm]
    rintro rfl
    exact h.fresh w attempt (by rw [hphase]; rfl) hn
  · rw [hstore]
    rw [hsends] at hn
    rcases mem_append.mp hn with hn | hn
    · exact h.counted n hn
    · rw [mem_singleton.mp hn]
      obtain ⟨hpos, row, hrow, hcount⟩ := h.inv.attempt_counted hattempt
      exact ⟨hpos, row, hrow, Nat.le_of_eq hcount.symm⟩
  · by_cases hw : v = w
    · rw [hw, hself] at hv
      cases hv
    · rw [hother v hw] at hv
      -- the worker that sends is the only one with an attempt
      rcases (h.inv.apart v w hw).attempts with hnone | hnone
      · rw [Phase.attempt_of_unsent hv] at hnone
        cases hnone
      · rw [hattempt] at hnone
        cases hnone
  · have hold : (s.workers v).attempt = some attempt' := by
      by_cases hw : v = w
      · rw [hw, hself] at hv
        rw [hw, hphase]
        exact hv
      · rwa [hother v hw] at hv
    obtain ⟨e', he', hprepares⟩ := h.prepared v attempt' hold
    exact ⟨e', mem_append_left _ he', hprepares⟩

theorem SendInv.step {label : DeliveryLabel} (h : SendInv t s)
    (hstep : DeliveryStep config s label s') :
    SendInv (t ++ [⟨s, label, s'⟩]) s' := by
  have hinv := h.inv.step hstep
  cases hstep with
  | tick =>
    exact h.of_no_send hinv rfl (fun row hrow => ⟨row, hrow, Nat.le_refl _⟩)
      fun _ _ hw => .inl ⟨hw, fun h => h⟩
  | @crash w =>
    refine h.of_no_send hinv rfl (fun row hrow => ⟨row, hrow, Nat.le_refl _⟩) fun v attempt hv => ?_
    dsimp only at hv ⊢
    by_cases hw : v = w
    · rw [hw, update_self] at hv
      cases hv
    · rw [update_of_ne hw] at hv ⊢
      exact .inl ⟨hv, fun h => h⟩
  | @work w e hnow =>
    have heffect := advance_effect config e (s.workers w) s.store
    by_cases hcleared : ∃ claim attempt deadline, s.workers w = .cleared claim attempt deadline
    · obtain ⟨claim, attempt, deadline, hphase⟩ := hcleared
      refine h.of_send hphase ?_ hinv
      rw [hphase]
      rfl
    · have hsend : sendOf ⟨s, .work w e, { s with
          store := (advance config e (s.workers w) s.store).2
          workers := Function.update s.workers w (advance config e (s.workers w) s.store).1 }⟩ =
          none := by
        simp only [sendOf]
        split
        · exact absurd ⟨_, _, _, by assumption⟩ hcleared
        · rfl
      refine h.of_no_send hinv hsend (fun row hrow => heffect.count_le hrow) fun v attempt hv => ?_
      dsimp only at hv ⊢
      by_cases hw : v = w
      · subst hw
        rw [update_self] at hv ⊢
        refine (heffect.attempt_kept hv).imp_right ?_
        rintro ⟨claim, row, hclaimed, hprepared, hauthorized, hnext⟩
        exact ⟨⟨v, e, claim, rfl, hclaimed, (update_self ..).trans hprepared, hauthorized⟩, row, hnext⟩
      · rw [update_of_ne hw] at hv ⊢
        exact .inl ⟨hv, fun h => h⟩

theorem Scheduled.sendInv (h : Scheduled s) : SendInv [] s := by
  refine ⟨h.inv, nodup_nil, nofun, fun w _ hw => ?_, fun w _ hw => ?_⟩ <;>
    · rw [h.workers w] at hw
      cases hw

/-! ## Whole runs -/

/-- What a send rests on: every attempt before it was recorded as a temporary failure; its own was
prepared in a step before with the recipient authorized; and the delivery is at this attempt, either
still processing or given up by a worker that took it over after the deadline of the send. -/
structure SoundSend (before : List (RunStep DeliverySystem DeliveryLabel)) (s : DeliverySystem)
    (attempt : Attempt) (deadline : Int) : Prop where
  failed : ∀ k, 1 ≤ k → k < attempt.attempt →
    ∃ row ∈ s.store.attempts, row.attemptNo = k ∧ row.outcome = .temporaryFailure
  prepared : ∃ e ∈ before, Prepares e attempt
  current : ∃ row, s.store.delivery = some row ∧ row.attemptCount = attempt.attempt ∧
    (row.state = .processing ∨ (row.state = .unknownOutcome ∧
      row.reasonCode = "lease_takeover_unknown" ∧ deadline < s.now))

structure SoundStep (before : List (RunStep DeliverySystem DeliveryLabel))
    (e : RunStep DeliverySystem DeliveryLabel) : Prop where
  send : ∀ w encounter claim attempt deadline, e.label = .work w encounter →
    e.before.workers w = .cleared claim attempt deadline →
    SoundSend before e.before attempt deadline
  /-- A delivery that has ended stays as it is. -/
  terminal : ∀ row, e.before.store.delivery = some row → row.state.terminal →
    e.after.store.delivery = some row
  /-- An attempt that no worker holds any more is given up as unknown or stays where it is. -/
  abandoned : ∀ row, e.before.store.delivery = some row → row.state = .processing →
    (∀ w, (e.before.workers w).attempt = none) →
    e.after.store.delivery = some row ∨ TakenOver row e.before.store e.after.store
  /-- A worker whose claim was superseded changes nothing. -/
  superseded : ∀ w encounter claim, e.label = .work w encounter →
    (e.before.workers w).claim = some claim →
    claim.owner.generation < e.before.store.outbox.ownerGeneration →
    e.after.store = e.before.store

theorem SendInv.soundSend (h : SendInv t s)
    (hphase : s.workers w = .cleared claim attempt deadline) :
    SoundSend t s attempt deadline := by
  have hworking := h.inv.working w
  rw [hphase] at hworking
  obtain ⟨row, hrow, hcount, hstate⟩ := hworking.holding claim attempt rfl rfl
  have hlog := (h.inv.log.row row hrow).1
  refine ⟨fun k hk hlt => ?_, h.prepared w attempt (by rw [hphase]; rfl), row, hrow, hcount, ?_⟩
  · rcases hstate with hstate | ⟨hstate, -⟩
    · obtain ⟨n, hn, hfailed⟩ := hlog.of_processing hstate
      exact hfailed.mem hk (by omega)
    · obtain ⟨n, prior, last, hn, hattempts, hfailed⟩ :=
        hlog.of_terminal (by rw [hstate]; exact trivial)
      obtain ⟨record, hmem, hrecord⟩ := hfailed.mem hk (show k ≤ n by omega)
      exact ⟨record, by rw [hattempts]; exact mem_append_left _ hmem, hrecord⟩
  · refine hstate.imp_right ?_
    rintro ⟨hunknown, hreason, hlt⟩
    refine ⟨hunknown, hreason, ?_⟩
    have hdeadline := hworking.deadline claim attempt deadline rfl
    rcases hworking.held claim rfl with howned | ⟨-, hexpired⟩
    · have hgen := (OutboxRow.ownedBy_iff.mp howned).2.2.1
      omega
    · omega

theorem WorkEffect.rows {s s' : DeliveryStore} (heffect : WorkEffect e p s p' s')
    (hrow : s.delivery = some row) :
    (row.state.terminal → s'.delivery = some row) ∧
    (row.state = .processing → p.attempt = none → s'.delivery = some row ∨ TakenOver row s s') := by
  obtain ⟨row', hrow', hcases⟩ := heffect.row_cases hrow
  rcases hcases with rfl | ⟨hstate, -⟩ | ⟨hstate, -, htaken⟩
  · exact ⟨fun _ => hrow', fun _ _ => .inl hrow'⟩
  · refine ⟨fun h => ?_, fun h => ?_⟩ <;>
      rcases hstate with hstate | hstate <;> rw [hstate] at h <;> cases h
  · exact ⟨fun h => (by rw [hstate] at h; cases h), fun _ hnone => .inr (htaken hnone)⟩

theorem WorkEffect.superseded {s s' : DeliveryStore} (heffect : WorkEffect e p s p' s')
    (hclaim : p.claim = some claim) (hlt : claim.owner.generation < s.outbox.ownerGeneration) :
    s' = s := by
  have hnot : s.outbox.ownedBy claim = true → False := fun howned => by
    have hgen := (OutboxRow.ownedBy_iff.mp howned).2.2.1
    omega
  cases heffect with
  | quiet => rfl
  | claims => cases hclaim
  | prepares howned =>
    cases hclaim
    exact (hnot howned).elim
  | concludes howned =>
    cases hclaim
    exact (hnot howned).elim
  | settles howned =>
    cases hclaim
    exact (hnot howned).elim

theorem SendInv.soundStep {label : DeliveryLabel} (h : SendInv t s)
    (hstep : DeliveryStep config s label s') :
    SoundStep t ⟨s, label, s'⟩ := by
  cases hstep with
  | tick => exact ⟨fun _ _ _ _ _ _ => h.soundSend, fun _ hrow _ => hrow, fun _ hrow _ _ => .inl hrow,
      fun _ _ _ hlabel => by cases hlabel⟩
  | crash => exact ⟨fun _ _ _ _ _ _ => h.soundSend, fun _ hrow _ => hrow, fun _ hrow _ _ => .inl hrow,
      fun _ _ _ hlabel => by cases hlabel⟩
  | @work w e =>
    have heffect := advance_effect config e (s.workers w) s.store
    refine ⟨fun _ _ _ _ _ _ => h.soundSend, fun _ hrow => (heffect.rows hrow).1,
      fun _ hrow hstate hnone => (heffect.rows hrow).2 hstate (hnone _),
      fun w' encounter claim hlabel => ?_⟩
    cases hlabel
    exact heffect.superseded

theorem sends_length_le (h : SendInv t s) : (sends t).length ≤ maxNotificationDeliveryAttempts := by
  have hsub : sends t ⊆ (List.range maxNotificationDeliveryAttempts).map (· + 1) := by
    intro n hn
    obtain ⟨hpos, row, hrow, hle⟩ := h.counted n hn
    have hmax := (h.inv.log.row row hrow).2
    exact mem_map.mpr ⟨n - 1, mem_range.mpr (by omega), by omega⟩
  have hlength := (subperm_of_subset h.nodup hsub).length_le
  simpa using hlength

/-- In every run of any number of workers over one delivery at most eight sends are started, no
attempt is sent twice and none gets two outcomes; every send is sound, ended deliveries stay as they
are, abandoned attempts become unknown, and superseded workers change nothing. -/
theorem external_delivery_never_resent {s s' : DeliverySystem}
    {t : List (RunStep DeliverySystem DeliveryLabel)} (hstart : Scheduled s)
    (hrun : Run (DeliveryStep config) s t s') :
    (sends t).length ≤ maxNotificationDeliveryAttempts ∧ (sends t).Nodup ∧
      (s'.store.attempts.map AttemptRow.attemptNo).Nodup ∧
      ∀ before e after, t = before ++ e :: after → SoundStep before e := by
  have hend : SendInv t s' := Run.history (fun _ _ _ _ h hstep => h.step hstep) hrun hstart.sendInv
  refine ⟨sends_length_le hend, hend.nodup, hend.inv.log.nodup, ?_⟩
  rintro before e after rfl
  obtain ⟨hbefore, hstep, -⟩ := hrun.split
  have hinv : SendInv before e.before :=
    Run.history (fun _ _ _ _ h hstep => h.step hstep) hbefore hstart.sendInv
  exact hinv.soundStep hstep

/-- At most one worker has an attempt in hand, and it is the last one of the delivery. -/
theorem attempts_exclusive (hstart : Scheduled s) (hrun : Run (DeliveryStep config) s t s') :
    (∀ v w, v ≠ w → (s'.workers v).attempt = none ∨ (s'.workers w).attempt = none) ∧
    ∀ w attempt, (s'.workers w).attempt = some attempt →
      ∃ row, s'.store.delivery = some row ∧ row.attemptCount = attempt.attempt := by
  have hinv : DeliveryInv s' := hrun.inv (fun _ _ _ h hstep => h.step hstep) hstart.inv
  exact ⟨fun v w hne => (hinv.apart v w hne).attempts, fun _ _ h => (hinv.attempt_counted h).2⟩

/-! ## Runs that are played -/

inductive Move
  | wait (duration : Nat)
  | work (w : Nat) (e : Encounter)

def Move.label : Move → DeliveryLabel
  | .wait _ => .tick
  | .work w e => .work w e

def Move.legal (s : DeliverySystem) : Move → Bool
  | .wait _ => true
  | .work _ e => e.timestamp ≤ s.now

def Move.apply (config : DeliveryConfig) (s : DeliverySystem) : Move → DeliverySystem
  | .wait duration => { s with now := s.now + duration }
  | .work w e =>
    { s with
      store := (advance config e (s.workers w) s.store).2
      workers := Function.update s.workers w (advance config e (s.workers w) s.store).1 }

def played (config : DeliveryConfig) (s : DeliverySystem) (moves : List Move) : DeliverySystem :=
  moves.foldl (Move.apply config) s

def trace (config : DeliveryConfig) :
    DeliverySystem → List Move → List (RunStep DeliverySystem DeliveryLabel)
  | _, [] => []
  | s, m :: moves => ⟨s, m.label, m.apply config s⟩ :: trace config (m.apply config s) moves

def legal (config : DeliveryConfig) : DeliverySystem → List Move → Bool
  | _, [] => true
  | s, m :: moves => m.legal s && legal config (m.apply config s) moves

theorem Move.step {m : Move} (h : m.legal s = true) :
    DeliveryStep config s m.label (m.apply config s) := by
  cases m with
  | wait duration => exact .tick (Int.le_add_of_nonneg_right (Int.natCast_nonneg duration))
  | work w e => exact .work (of_decide_eq_true h)

theorem run_trace {moves : List Move} (h : legal config s moves = true) :
    Run (DeliveryStep config) s (trace config s moves) (played config s moves) := by
  induction moves generalizing s with
  | nil => exact .nil s
  | cons m moves ih =>
    simp only [legal, Bool.and_eq_true] at h
    exact .cons (Move.step h.1) (ih h.2)

theorem trace_append (config : DeliveryConfig) (s : DeliverySystem) (moves : List Move) (m : Move) :
    trace config s (moves ++ [m]) = trace config s moves ++
      [⟨played config s moves, m.label, m.apply config (played config s moves)⟩] := by
  induction moves generalizing s with
  | nil => rfl
  | cons m' moves ih => exact congrArg (_ :: ·) (ih (m'.apply config s))

def sampleKey : DeliveryKey where
  deliveryID := "rnd_1"
  recordID := "rec_1"
  notificationID := "rnt_1"
  recipientUserID := "usr_1"
  channel := "telegram"
  bindingID := "b"
  sourceVersion := 1
  authorizationEpoch := 1
  recordFenceEpoch := 0

def scheduledSample : DeliverySystem where
  now := 1
  store := {
    outbox := {
      event := ⟨"default", "rnd_1", 1, 1, 0⟩
      status := .pending
      ownerID := ""
      ownerGeneration := 0
      ownerExpiresAt := none
      attemptCount := 0
      nextAttemptAt := 0
      expiresAt := 1000000000 }
    delivery := some {
      key := sampleKey
      projectID := "default"
      state := .pending
      attemptCount := 0
      attemptStartedAt := none
      nextAttemptAt := none
      reasonCode := "" }
    attempts := [] }
  workers := fun _ => .idle

def sampleConfig : DeliveryConfig := ⟨1000000000, 1000000000, 500000⟩

/-- Everything is answered, the recipient is authorized, and the lease lasts a second. -/
def sampleEncounter (timestamp : Int) : Encounter where
  timestamp := timestamp
  fate := .answered
  input := ⟨"worker", 1000000000⟩
  observed := ⟨.found ⟨"rec_1", "rnt_1", 1, 1, 0⟩, .found ⟨1, 0, .found ()⟩, .found true, true⟩
  guardClock := timestamp
  sendClock := timestamp
  outcome := .sent

theorem scheduledSample_scheduled : Scheduled scheduledSample := by
  refine ⟨rfl, fun row hrow => ?_, rfl, fun _ => rfl⟩
  cases hrow
  exact ⟨rfl, rfl, rfl⟩

/-- Two workers take turns. -/
def contendedMoves : List Move :=
  (replicate 7 [.work 0 (sampleEncounter 1), .work 1 (sampleEncounter 1)]).flatten

theorem external_delivery_never_resent_contended :
    sends (trace sampleConfig scheduledSample contendedMoves) = [1] ∧
      (sends (trace sampleConfig scheduledSample contendedMoves)).length ≤
        maxNotificationDeliveryAttempts ∧
      ∀ before e after, trace sampleConfig scheduledSample contendedMoves = before ++ e :: after →
        SoundStep before e := by
  have hlegal : legal sampleConfig scheduledSample contendedMoves = true := by decide
  have hsends : sends (trace sampleConfig scheduledSample contendedMoves) = [1] := by decide
  obtain ⟨hbound, -, -, hsound⟩ :=
    external_delivery_never_resent scheduledSample_scheduled (run_trace hlegal)
  exact ⟨hsends, hbound, hsound⟩

/-- Worker 0 has passed its checks and stalls; its lease ends, and worker 1 takes the delivery over. -/
def takeoverMoves : List Move :=
  [.work 0 (sampleEncounter 1), .work 0 (sampleEncounter 1), .work 0 (sampleEncounter 1),
    .wait 2000000, .work 1 (sampleEncounter 2000000), .work 1 (sampleEncounter 2000000)]

theorem attempts_exclusive_takeover :
    ((played sampleConfig scheduledSample takeoverMoves).workers 1).attempt = none := by
  have hlegal : legal sampleConfig scheduledSample takeoverMoves = true := by decide
  exact ((attempts_exclusive scheduledSample_scheduled (run_trace hlegal)).1 0 1
    (by decide)).resolve_left (by decide)

/-- Worker 0 goes on and sends, after the delivery was recorded as of unknown outcome. -/
theorem send_after_takeover :
    ∃ t s', Scheduled scheduledSample ∧ Run (DeliveryStep sampleConfig) scheduledSample t s' ∧
      ∃ before e, t = before ++ [e] ∧ (sendOf e).map Attempt.attempt = some 1 ∧
        e.before.store.delivery.map DeliveryRow.state = some .unknownOutcome := by
  have hlegal : legal sampleConfig scheduledSample
      (takeoverMoves ++ [.work 0 (sampleEncounter 2000000)]) = true := by decide
  refine ⟨_, _, scheduledSample_scheduled, run_trace hlegal, _, _, trace_append .., ?_, ?_⟩
  · decide
  · decide

end Houfeng.Collaboration
