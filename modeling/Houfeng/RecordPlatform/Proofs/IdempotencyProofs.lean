import Houfeng.Foundation.Fallible
import Houfeng.Foundation.Runs
import Houfeng.RecordPlatform.Idempotency

/-!
# Ownership of an idempotency key is fenced

`Effect` lists all that a transaction that succeeds can do to the row of its key; everything else is
read off it. The generation of the row falls once: a completion clears the owner, and with it the
generation, but a completed row accepts no lease at all.
-/

namespace Houfeng.RecordPlatform

open Option Tx Transaction

variable {key : IdempotencyKey} {ts : Int} {row row' : Row} {r r' : Option Row} {t t' : Transaction}

/-! ## Statements -/

variable {u : Unit}

theorem writeRow_eq_ok (h : writeRow row r = .ok (u, r')) : r' = some row := by
  rw [writeRow] at h
  split_ifs at h
  · cases h
    rfl
  · cases h

variable {owner : OwnerLease}

theorem scanIdempotencyOwner_eq_ok (h : scanIdempotencyOwner row r = .ok (owner, r')) : r' = r := by
  cases hexp : row.ownerExpiresAt with
  | none =>
    simp only [scanIdempotencyOwner, hexp] at h
    cases h
  | some e =>
    simp only [scanIdempotencyOwner, hexp] at h
    split_ifs at h
    · cases h
    · cases hvalid : OwnerLease.validate ⟨row.ownerID, row.ownerGeneration, e⟩ with
      | error => rw [hvalid] at h; cases h
      | ok => rw [hvalid] at h; cases h; rfl

variable {α : Type}

theorem liftM_eq_ok {x : Except PlatformError α} {a : α}
    (h : (liftM x : KeyTx α) r = .ok (a, r')) : x = .ok a ∧ r' = r := by
  cases x with
  | error e => cases h
  | ok b =>
    cases h
    exact ⟨rfl, rfl⟩

theorem write_scan_eq_ok
    (h : (do writeRow row; scanIdempotencyOwner row : KeyTx OwnerLease) r = .ok (owner, r')) :
    r' = some row := by
  obtain ⟨u, r1, h1, h⟩ := bind_eq_ok h
  rw [scanIdempotencyOwner_eq_ok h, writeRow_eq_ok h1]

theorem heldBy_spec (h : heldBy owner ts row = true) :
    row.status = .inProgress ∧ row.ownerID = owner.ownerID ∧
      row.ownerGeneration = owner.generation ∧ row.ownerExpiresAt = some owner.expiresAt ∧
      ts < owner.expiresAt := by
  simpa [heldBy, and_assoc] using h

theorem heldBy_unique {ts1 ts2 : Int} {owner1 owner2 : OwnerLease}
    (h1 : heldBy owner1 ts1 row = true) (h2 : heldBy owner2 ts2 row = true) : owner1 = owner2 := by
  obtain ⟨-, hid1, hgen1, hexp1, -⟩ := heldBy_spec h1
  obtain ⟨-, hid2, hgen2, hexp2, -⟩ := heldBy_spec h2
  cases owner1
  cases owner2
  simp_all

/-! ## What a transaction that succeeds does -/

inductive Effect (ts : Int) : Call → Option Row → Outcome → Option Row → Prop
  | inserted (input : ClaimInput) (owner : OwnerLease) :
      Effect ts (.claim input) none (.claimed (.acquired owner)) (some (.inserted ts input))
  | tookOver (input : ClaimInput) (owner : OwnerLease) (row : Row)
      (hrequest : row.requestFingerprint = input.requestFingerprint.digest)
      (hstatus : row.status = .inProgress) (hexpired : ∃ e ∈ row.ownerExpiresAt, e ≤ ts) :
      Effect ts (.claim input) (some row) (.claimed (.acquired owner))
        (some (row.takenOver ts input))
  | replayed (input : ClaimInput) (row : Row) (result : Digest)
      (hrequest : row.requestFingerprint = input.requestFingerprint.digest)
      (hstatus : row.status = .completed) (hresult : row.resultFingerprint = some result) :
      Effect ts (.claim input) (some row) (.claimed (.replay result)) (some row)
  | renewed (input : RenewInput) (owner : OwnerLease) (row : Row)
      (hheld : heldBy input.owner ts row = true) :
      Effect ts (.renew input) (some row) (.renewed owner) (some (row.renewed ts input))
  | released (owner : OwnerLease) (row : Row) (hheld : heldBy owner ts row = true) :
      Effect ts (.release owner) (some row) .released (some (row.released ts))
  | completed (owner : OwnerLease) (result : RequestFingerprint) (row : Row)
      (hheld : heldBy owner ts row = true) :
      Effect ts (.complete owner result) (some row) .completed (some (row.completed result.digest))

variable {record : IdempotencyRecord}

theorem record_eq_ok (h : row.record key = .ok record) :
    record.key = key ∧ record.requestFingerprint = row.requestFingerprint ∧
      record.resultFingerprint = row.resultFingerprint ∧ record.status = row.status := by
  cases hexp : row.ownerExpiresAt with
  | none =>
    simp only [Row.record, hexp] at h
    split_ifs at h
    cases h
    exact ⟨rfl, rfl, rfl, rfl⟩
  | some e =>
    simp only [Row.record, hexp] at h
    split_ifs at h <;> cases h <;> exact ⟨rfl, rfl, rfl, rfl⟩

variable {result : Digest} {request : RequestFingerprint}

theorem resolveIdempotency_replay
    (h : resolveIdempotency record request ts = .ok (.replay result)) :
    record.requestFingerprint = request.digest ∧ record.status = .completed ∧
      record.resultFingerprint = some result := by
  obtain ⟨-, -, h⟩ := except_bind_eq_ok h
  obtain ⟨-, -, h⟩ := except_bind_eq_ok h
  obtain ⟨-, h⟩ := except_guard_eq_ok h
  obtain ⟨-, h⟩ := except_guard_eq_ok h
  obtain ⟨hsame, h⟩ := except_guard_eq_ok h
  split at h
  · rename_i result' _ hstatus hresult
    cases h
    exact ⟨(not_not.mp hsame).symm, hstatus, hresult⟩
  · split_ifs at h
    cases h
  · cases h

variable {input : ClaimInput}

theorem claimRow_effect {result : ClaimResult}
    (h : claimRow key ts input row (some row) = .ok (result, r')) :
    Effect ts (.claim input) (some row) (.claimed result) r' := by
  obtain ⟨record, r1, hread, h⟩ := bind_eq_ok h
  obtain ⟨hrecord, hr1⟩ := liftM_eq_ok hread
  subst hr1
  obtain ⟨-, hrequest, hresult, hstatus⟩ := record_eq_ok hrecord
  obtain ⟨resolution, r2, hresolved, h⟩ := bind_eq_ok h
  obtain ⟨hresolve, hr2⟩ := liftM_eq_ok hresolved
  subst hr2
  cases resolution with
  | replay digest =>
    injection h with h
    injection h with hresult' hrow
    subst hresult' hrow
    obtain ⟨hreq, hst, hres⟩ := resolveIdempotency_replay hresolve
    exact .replayed input row digest (hrequest ▸ hreq) (hstatus ▸ hst) (hresult ▸ hres)
  | takeover =>
    obtain ⟨owner, r3, htake, h⟩ := bind_eq_ok h
    cases h
    rw [takeoverIdempotencyClaim] at htake
    split_ifs at htake with hcond
    · rw [write_scan_eq_ok htake]
      exact .tookOver input owner row hcond.1 hcond.2.1 hcond.2.2
    · cases htake

theorem renewIdempotency_effect {input : RenewInput}
    (h : renewIdempotency ts input r = .ok (owner, r')) :
    Effect ts (.renew input) r (.renewed owner) r' := by
  replace h := get_bind_eq_ok h
  cases r with
  | none => cases h
  | some row =>
    simp only at h
    split_ifs at h with hcond
    · rw [write_scan_eq_ok h]
      exact .renewed input owner row hcond.1
    · cases h

theorem releaseIdempotency_effect (h : releaseIdempotency ts owner r = .ok (u, r')) :
    Effect ts (.release owner) r .released r' := by
  replace h := get_bind_eq_ok h
  cases r with
  | none => cases h
  | some row =>
    simp only at h
    split_ifs at h with hheld
    · rw [writeRow_eq_ok h]
      exact .released owner row hheld
    · cases h

theorem completeIdempotency_effect {result : RequestFingerprint}
    (h : completeIdempotency ts owner result.digest r = .ok (u, r')) :
    Effect ts (.complete owner result) r .completed r' := by
  replace h := get_bind_eq_ok h
  cases r with
  | none => cases h
  | some row =>
    simp only at h
    split_ifs at h with hheld
    · rw [writeRow_eq_ok h]
      exact .completed owner result row hheld
    · cases h

variable {outcome : Outcome}

theorem ended_eq_ok {f : α → Outcome} {x : KeyTx α}
    (h : Progress.ended f (x.run r) = .done (.ok outcome) r') :
    ∃ a, x r = .ok (a, r') ∧ outcome = f a := by
  rw [Progress.ended] at h
  injection h with houtcome hrow
  obtain ⟨a, ha, rfl⟩ := except_map_eq_ok houtcome
  exact ⟨a, run_eq_ok (Prod.ext ha hrow), rfl⟩

variable {e : PlatformError}

theorem ended_eq_error {f : α → Outcome} {x : KeyTx α}
    (h : Progress.ended f (x.run r) = .done (.error e) r') : r' = r := by
  rw [Progress.ended] at h
  injection h with houtcome hrow
  cases hx : x r with
  | ok p =>
    have hrun : x.run r = (.ok p.1, p.2) := run_of_ok hx
    rw [hrun] at houtcome
    cases houtcome
  | error e' =>
    rw [run_of_error hx] at hrow
    exact hrow.symm

theorem advance_effect (h : t.advance key r = .done (.ok outcome) r') :
    Effect t.timestamp t.call r outcome r' := by
  rw [advance] at h
  cases hcall : t.call with
  | claim input =>
    simp only [hcall] at h
    cases hinserting : t.inserting with
    | false =>
      cases r with
      | none => simp [hinserting] at h
      | some row =>
        simp only [hinserting] at h
        obtain ⟨result, hx, rfl⟩ := ended_eq_ok h
        exact claimRow_effect hx
    | true =>
      cases r with
      | none =>
        simp only [hinserting] at h
        obtain ⟨owner, hx, rfl⟩ := ended_eq_ok h
        rw [write_scan_eq_ok hx]
        exact .inserted input owner
      | some row => simp [hinserting] at h
  | renew input =>
    simp only [hcall] at h
    obtain ⟨owner, hx, rfl⟩ := ended_eq_ok h
    exact renewIdempotency_effect hx
  | release owner =>
    simp only [hcall] at h
    obtain ⟨u, hx, rfl⟩ := ended_eq_ok h
    exact releaseIdempotency_effect hx
  | complete owner result =>
    simp only [hcall] at h
    obtain ⟨u, hx, rfl⟩ := ended_eq_ok h
    exact completeIdempotency_effect hx

theorem advance_error (h : t.advance key r = .done (.error e) r') : r' = r := by
  rw [advance] at h
  split at h
  · split at h
    · cases h
    · exact ended_eq_error h
    · exact ended_eq_error h
    · cases h
  all_goals exact ended_eq_error h

theorem advance_next (h : t.advance key r = .next t') :
    t'.call = t.call ∧ t'.timestamp = t.timestamp := by
  rw [advance] at h
  split at h
  · split at h <;> cases h <;> exact ⟨rfl, rfl⟩
  all_goals cases h

/-! ## The rows that come about -/

/-- A row is either claimed, with an owner whose lease ends before the row does, or completed, with
a result and no owner. -/
inductive Row.Sound (row : Row) : Prop
  | claimed (e : Int) (hstatus : row.status = .inProgress) (hresult : row.resultFingerprint = none)
      (howner : validRecordPlatformOwnerID row.ownerID = true) (hgeneration : 0 < row.ownerGeneration)
      (hexpires : row.ownerExpiresAt = some e) (hpos : 0 < e) (hlt : e < row.expiresAt)
  | completed (result : Digest) (hstatus : row.status = .completed)
      (hresult : row.resultFingerprint = some result) (hne : result ≠ zeroDigest)
      (howner : row.ownerID = "") (hgeneration : row.ownerGeneration = 0)
      (hexpires : row.ownerExpiresAt = none) (hpos : 0 < row.expiresAt)

theorem ownerID_ne_empty {id : String} (h : validRecordPlatformOwnerID id = true) : id ≠ "" := by
  rintro rfl
  simp [validRecordPlatformOwnerID] at h

/-- The row is read as a record that `validate` accepts. -/
def Row.Valid (key : IdempotencyKey) (row : Row) : Prop :=
  ∃ record, row.record key = .ok record ∧ record.validate = .ok ()

theorem Row.Sound.valid (h : row.Sound) (hkey : key.validate = .ok ()) : row.Valid key := by
  cases h with
  | claimed e hstatus hresult howner hgeneration hexpires hpos hlt =>
    refine ⟨⟨key, row.requestFingerprint, row.resultFingerprint, row.status,
      some ⟨row.ownerID, row.ownerGeneration, e⟩, row.expiresAt⟩, ?_, ?_⟩
    · rw [Row.record, if_pos (.inl (ownerID_ne_empty howner)), hexpires]
      exact if_neg (by omega)
    · have howner' : OwnerLease.validate ⟨row.ownerID, row.ownerGeneration, e⟩ = .ok () := by
        rw [OwnerLease.validate, if_neg]
        simp only [howner, not_or]
        exact ⟨by simp, by omega, by omega⟩
      have hexpiry : row.expiresAt ≠ 0 := by omega
      simp [IdempotencyRecord.validate, hkey, hexpiry, hstatus, howner', hresult, hlt]
  | completed result hstatus hresult hne howner hgeneration hexpires hpos =>
    refine ⟨⟨key, row.requestFingerprint, row.resultFingerprint, row.status, none,
      row.expiresAt⟩, ?_, ?_⟩
    · rw [Row.record, if_neg (by simp [howner, hgeneration, hexpires])]
    · have hexpiry : row.expiresAt ≠ 0 := by omega
      simp [IdempotencyRecord.validate, hkey, hexpiry, hstatus, hresult, hne]

theorem validIdempotencyExpiryDurations_spec {d ttl : Int}
    (h : validIdempotencyExpiryDurations d ttl = true) :
    0 < microseconds d ∧ microseconds d < microseconds ttl := by
  simpa [validIdempotencyExpiryDurations] using h

theorem claim_validate (h : (Call.claim input).validate key = .ok ()) :
    key.validate = .ok () ∧ input.requestFingerprint.validate = .ok () ∧
      validRecordPlatformOwnerID input.ownerID = true ∧ 0 < microseconds input.ownerLeaseDuration ∧
      microseconds input.ownerLeaseDuration < microseconds input.recordTTL := by
  obtain ⟨hkey, h⟩ := except_guard_eq_ok h
  obtain ⟨hrequest, h⟩ := except_guard_eq_ok h
  obtain ⟨hrest, -⟩ := except_guard_eq_ok h
  simp only [not_or, Bool.not_eq_false] at hrest
  exact ⟨not_not.mp hkey, not_not.mp hrequest, hrest.1,
    validIdempotencyExpiryDurations_spec hrest.2⟩

theorem renew_validate {input : RenewInput} (h : (Call.renew input).validate key = .ok ()) :
    0 < microseconds input.ownerLeaseDuration ∧
      microseconds input.ownerLeaseDuration < microseconds input.recordTTL := by
  obtain ⟨-, h⟩ := except_guard_eq_ok h
  obtain ⟨-, h⟩ := except_guard_eq_ok h
  obtain ⟨hdurations, -⟩ := except_guard_eq_ok h
  exact validIdempotencyExpiryDurations_spec (by simpa using hdurations)

theorem complete_validate {result : RequestFingerprint}
    (h : (Call.complete owner result).validate key = .ok ()) : result.digest ≠ zeroDigest := by
  obtain ⟨-, -, h⟩ := except_bind_eq_ok h
  obtain ⟨-, -, h⟩ := except_bind_eq_ok h
  obtain ⟨hresult, -⟩ := except_guard_eq_ok h
  exact fun hzero => hresult (.inr hzero)

variable {call : Call}

theorem Call.validate_key (h : call.validate key = .ok ()) : key.validate = .ok () := by
  cases call with
  | claim input => exact (claim_validate h).1
  | renew input => exact not_not.mp (except_guard_eq_ok h).1
  | release owner =>
    obtain ⟨u, hkey, -⟩ := except_bind_eq_ok h
    exact hkey
  | complete owner result =>
    obtain ⟨u, hkey, -⟩ := except_bind_eq_ok h
    exact hkey

theorem Effect.sound (h : Effect ts call r outcome r') (hts : 0 < ts)
    (hcall : call.validate key = .ok ()) (hsound : ∀ row ∈ r, row.Sound) :
    ∀ row ∈ r', row.Sound := by
  rintro row' ⟨⟩
  cases h with
  | inserted input owner =>
    obtain ⟨-, -, howner, hpos, hlt⟩ := claim_validate hcall
    exact .claimed _ rfl rfl howner Nat.one_pos rfl (by omega) (by simp only [Row.inserted]; omega)
  | tookOver input owner row hrequest hstatus hexpired =>
    obtain ⟨-, -, howner, hpos, hlt⟩ := claim_validate hcall
    cases hsound row rfl with
    | claimed e _ hresult _ _ _ _ _ =>
      exact .claimed _ hstatus hresult howner (Nat.succ_pos _) rfl (by omega)
        (by simp only [Row.takenOver]; omega)
    | completed result hcompleted => rw [hcompleted] at hstatus; cases hstatus
  | replayed input row result => exact hsound _ rfl
  | renewed input owner row hheld =>
    obtain ⟨hpos, hlt⟩ := renew_validate hcall
    obtain ⟨hstatus, -⟩ := heldBy_spec hheld
    cases hsound row rfl with
    | claimed e _ hresult howner hgeneration _ _ _ =>
      exact .claimed _ hstatus hresult howner hgeneration rfl (by omega)
        (by simp only [Row.renewed]; omega)
    | completed result hcompleted => rw [hcompleted] at hstatus; cases hstatus
  | released owner row hheld =>
    obtain ⟨hstatus, -, -, hexp, hlive⟩ := heldBy_spec hheld
    cases hsound row rfl with
    | claimed e _ hresult howner hgeneration hexpires _ hlt =>
      obtain rfl : e = owner.expiresAt := some.inj (hexpires.symm.trans hexp)
      exact .claimed ts hstatus hresult howner hgeneration rfl hts
        (by simp only [Row.released]; omega)
    | completed result hcompleted => rw [hcompleted] at hstatus; cases hstatus
  | completed owner result row hheld =>
    obtain ⟨hstatus, -⟩ := heldBy_spec hheld
    cases hsound row rfl with
    | claimed e _ _ _ _ _ hpos hlt =>
      exact .completed _ rfl rfl (complete_validate hcall) rfl rfl rfl
        (by simp only [Row.completed]; omega)
    | completed result hcompleted => rw [hcompleted] at hstatus; cases hstatus

/-! ## Generations -/

/-- A row never goes away and changes only while it is claimed; its generation does not fall as long
as it stays so. -/
theorem Effect.row_cases (h : Effect ts call (some row) outcome r') :
    r' = some row ∨ row.status = .inProgress ∧ ∃ row', r' = some row' ∧
      (row'.status = .inProgress → row.ownerGeneration ≤ row'.ownerGeneration) := by
  cases h with
  | tookOver _ _ _ _ hold => exact .inr ⟨hold, _, rfl, fun _ => Nat.le_succ _⟩
  | replayed => exact .inl rfl
  | renewed _ _ _ hheld => exact .inr ⟨(heldBy_spec hheld).1, _, rfl, fun _ => Nat.le_refl _⟩
  | released _ _ hheld => exact .inr ⟨(heldBy_spec hheld).1, _, rfl, fun _ => Nat.le_refl _⟩
  | completed _ _ _ hheld => exact .inr ⟨(heldBy_spec hheld).1, _, rfl, nofun⟩

/-- A call that presents a lease succeeds only on the row that records it. -/
theorem Effect.held (h : Effect ts call r outcome r') (howner : call.lease = some owner) :
    ∃ row, r = some row ∧ heldBy owner ts row = true := by
  cases h with
  | inserted => cases howner
  | tookOver => cases howner
  | replayed => cases howner
  | renewed input owner row hheld =>
    cases howner
    exact ⟨row, rfl, hheld⟩
  | released owner row hheld =>
    cases howner
    exact ⟨row, rfl, hheld⟩
  | completed owner result row hheld =>
    cases howner
    exact ⟨row, rfl, hheld⟩

/-! ## Claims of a row that exists -/

theorem Row.Sound.not_conflict (h : row.Sound) : row.status ≠ .conflict := by
  cases h with
  | claimed _ hstatus => simp [hstatus]
  | completed _ hstatus => simp [hstatus]

theorem resolveIdempotency_reused (hvalid : record.validate = .ok ())
    (hrequest : request.validate = .ok ()) (hts : ts ≠ 0) (hstatus : record.status ≠ .conflict)
    (hother : request.digest ≠ record.requestFingerprint) :
    resolveIdempotency record request ts = .error .idempotencyKeyReused := by
  simp only [resolveIdempotency, hvalid, hrequest]
  show (if ts = 0 then _ else _) = _
  rw [if_neg hts, if_neg hstatus, if_pos hother]

theorem resolveIdempotency_completed
    (hvalid : record.validate = .ok ()) (hrequest : request.validate = .ok ()) (hts : ts ≠ 0)
    (hstatus : record.status = .completed) (hresult : record.resultFingerprint = some result)
    (hsame : request.digest = record.requestFingerprint) :
    resolveIdempotency record request ts = .ok (.replay result) := by
  simp only [resolveIdempotency, hvalid, hrequest]
  show (if ts = 0 then _ else _) = _
  rw [if_neg hts, if_neg (by simp [hstatus]), if_neg (not_not.mpr hsame), hstatus, hresult]

theorem claimRow_of_resolve (hrecord : row.record key = .ok record) :
    claimRow key ts input row r =
      match resolveIdempotency record input.requestFingerprint ts with
      | .error e => .error e
      | .ok (.replay result) => .ok (.replay result, r)
      | .ok .takeover =>
        (do let owner ← takeoverIdempotencyClaim ts input row; pure (.acquired owner) :
          KeyTx ClaimResult) r := by
  have hread : (liftM (row.record key) : KeyTx IdempotencyRecord) r = .ok (record, r) := by
    rw [hrecord]
    rfl
  rw [claimRow, bind_of_ok hread]
  cases hresolve : resolveIdempotency record input.requestFingerprint ts with
  | error e => exact bind_of_error rfl
  | ok resolution =>
    rw [bind_of_ok (show (liftM (Except.ok resolution : Except PlatformError _) :
      KeyTx IdempotencyResolution) r = .ok (resolution, r) from rfl)]
    cases resolution <;> rfl

section Claim

variable {input : ClaimInput} (hsound : row.Sound) (hts : 0 < ts)
  (hcall : (Call.claim input).validate key = .ok ())

include hsound hts hcall

theorem advance_claim_reused (hother : input.requestFingerprint.digest ≠ row.requestFingerprint) :
    advance key ⟨.claim input, ts, false⟩ (some row) =
      .done (.error .idempotencyKeyReused) (some row) := by
  obtain ⟨hkey, hrequest, -⟩ := claim_validate hcall
  obtain ⟨record, hrecord, hvalid⟩ := hsound.valid hkey
  obtain ⟨-, hreq, -, hstatus⟩ := record_eq_ok hrecord
  have hpos : ts ≠ 0 := by omega
  have hresolve := resolveIdempotency_reused hvalid hrequest hpos
    (by rw [hstatus]; exact hsound.not_conflict) (by rwa [hreq])
  have hclaim : claimRow key ts input row (some row) = .error .idempotencyKeyReused := by
    rw [claimRow_of_resolve hrecord, hresolve]
  simp only [advance]
  rw [run_of_error hclaim]
  rfl

theorem advance_claim_replay (hstatus : row.status = .completed)
    (hresult : row.resultFingerprint = some result)
    (hsame : input.requestFingerprint.digest = row.requestFingerprint) :
    advance key ⟨.claim input, ts, false⟩ (some row) =
      .done (.ok (.claimed (.replay result))) (some row) := by
  obtain ⟨hkey, hrequest, -⟩ := claim_validate hcall
  obtain ⟨record, hrecord, hvalid⟩ := hsound.valid hkey
  obtain ⟨-, hreq, hres, hst⟩ := record_eq_ok hrecord
  have hpos : ts ≠ 0 := by omega
  have hresolve := resolveIdempotency_completed hvalid hrequest hpos
    (hst.trans hstatus) (hres.trans hresult) (by rwa [hreq])
  have hclaim : claimRow key ts input row (some row) = .ok (.replay result, some row) := by
    rw [claimRow_of_resolve hrecord, hresolve]
  simp only [advance]
  rw [run_of_ok hclaim]
  rfl

end Claim

/-! ## Runs -/

structure KeyState.Inv (key : IdempotencyKey) (s : KeyState) : Prop where
  now : 0 < s.now
  row : ∀ row ∈ s.row, key.validate = .ok () ∧ row.Sound
  running : ∀ t ∈ s.running, 0 < t.timestamp ∧ t.call.validate key = .ok ()

theorem inv_fresh {now : Int} (h : 0 < now) : (KeyState.fresh now).Inv key :=
  ⟨h, by simp [KeyState.fresh], by simp [KeyState.fresh]⟩

variable {s s' : KeyState} {l : KeyLabel}

theorem KeyStep.inv (hinv : s.Inv key) (h : KeyStep key s l s') : s'.Inv key := by
  cases h with
  | tick hnow => exact ⟨by have := hinv.now; simp only; omega, hinv.row, hinv.running⟩
  | @begin call hcall =>
    refine ⟨hinv.now, hinv.row, ?_⟩
    rintro t ht
    rcases List.mem_cons.mp ht with rfl | ht
    · exact ⟨hinv.now, hcall⟩
    · exact hinv.running t ht
  | @wait t t' ht hnext =>
    refine ⟨hinv.now, hinv.row, ?_⟩
    obtain ⟨hcall, htime⟩ := advance_next hnext
    rintro x hx
    rcases List.mem_cons.mp hx with rfl | hx
    · rw [hcall, htime]
      exact hinv.running t ht
    · exact hinv.running x (List.mem_of_mem_erase hx)
  | @finished t outcome row ht hdone =>
    refine ⟨hinv.now, ?_, fun x hx => hinv.running x (List.mem_of_mem_erase hx)⟩
    obtain ⟨htime, hcall⟩ := hinv.running t ht
    cases outcome with
    | error e =>
      rw [advance_error hdone]
      exact hinv.row
    | ok outcome =>
      have hsound := (advance_effect hdone).sound htime hcall fun row hrow => (hinv.row row hrow).2
      exact fun row hrow => ⟨Call.validate_key hcall, hsound row hrow⟩
  | aborted ht =>
    exact ⟨hinv.now, hinv.row, fun x hx => hinv.running x (List.mem_of_mem_erase hx)⟩

/-- The row changes only when a transaction succeeds. -/
theorem KeyStep.row_cases (h : KeyStep key s l s') (hrow : s.row = some row) :
    s'.row = some row ∨ row.status = .inProgress ∧ ∃ row', s'.row = some row' ∧
      (row'.status = .inProgress → row.ownerGeneration ≤ row'.ownerGeneration) := by
  cases h with
  | tick => exact .inl hrow
  | begin => exact .inl hrow
  | wait => exact .inl hrow
  | @finished t outcome row ht hdone =>
    cases outcome with
    | error e => exact .inl ((advance_error hdone).trans hrow)
    | ok outcome =>
      rw [hrow] at hdone
      exact (advance_effect hdone).row_cases
  | aborted => exact .inl hrow

theorem KeyStep.effect (h : KeyStep key s (.finished t (.ok outcome)) s') :
    Effect t.timestamp t.call s.row outcome s'.row := by
  cases h with
  | finished ht hdone => exact advance_effect hdone

def Transaction.Succeeds (key : IdempotencyKey) (t : Transaction) (r : Option Row) : Prop :=
  ∃ outcome r', t.advance key r = .done (.ok outcome) r'

/-- The step took the row over, from a claim of the generation `g`. -/
def TakesOver (g : Nat) (e : RunStep KeyState KeyLabel) : Prop :=
  ∃ t owner row, e.label = .finished t (.ok (.claimed (.acquired owner))) ∧
    e.before.row = some row ∧ row.ownerGeneration = g

def Completes (request result : Digest) (e : RunStep KeyState KeyLabel) : Prop :=
  ∃ t owner fingerprint row, e.label = .finished t (.ok .completed) ∧
    t.call = .complete owner fingerprint ∧ fingerprint.digest = result ∧
    e.before.row = some row ∧ row.requestFingerprint = request

def Accepts (owner : OwnerLease) (e : RunStep KeyState KeyLabel) : Prop :=
  ∃ t outcome, e.label = .finished t (.ok outcome) ∧ t.call.lease = some owner

def isCompletion (e : RunStep KeyState KeyLabel) : Bool :=
  match e.label with
  | .finished _ (.ok .completed) => true
  | _ => false

/-- The row goes on, its generation falls only when it is completed, and a takeover raises it. -/
def GenerationKept (e : RunStep KeyState KeyLabel) : Prop :=
  ∀ row, e.before.row = some row → ∃ row', e.after.row = some row' ∧
    (row'.status = .inProgress → row.ownerGeneration ≤ row'.ownerGeneration) ∧
    ∀ g, TakesOver g e → g < row'.ownerGeneration

variable {g : Nat}

theorem KeyStep.takesOver (h : KeyStep key s l s') (htake : TakesOver g ⟨s, l, s'⟩) :
    ∃ row', s'.row = some row' ∧ g < row'.ownerGeneration := by
  obtain ⟨t, owner, row, rfl, hrow, rfl⟩ := htake
  have heffect := h.effect
  simp only at hrow
  rw [hrow] at heffect
  generalize hcall : t.call = call, hafter : s'.row = r' at heffect ⊢
  cases heffect with
  | tookOver => exact ⟨_, rfl, Nat.lt_succ_self _⟩

theorem KeyStep.generationKept (h : KeyStep key s l s') : GenerationKept ⟨s, l, s'⟩ := by
  intro row hrow
  obtain ⟨row', hrow', hle⟩ : ∃ row', s'.row = some row' ∧
      (row'.status = .inProgress → row.ownerGeneration ≤ row'.ownerGeneration) := by
    rcases h.row_cases hrow with hsame | ⟨-, hmoved⟩
    · exact ⟨row, hsame, fun _ => Nat.le_refl _⟩
    · exact hmoved
  refine ⟨row', hrow', hle, fun g htake => ?_⟩
  obtain ⟨row1, hrow1, hlt⟩ := h.takesOver htake
  obtain rfl : row' = row1 := some.inj (hrow'.symm.trans hrow1)
  exact hlt

/-- Since a takeover of generation `g` the row has been of a later one as long as it is claimed. -/
def Overtaken (g : Nat) (s : KeyState) : Prop :=
  ∃ row, s.row = some row ∧ (row.status = .inProgress → g < row.ownerGeneration)

theorem KeyStep.overtaken (h : KeyStep key s l s') (hover : Overtaken g s) : Overtaken g s' := by
  obtain ⟨row, hrow, hlt⟩ := hover
  rcases h.row_cases hrow with hsame | ⟨hclaimed, row', hrow', hle⟩
  · exact ⟨row, hsame, hlt⟩
  · exact ⟨row', hrow', fun hstatus => Nat.lt_of_lt_of_le (hlt hclaimed) (hle hstatus)⟩

theorem Overtaken.accepts (hover : Overtaken g s) (h : KeyStep key s l s')
    (haccept : Accepts owner ⟨s, l, s'⟩) :
    g < owner.generation := by
  obtain ⟨t, outcome, rfl, hlease⟩ := haccept
  obtain ⟨row, hrow, hlt⟩ := hover
  obtain ⟨row1, hrow1, hheld⟩ := h.effect.held hlease
  obtain rfl : row = row1 := some.inj (hrow.symm.trans hrow1)
  obtain ⟨hstatus, -, hgeneration, -⟩ := heldBy_spec hheld
  rw [← hgeneration]
  exact hlt hstatus

def CompletedAs (request result : Digest) (s : KeyState) : Prop :=
  ∃ row, s.row = some row ∧ row.status = .completed ∧ row.requestFingerprint = request ∧
    row.resultFingerprint = some result

variable {request : Digest}

theorem KeyStep.completedAs (h : KeyStep key s l s') (hdone : CompletedAs request result s) :
    CompletedAs request result s' := by
  obtain ⟨row, hrow, hstatus, hrest⟩ := hdone
  rcases h.row_cases hrow with hsame | ⟨hclaimed, -⟩
  · exact ⟨row, hsame, hstatus, hrest⟩
  · cases hstatus.symm.trans hclaimed

theorem KeyStep.completes (h : KeyStep key s l s')
    (hcompletes : Completes request result ⟨s, l, s'⟩) :
    CompletedAs request result s' := by
  obtain ⟨t, owner, fingerprint, row, rfl, hcall, rfl, hrow, rfl⟩ := hcompletes
  have heffect := h.effect
  simp only at hrow
  rw [hrow, hcall] at heffect
  generalize hafter : s'.row = r' at heffect
  cases heffect with
  | completed => exact ⟨_, hafter, rfl, rfl, rfl⟩

theorem isCompletion_iff {e : RunStep KeyState KeyLabel} :
    isCompletion e = true ↔ ∃ t, e.label = .finished t (.ok .completed) := by
  rw [isCompletion]
  split
  · rename_i t hlabel
    exact ⟨fun _ => ⟨t, hlabel⟩, fun _ => rfl⟩
  · rename_i hnone
    constructor
    · intro h
      cases h
    · rintro ⟨t, hlabel⟩
      exact absurd hlabel (hnone t)

theorem KeyStep.completes_of_isCompletion (h : KeyStep key s l s')
    (hcompletion : isCompletion ⟨s, l, s'⟩ = true) :
    ∃ request result, Completes request result ⟨s, l, s'⟩ := by
  obtain ⟨t, hlabel⟩ := isCompletion_iff.mp hcompletion
  simp only at hlabel
  subst hlabel
  have heffect := h.effect
  generalize hbefore : s.row = r, hcall : t.call = call, hafter : s'.row = r' at heffect
  cases heffect with
  | completed owner result row hheld =>
    exact ⟨_, _, t, owner, result, row, rfl, hcall, rfl, hbefore, rfl⟩

theorem CompletedAs.not_completion (hdone : CompletedAs request result s) (h : KeyStep key s l s') :
    isCompletion ⟨s, l, s'⟩ = false := by
  by_contra hcompletion
  obtain ⟨_, _, t, owner, fingerprint, row, hlabel, hcall, -, hrow, -⟩ :=
    h.completes_of_isCompletion (by simpa using hcompletion)
  simp only at hlabel hrow
  subst hlabel
  have hlease : t.call.lease = some owner := by rw [hcall]; rfl
  obtain ⟨row1, hrow1, hheld⟩ := h.effect.held hlease
  obtain ⟨row2, hrow2, hstatus, -⟩ := hdone
  obtain rfl : row1 = row2 := some.inj (hrow1.symm.trans hrow2)
  rw [(heldBy_spec hheld).1] at hstatus
  cases hstatus

/-- A claim that ends does so with the recorded result, or is refused as of another request. -/
def Replays (request result : Digest) (e : RunStep KeyState KeyLabel) : Prop :=
  ∀ t input outcome, e.label = .finished t outcome → t.call = .claim input →
    outcome = if input.requestFingerprint.digest = request then .ok (.claimed (.replay result))
      else .error .idempotencyKeyReused

theorem CompletedAs.replays (hdone : CompletedAs request result s) (hinv : s.Inv key)
    (h : KeyStep key s l s') :
    Replays request result ⟨s, l, s'⟩ := by
  rintro t input outcome hlabel hcall
  obtain ⟨row, hrow, hstatus, rfl, hresult⟩ := hdone
  simp only at hlabel
  subst hlabel
  cases h with
  | finished ht hend =>
    obtain ⟨htime, hvalidate⟩ := hinv.running t ht
    obtain ⟨-, hsound⟩ := hinv.row row hrow
    obtain ⟨call, ts, inserting⟩ := t
    simp only at hcall htime hvalidate
    subst hcall
    cases inserting with
    | true => simp [advance, hrow] at hend
    | false =>
      rw [hrow] at hend
      split_ifs with hsame
      · rw [advance_claim_replay hsound htime hvalidate hstatus hresult hsame] at hend
        injection hend with houtcome
        exact houtcome.symm
      · rw [advance_claim_reused hsound htime hvalidate hsame] at hend
        injection hend with houtcome
        exact houtcome.symm

/-- For every interleaving of the transactions of a key that was not claimed before. The generation
of the row never falls while it is claimed, and the row is always one that `validate` accepts. -/
theorem idempotency_ownership_fenced (key : IdempotencyKey) (now : Int) (hnow : 0 < now)
    (hist : List (RunStep KeyState KeyLabel)) (s : KeyState)
    (h : Run (KeyStep key) (.fresh now) hist s) :
    (∀ (t₁ t₂ : Transaction) (owner₁ owner₂ : OwnerLease), t₁.call.lease = some owner₁ →
        t₂.call.lease = some owner₂ → t₁.Succeeds key s.row → t₂.Succeeds key s.row →
        owner₁ = owner₂) ∧
      (∀ e ∈ hist, GenerationKept e) ∧
      hist.Pairwise (fun e e' => ∀ g owner, TakesOver g e → Accepts owner e' →
        g < owner.generation) ∧
      hist.countP isCompletion ≤ 1 ∧
      hist.Pairwise (fun e e' => ∀ request result, Completes request result e →
        Replays request result e') ∧
      (∀ row input ts, s.row = some row → 0 < ts → (Call.claim input).validate key = .ok () →
        input.requestFingerprint.digest ≠ row.requestFingerprint →
        advance key ⟨.claim input, ts, false⟩ s.row = .done (.error .idempotencyKeyReused) s.row) ∧
      ∀ row, s.row = some row → row.Valid key := by
  have hinv : s.Inv key := h.inv (fun _ _ _ hi hs => hs.inv hi) (inv_fresh hnow)
  refine ⟨?_, ?_, ?_, ?_, ?_, ?_, ?_⟩
  · rintro t₁ t₂ owner₁ owner₂ hlease₁ hlease₂ ⟨_, _, h₁⟩ ⟨_, _, h₂⟩
    obtain ⟨row₁, hrow₁, hheld₁⟩ := (advance_effect h₁).held hlease₁
    obtain ⟨row₂, hrow₂, hheld₂⟩ := (advance_effect h₂).held hlease₂
    obtain rfl : row₁ = row₂ := some.inj (hrow₁.symm.trans hrow₂)
    exact heldBy_unique hheld₁ hheld₂
  · intro e he
    exact (h.forall_entry (I := fun s => s.Inv key) (fun _ _ _ hi hs => hs.inv hi)
      (inv_fresh hnow) e he).2.generationKept
  · refine h.pairwise (I := fun s => s.Inv key) (Q := fun e s => ∀ g, TakesOver g e → Overtaken g s)
      (fun _ _ _ hi hs => hs.inv hi) ?_ ?_ ?_ (inv_fresh hnow)
    · intro s l s' _ hs g htake
      obtain ⟨row', hrow', hlt⟩ := hs.takesOver htake
      exact ⟨row', hrow', fun _ => hlt⟩
    · exact fun e s l s' _ hQ hs g htake => hs.overtaken (hQ g htake)
    · exact fun e s l s' _ hQ hs g owner htake haccept => (hQ g htake).accepts hs haccept
  · refine countP_le_one_of_pairwise ?_
    refine h.pairwise (I := fun s => s.Inv key)
      (Q := fun e s => isCompletion e = true → ∃ request result, CompletedAs request result s)
      (fun _ _ _ hi hs => hs.inv hi) ?_ ?_ ?_ (inv_fresh hnow)
    · intro s l s' _ hs hcompletion
      obtain ⟨request, result, hcompletes⟩ := hs.completes_of_isCompletion hcompletion
      exact ⟨request, result, hs.completes hcompletes⟩
    · intro e s l s' _ hQ hs hcompletion
      obtain ⟨request, result, hdone⟩ := hQ hcompletion
      exact ⟨request, result, hs.completedAs hdone⟩
    · intro e s l s' _ hQ hs hcompletion
      obtain ⟨request, result, hdone⟩ := hQ hcompletion
      exact hdone.not_completion hs
  · refine h.pairwise (I := fun s => s.Inv key)
      (Q := fun e s => ∀ request result, Completes request result e → CompletedAs request result s)
      (fun _ _ _ hi hs => hs.inv hi) ?_ ?_ ?_ (inv_fresh hnow)
    · exact fun s l s' _ hs request result hcompletes => hs.completes hcompletes
    · exact fun e s l s' _ hQ hs request result hcompletes =>
        hs.completedAs (hQ request result hcompletes)
    · exact fun e s l s' hi hQ hs request result hcompletes =>
        (hQ request result hcompletes).replays hi hs
  · intro row input ts hrow hts hcall hother
    rw [hrow]
    exact advance_claim_reused (hinv.row row hrow).2 hts hcall hother
  · intro row hrow
    obtain ⟨hkey, hsound⟩ := hinv.row row hrow
    exact hsound.valid hkey

/-! ## A run -/

section Sample

def sampleKey : IdempotencyKey := ⟨"default", "record_create", "k"⟩

def sampleClaim : Transaction :=
  ⟨.claim ⟨⟨Vector.replicate 32 1, true⟩, "a", 1000000, 2000000⟩, 1, false⟩

def sampleLease : OwnerLease := ⟨"a", 1, 1001⟩

def sampleCompletion : Transaction :=
  ⟨.complete sampleLease ⟨Vector.replicate 32 2, true⟩, 1, false⟩

def sampleRow : Row := .inserted 1 ⟨⟨Vector.replicate 32 1, true⟩, "a", 1000000, 2000000⟩

def sampleCompleted : Row := sampleRow.completed (Vector.replicate 32 2)

def sampleHistory : List (RunStep KeyState KeyLabel) :=
  let s₀ := KeyState.fresh 1
  let s₁ : KeyState := ⟨1, none, [sampleClaim]⟩
  let s₂ : KeyState := ⟨1, none, [{ sampleClaim with inserting := true }]⟩
  let s₃ : KeyState := ⟨1, some sampleRow, []⟩
  let s₄ : KeyState := ⟨1, some sampleRow, [sampleCompletion]⟩
  [⟨s₀, .begin sampleClaim.call, s₁⟩, ⟨s₁, .wait sampleClaim, s₂⟩,
    ⟨s₂, .finished { sampleClaim with inserting := true } (.ok (.claimed (.acquired sampleLease))),
      s₃⟩,
    ⟨s₃, .begin sampleCompletion.call, s₄⟩,
    ⟨s₄, .finished sampleCompletion (.ok .completed), ⟨1, some sampleCompleted, []⟩⟩]

theorem sampleHistory_run :
    Run (KeyStep sampleKey) (.fresh 1) sampleHistory ⟨1, some sampleCompleted, []⟩ := by
  have hinsert : ({ sampleClaim with inserting := true } : Transaction).advance sampleKey none =
      .done (.ok (.claimed (.acquired sampleLease))) (some sampleRow) := by rfl
  have hcomplete : sampleCompletion.advance sampleKey (some sampleRow) =
      .done (.ok .completed) (some sampleCompleted) := by rfl
  refine .cons (.begin (by decide)) (.cons (.wait (by simp) rfl)
    (.cons (.finished (by simp) hinsert) (.cons (.begin (by decide))
      (.cons (.finished (by simp) hcomplete) (.nil _)))))

theorem idempotency_ownership_fenced_sample :
    (0 : Int) < 1 ∧ Run (KeyStep sampleKey) (.fresh 1) sampleHistory ⟨1, some sampleCompleted, []⟩ ∧
      sampleHistory.countP isCompletion ≤ 1 ∧ sampleCompleted.Valid sampleKey := by
  have h := idempotency_ownership_fenced sampleKey 1 (by decide) _ _ sampleHistory_run
  obtain ⟨-, -, -, hcount, -, -, hvalid⟩ := h
  exact ⟨by decide, sampleHistory_run, hcount, hvalid sampleCompleted rfl⟩

/-- A completion clears the generation of the row. -/
theorem generation_falls_on_completion :
    Run (KeyStep sampleKey) (.fresh 1) sampleHistory ⟨1, some sampleCompleted, []⟩ ∧
      ∃ e ∈ sampleHistory, e.before.row = some sampleRow ∧ e.after.row = some sampleCompleted ∧
        sampleCompleted.ownerGeneration < sampleRow.ownerGeneration :=
  ⟨sampleHistory_run, _, List.mem_of_mem_getLast? rfl, rfl, rfl, by decide⟩

end Sample

end Houfeng.RecordPlatform
