import Houfeng.Center.Proofs.CommandActionProofs

/-!
# Collection authority

Who may record facts for an instance: its binding, its open enrollment token and its sessions.
`AuthorityStep` lists what a transaction can do to them, and that at most one session is full and
carries the bound fingerprint is an invariant of these steps.
-/

namespace Houfeng.Center

open AgentApi List Option Tx AList Transaction Instance

variable {db db' : Database}

/-! ## The machine -/

def Instance.Opens (row : Instance) (hash : String) (issued : Int) : Prop :=
  row.enrollmentTokenHash = hash ∧ hash ≠ "" ∧ row.enrollmentTokenConsumedAt = none ∧
    row.enrollmentTokenIssuedAt = some issued

def Instance.Settled (row : Instance) : Prop :=
  row.bindingStatus ≠ .unbound ∨ row.lifecycleStatus = .retired

/-- A row whose bound fingerprint stays, and whose token is not replaced. -/
structure Instance.AuthorityKept (row row' : Instance) : Prop where
  fingerprint : row'.bindingFingerprint = row.bindingFingerprint
  settled : row.Settled → row'.Settled
  opens : ∀ {hash issued}, row'.Opens hash issued → row.Opens hash issued
  retired : row'.lifecycleStatus = .retired →
    row.lifecycleStatus = .retired ∨ ∀ hash issued, ¬row'.Opens hash issued

structure Session.AuthorityKept (s s' : Session) : Prop where
  monitoringInstanceID : s'.monitoringInstanceID = s.monitoringInstanceID
  fingerprintHash : s'.fingerprintHash = s.fingerprintHash
  full : s'.capability = .full → s.capability = .full

/-- The transaction has confirmed a rebind of the instance or reset its binding. -/
def Transaction.rebinds (i : String) : Transaction → Bool
  | .manage _ (.confirmRebind j) (.ok _) => j = i
  | .manage _ (.resetBinding j) (.ok _) => j = i
  | _ => false

/-- What a transaction does to bindings, open tokens and sessions. -/
inductive AuthorityStep (db db' : Database) : Transaction → Prop
  | kept {t : Transaction}
      (hinstances : Table.Related AuthorityKept db.assets.instances db'.assets.instances)
      (hsessions : Table.Related Session.AuthorityKept db.assets.sessions db'.assets.sessions) :
      AuthorityStep db db' t
  | issued {env : ManagementEnv} {i token : String} {row : Instance} {answer : Option String}
      (hrow : db.assets.instances.lookup i = some row) (hactive : row.lifecycleStatus ≠ .retired)
      (hinstances : db'.assets.instances = db.assets.instances.insert i { row with
        enrollmentTokenHash := env.hasher.hashEnrollmentToken token
        enrollmentTokenIssuedAt := some env.now
        enrollmentTokenConsumedAt := none })
      (hsessions : db'.assets.sessions = db.assets.sessions) :
      AuthorityStep db db' (.manage env (.issueEnrollmentToken i token) (.ok answer))
  | created {t : Transaction} {env : ManagementEnv} {i sessionID : String} {row row' : Instance}
      {s : Session} (hrow : db.assets.instances.lookup i = some row)
      (hinstances : db'.assets.instances = db.assets.instances.insert i row')
      (hsessions : db'.assets.sessions =
        (db.assets.sessions.mapRows fun _ => demoteFull env i).insert sessionID s)
      (hnew : db.assets.sessions.lookup sessionID = none) (hi : s.monitoringInstanceID = i)
      (hfp : s.fingerprintHash = row'.bindingFingerprint)
      (hkept : row.Settled → row.AuthorityKept row')
      (hopens : ∀ hash issued, row'.Opens hash issued → row.Opens hash issued)
      (hactive : row'.lifecycleStatus ≠ .retired) : AuthorityStep db db' t
  | rebound {t : Transaction} {env : ManagementEnv} {i : String} {row row' : Instance}
      (hrow : db.assets.instances.lookup i = some row)
      (hinstances : db'.assets.instances = db.assets.instances.insert i row')
      (hsessions : db'.assets.sessions = db.assets.sessions.mapRows fun _ => demoteAll env i)
      (hopens : ∀ hash issued, row'.Opens hash issued → row.Opens hash issued)
      (hactive : row'.lifecycleStatus ≠ .retired) (ht : t.rebinds i = true) : AuthorityStep db db' t

/-! ## Transactions make these steps -/

namespace Instance

variable {row row' : Instance} {fp : String} {now : Int}

theorem AuthorityKept.refl (row : Instance) : row.AuthorityKept row :=
  ⟨rfl, id, id, fun h => .inl h⟩

/-- An enrollment binds the row to the fingerprint, or the row waits for a confirmation. -/
theorem resolve_cases (row : Instance) (fp : String) (now : Int) :
    let row' := resolveEnrollmentBindingTransition row fp now
    (row'.bindingStatus = .bound ∧ row'.bindingFingerprint = fp ∧
      (row.bindingStatus ≠ .unbound → row.bindingFingerprint = fp)) ∨
    (row'.bindingStatus = .pendingConfirmation ∧
      row'.bindingFingerprint = row.bindingFingerprint) := by
  unfold resolveEnrollmentBindingTransition
  cases hstatus : row.bindingStatus with
  | unbound => exact .inl ⟨rfl, rfl, fun hne => absurd rfl hne⟩
  | bound =>
    dsimp only
    split_ifs with hfp
    · exact .inl ⟨hstatus, hfp, fun _ => hfp⟩
    · exact .inr ⟨rfl, rfl⟩
  | pendingConfirmation =>
    dsimp only
    split_ifs <;> first | exact .inr ⟨rfl, rfl⟩ | exact .inr ⟨hstatus, rfl⟩

theorem lifecycleStatus_resolve : (resolveEnrollmentBindingTransition row fp now).lifecycleStatus =
    row.lifecycleStatus := by
  unfold resolveEnrollmentBindingTransition
  split
  · rfl
  · split <;> rfl
  · split
    · rfl
    · split <;> rfl

end Instance

theorem Session.AuthorityKept.refl (s : Session) : s.AuthorityKept s := ⟨rfl, rfl, id⟩

variable {s s' : Session}

theorem Session.DemotedFrom.authority (h : s.DemotedFrom s') : s.AuthorityKept s' := by
  cases h with
  | kept => exact .refl s
  | demoted clock => exact ⟨rfl, rfl, nofun⟩

theorem Session.TouchedFrom.authority (h : s.TouchedFrom s') : s.AuthorityKept s' := by
  cases h with
  | kept => exact .refl s
  | touched at_ => exact ⟨rfl, rfl, id⟩

theorem demoteAll_authority (env : ManagementEnv) (i : String) (s : Session) :
    s.AuthorityKept (demoteAll env i s) := by
  rw [demoteAll]
  split_ifs
  · exact ⟨rfl, rfl, fun h => by cases h⟩
  · exact .refl s

theorem demoteFull_authority (env : ManagementEnv) (i : String) (s : Session) :
    s.AuthorityKept (demoteFull env i s) := by
  rw [demoteFull]
  split_ifs
  · exact ⟨rfl, rfl, fun h => by cases h⟩
  · exact .refl s

namespace Instance

variable {row row' : Instance}

theorem AuthorityKept.clearActions (row : Instance) : row.AuthorityKept row.clearActions :=
  ⟨rfl, id, id, fun h => .inl h⟩

theorem AuthorityKept.retire (row : Instance) : row.AuthorityKept (retiredRow row) where
  fingerprint := rfl
  settled _ := .inr rfl
  opens h := by
    obtain ⟨hhash, hne, -⟩ := h
    exact absurd hhash.symm hne
  retired _ := by
    refine .inr ?_
    rintro hash issued ⟨hhash, hne, -⟩
    exact hne hhash.symm

theorem RetiredFrom.authority (h : row.RetiredFrom row') : row.AuthorityKept row' := by
  cases h with
  | kept => exact .refl row
  | cleared => exact .clearActions row
  | retired => exact .retire row

theorem TouchedFrom.authority (h : row.TouchedFrom row') : row.AuthorityKept row' := by
  cases h with
  | kept => exact .refl row
  | touched at_ hl =>
    refine ⟨rfl, ?_, id, ?_⟩
    · rintro (hbound | hretired)
      · exact .inl hbound
      · rcases hl with rfl | ⟨hpending, -⟩
        · exact .inr hretired
        · exact absurd (hretired.symm.trans hpending) (by decide)
    · intro hretired
      rcases hl with rfl | ⟨-, rfl⟩
      · exact .inl hretired
      · cases hretired

theorem AuthorityKept.ofActive (hfp : row'.bindingFingerprint = row.bindingFingerprint)
    (hstatus : row.bindingStatus ≠ .unbound → row'.bindingStatus ≠ .unbound)
    (hopens : ∀ hash issued, row'.Opens hash issued → row.Opens hash issued)
    (hlifecycle : row'.lifecycleStatus = row.lifecycleStatus) : row.AuthorityKept row' where
  fingerprint := hfp
  settled := by
    rintro (hbound | hretired)
    · exact .inl (hstatus hbound)
    · exact .inr (hlifecycle.trans hretired)
  opens h := hopens _ _ h
  retired h := .inl (hlifecycle.symm.trans h)

end Instance

variable {t : Transaction} {i : String}

theorem AuthorityStep.ofRow {row row' : Instance} (hrow : db.assets.instances.lookup i = some row)
    (hinstances : db'.assets.instances = db.assets.instances.insert i row')
    (hkept : row.AuthorityKept row')
    (hsessions : Table.Related Session.AuthorityKept db.assets.sessions db'.assets.sessions) :
    AuthorityStep db db' t := by
  refine .kept ?_ hsessions
  rw [hinstances]
  exact .insert .refl hrow hkept

variable {env : ManagementEnv} {assets : Assets} {row : Instance}

theorem enrollmentRow_opens {token : String} (h : enrollmentRow env assets token = some ⟨i, row⟩) :
    ∃ hash issued, row.Opens hash issued ∧ row.lifecycleStatus ≠ .retired ∧
      (hash = env.hasher.hashEnrollmentToken token ∨ hash = env.hasher.hashOpaqueToken token) ∧
      env.now - enrollmentTokenTTL ≤ issued := by
  have hfound := find?_some h
  simp only [Bool.and_eq_true, Bool.or_eq_true, decide_eq_true_eq, isNone_iff_eq_none,
    Option.any_eq_true, ne_eq] at hfound
  obtain ⟨⟨⟨⟨⟨hne, hhash⟩, -⟩, hretired⟩, hconsumed⟩, issued, hissued, hage⟩ := hfound
  exact ⟨row.enrollmentTokenHash, issued, ⟨rfl, hne, hconsumed, hissued⟩, hretired, hhash, hage⟩

variable {input : EnrollInput} {sessionID secret hash : String} {issued : Int}

theorem enrolledRow_consumed : ¬(enrolledRow env input sessionID secret row).Opens hash issued := by
  rintro ⟨-, -, hconsumed, -⟩
  cases hconsumed

theorem lifecycleStatus_enrolledRow :
    (enrolledRow env input sessionID secret row).lifecycleStatus = row.lifecycleStatus :=
  lifecycleStatus_resolve

variable {operation : Operation}

theorem Managed.authority {r : Option String} (h : Managed env db operation r db') :
    AuthorityStep db db' (.manage env operation (.ok r)) := by
  have hsame : Table.Related Session.AuthorityKept db.assets.sessions db.assets.sessions :=
    .refl .refl _
  cases h with
  | issuedToken hrow hretired => exact .issued hrow hretired rfl rfl
  | @enrolled input sessionID secret i row hrow hbound hnew =>
    obtain ⟨-, hfp, hsettled⟩ := (resolve_cases row input.fingerprint env.processNow).resolve_right
      fun h => nomatch hbound.symm.trans h.1
    obtain ⟨_, _, -, hactive, -⟩ := enrollmentRow_opens hrow
    refine .created (enrollmentRow_lookup hrow) rfl rfl hnew rfl hfp.symm ?_
      (fun _ _ hopens => (enrolledRow_consumed hopens).elim)
      (by rwa [lifecycleStatus_enrolledRow])
    rintro (hstatus | hretired)
    · refine .ofActive (hfp.trans (hsettled hstatus).symm) (fun _ => ?_)
        (fun _ _ hopens => (enrolledRow_consumed hopens).elim) lifecycleStatus_enrolledRow
      rw [enrolledRow, hbound]
      nofun
    · exact absurd hretired hactive
  | @proposed input sessionID secret i row hrow hbound =>
    obtain ⟨hstatus, hfp⟩ := (resolve_cases row input.fingerprint env.processNow).resolve_left
      fun h => hbound h.1
    exact .ofRow (enrollmentRow_lookup hrow) rfl (.ofActive hfp
      (fun _ => by rw [enrolledRow, hstatus]; nofun)
      (fun _ _ hopens => (enrolledRow_consumed hopens).elim) lifecycleStatus_enrolledRow) hsame
  | issuedSyncToken hrow hretired hnew =>
    exact .created hrow rfl rfl hnew rfl rfl
      (fun _ => .ofActive rfl id (fun _ _ => id) rfl) (fun _ _ => id) hretired
  | confirmed hrow hawaits =>
    exact .rebound hrow rfl
      (show _ = db.assets.sessions.mapRows fun _ => demoteAll env _ from rfl) (fun _ _ => id) nofun
      (by simp [rebinds])
  | rejected hrow hawaits =>
    exact .ofRow hrow rfl (.ofActive rfl (fun _ => nofun) (fun _ _ => id) rfl) hsame
  | reset hrow =>
    exact .rebound hrow rfl
      (show _ = db.assets.sessions.mapRows fun _ => demoteAll env _ from rfl) (fun _ _ => id) nofun
      (by simp [rebinds])
  | controlled hrow hretired =>
    exact .ofRow hrow rfl (.ofActive rfl id (fun _ _ => id) rfl) hsame
  | alreadyRetired hrow hretired => exact .kept (.refl .refl _) hsame
  | retired hrow hretired =>
    exact .ofRow hrow rfl (.retire _) (.mapRows (fun _ s => demoteAll_authority env _ s) _)
  | queued hrow hid => exact .ofRow hrow rfl (.ofActive rfl id (fun _ _ => id) rfl) hsame
  | archived hretiring vps =>
    exact .kept (hretiring.instances.mono fun _ _ h => h.authority)
      (hretiring.sessions.mono fun _ _ h => h.authority)
  | restored vps hretiring =>
    exact .kept (hretiring.instances.mono fun _ _ h => h.authority)
      (hretiring.sessions.mono fun _ _ h => h.authority)
  | expired =>
    exact .kept (.mapRows (fun _ _ => .ofActive rfl id (fun _ _ => id) rfl) _) hsame

variable {batch : Batch} {session : Session} {inst : Instance} {vps : Vps}

theorem Accepted.authorized {env : Env} {state : AcceptedSyncBatchState}
    (h : Accepted env batch db state session inst vps)
    (hsuppress : state.suppressWritesAndPlan = false) :
    inst.bindingStatus = .bound ∧ session.capability = .full ∧ inst.lifecycleStatus ≠ .retired := by
  rw [h.state_eq] at hsuppress
  simp only [AcceptedSyncBatchState.suppressWritesAndPlan, Bool.or_eq_false_iff,
    decide_eq_false_iff_not] at hsuppress
  obtain ⟨⟨⟨hcap, -⟩, hretired⟩, -⟩ := hsuppress
  by_cases hbound : inst.bindingStatus = .bound
  · rw [if_pos hbound] at hcap
    refine ⟨hbound, ?_, hretired⟩
    cases hs : session.capability with
    | full => rfl
    | evidenceOnly => exact absurd hs hcap
  · rw [if_neg hbound] at hcap
    exact absurd rfl hcap

variable {k : String}

theorem sessionRow_eq_some (h : sessionRow assets i k = some (session, inst, vps)) :
    assets.sessions.lookup k = some session ∧ assets.instances.lookup i = some inst ∧
      session.monitoringInstanceID = i := by
  simp only [sessionRow, bind_eq_bind, bind_eq_some_iff] at h
  obtain ⟨s, hs, row, hrow, v, hv, h⟩ := h
  split_ifs at h with hi
  cases h
  exact ⟨hs, hrow, hi⟩

variable {r : Result}

theorem applyBatch_authority {env : Env} (h : applyBatch env batch db = .ok (r, db')) :
    AuthorityStep db db' (.sync env batch (.ok r)) := by
  obtain ⟨state, session, inst, vps, live, touched, heffect⟩ := applyBatch_effect h
  have hinstances := heffect.evidence.instances
  have hsessions : Table.Related Session.AuthorityKept db.assets.sessions touched.assets.sessions :=
    heffect.evidence.sessions.mono fun _ _ h => h.authority
  cases heffect.disposal with
  | kept => exact .kept (hinstances.mono fun _ _ h => h.authority) hsessions
  | recorded hsuppress hrecording =>
    obtain ⟨-, -, hretired⟩ := heffect.accepted.authorized hsuppress
    obtain ⟨-, hinst, -⟩ := sessionRow_eq_some heffect.accepted.row
    obtain ⟨row, lastHeartbeatAt, measured, -, -, hwrote⟩ := hrecording.wrote
    obtain ⟨p, c, l, hrow'⟩ := recordedRow_eq env (syncedRow env lastHeartbeatAt
      (lifecycleStatusAfterAcceptedSync state.lifecycleStatus live) row) batch.commandResults
    have hlifecycle : lifecycleStatusAfterAcceptedSync state.lifecycleStatus live ≠ .retired := by
      have hstate : state.lifecycleStatus = inst.lifecycleStatus := by
        rw [heffect.accepted.state_eq]
      rw [hstate, lifecycleStatusAfterAcceptedSync]
      split_ifs
      · nofun
      · exact hretired
    refine .kept ?_ (hwrote.sessions ▸ hsessions)
    intro k
    by_cases hk : k = batch.monitoringInstanceID
    · subst hk
      obtain ⟨row0, hrow0, htouched⟩ := hinstances.to_lookup hwrote.before
      rw [hrow0, hwrote.after, hrow']
      refine .some ⟨htouched.authority.fingerprint, ?_, htouched.authority.opens,
        fun hr => absurd hr hlifecycle⟩
      intro hsettled
      cases hinst.symm.trans hrow0
      rcases hsettled with hbound | hr
      · refine .inl ?_
        cases htouched <;> exact hbound
      · exact absurd hr hretired
    · rw [hwrote.others k hk]
      exact (hinstances.mono fun _ _ h => h.authority) k

theorem managedStep_authority (h : managedStep db t db') : AuthorityStep db db' t := by
  cases t with
  | sync env batch answer =>
    cases answer with
    | error e =>
      obtain rfl := run_eq_error h
      exact .kept (.refl .refl _) (.refl .refl _)
    | ok r => exact applyBatch_authority (run_eq_ok h)
  | manage env operation answer =>
    cases answer with
    | error e =>
      obtain rfl := run_eq_error h
      exact .kept (.refl .refl _) (.refl .refl _)
    | ok r => exact (manage_ok (run_eq_ok h)).authority

/-! ## One full session -/

/-- A full session carries the fingerprint its instance is bound to, an instance has at most one,
and a retired instance has no token open. -/
structure AuthorityInvariant (db : Database) : Prop where
  bound : ∀ {k s}, db.assets.sessions.lookup k = some s → s.capability = .full →
    ∃ row, db.assets.instances.lookup s.monitoringInstanceID = some row ∧
      row.bindingFingerprint = s.fingerprintHash
  unique : ∀ {k k' s s'}, db.assets.sessions.lookup k = some s →
    db.assets.sessions.lookup k' = some s' → s.capability = .full → s'.capability = .full →
    s.monitoringInstanceID = s'.monitoringInstanceID → k = k'
  closed : ∀ {i row hash issued}, db.assets.instances.lookup i = some row →
    row.lifecycleStatus = .retired → ¬row.Opens hash issued

namespace AuthorityInvariant

variable (h : AuthorityInvariant db)
include h

theorem kept (hinstances : Table.Related AuthorityKept db.assets.instances db'.assets.instances)
    (hsessions : Table.Related Session.AuthorityKept db.assets.sessions db'.assets.sessions) :
    AuthorityInvariant db' where
  bound hs' hfull := by
    obtain ⟨s, hs, hkept⟩ := hsessions.to_lookup hs'
    obtain ⟨row, hrow, hfp⟩ := h.bound hs (hkept.full hfull)
    obtain ⟨row', hrow', hkept'⟩ := hinstances.of_lookup hrow
    refine ⟨row', hkept.monitoringInstanceID ▸ hrow', ?_⟩
    rw [hkept'.fingerprint, hfp, hkept.fingerprintHash]
  unique hs1 hs2 hfull1 hfull2 hi := by
    obtain ⟨s, hs, hkept⟩ := hsessions.to_lookup hs1
    obtain ⟨s', hs', hkept'⟩ := hsessions.to_lookup hs2
    refine h.unique hs hs' (hkept.full hfull1) (hkept'.full hfull2) ?_
    rw [← hkept.monitoringInstanceID, hi, hkept'.monitoringInstanceID]
  closed hrow' hretired hopens := by
    obtain ⟨row, hrow, hkept⟩ := hinstances.to_lookup hrow'
    rcases hkept.retired hretired with hr | hclosed
    · exact h.closed hrow hr (hkept.opens hopens)
    · exact hclosed _ _ hopens

theorem replaced {row' : Instance}
    (hinstances : db'.assets.instances = db.assets.instances.insert i row')
    (hactive : row'.lifecycleStatus ≠ .retired)
    (hothers : ∀ {k s}, db'.assets.sessions.lookup k = some s → s.capability = .full →
      s.monitoringInstanceID ≠ i → ∃ s0, db.assets.sessions.lookup k = some s0 ∧ s0.AuthorityKept s)
    (hown : ∀ {k s}, db'.assets.sessions.lookup k = some s → s.capability = .full →
      s.monitoringInstanceID = i → row'.bindingFingerprint = s.fingerprintHash)
    (hone : ∀ {k k' s s'}, db'.assets.sessions.lookup k = some s →
      db'.assets.sessions.lookup k' = some s' → s.capability = .full → s'.capability = .full →
      s.monitoringInstanceID = i → s'.monitoringInstanceID = i → k = k') :
    AuthorityInvariant db' where
  bound {k s} hs hfull := by
    by_cases hi : s.monitoringInstanceID = i
    · exact ⟨row', by rw [hinstances, hi, lookup_insert], hown hs hfull hi⟩
    · obtain ⟨s0, hs0, hkept⟩ := hothers hs hfull hi
      obtain ⟨row, hrow, hfp⟩ := h.bound hs0 (hkept.full hfull)
      rw [hinstances, lookup_insert_ne hi, hkept.monitoringInstanceID, hkept.fingerprintHash]
      exact ⟨row, hrow, hfp⟩
  unique {k k' s s'} hs hs' hfull hfull' hsame := by
    by_cases hi : s.monitoringInstanceID = i
    · exact hone hs hs' hfull hfull' hi (hsame ▸ hi)
    · obtain ⟨s0, hs0, hkept⟩ := hothers hs hfull hi
      obtain ⟨s0', hs0', hkept'⟩ := hothers hs' hfull' (hsame ▸ hi)
      refine h.unique hs0 hs0' (hkept.full hfull) (hkept'.full hfull') ?_
      rw [← hkept.monitoringInstanceID, hsame, hkept'.monitoringInstanceID]
  closed {k row hash issued} hrow hretired hopens := by
    rw [hinstances] at hrow
    rcases Table.lookup_insert_eq_some hrow with ⟨-, rfl⟩ | ⟨-, hrow⟩
    · exact hactive hretired
    · exact h.closed hrow hretired hopens

theorem step (ht : AuthorityStep db db' t) : AuthorityInvariant db' := by
  cases ht with
  | kept hinstances hsessions => exact h.kept hinstances hsessions
  | @issued env i token row answer hrow hactive hinstances hsessions =>
    refine h.replaced hinstances hactive ?_ ?_ ?_
    · intro k s hs _ _
      exact ⟨s, hsessions ▸ hs, .refl s⟩
    · intro k s hs hfull hi
      obtain ⟨row0, hrow0, hfp⟩ := h.bound (hsessions ▸ hs) hfull
      cases (hi ▸ hrow0).symm.trans hrow
      exact hfp
    · intro k k' s s' hs hs' hfull hfull' hi hi'
      exact h.unique (hsessions ▸ hs) (hsessions ▸ hs') hfull hfull' (hi.trans hi'.symm)
  | @created _ env i sessionID row row' s hrow hinstances hsessions hnew hi hfp hkept hopens hactive =>
    -- every session of the instance but the new one is demoted
    have hcases : ∀ {k s1}, db'.assets.sessions.lookup k = some s1 → s1.capability = .full →
        (k = sessionID ∧ s1 = s) ∨ (s1.monitoringInstanceID ≠ i ∧
          ∃ s0, db.assets.sessions.lookup k = some s0 ∧ s0.AuthorityKept s1) := by
      intro k s1 hs1 hfull
      rw [hsessions] at hs1
      rcases Table.lookup_insert_eq_some hs1 with hk | ⟨-, hs1⟩
      · exact .inl hk
      · rw [Table.lookup_mapRows] at hs1
        obtain ⟨s0, hs0, rfl⟩ := map_eq_some_iff.mp hs1
        refine .inr ⟨?_, s0, hs0, demoteFull_authority env i s0⟩
        intro hi1
        rw [(demoteFull_authority env i s0).monitoringInstanceID] at hi1
        rw [demoteFull, if_pos ⟨hi1, (demoteFull_authority env i s0).full hfull⟩] at hfull
        cases hfull
    refine h.replaced hinstances hactive ?_ ?_ ?_
    · intro k s1 hs1 hfull hne
      rcases hcases hs1 hfull with ⟨-, rfl⟩ | ⟨-, hold⟩
      · exact absurd hi hne
      · exact hold
    · intro k s1 hs1 hfull hi1
      rcases hcases hs1 hfull with ⟨-, rfl⟩ | ⟨hne, -⟩
      · exact hfp.symm
      · exact absurd hi1 hne
    · intro k k' s1 s2 hs1 hs2 hfull1 hfull2 hi1 hi2
      rcases hcases hs1 hfull1 with ⟨rfl, -⟩ | ⟨hne, -⟩
      · rcases hcases hs2 hfull2 with ⟨rfl, -⟩ | ⟨hne, -⟩
        · rfl
        · exact absurd hi2 hne
      · exact absurd hi1 hne
  | @rebound _ env i row row' hrow hinstances hsessions hopens hactive ht =>
    have hcases : ∀ {k s1}, db'.assets.sessions.lookup k = some s1 → s1.capability = .full →
        s1.monitoringInstanceID ≠ i ∧
          ∃ s0, db.assets.sessions.lookup k = some s0 ∧ s0.AuthorityKept s1 := by
      intro k s1 hs1 hfull
      rw [hsessions, Table.lookup_mapRows] at hs1
      obtain ⟨s0, hs0, rfl⟩ := map_eq_some_iff.mp hs1
      refine ⟨?_, s0, hs0, demoteAll_authority env i s0⟩
      intro hi1
      rw [(demoteAll_authority env i s0).monitoringInstanceID] at hi1
      rw [demoteAll, if_pos hi1] at hfull
      cases hfull
    refine h.replaced hinstances hactive (fun hs hfull _ => (hcases hs hfull).2) ?_ ?_
    · exact fun hs hfull hi => absurd hi (hcases hs hfull).1
    · exact fun hs _ hfull _ hi _ => absurd hi (hcases hs hfull).1

end AuthorityInvariant

/-! ## Where an open token comes from -/

theorem AuthorityStep.opens_of (ht : AuthorityStep db db' t) {row' : Instance}
    (hrow' : db'.assets.instances.lookup i = some row') (hopens : row'.Opens hash issued) :
    (∃ row, db.assets.instances.lookup i = some row ∧ row.Opens hash issued) ∨
      ∃ env token answer, t = .manage env (.issueEnrollmentToken i token) (.ok answer) ∧
        hash = env.hasher.hashEnrollmentToken token ∧ issued = env.now := by
  have hinsert : ∀ {j : String} {row0 row1 : Instance}, db.assets.instances.lookup j = some row0 →
      db'.assets.instances = db.assets.instances.insert j row1 →
      (∀ hash issued, row1.Opens hash issued → row0.Opens hash issued) →
      ∃ row, db.assets.instances.lookup i = some row ∧ row.Opens hash issued := by
    intro j row0 row1 hrow0 hinstances hkept
    rw [hinstances] at hrow'
    rcases Table.lookup_insert_eq_some hrow' with ⟨rfl, rfl⟩ | ⟨-, hrow⟩
    · exact ⟨row0, hrow0, hkept _ _ hopens⟩
    · exact ⟨row', hrow, hopens⟩
  cases ht with
  | kept hinstances hsessions =>
    obtain ⟨row, hrow, hkept⟩ := hinstances.to_lookup hrow'
    exact .inl ⟨row, hrow, hkept.opens hopens⟩
  | @issued env j token row answer hrow hactive hinstances hsessions =>
    rw [hinstances] at hrow'
    rcases Table.lookup_insert_eq_some hrow' with ⟨rfl, rfl⟩ | ⟨-, hrow0⟩
    · obtain ⟨hhash, -, -, hissued⟩ := hopens
      exact .inr ⟨env, token, answer, rfl, hhash.symm, (some.inj hissued).symm⟩
    · exact .inl ⟨row', hrow0, hopens⟩
  | created hrow hinstances hsessions hnew hi hfp hkept hopened hactive =>
    exact .inl (hinsert hrow hinstances hopened)
  | rebound hrow hinstances hsessions hopened hactive ht =>
    exact .inl (hinsert hrow hinstances hopened)

/-- A token with this hash was issued for the instance then, and the instance was not retired
since. -/
def IssuedIn (hist : List (RunStep Database Transaction)) (i hash : String) (issued : Int) : Prop :=
  ∃ pre e post env token answer, hist = pre ++ e :: post ∧
    e.label = .manage env (.issueEnrollmentToken i token) (.ok answer) ∧
    hash = env.hasher.hashEnrollmentToken token ∧ issued = env.now ∧
    ∀ y ∈ e :: post, ∀ row, y.after.assets.instances.lookup i = some row →
      row.lifecycleStatus ≠ .retired

/-- Every token that opens an instance was issued in the history. -/
def TokensIssued (hist : List (RunStep Database Transaction)) (db : Database) : Prop :=
  ∀ i row hash issued, db.assets.instances.lookup i = some row → row.Opens hash issued →
    IssuedIn hist i hash issued

variable {hist : List (RunStep Database Transaction)}

theorem TokensIssued.step (h : TokensIssued hist db) (ht : AuthorityStep db db' t)
    (hinv' : AuthorityInvariant db') :
    TokensIssued (hist ++ [⟨db, t, db'⟩]) db' := by
  intro i row' hash issued hrow' hopens
  have hactive : ∀ row, db'.assets.instances.lookup i = some row → row.lifecycleStatus ≠ .retired := by
    intro row hrow hretired
    cases hrow.symm.trans hrow'
    exact hinv'.closed hrow' hretired hopens
  rcases ht.opens_of hrow' hopens with ⟨row, hrow, hopened⟩ | ⟨env, token, answer, rfl, hhash, hissued⟩
  · obtain ⟨pre, e, post, env, token, answer, rfl, hlabel, hhash, hissued, hsince⟩ :=
      h i row hash issued hrow hopened
    refine ⟨pre, e, post ++ [⟨db, t, db'⟩], env, token, answer, by simp, hlabel, hhash, hissued, ?_⟩
    intro y hy
    rw [← cons_append] at hy
    rcases mem_append.mp hy with hy | hy
    · exact hsince y hy
    · rw [mem_singleton.mp hy]
      exact hactive
  · refine ⟨hist, _, [], env, token, answer, rfl, rfl, hhash, hissued, ?_⟩
    intro y hy
    rw [mem_singleton.mp hy]
    exact hactive

/-! ## A token creates no more sessions than it was issued -/

section Counting

variable (hasher : AgentTokenHasher) (token : String)

/-- An enrollment with the token that created a session. -/
def createsWith (e : RunStep Database Transaction) : Bool :=
  match e.label with
  | .manage _ (.applyEnrollment input _ _) (.ok (some _)) => input.token = token
  | _ => false

/-- The hash is one of the token. -/
def recognises (hash : String) : Prop :=
  hash = hasher.hashEnrollmentToken token ∨ hash = hasher.hashOpaqueToken token

instance (hash : String) : Decidable (recognises hasher token hash) :=
  inferInstanceAs (Decidable (_ ∨ _))

def issuesFor (e : RunStep Database Transaction) : Bool :=
  match e.label with
  | .manage env (.issueEnrollmentToken _ issued) (.ok _) =>
    recognises hasher token (env.hasher.hashEnrollmentToken issued)
  | _ => false

open Classical in
/-- The instances that the token opens. -/
noncomputable def openKeys (db : Database) : Finset String :=
  db.assets.instances.keys.toFinset.filter fun i =>
    ∃ row hash issued, db.assets.instances.lookup i = some row ∧ row.Opens hash issued ∧
      recognises hasher token hash

variable {hasher token} in
theorem mem_openKeys : i ∈ openKeys hasher token db ↔
    ∃ row hash issued, db.assets.instances.lookup i = some row ∧ row.Opens hash issued ∧
      recognises hasher token hash := by
  simp only [openKeys, Finset.mem_filter, List.mem_toFinset]
  refine and_iff_right_of_imp ?_
  rintro ⟨row, -, -, hrow, -⟩
  exact AList.mem_keys.mp (lookup_isSome.mp (hrow ▸ rfl))

theorem openKeys_step (ht : AuthorityStep db db' t) :
    openKeys hasher token db' ⊆ openKeys hasher token db ∨
      issuesFor hasher token ⟨db, t, db'⟩ = true ∧
        ∃ i, openKeys hasher token db' ⊆ insert i (openKeys hasher token db) := by
  have hkey : ∀ k ∈ openKeys hasher token db', k ∈ openKeys hasher token db ∨
      ∃ env issued answer, t = .manage env (.issueEnrollmentToken k issued) (.ok answer) ∧
        recognises hasher token (env.hasher.hashEnrollmentToken issued) := by
    intro k hk
    obtain ⟨row, hash, issued, hrow, hopens, hrec⟩ := mem_openKeys.mp hk
    rcases ht.opens_of hrow hopens with ⟨row0, hrow0, hopened⟩ | ⟨env, tok, answer, hlabel, rfl, -⟩
    · exact .inl (mem_openKeys.mpr ⟨row0, hash, issued, hrow0, hopened, hrec⟩)
    · exact .inr ⟨env, tok, answer, hlabel, hrec⟩
  by_cases hsub : openKeys hasher token db' ⊆ openKeys hasher token db
  · exact .inl hsub
  · obtain ⟨i, hi, hnot⟩ := Finset.not_subset.mp hsub
    obtain ⟨env, issued, answer, rfl, hrec⟩ := (hkey i hi).resolve_left hnot
    refine .inr ⟨by simpa [issuesFor] using hrec, i, ?_⟩
    intro k hk
    rcases hkey k hk with hold | ⟨_, _, _, hlabel, -⟩
    · exact Finset.mem_insert_of_mem hold
    · cases hlabel
      exact Finset.mem_insert_self _ _

variable {hasher token}

theorem openKeys_enrolled {r : String} (hhasher : env.hasher = hasher)
    (h : Managed env db (.applyEnrollment input sessionID secret) (some r) db') :
    ∃ i ∈ openKeys hasher input.token db, i ∉ openKeys hasher input.token db' := by
  cases h with
  | @enrolled _ _ _ i row hrow hbound hnew =>
    obtain ⟨hash, issued, hopens, -, hrec, -⟩ := enrollmentRow_opens hrow
    refine ⟨i, mem_openKeys.mpr ⟨row, hash, issued, enrollmentRow_lookup hrow, hopens, ?_⟩, ?_⟩
    · rw [← hhasher]
      exact hrec
    · intro hmem
      obtain ⟨row', hash', issued', hrow', hopens', -⟩ := mem_openKeys.mp hmem
      have hnew : (db.assets.instances.insert i (enrolledRow env input sessionID secret row)).lookup
          i = some row' := hrow'
      rw [lookup_insert] at hnew
      cases hnew
      exact enrolledRow_consumed hopens'

theorem tokenCount_step (h : hist.countP (createsWith token) + (openKeys hasher token db).card ≤
      hist.countP (issuesFor hasher token)) (hs : managedStep db t db')
    (hhasher : ∀ env operation answer, t = .manage env operation answer → env.hasher = hasher) :
    countP (createsWith token) (hist ++ [⟨db, t, db'⟩]) + (openKeys hasher token db').card ≤
      countP (issuesFor hasher token) (hist ++ [⟨db, t, db'⟩]) := by
  have hstep := openKeys_step hasher token (managedStep_authority hs)
  rw [countP_append, countP_append, countP_singleton, countP_singleton]
  by_cases hcreates : createsWith token ⟨db, t, db'⟩ = true
  · -- an enrollment issues nothing and closes an instance
    obtain ⟨env, input, sessionID, secret, r, rfl, htoken⟩ :
        ∃ env input sessionID secret r,
          t = .manage env (.applyEnrollment input sessionID secret) (.ok (some r)) ∧
            input.token = token := by
      unfold createsWith at hcreates
      split at hcreates
      · exact ⟨_, _, _, _, _, by assumption, by simpa using hcreates⟩
      · cases hcreates
    have hissues : issuesFor hasher token
        ⟨db, .manage env (.applyEnrollment input sessionID secret) (.ok (some r)), db'⟩ = false := rfl
    obtain hsub | ⟨htrue, -⟩ := hstep
    · obtain ⟨i, hi, hnot⟩ := openKeys_enrolled (hhasher _ _ _ rfl) (manage_ok (run_eq_ok hs))
      rw [htoken] at hi hnot
      have hcard := Finset.card_lt_card (Finset.ssubset_iff_subset_ne.mpr
        ⟨hsub, fun heq => hnot (heq ▸ hi)⟩)
      rw [if_pos hcreates, hissues]
      simp only [Bool.false_eq_true, if_false]
      omega
    · cases hissues.symm.trans htrue
  · rw [if_neg hcreates]
    obtain hsub | ⟨hissues, i, hsub⟩ := hstep
    · have := Finset.card_le_card hsub
      omega
    · rw [if_pos hissues]
      have := (Finset.card_le_card hsub).trans (Finset.card_insert_le _ _)
      omega

end Counting

/-! ## Recording facts -/

/-- The session may deliver evidence only. -/
def Demoted (db : Database) (k : String) : Prop :=
  ∃ s, db.assets.sessions.lookup k = some s ∧ s.capability = .evidenceOnly

theorem Session.AuthorityKept.evidenceOnly (h : s.AuthorityKept s')
    (hs : s.capability = .evidenceOnly) : s'.capability = .evidenceOnly := by
  cases hs' : s'.capability with
  | full => exact nomatch hs.symm.trans (h.full hs')
  | evidenceOnly => rfl

theorem AuthorityStep.demoted (ht : AuthorityStep db db' t) (h : Demoted db k) : Demoted db' k := by
  obtain ⟨s, hs, hcap⟩ := h
  cases ht with
  | kept hinstances hsessions =>
    obtain ⟨s', hs', hkept⟩ := hsessions.of_lookup hs
    exact ⟨s', hs', hkept.evidenceOnly hcap⟩
  | issued hrow hactive hinstances hsessions => exact ⟨s, hsessions ▸ hs, hcap⟩
  | @created _ env i sessionID _ _ _ hrow hinstances hsessions hnew =>
    have hne : k ≠ sessionID := by
      rintro rfl
      cases hnew.symm.trans hs
    refine ⟨demoteFull env i s, ?_, (demoteFull_authority env i s).evidenceOnly hcap⟩
    rw [hsessions, lookup_insert_ne hne, Table.lookup_mapRows, hs]
    rfl
  | @rebound _ env i _ _ hrow hinstances hsessions =>
    refine ⟨demoteAll env i s, ?_, (demoteAll_authority env i s).evidenceOnly hcap⟩
    rw [hsessions, Table.lookup_mapRows, hs]
    rfl

def Batch.fingerprints (batch : Batch) : List String :=
  batch.heartbeats.map (·.fingerprint) ++ batch.hostSamples.map (·.fingerprint) ++
    batch.probeObservations.map (·.fingerprint) ++ batch.ipQualityReports.map (·.fingerprint)

def CommandAudit (f : Fact) : Prop := ∃ event, f = .commandAudit event

/-- The facts of a batch were recorded under the authority of its session. -/
structure RecordedBy (env : Env) (batch : Batch) (session : Session) (row : Instance)
    (db db' : Database) : Prop where
  ofSession : db.assets.sessions.lookup batch.sessionID = some session
  ofInstance : db.assets.instances.lookup batch.monitoringInstanceID = some row
  owner : session.monitoringInstanceID = batch.monitoringInstanceID
  full : session.capability = .full
  bound : row.bindingStatus = .bound
  fingerprint : ∀ fp ∈ batch.fingerprints, fp = row.bindingFingerprint
  facts : ∃ added, db'.facts = db.facts ++ added ∧
    ∀ f ∈ added, MeasuredFrom env batch f ∨ CommandAudit f

theorem commandAudit_of_mem {env : Env} {f : Fact} {results : List CommandResult}
    (h : f ∈ completionAudits env i row results ++
      dispatchAudits env i (results.foldl (completeRow env) row)) : CommandAudit f := by
  rcases mem_append.mp h with h | h
  · obtain ⟨completing, -, haudits⟩ := reported_results env i row results
    rw [haudits] at h
    obtain ⟨r, -, rfl⟩ := List.mem_map.mp h
    exact ⟨_, rfl⟩
  · rw [dispatchAudits] at h
    cases hq : queuedAction (results.foldl (completeRow env) row) with
    | none => simp [hq] at h
    | some p =>
      simp only [hq, mem_singleton] at h
      exact ⟨_, h⟩

theorem applyBatch_recordedBy {env : Env} (hinv : AuthorityInvariant db)
    (h : applyBatch env batch db = .ok (r, db')) :
    db'.facts = db.facts ∨ ∃ session row, RecordedBy env batch session row db db' := by
  obtain ⟨state, session, inst, vps, live, touched, heffect⟩ := applyBatch_effect h
  cases heffect.disposal with
  | kept => exact .inl heffect.facts
  | recorded hsuppress hrecording =>
    obtain ⟨hbound, hfull, -⟩ := heffect.accepted.authorized hsuppress
    obtain ⟨hsession, hinst, hi⟩ := sessionRow_eq_some heffect.accepted.row
    obtain ⟨row, lastHeartbeatAt, measured, hmeasured, -, hwrote⟩ := hrecording.wrote
    obtain ⟨row0, hrow0, hfp⟩ := hinv.bound hsession hfull
    cases (hi ▸ hrow0).symm.trans hinst
    have hfacts := hwrote.facts
    rw [show (withReceipt touched batch).facts = db.facts from heffect.facts] at hfacts
    refine .inr ⟨session, inst, hsession, hinst, hi, hfull, hbound, ?_, _, hfacts, ?_⟩
    · intro fp hmem
      simp only [Batch.fingerprints, mem_append, List.mem_map] at hmem
      rw [hfp]
      rcases hmem with ((⟨w, hw, rfl⟩ | ⟨w, hw, rfl⟩) | ⟨w, hw, rfl⟩) | ⟨w, hw, rfl⟩
      · exact heffect.accepted.heartbeats w hw
      · exact heffect.accepted.hostSamples w hw
      · exact heffect.accepted.probeObservations w hw
      · exact heffect.accepted.ipQualityReports w hw
    · intro f hf
      rw [append_assoc] at hf
      rcases mem_append.mp hf with hf | hf
      · exact .inl (hmeasured f hf)
      · exact .inr (commandAudit_of_mem hf)

/-- A sync step records facts only under the authority of its session. -/
theorem syncStep_recordedBy {env : Env} {answer : Except SyncError Result}
    (hinv : AuthorityInvariant db) (h : managedStep db (.sync env batch answer) db') :
    db'.facts = db.facts ∨ ∃ session row, RecordedBy env batch session row db db' := by
  cases answer with
  | error e => exact .inl (congrArg Database.facts (run_eq_error h))
  | ok r => exact applyBatch_recordedBy hinv (run_eq_ok h)

/-- A management step adds audit rows of commands only. -/
theorem manageStep_facts {answer : Except ManagementError (Option String)}
    (h : managedStep db (.manage env operation answer) db') :
    ∃ added, db'.facts = db.facts ++ added ∧ ∀ f ∈ added, CommandAudit f := by
  have hsame : ∃ added, db.facts = db.facts ++ added ∧ ∀ f ∈ added, CommandAudit f :=
    ⟨[], by simp, by simp⟩
  have hcancelled : ∀ {f : Fact}, Cancelled f → CommandAudit f := fun ⟨event, hf, _⟩ => ⟨event, hf⟩
  cases answer with
  | error e =>
    obtain rfl := run_eq_error h
    exact hsame
  | ok r =>
    cases manage_ok (run_eq_ok h) with
    | confirmed hrow => exact ⟨_, rfl, fun f hf => hcancelled (Retiring.cancelled_of_mem hf)⟩
    | reset hrow => exact ⟨_, rfl, fun f hf => hcancelled (Retiring.cancelled_of_mem hf)⟩
    | retired hrow => exact ⟨_, rfl, fun f hf => hcancelled (Retiring.cancelled_of_mem hf)⟩
    | queued hrow hid => exact ⟨_, rfl, fun f hf => ⟨_, mem_singleton.mp hf⟩⟩
    | archived hretiring vps =>
      obtain ⟨added, hadded, hfacts⟩ := hretiring.facts
      exact ⟨added, hfacts, fun f hf => hcancelled (hadded f hf)⟩
    | restored vps hretiring =>
      obtain ⟨added, hadded, hfacts⟩ := hretiring.facts
      exact ⟨added, hfacts, fun f hf => hcancelled (hadded f hf)⟩
    | issuedToken | enrolled | proposed | issuedSyncToken | rejected | controlled |
      alreadyRetired | expired => exact hsame

/-! ## New sessions and the bound fingerprint -/

def CreatedIn (e : RunStep Database Transaction) (k : String) (s : Session) : Prop :=
  e.before.assets.sessions.lookup k = none ∧ e.after.assets.sessions.lookup k = some s

theorem AuthorityStep.created_fingerprint (ht : AuthorityStep db db' t)
    (hrow : db.assets.instances.lookup i = some row) (hsettled : row.Settled)
    (hs : CreatedIn ⟨db, t, db'⟩ k s) (hi : s.monitoringInstanceID = i) :
    s.fingerprintHash = row.bindingFingerprint := by
  obtain ⟨hbefore, hafter⟩ := hs
  cases ht with
  | kept hinstances hsessions =>
    cases (hsessions.of_lookup_none hbefore).symm.trans hafter
  | issued hrow0 hactive hinstances hsessions =>
    cases hbefore.symm.trans ((congrArg (AList.lookup k) hsessions).symm.trans hafter)
  | @created _ env j sessionID row0 row' s' hrow0 hinstances hsessions hnew hj hfp hkept =>
    dsimp only at hbefore hafter
    rw [hsessions] at hafter
    rcases Table.lookup_insert_eq_some hafter with ⟨-, rfl⟩ | ⟨-, hold⟩
    · obtain rfl : j = i := hj.symm.trans hi
      cases hrow0.symm.trans hrow
      rw [hfp, (hkept hsettled).fingerprint]
    · simp [hbefore] at hold
  | rebound hrow0 hinstances hsessions =>
    dsimp only at hbefore hafter
    simp [hsessions, hbefore] at hafter

theorem AuthorityStep.settled (ht : AuthorityStep db db' t)
    (hrow : db.assets.instances.lookup i = some row) (hsettled : row.Settled)
    (hrebinds : t.rebinds i = false) :
    ∃ row', db'.assets.instances.lookup i = some row' ∧ row'.Settled ∧
      row'.bindingFingerprint = row.bindingFingerprint := by
  have hinsert : ∀ {j : String} {row0 row1 : Instance}, db.assets.instances.lookup j = some row0 →
      db'.assets.instances = db.assets.instances.insert j row1 →
      (row0.Settled → row1.Settled ∧ row1.bindingFingerprint = row0.bindingFingerprint) →
      ∃ row', db'.assets.instances.lookup i = some row' ∧ row'.Settled ∧
        row'.bindingFingerprint = row.bindingFingerprint := by
    intro j row0 row1 hrow0 hinstances hkept
    rw [hinstances]
    by_cases hij : i = j
    · subst hij
      cases hrow0.symm.trans hrow
      exact ⟨row1, lookup_insert _, hkept hsettled⟩
    · exact ⟨row, (lookup_insert_ne hij).trans hrow, hsettled, rfl⟩
  cases ht with
  | kept hinstances hsessions =>
    obtain ⟨row', hrow', hkept⟩ := hinstances.of_lookup hrow
    exact ⟨row', hrow', hkept.settled hsettled, hkept.fingerprint⟩
  | issued hrow0 hactive hinstances hsessions =>
    exact hinsert hrow0 hinstances fun h => ⟨h, rfl⟩
  | created hrow0 hinstances hsessions hnew hj hfp hkept =>
    exact hinsert hrow0 hinstances fun h => ⟨(hkept h).settled h, (hkept h).fingerprint⟩
  | @rebound _ _ j row0 row' hrow0 hinstances hsessions hopens hactive ht =>
    rw [hinstances]
    have hij : i ≠ j := by
      rintro rfl
      cases ht.symm.trans hrebinds
    exact ⟨row, (lookup_insert_ne hij).trans hrow, hsettled, rfl⟩

variable {t : List (RunStep Database Transaction)}

theorem run_created_fingerprint
    (hrun : Run managedStep db t db') (hrow : db.assets.instances.lookup i = some row)
    (hsettled : row.Settled) {seg rest : List (RunStep Database Transaction)}
    {e : RunStep Database Transaction} (ht : t = seg ++ e :: rest)
    (hseg : ∀ x ∈ seg, x.label.rebinds i = false) (hs : CreatedIn e k s)
    (hi : s.monitoringInstanceID = i) :
    s.fingerprintHash = row.bindingFingerprint := by
  induction hrun generalizing row seg with
  | nil => simp at ht
  | @cons db m db' l t hstep hrest ih =>
    cases seg with
    | nil =>
      cases ht
      exact (managedStep_authority hstep).created_fingerprint hrow hsettled hs hi
    | cons x seg =>
      cases ht
      obtain ⟨hx, hseg⟩ := forall_mem_cons.mp hseg
      obtain ⟨row', hrow', hsettled', hfp⟩ := (managedStep_authority hstep).settled hrow hsettled hx
      rw [← hfp]
      exact ih hrow' hsettled' rfl hseg

/-! ## Authority is exclusive -/

def Database.Unenrolled (db : Database) : Prop :=
  db.assets.sessions = ∅ ∧
    ∀ i row, db.assets.instances.lookup i = some row → row.enrollmentTokenHash = ""

theorem Database.Unenrolled.not_opens (h : db.Unenrolled)
    (hrow : db.assets.instances.lookup i = some row) :
    ¬row.Opens hash issued := by
  rintro ⟨hhash, hne, -⟩
  exact hne (hhash.symm.trans (h.2 i row hrow))

theorem Database.Unenrolled.invariant (h : db.Unenrolled) : AuthorityInvariant db where
  bound hs := by simp [h.1] at hs
  unique hs := by simp [h.1] at hs
  closed hrow _ := h.not_opens hrow

variable {db₀ : Database}

theorem run_authority (hrun : Run managedStep db₀ t db) (hstart : db₀.Unenrolled) :
    AuthorityInvariant db ∧ TokensIssued t db := by
  refine hrun.history (I := fun hist d => AuthorityInvariant d ∧ TokensIssued hist d) ?_ ?_
  · rintro hist d l d' ⟨hinv, htokens⟩ hs
    have hstep := managedStep_authority hs
    exact ⟨hinv.step hstep, htokens.step hstep (hinv.step hstep)⟩
  · exact ⟨hstart.invariant, fun i row hash issued hrow hopens => (hstart.not_opens hrow hopens).elim⟩

def SameHasher (hasher : AgentTokenHasher) (t : List (RunStep Database Transaction)) : Prop :=
  ∀ e ∈ t, ∀ env operation answer, e.label = .manage env operation answer → env.hasher = hasher

theorem run_tokenCount (hrun : Run managedStep db₀ t db)
    (hstart : db₀.Unenrolled) {hasher : AgentTokenHasher} (hhasher : SameHasher hasher t)
    (token : String) :
    t.countP (createsWith token) ≤ t.countP (issuesFor hasher token) := by
  have hcount := (hrun.restrict hhasher).history (I := fun hist d =>
    hist.countP (createsWith token) + (openKeys hasher token d).card ≤
      hist.countP (issuesFor hasher token)) ?_ ?_
  · omega
  · rintro hist d l d' hI ⟨hs, hh⟩
    exact tokenCount_step hI hs hh
  · have hempty : openKeys hasher token db₀ = ∅ := by
      refine Finset.eq_empty_of_forall_notMem fun i hi => ?_
      obtain ⟨row, hash, issued, hrow, hopens, -⟩ := mem_openKeys.mp hi
      exact hstart.not_opens hrow hopens
    simp [hempty]

/-- What an enrollment that creates a session has used: a token issued for its instance at most
thirty minutes ago, the instance never retired since. -/
structure TokenUse (pre : List (RunStep Database Transaction)) (env : ManagementEnv) (token : String)
    (i hash : String) (issued : Int) : Prop where
  recognised : recognises env.hasher token hash
  issuedIn : IssuedIn pre i hash issued
  inTime : env.now ≤ issued + 30 * 60 * 1000000000

/-- Who may collect, in every interleaving of the administrative steps, commands and syncs from a
center without sessions. A settled instance gets sessions of its bound fingerprint only until a
rebind or a reset. -/
theorem collection_authority_exclusive {db₀ : Database} {t : List (RunStep Database Transaction)}
    (hrun : Run managedStep db₀ t db) (hstart : db₀.Unenrolled) :
    (∀ hasher, SameHasher hasher t → ∀ token,
      t.countP (createsWith token) ≤ t.countP (issuesFor hasher token)) ∧
    (∀ pre e post, t = pre ++ e :: post → ∀ env input sessionID secret k,
      e.label = .manage env (.applyEnrollment input sessionID secret) (.ok (some k)) →
      ∃ s hash issued, CreatedIn e k s ∧
        TokenUse pre env input.token s.monitoringInstanceID hash issued) ∧
    (∀ e ∈ t,
      (∀ k k' s s', e.after.assets.sessions.lookup k = some s →
        e.after.assets.sessions.lookup k' = some s' → s.capability = .full →
        s'.capability = .full → s.monitoringInstanceID = s'.monitoringInstanceID → k = k') ∧
      ∀ k s, e.after.assets.sessions.lookup k = some s → s.capability = .full →
        ∃ row, e.after.assets.instances.lookup s.monitoringInstanceID = some row ∧
          row.bindingFingerprint = s.fingerprintHash) ∧
    (∀ pre e post, t = pre ++ e :: post → ∀ k, Demoted e.before k → ∀ e' ∈ e :: post,
      ∀ env batch answer, e'.label = .sync env batch answer → batch.sessionID = k →
        e'.after.facts = e'.before.facts) ∧
    (∀ e ∈ t, match e.label with
      | .sync env batch _ => e.after.facts ≠ e.before.facts →
          ∃ session row, RecordedBy env batch session row e.before e.after
      | .manage _ _ _ => ∃ added, e.after.facts = e.before.facts ++ added ∧
          ∀ f ∈ added, CommandAudit f) ∧
    (∀ pre e post, t = pre ++ e :: post → ∀ i row,
      e.before.assets.instances.lookup i = some row → row.bindingStatus ≠ .unbound →
      ∀ seg e' rest, e :: post = seg ++ e' :: rest → (∀ x ∈ seg, x.label.rebinds i = false) →
        ∀ k s, CreatedIn e' k s → s.monitoringInstanceID = i →
          s.fingerprintHash = row.bindingFingerprint) := by
  -- every step with the invariant before it
  have hsplit : ∀ {pre e post}, t = pre ++ e :: post →
      (AuthorityInvariant e.before ∧ TokensIssued pre e.before) ∧
        managedStep e.before e.label e.after ∧ Run managedStep e.before (e :: post) db := by
    rintro pre e post rfl
    obtain ⟨hpre, hstep, hpost⟩ := hrun.split
    exact ⟨run_authority hpre hstart, hstep, .cons hstep hpost⟩
  have hmem : ∀ e ∈ t, AuthorityInvariant e.before ∧ managedStep e.before e.label e.after := by
    intro e he
    obtain ⟨pre, post, ht⟩ := append_of_mem he
    exact ⟨(hsplit ht).1.1, (hsplit ht).2.1⟩
  refine ⟨fun hasher hhasher token => run_tokenCount hrun hstart hhasher token, ?_, ?_, ?_, ?_, ?_⟩
  · intro pre e post ht env input sessionID secret k hlabel
    obtain ⟨⟨-, htokens⟩, hstep, -⟩ := hsplit ht
    rw [hlabel] at hstep
    generalize hbefore : e.before = d at hstep htokens
    generalize hafter : e.after = d' at hstep
    cases manage_ok (run_eq_ok hstep) with
    | @enrolled _ _ _ i row hrow hbound hnew =>
      obtain ⟨hash, issued, hopens, -, hrec, hage⟩ := enrollmentRow_opens hrow
      refine ⟨newSession env i (env.hasher.hashSyncToken (sessionID ++ "." ++ secret))
        input.fingerprint, hash, issued, ⟨hbefore ▸ hnew, ?_⟩, hrec,
        htokens i row hash issued (enrollmentRow_lookup hrow) hopens, ?_⟩
      · rw [hafter]
        exact lookup_insert _
      · rw [enrollmentTokenTTL] at hage
        omega
  · intro e he
    obtain ⟨hinv, hstep⟩ := hmem e he
    have hafter := hinv.step (managedStep_authority hstep)
    exact ⟨fun _ _ _ _ => hafter.unique, fun _ _ => hafter.bound⟩
  · intro pre e post ht k hdemoted e' he' env batch answer hlabel hk
    obtain ⟨⟨hinv, -⟩, -, hrest⟩ := hsplit ht
    obtain ⟨⟨hinv', s, hs, hcap⟩, hstep'⟩ := hrest.forall_entry
      (I := fun d => AuthorityInvariant d ∧ Demoted d k)
      (fun _ _ _ h hs => ⟨h.1.step (managedStep_authority hs),
        (managedStep_authority hs).demoted h.2⟩) ⟨hinv, hdemoted⟩ e' he'
    rw [hlabel] at hstep'
    refine (syncStep_recordedBy hinv' hstep').resolve_right ?_
    rintro ⟨session, row, hrecorded⟩
    cases (hk ▸ hs).symm.trans hrecorded.ofSession
    cases hcap.symm.trans hrecorded.full
  · intro e he
    obtain ⟨hinv, hstep⟩ := hmem e he
    split
    · next env batch answer hlabel =>
      rw [hlabel] at hstep
      exact fun hne => (syncStep_recordedBy hinv hstep).resolve_left hne
    · next env operation answer hlabel =>
      rw [hlabel] at hstep
      exact manageStep_facts hstep
  · intro pre e post ht i row hrow hbound seg e' rest hseg hrebinds k s hs hi
    exact run_created_fingerprint (hsplit ht).2.2 hrow (.inl hbound) hseg hrebinds hs hi

def unenrolledCenter : Database :=
  ⟨{ sampleAssets with
      sessions := ∅
      instances := AList.singleton "instance" { sampleInstance with
        bindingStatus := .unbound, bindingFingerprint := "", lifecycleStatus := .pendingEnrollment } },
    ∅, ∅, []⟩

def issueStep : RunStep Database Transaction :=
  manageStep sampleManagement (.issueEnrollmentToken "instance" "t") unenrolledCenter

def enrollStep : RunStep Database Transaction :=
  manageStep sampleManagement (.applyEnrollment ⟨"t", "fp"⟩ "session" "secret") issueStep.after

def enrollAgainStep : RunStep Database Transaction :=
  manageStep sampleManagement (.applyEnrollment ⟨"t", "fp"⟩ "other" "secret") enrollStep.after

def firstSyncStep : RunStep Database Transaction :=
  syncStep sampleEnv { firstBatch with syncToken := "sync:session.secret" } enrollAgainStep.after

/-- A token enrolls once although it is presented twice, and the session it created records its
batch under the bound fingerprint. -/
theorem collection_authority_exclusive_enrolled :
    [issueStep, enrollStep, enrollAgainStep, firstSyncStep].countP (createsWith "t") = 1 ∧
      [issueStep, enrollStep, enrollAgainStep, firstSyncStep].countP (createsWith "t") ≤
        [issueStep, enrollStep, enrollAgainStep, firstSyncStep].countP
          (issuesFor sampleManagement.hasher "t") ∧
      ∃ session row, RecordedBy sampleEnv { firstBatch with syncToken := "sync:session.secret" }
        session row firstSyncStep.before firstSyncStep.after := by
  have hstart : unenrolledCenter.Unenrolled := by
    refine ⟨rfl, fun i row hrow => ?_⟩
    obtain ⟨-, rfl⟩ : i = "instance" ∧ row = _ := by
      simpa [unenrolledCenter] using Table.lookup_eq_some_iff.mp hrow
    rfl
  have hrun : Run managedStep unenrolledCenter
      [issueStep, enrollStep, enrollAgainStep, firstSyncStep] firstSyncStep.after :=
    .cons rfl (.cons rfl (.cons rfl (.cons rfl (.nil _))))
  obtain ⟨hcount, -, -, -, hfacts, -⟩ := collection_authority_exclusive hrun hstart
  refine ⟨by decide, hcount _ ?_ "t", hfacts firstSyncStep (by simp) (by decide)⟩
  intro e he env operation answer hlabel
  simp only [mem_cons, not_mem_nil, or_false] at he
  rcases he with rfl | rfl | rfl | rfl
  · rw [← (manage.inj hlabel).1]
  · rw [← (manage.inj hlabel).1]
  · rw [← (manage.inj hlabel).1]
  · cases hlabel

end Houfeng.Center
