import Houfeng.Auth.Proofs.SessionsProofs
import Houfeng.Foundation.Runs

/-!
# Credential changes revoke sessions

Sessions appear only by the commit of a login, which has locked the account's row, so after a change
of the credentials only later logins bring sessions in. A session passes in a run at the statement
that reads it (`ValidateSession`) or at the commit (`Touch`).
-/

namespace Houfeng.Auth

open List

abbrev History := List (RunStep System (Nat × Action))

def Commits (e : RunStep System (Nat × Action)) (outcome : Outcome) : Prop :=
  ∃ p, e.label = (p, .perform (.commit outcome) ())

/-- The step lets the session pass: `Touch` commits, or `ValidateSession` reads rows it accepts at
some time. -/
def PassesIn (e : RunStep System (Nat × Action)) (k : String) : Prop :=
  Commits e (.touched k) ∨
    (∃ p a, e.label = (p, .perform (.readSession k) a)) ∧ ∃ now, e.before.shared.Validates now k

/-- The request the thread is at has verified the password against the hash. -/
def VerifiedIn (t : History) (p : Nat) (hash : String) : Prop :=
  ∃ pre e post, t = pre ++ e :: post ∧ e.label = (p, .perform (.verifyPassword hash) true) ∧
    ∀ x ∈ post, ∀ request, x.label ≠ (p, .start request)

def storedHashes (t : History) : List String := t.filterMap fun e => e.label.2.storedHash

/-- The session is of a login that verified the password `hash` or one stored later. -/
def LoggedIn (t : History) (hash k : String) : Prop :=
  ∃ pre e post p verified now, t = pre ++ e :: post ∧
    e.label = (p, .perform (.commit (.created k verified now)) ()) ∧
    verified ∈ hash :: storedHashes pre ∧ VerifiedIn pre p verified

/-- Nothing is going on; the stored hash and the stored sessions were drawn before. -/
def System.Initial (s : System) : Prop :=
  (∀ p, s.threads p = .idle) ∧ s.shared.user.passwordHash ∈ s.shared.hashes ∧
    ∀ k row, s.shared.sessions.lookup k = some row → k ∈ s.shared.sessionIDs

/-! ## Sessions that pass -/

section

variable {ttl now : Int} {sh : Shared} {k : String} {row : SessionRow}

theorem validates_iff : sh.Validates now k ↔ ∃ row, sh.sessions.lookup k = some row ∧
    sh.user.disabledAt = none ∧ stale row sh.user.passwordChangedAt (micro now) = false := by
  cases hrow : sh.sessions.lookup k with
  | none => simp [Shared.Validates, validateSession, call, Shared.answer, hrow]
  | some row =>
    cases henabled : sh.user.disabledAt with
    | some at_ => simp [Shared.Validates, validateSession, call, Shared.answer, hrow, henabled]
    | none =>
      cases hstale : stale row sh.user.passwordChangedAt (micro now) <;>
        simp [Shared.Validates, validateSession, call, Shared.answer, hrow, henabled, hstale]

theorem touches_of (hrow : sh.sessions.lookup k = some row) (henabled : sh.user.disabledAt = none)
    (hstale : stale row sh.user.passwordChangedAt (micro now) = false) :
    sh.Touches ttl now k := by
  simp [Shared.Touches, touchWithUserLock, call, Shared.answer, hrow, henabled, hstale]

theorem passes_of_issued (hrow : sh.sessions.lookup k = some row)
    (henabled : sh.user.disabledAt = none) (hissued : sh.user.passwordChangedAt ≤ row.issuedAt)
    (hexpires : micro now < row.expiresAt) : sh.Validates now k ∧ sh.Touches ttl now k := by
  have hstale : stale row sh.user.passwordChangedAt (micro now) = false := by
    simp only [stale, Bool.or_eq_false_iff, Bool.and_eq_false_iff, decide_eq_false_iff_not]
    omega
  exact ⟨validates_iff.mpr ⟨row, hrow, henabled, hstale⟩, touches_of hrow henabled hstale⟩

theorem expires_of_not_stale {changedAt : Int} (h : stale row changedAt (micro now) = false) :
    micro now < row.expiresAt := by
  simp only [stale, Bool.or_eq_false_iff, decide_eq_false_iff_not] at h
  omega

end

theorem micro_mono {a b : Int} (h : a ≤ b) : micro a ≤ micro b := by
  simp only [micro]
  omega

theorem micro_micro (a : Int) : micro (micro a) = micro a := by
  simp only [micro]
  omega

variable {ttl : Int}

theorem issue_expiresAt (user : UserRow) (now : Int) (httl : 1000 ≤ ttl) :
    micro (issue user now ttl).issuedAt < (issue user now ttl).expiresAt := by
  simp only [issue, micro]
  omega

/-! ## Sessions appear by logins -/

variable {o : Op} {hash : String} {row : SessionRow}

section

variable {ttl : Int} {s s' : System} {stored : List String} {view view' : Nat → View}
  {l : Nat × Action} {k : String} (h : Views ttl s stored view)
include h

theorem Views.sharedStep (hs : Step ttl s l s') :
    s'.shared = s.shared ∨ ∃ p o a, l = (p, .perform o a) ∧ SharedStep ttl s p o s'.shared := by
  cases hs with
  | start | finish => exact .inl rfl
  | @perform p o _ a _ _ hprogram hexec =>
    have hsafe := h.safe p
    rw [hprogram] at hsafe
    exact .inr ⟨p, o, a, rfl, .of_exec (h.consistent p) hsafe.1 hexec⟩

theorem Views.appears (hs : Step ttl s l s')
    (hk : s'.shared.sessions.lookup k = some row) (hnew : s.shared.sessions.lookup k = none) :
    ∃ p hash now, l = (p, .perform (.commit (.created k hash now)) ()) := by
  rcases h.sharedStep hs with hsame | ⟨p, o, a, rfl, hstep⟩
  · rw [hsame, hnew] at hk
    cases hk
  · cases hstep with
    | committed _ hc =>
      obtain ⟨hash, now, rfl⟩ := hc.appears hk hnew
      exact ⟨p, hash, now, rfl⟩
    | kept _ _ hsessions => cases hnew.symm.trans (hsessions k row hk)

theorem Views.sessionIDs_subset (hs : Step ttl s l s') :
    s.shared.sessionIDs ⊆ s'.shared.sessionIDs := by
  rcases h.sharedStep hs with hsame | ⟨p, o, a, rfl, hstep⟩
  · rw [hsame]
    exact Subset.refl _
  · cases hstep with
    | committed _ hc =>
      rw [hc.drawn.1]
      exact Subset.refl _
    | kept _ _ _ _ hids => exact hids

omit h

variable {q : Nat}

theorem Follows.sessionID (hs : Step ttl s l s') (hf : Follows ttl view view' l)
    (hk : (view' q).sessionID = some k) :
    (view q).sessionID = some k ∨ k ∉ s.shared.sessionIDs := by
  cases hs with
  | @start p | @finish p =>
    rw [hf] at hk
    by_cases hq : q = p
    · simp [hq, View.none] at hk
    · exact .inl (by simpa [hq] using hk)
  | @perform p o _ a _ _ _ hexec =>
    obtain ⟨-, hstep, hothers⟩ := hf
    by_cases hq : q = p
    · subst hq
      exact (hexec.drawn hstep).1 _ hk
    · rw [hothers q hq] at hk
      exact .inl hk

theorem View.Step.verified {v v' : View} {a : Ans o} (h : v.Step o a v')
    (hv : v'.verified = some hash) : v.verified = some hash ∨
      Action.perform o a = .perform (.verifyPassword hash) true := by
  cases o with
  | verifyPassword hash' =>
    cases a with
    | false =>
      cases h
      exact .inl hv
    | true =>
      cases h
      cases hv
      exact .inr rfl
  | commit =>
    cases h
    cases hv
  | deleteSessionsExcept =>
    obtain ⟨_, rfl⟩ := h
    exact .inl hv
  | updateSession =>
    cases h
    left
    split_ifs at hv <;> exact hv
  | _ =>
    cases h
    exact .inl hv

/-- A thread has verified what it had before, or verifies it now, and forgets it with its
request. -/
theorem Follows.verified (hf : Follows ttl view view' l) (hv : (view' q).verified = some hash) :
    ((view q).verified = some hash ∧ ∀ request, l ≠ (q, .start request)) ∨
      l = (q, .perform (.verifyPassword hash) true) := by
  obtain ⟨p, action⟩ := l
  by_cases hq : q = p
  · subst hq
    cases action with
    | start | finish =>
      rw [hf, Function.update_self] at hv
      cases hv
    | perform o a =>
      obtain ⟨-, hstep, -⟩ := hf
      rcases hstep.verified hv with hold | hnew
      · exact .inl ⟨hold, nofun⟩
      · exact .inr (by rw [hnew])
  · refine .inl ⟨?_, fun request heq => hq (congrArg Prod.fst heq).symm⟩
    cases action with
    | start | finish =>
      rwa [hf, Function.update_of_ne hq] at hv
    | perform o a =>
      obtain ⟨-, -, hothers⟩ := hf
      rwa [hothers q hq] at hv

theorem Views.passwordHash (h : Views ttl s stored view) (hs : Step ttl s l s') :
    s'.shared.user.passwordHash = l.2.storedHash.getD s.shared.user.passwordHash := by
  cases hs with
  | start | finish => rfl
  | @perform p o _ a _ _ hprogram hexec =>
    have hsafe := h.safe p
    rw [hprogram] at hsafe
    cases SharedStep.of_exec (h.consistent p) hsafe.1 hexec with
    | committed _ hc => exact hc.passwordHash
    | kept hcommit huser => simp [storedHash_perform hcommit, huser]

theorem Views.storedHash_new {x : String} (h : Views ttl s stored view) (hs : Step ttl s l s')
    (hx : l.2.storedHash = some x) : x ∉ stored := by
  cases hs with
  | start | finish => cases hx
  | @perform p o _ a _ _ hprogram hexec =>
    have hsafe := h.safe p
    rw [hprogram] at hsafe
    cases o with
    | commit => exact ((h.consistent p).hash x (hsafe.1.storedHash hx)).2
    | _ => cases hx

end

/-! ## Whole runs -/

variable {sh' : Shared} {sh : Shared}

section

variable {ttl : Int} {s s' : System} {t : History} {k : String}

def Coherent (ttl : Int) (s : System) : Prop := ∃ stored view, Views ttl s stored view

variable {l : Nat × Action}

theorem Coherent.step (h : Coherent ttl s) (hs : Step ttl s l s') : Coherent ttl s' := by
  obtain ⟨stored, view, hv⟩ := h
  obtain ⟨view', hv', -⟩ := hv.step hs
  exact ⟨_, view', hv'⟩

theorem System.Initial.coherent (h : s.Initial) : Coherent ttl s := by
  obtain ⟨hidle, hhash, hsessions⟩ := h
  refine ⟨[s.shared.user.passwordHash], fun _ => .none, fun p => ?_, fun p => ?_, fun p q hp => ?_,
    (fun _ _ _ hp => nomatch hp), (fun _ _ _ hp => nomatch hp), by simp, by simpa using hhash,
    hsessions⟩
  · rw [hidle p]
    exact .none rfl
  · rw [hidle p]
    exact trivial
  · rw [hidle p] at hp
    cases hp

theorem Coherent.present (h : Coherent ttl s) (hrun : Run (Step ttl) s t s')
    (hk : s'.shared.sessions.lookup k = some row) :
    (s.shared.sessions.lookup k).isSome ∨ ∃ e ∈ t, ∃ hash now, Commits e (.created k hash now) := by
  have hinv := hrun.history (I := fun hist m => Coherent ttl m ∧ ∀ row,
      m.shared.sessions.lookup k = some row → (s.shared.sessions.lookup k).isSome ∨
        ∃ e ∈ hist, ∃ hash now, Commits e (.created k hash now)) ?_
    ⟨h, fun row hrow => .inl (Option.isSome_of_eq_some hrow)⟩
  · exact hinv.2 row hk
  · rintro hist m l m' ⟨hm, hpresent⟩ hs
    refine ⟨hm.step hs, fun row' hrow' => ?_⟩
    cases hold : m.shared.sessions.lookup k with
    | some row =>
      refine (hpresent row hold).imp_right fun ⟨e, he, hcreated⟩ => ?_
      exact ⟨e, mem_append_left _ he, hcreated⟩
    | none =>
      obtain ⟨stored, view, hv⟩ := hm
      obtain ⟨p, hash, now, rfl⟩ := hv.appears hs hrow' hold
      exact .inr ⟨_, mem_append_right _ (mem_singleton_self _), hash, now, p, rfl⟩

/-- A session whose id is drawn, and that no thread is about to insert, is gone. -/
def Gone (ttl : Int) (k : String) (s : System) : Prop :=
  ∃ stored view, Views ttl s stored view ∧ k ∈ s.shared.sessionIDs ∧
    (∀ p, (view p).sessionID ≠ some k) ∧ s.shared.sessions.lookup k = none

theorem Gone.step (h : Gone ttl k s) (hs : Step ttl s l s') : Gone ttl k s' := by
  obtain ⟨stored, view, hv, hdrawn, hfree, hgone⟩ := h
  obtain ⟨view', hv', hf⟩ := hv.step hs
  refine ⟨_, view', hv', hv.sessionIDs_subset hs hdrawn, fun p hp => ?_, ?_⟩
  · rcases hf.sessionID hs hp with hold | hnew
    · exact hfree p hold
    · exact hnew hdrawn
  · refine Option.eq_none_iff_forall_ne_some.mpr fun row hrow => ?_
    obtain ⟨p, hash, now, rfl⟩ := hv.appears hs hrow hgone
    exact hfree p hf.1.sessionID

theorem Coherent.removed (h : Coherent ttl s)
    (hs : Step ttl s l s') (hk : s.shared.sessions.lookup k = some row)
    (hk' : s'.shared.sessions.lookup k = none) : Gone ttl k s' := by
  obtain ⟨stored, view, hv⟩ := h
  obtain ⟨view', hv', hf⟩ := hv.step hs
  have hdrawn := hv.shared.sessions k row hk
  refine ⟨_, view', hv', hv.sessionIDs_subset hs hdrawn, fun p hp => ?_, hk'⟩
  rcases hf.sessionID hs hp with hold | hnew
  · cases hk.symm.trans ((hv.consistent p).sessionID k hold).2
  · exact hnew hdrawn

/-! ## Logins after a change of the password -/

variable {p : Nat} {e : RunStep System (Nat × Action)}

theorem VerifiedIn.snoc (h : VerifiedIn t p hash) (he : ∀ request, e.label ≠ (p, .start request)) :
    VerifiedIn (t ++ [e]) p hash := by
  obtain ⟨pre, e', post, rfl, hlabel, hpost⟩ := h
  refine ⟨pre, e', post ++ [e], by simp, hlabel, fun x hx => ?_⟩
  rcases mem_append.mp hx with hx | hx
  · exact hpost x hx
  · rw [mem_singleton.mp hx]
    exact he

theorem LoggedIn.snoc (h : LoggedIn t hash k) : LoggedIn (t ++ [e]) hash k := by
  obtain ⟨pre, e', post, p, verified, now, rfl, hrest⟩ := h
  exact ⟨pre, e', post ++ [e], p, verified, now, by simp, hrest⟩

/-- After `hash` was stored: `old` are the hashes before it, and `kept` the sessions that were
there. -/
structure Renewed (ttl : Int) (old : List String) (hash : String) (kept : String → Prop)
    (t : History) (s : System) (view : Nat → View) : Prop where
  views : Views ttl s (old ++ hash :: storedHashes t) view
  current : s.shared.user.passwordHash ∈ hash :: storedHashes t
  new : ∀ x ∈ hash :: storedHashes t, x ∉ old
  verified : ∀ p x, (view p).verified = some x → x ∈ old ∨ VerifiedIn t p x
  sessions : ∀ k row, s.shared.sessions.lookup k = some row → kept k ∨ LoggedIn t hash k

theorem storedHashes_snoc (e : RunStep System (Nat × Action)) :
    storedHashes (t ++ [e]) = storedHashes t ++ e.label.2.storedHash.toList := by
  simp only [storedHashes, filterMap_append, filterMap_cons, filterMap_nil]
  cases e.label.2.storedHash <;> rfl

variable {old : List String} {kept : String → Prop}

theorem Renewed.step {view : Nat → View} (h : Renewed ttl old hash kept t s view)
    (hs : Step ttl s l s') :
    ∃ view', Renewed ttl old hash kept (t ++ [⟨s, l, s'⟩]) s' view' := by
  obtain ⟨view', hv', hf⟩ := h.views.step hs
  refine ⟨view', ?_, ?_, ?_, fun p x hx => ?_, fun k row' hrow' => ?_⟩
  · rw [storedHashes_snoc]
    simpa using hv'
  · rw [storedHashes_snoc, h.views.passwordHash hs]
    cases l.2.storedHash with
    | none => simpa using h.current
    | some x => simp
  · intro x hx
    rw [storedHashes_snoc, ← cons_append, mem_append] at hx
    rcases hx with hx | hx
    · exact h.new x hx
    · have hnew := h.views.storedHash_new hs (by simpa using hx)
      exact fun hold => hnew (mem_append_left _ hold)
  · rcases hf.verified hx with ⟨hold, hstart⟩ | hnow
    · rcases h.verified p x hold with hx | hx
      · exact .inl hx
      · exact .inr (hx.snoc hstart)
    · exact .inr ⟨t, ⟨s, l, s'⟩, [], rfl, hnow, by simp⟩
  · cases hold : s.shared.sessions.lookup k with
    | some row => exact (h.sessions k row hold).imp_right LoggedIn.snoc
    | none =>
      obtain ⟨p, x, now, rfl⟩ := h.views.appears hs hrow' hold
      -- the login holds the account's row, whose hash is the one it verified
      obtain ⟨user, huser, hhash, -, hverified, -⟩ := hf.1
      obtain rfl := (h.views.consistent p).user user huser
      have hcurrent := h.current
      rw [hhash] at hcurrent
      have hin := (h.verified p x hverified).resolve_left (h.new x hcurrent)
      exact .inr ⟨t, _, [], p, x, now, rfl, rfl, hcurrent, hin⟩

theorem Renewed.run {view : Nat → View} (hrun : Run (Step ttl) s t s')
    (h : Renewed ttl old hash kept [] s view) :
    ∃ view', Renewed ttl old hash kept t s' view' :=
  hrun.history (I := fun t m => ∃ view, Renewed ttl old hash kept t m view)
    (fun _ _ _ _ ⟨_, hm⟩ hs => hm.step hs) ⟨view, h⟩

variable {outcome : Outcome}

theorem Coherent.renewed (h : Coherent ttl s)
    (hs : Step ttl s (p, .perform (.commit outcome) ()) s')
    (hhash : (Action.perform (.commit outcome) ()).storedHash = some hash) :
    ∃ old view, Renewed ttl old hash (fun k => (s'.shared.sessions.lookup k).isSome) [] s' view := by
  obtain ⟨stored, view, hv⟩ := h
  obtain ⟨view', hv', hf⟩ := hv.step hs
  refine ⟨stored, view', ?_, ?_, fun x hx => ?_, fun q x hx => ?_, fun k row hk => ?_⟩
  · simpa [storedHashes, hhash] using hv'
  · simp [hv.passwordHash hs, hhash]
  · obtain rfl : x = hash := by simpa [storedHashes] using hx
    exact hv.storedHash_new hs hhash
  · rcases hf.verified hx with ⟨hold, -⟩ | hnow
    · exact .inl ((hv.consistent q).verified x hold)
    · cases hnow
  · exact .inl (Option.isSome_of_eq_some hk)

/-! ## The main result -/

theorem Committed.of_touched (h : Committed ttl sh (.touched k) sh') :
    ∃ row, sh.sessions.lookup k = some row := by
  cases h with
  | touched hrow => exact ⟨_, hrow⟩

theorem Committed.of_created {now : Int} (h : Committed ttl sh (.created k hash now) sh') :
    sh'.sessions.lookup k = some (issue sh.user now ttl) ∧ sh'.user = sh.user ∧
      sh.user.disabledAt = none := by
  cases h with
  | created _ henabled _ => exact ⟨AList.lookup_insert _, rfl, henabled⟩

theorem Committed.of_changed {now : Int} (h : Committed ttl sh (.changed k hash now) sh') :
    (∀ k', k' ≠ k → sh'.sessions.lookup k' = none) ∧ sh'.user.disabledAt = none ∧
      ∃ row, sh'.sessions.lookup k = some row ∧ micro now < row.expiresAt ∧
        sh'.user.passwordChangedAt ≤ row.issuedAt := by
  cases h with
  | changed henabled _ hstale hk hothers =>
    have hexpires := expires_of_not_stale hstale
    exact ⟨hothers, henabled, _, hk, hexpires, le_rfl⟩

theorem Committed.of_reset (h : Committed ttl sh (.reset hash) sh') (k : String) :
    sh'.sessions.lookup k = none := by
  cases h with
  | reset hnone => exact hnone k

theorem Committed.of_disabled (h : Committed ttl sh .disabled sh') (k : String) :
    sh'.sessions.lookup k = none := by
  cases h with
  | disabled hnone => exact hnone k

theorem Coherent.committed (h : Coherent ttl s)
    (hs : Step ttl s (p, .perform (.commit outcome) ()) s') :
    Committed ttl s.shared outcome s'.shared := by
  obtain ⟨stored, view, hv⟩ := h
  cases hs with
  | perform hprogram hexec =>
    have hsafe := hv.safe p
    rw [hprogram] at hsafe
    cases SharedStep.of_exec (hv.consistent p) hsafe.1 hexec with
    | committed _ hc => exact hc
    | kept hcommit => exact absurd rfl (hcommit _)

variable (h : Coherent ttl e.before ∧ Step ttl e.before e.label e.after)
include h

theorem Coherent.commits (hc : Commits e outcome) :
    Committed ttl e.before.shared outcome e.after.shared := by
  obtain ⟨p, hlabel⟩ := hc
  exact h.1.committed (hlabel ▸ h.2)

theorem Coherent.passes (hpass : PassesIn e k) :
    ∃ row, e.before.shared.sessions.lookup k = some row := by
  rcases hpass with htouched | ⟨-, now, hvalid⟩
  · exact (commits h htouched).of_touched
  · obtain ⟨row, hrow, -⟩ := validates_iff.mp hvalid
    exact ⟨row, hrow⟩

/-- After a change or a reset of the password, a session that passes is one the commit left, or one
of a login that verified the new password. -/
theorem Coherent.passes_after_hash {e' : RunStep System (Nat × Action)} {mid : History}
    (h' : Coherent ttl e'.before ∧ Step ttl e'.before e'.label e'.after)
    (hmid : Run (Step ttl) e.after mid e'.before) (hc : Commits e outcome)
    (hhash : (Action.perform (.commit outcome) ()).storedHash = some hash) (hpass : PassesIn e' k) :
    (e.after.shared.sessions.lookup k).isSome ∨ LoggedIn mid hash k := by
  obtain ⟨p, hlabel⟩ := hc
  obtain ⟨old, view, hrenewed⟩ := h.1.renewed (hlabel ▸ h.2) hhash
  obtain ⟨view', hrenewed'⟩ := hrenewed.run hmid
  obtain ⟨row, hrow⟩ := passes h' hpass
  exact hrenewed'.sessions k row hrow

end

/-- Changes of the credentials revoke sessions for good, in every interleaving and whatever the
clocks show. The session that changed its password passes until it expires; so does that of a login,
from its issue on, if sessions live for a microsecond or more. -/
theorem credential_changes_revoke_sessions {ttl : Int} {s₀ s : System} {t : History}
    (hinit : s₀.Initial) (hrun : Run (Step ttl) s₀ t s) :
    (∀ pre e mid e' rest k, t = pre ++ e :: (mid ++ e' :: rest) → PassesIn e' k →
      (∀ k₀ hash now, Commits e (.changed k₀ hash now) → k = k₀ ∨ LoggedIn mid hash k) ∧
      (∀ hash, Commits e (.reset hash) → LoggedIn mid hash k) ∧
      (Commits e .disabled → ∃ x ∈ mid, ∃ hash now, Commits x (.created k hash now))) ∧
    (∀ pre e post k, t = pre ++ e :: post → (e.before.shared.sessions.lookup k).isSome →
      e.after.shared.sessions.lookup k = none →
      ∀ e' ∈ post, e'.after.shared.sessions.lookup k = none) ∧
    (∀ e ∈ t, ∀ k hash now, Commits e (.changed k hash now) →
      ∃ row, e.after.shared.sessions.lookup k = some row ∧ micro now < row.expiresAt ∧
        ∀ now', micro now' < row.expiresAt →
          e.after.shared.Validates now' k ∧ e.after.shared.Touches ttl now' k) ∧
    (1000 ≤ ttl → ∀ e ∈ t, ∀ k hash now, Commits e (.created k hash now) →
      ∃ row, e.after.shared.sessions.lookup k = some row ∧
        row = issue e.before.shared.user now ttl ∧
        micro now < row.expiresAt ∧ micro row.issuedAt < row.expiresAt ∧
        ∀ now', micro now' < row.expiresAt →
          e.after.shared.Validates now' k ∧ e.after.shared.Touches ttl now' k) := by
  have hentry := hrun.forall_entry (fun _ _ _ hm hs => Coherent.step hm hs) hinit.coherent
  refine ⟨?_, ?_, ?_, ?_⟩
  · rintro pre e mid e' rest k rfl hpass
    obtain ⟨-, hs, hpost⟩ := hrun.split
    obtain ⟨hmid, -, -⟩ := hpost.split
    have h := hentry e (by simp)
    have h' := hentry e' (by simp)
    refine ⟨fun k₀ hash now hc => ?_, fun hash hc => ?_, fun hc => ?_⟩
    · refine (Coherent.passes_after_hash h h' hmid hc rfl hpass).imp_left fun hkept => ?_
      by_contra hne
      simp [(Coherent.commits h hc).of_changed.1 k hne] at hkept
    · refine (Coherent.passes_after_hash h h' hmid hc rfl hpass).resolve_left fun hkept => ?_
      simp [(Coherent.commits h hc).of_reset k] at hkept
    · obtain ⟨row, hrow⟩ := Coherent.passes h' hpass
      refine ((h.1.step h.2).present hmid hrow).resolve_left fun hkept => ?_
      simp [(Coherent.commits h hc).of_disabled k] at hkept
  · rintro pre e post k rfl hk hk' e' he'
    obtain ⟨-, hs, hpost⟩ := hrun.split
    obtain ⟨row, hrow⟩ := Option.isSome_iff_exists.mp hk
    have hgone := (hentry e (by simp)).1.removed hs hrow hk'
    obtain ⟨hgone', hs'⟩ := hpost.forall_entry (fun _ _ _ hm hs => Gone.step hm hs) hgone e' he'
    obtain ⟨_, _, -, -, -, hnone⟩ := hgone'.step hs'
    exact hnone
  · intro e he k hash now hc
    obtain ⟨-, henabled, row, hrow, hexpires, hissued⟩ :=
      (Coherent.commits (hentry e he) hc).of_changed
    exact ⟨row, hrow, hexpires, fun now' => passes_of_issued hrow henabled hissued⟩
  · intro httl e he k hash now hc
    obtain ⟨hrow, huser, henabled⟩ := (Coherent.commits (hentry e he) hc).of_created
    have hexpires := issue_expiresAt e.before.shared.user now httl
    have hnow : micro now ≤ micro (issue e.before.shared.user now ttl).issuedAt := by
      rw [← micro_micro now]
      exact micro_mono (le_max_left _ _)
    refine ⟨_, hrow, rfl, hnow.trans_lt hexpires, hexpires, fun now' => ?_⟩
    refine passes_of_issued hrow (huser ▸ henabled) ?_
    rw [huser]
    exact le_max_right _ _

/-! ## A login -/

def alone (sh : Shared) (thread : Thread) : System := ⟨sh, Function.update (fun _ => .idle) 0 thread⟩

theorem alone_userFree {thread : Thread} : (alone sh thread).UserFree 0 := by
  intro q hq
  simp [alone, hq, Thread.idle, Local.none]

theorem alone_sessionFree {thread : Thread} : (alone sh thread).SessionFree 0 k := by
  intro q hq
  simp [alone, hq, Thread.idle, Local.none]

theorem alone_finish {thread : Thread} :
    Step ttl (alone sh thread) (0, .finish) (alone sh .idle) := by
  have hstep : Step ttl (alone sh thread) (0, .finish) _ := .finish
  simpa [alone] using hstep

theorem alone_start (request : Request) :
    Step ttl (alone sh .idle) (0, .start request) (alone sh ⟨request.program ttl, .none⟩) := by
  have hstep : Step ttl (alone sh .idle) (0, .start request) _ := .start request rfl
  simpa [alone] using hstep

theorem alone_perform {tx tx' : Local} {a : Ans o}
    {k : Ans o → Prog Op Ans Unit} (h : Exec (alone sh ⟨.call o k, tx⟩) 0 o a sh' tx') :
    Step ttl (alone sh ⟨.call o k, tx⟩) (0, .perform o a) (alone sh' ⟨k a, tx'⟩) := by
  have hstep : Step ttl (alone sh ⟨.call o k, tx⟩) (0, .perform o a) _ := .perform rfl h
  simpa [alone] using hstep

def sampleShared : Shared := ⟨⟨"h", 0, false, none⟩, ∅, [], ["h"]⟩

theorem sample_initial : (alone sampleShared .idle).Initial := by
  refine ⟨fun p => ?_, mem_singleton_self _, nofun⟩
  simp [alone]

/-- The account after a login. -/
def loggedIn (ttl : Int) : Shared :=
  ⟨sampleShared.user, (∅ : Table String SessionRow).insert "s" (issue sampleShared.user 0 ttl), ["s"],
    ["h"]⟩

theorem sample_login (ttl : Int) :
    ∃ pre e thread, Run (Step ttl) (alone sampleShared .idle) (pre ++ [e])
        (alone (loggedIn ttl) thread) ∧
      Commits e (.created "s" "h" 0) ∧ e.after.shared = loggedIn ttl :=
  have h1 : Step ttl (alone sampleShared .idle) _ _ := alone_start .login
  have h2 := alone_perform (o := .findUser) ⟨rfl, rfl, rfl⟩
  have h3 := alone_perform (o := .verifyPassword "h") (a := true) ⟨rfl, rfl⟩
  have h4 := alone_perform (o := .newSessionID) (a := "s") ⟨not_mem_nil, rfl, rfl⟩
  have h5 := alone_perform (o := .lockUser) ⟨alone_userFree, rfl, rfl, rfl⟩
  have h6 := alone_perform (o := .clock) (a := 0) ⟨rfl, rfl⟩
  have h7 := alone_perform (o := .insertSession "s" (issue sampleShared.user 0 ttl)) (a := ())
    ⟨rfl, rfl, rfl⟩
  have h8 := alone_perform (o := .commit (.created "s" "h" 0)) (a := ()) ⟨rfl, rfl⟩
  ⟨_, _, _, (Run.cons h1 (.cons h2 (.cons h3 (.cons h4 (.cons h5 (.cons h6 (.cons h7
    (.nil _)))))))).snoc h8, ⟨0, rfl⟩, rfl⟩

theorem sample_disable (ttl : Int) (thread : Thread) :
    ∃ pre e s, Run (Step ttl) (alone (loggedIn ttl) thread) (pre ++ [e]) s ∧ Commits e .disabled :=
  have h1 : Step ttl (alone (loggedIn ttl) thread) _ _ := alone_finish
  have h2 : Step ttl (alone (loggedIn ttl) .idle) _ _ := alone_start (.setUserEnabled false)
  have h3 := alone_perform (o := .clock) (a := 0) ⟨rfl, rfl⟩
  have h4 := alone_perform (o := .lockAccessAdminSupervisor) (a := true) ⟨rfl, rfl⟩
  have h5 := alone_perform (o := .lockUser) ⟨alone_userFree, rfl, rfl, rfl⟩
  have h6 := alone_perform (o := .updateUser { sampleShared.user with disabledAt := some 0 })
    (a := true) ⟨rfl, alone_userFree, rfl, rfl⟩
  have h7 := alone_perform (o := .deleteSessionsExcept none) (a := ())
    ⟨fun _ _ => alone_sessionFree, rfl, rfl⟩
  have h8 := alone_perform (o := .commit .disabled) (a := ()) ⟨rfl, rfl⟩
  ⟨_, _, _, (Run.cons h1 (.cons h2 (.cons h3 (.cons h4 (.cons h5 (.cons h6 (.cons h7
    (.nil _)))))))).snoc h8, ⟨0, rfl⟩⟩

/-- With sessions of a millisecond the session of a login passes when it is issued. Once the account
is disabled, however the run goes on, it does not pass unless it is created again. -/
theorem credential_changes_revoke_sessions_disabled :
    ∃ t e s, Run (Step 1000000) (alone sampleShared .idle) (t ++ [e]) s ∧ Commits e .disabled ∧
      (∃ x ∈ t, Commits x (.created "s" "h" 0) ∧ x.after.shared.Validates 0 "s") ∧
      ∀ mid e' rest s', Run (Step 1000000) s (mid ++ e' :: rest) s' → PassesIn e' "s" →
        ∃ x ∈ mid, ∃ hash now, Commits x (.created "s" hash now) := by
  obtain ⟨pre, x, thread, hlogin, hcreated, -⟩ := sample_login 1000000
  obtain ⟨mid, e, s, hdisable, hdisabled⟩ := sample_disable 1000000 thread
  have hrun := hlogin.append hdisable
  rw [← append_assoc] at hrun
  refine ⟨_, e, s, hrun, hdisabled, ⟨x, by simp, hcreated, ?_⟩, fun mid' e' rest s' hlater hpass => ?_⟩
  · obtain ⟨-, -, -, hissued⟩ := credential_changes_revoke_sessions sample_initial hrun
    obtain ⟨row, -, -, hnow, -, hpasses⟩ := hissued (by decide) x (by simp) "s" "h" 0 hcreated
    exact (hpasses 0 hnow).1
  · have hall := credential_changes_revoke_sessions sample_initial (hrun.append hlater)
    exact (hall.1 (pre ++ [x] ++ mid) e mid' e' rest "s" (by simp) hpass).2.2 hdisabled

/-- With sessions of half a microsecond it does not: the expiry is cut down to the issue. -/
theorem short_session_expired_when_issued :
    ∃ pre e s, Run (Step 500) (alone sampleShared .idle) (pre ++ [e]) s ∧
      Commits e (.created "s" "h" 0) ∧
      e.after.shared.sessions.lookup "s" = some ⟨0, 0, 0⟩ ∧
      ¬ e.after.shared.Validates 0 "s" := by
  obtain ⟨pre, e, thread, hrun, hcreated, hshared⟩ := sample_login 500
  refine ⟨pre, e, _, hrun, hcreated, ?_⟩
  have hrow : (loggedIn 500).sessions.lookup "s" = some ⟨0, 0, 0⟩ := AList.lookup_insert _
  rw [hshared]
  refine ⟨hrow, fun hvalid => ?_⟩
  obtain ⟨row, hrow', -, hstale⟩ := validates_iff.mp hvalid
  cases hrow.symm.trans hrow'
  exact absurd hstale (by decide)

end Houfeng.Auth
