import Houfeng.Auth.Sessions

/-!
# What a thread may rely on

A thread knows the rows it has locked as it read them. `View` is this knowledge, `View.Step` how a
call changes it, and `View.Ok` what must be known when a call is made. Every program of the service
keeps to it (`program_safe`); `Consistent` ties the knowledge to the account.
-/

open List Option AList

namespace Houfeng.Auth

/-! ## The knowledge of a thread -/

/-- The account's row and the session's row while they are locked, the hash found and the hash the
password was verified against, what was drawn, the rows a delete has found, and the uncommitted
writes. -/
structure View where
  user : Option UserRow
  row : Option (String × SessionRow)
  found : Option String
  verified : Option String
  sessionID : Option String
  hash : Option String
  swept : Option (Option String × List String)
  writes : List Write

def View.none : View := ⟨.none, .none, .none, .none, .none, .none, .none, []⟩

variable {v : View} {ttl : Int}

namespace View

/-- What a thread knows after an answer. -/
def Step (v : View) (o : Op) (a : Ans o) (v' : View) : Prop :=
  match o, a with
  | .findUser, user => v' = { v with found := some user.passwordHash }
  | .verifyPassword hash, verified =>
    v' = if verified then { v with verified := some hash } else v
  | .newSessionID, sessionID => v' = { v with sessionID := some sessionID }
  | .hashPassword, hash => v' = { v with hash := hash }
  | .lockUser, user => v' = { v with user := some user }
  | .lockSession sessionID, found => v' = { v with row := found.map (sessionID, ·) }
  | .insertSession sessionID row, _ =>
    v' = { v with writes := v.writes ++ [.session sessionID row] }
  | .updateUser row, _ => v' = { v with writes := v.writes ++ [.user row] }
  | .updateSession sessionID row, updated =>
    v' = if updated then { v with writes := v.writes ++ [.session sessionID row] } else v
  | .deleteSession sessionID, _ => v' = { v with writes := v.writes ++ [.delete [sessionID]] }
  | .deleteSessionsExcept kept, _ =>
    ∃ found, v' = { v with swept := some (kept, found), writes := v.writes ++ [.delete found] }
  | .commit _, _ => v' = .none
  | .clock, _ | .lockAccessAdminSupervisor, _ | .findSessionOwner _, _ |
    .readSession _, _ | .deleteNow _, _ | .deleteExpiredBefore _, _ => v' = v

/-- What a thread must know to commit an outcome. -/
def Committable (ttl : Int) (v : View) : Outcome → Prop
  | .created sessionID hash now => ∃ user, v.user = some user ∧ user.passwordHash = hash ∧
      user.disabledAt = .none ∧ v.verified = some hash ∧ v.sessionID = some sessionID ∧
      v.writes = [.session sessionID (issue user now ttl)]
  | .changed sessionID hash now => ∃ user row found, v.user = some user ∧ user.disabledAt = .none ∧
      v.row = some (sessionID, row) ∧ stale row user.passwordChangedAt (micro now) = false ∧
      v.hash = some hash ∧ v.swept = some (some sessionID, found) ∧
      v.writes =
        [.user { user with
            passwordHash := hash, passwordChangedAt := max (micro now) user.passwordChangedAt },
          .session sessionID { row with issuedAt := max (micro now) user.passwordChangedAt },
          .delete found]
  | .touched sessionID => ∃ user row now row', v.user = some user ∧ user.disabledAt = .none ∧
      v.row = some (sessionID, row) ∧ stale row user.passwordChangedAt (micro now) = false ∧
      v.writes = [.session sessionID row']
  | .refused sessionID => ∃ user row, v.user = some user ∧ v.row = some (sessionID, row) ∧
      v.writes = [.delete [sessionID]]
  | .reset hash => ∃ user at_ found, v.user = some user ∧ v.hash = some hash ∧
      v.swept = some (.none, found) ∧
      v.writes = [.user { user with passwordHash := hash, passwordChangedAt := at_ }, .delete found]
  | .disabled => ∃ user at_ found, v.user = some user ∧ v.swept = some (.none, found) ∧
      v.writes = [.user { user with disabledAt := some at_ }, .delete found]
  | .enabled => ∃ user, v.user = some user ∧ v.writes = [.user { user with disabledAt := .none }]

theorem Committable.user_isSome {outcome : Outcome}
    (h : v.Committable ttl outcome) : v.user.isSome := by
  cases outcome with
  | created | enabled =>
    obtain ⟨user, huser, -⟩ := h
    exact isSome_of_eq_some huser
  | changed | reset | disabled =>
    obtain ⟨user, _, _, huser, -⟩ := h
    exact isSome_of_eq_some huser
  | touched =>
    obtain ⟨user, _, _, _, huser, -⟩ := h
    exact isSome_of_eq_some huser
  | refused =>
    obtain ⟨user, _, huser, -⟩ := h
    exact isSome_of_eq_some huser

/-- What a thread must know to ask. -/
def Ok (ttl : Int) (v : View) : Op → Prop
  | .verifyPassword hash => v.found = some hash
  | .lockUser => v.writes = [] ∧ v.swept = .none ∧ v.row = .none
  | .lockSession _ | .insertSession _ _ | .updateUser _ | .updateSession _ _ | .deleteSession _ |
    .deleteSessionsExcept _ => v.user.isSome
  | .commit outcome => v.Committable ttl outcome
  | .deleteNow _ | .deleteExpiredBefore _ => v.row = .none
  | _ => True

end View

/-! ## The programs keep to it -/

/-- The program asks only what its knowledge allows. -/
def ServiceSafe {α : Type} (ttl : Int) (x : Service α) (v : View) : Prop :=
  Routine.Safe View.Step (View.Ok ttl) (fun _ _ => True) (fun _ _ => True) x v

variable {o : Op}

section

variable {ttl : Int} {v : View} {α : Type}

theorem forget_safe {x : Service α} (h : ServiceSafe ttl x v) :
    (forget x).Safe View.Step (View.Ok ttl) (fun _ _ => True) v :=
  Prog.Safe.bind (Prog.Safe.imp h fun _ _ _ => trivial)

theorem safe_throw {e : AuthError} : ServiceSafe ttl (throw e : Service α) v := trivial

theorem safe_pure {a : α} : ServiceSafe ttl (pure a : Service α) v := trivial

theorem safe_bind_call {f : Ans o → Service α} (hok : v.Ok ttl o)
    (h : ∀ a v', v.Step o a v' → ServiceSafe ttl (f a) v') : ServiceSafe ttl (call o >>= f) v :=
  Routine.safe_call_bind hok h

variable {sessionID : String}

theorem createIfPasswordHash_safe {hash : String} (hv : v = { View.none with
      found := some hash, verified := some hash, sessionID := some sessionID }) :
    ServiceSafe ttl (createIfPasswordHash ttl hash sessionID) v := by
  subst hv
  refine safe_bind_call ⟨rfl, rfl, rfl⟩ fun user v1 h1 => ?_
  cases h1
  split_ifs with hrefused
  · exact safe_throw
  · refine safe_bind_call trivial fun now v2 h2 => ?_
    cases h2
    refine safe_bind_call rfl fun _ v3 h3 => ?_
    cases h3
    refine safe_bind_call ?_ fun _ v4 h4 => safe_pure
    obtain ⟨hhash, hdisabled⟩ := not_or.mp hrefused
    exact ⟨user, rfl, not_not.mp hhash, by simpa using hdisabled, rfl, rfl, rfl⟩

theorem login_safe : ServiceSafe ttl (login ttl) View.none := by
  refine safe_bind_call trivial fun user v1 h1 => ?_
  cases h1
  refine safe_bind_call rfl fun verified v2 h2 => ?_
  cases h2
  cases verified with
  | false => exact safe_throw
  | true =>
    simp only [reduceIte, Bool.true_eq_false]
    split_ifs with hdisabled
    · exact safe_throw
    · refine safe_bind_call trivial fun sessionID v3 h3 => ?_
      cases h3
      exact createIfPasswordHash_safe rfl

theorem changePasswordIfHash_safe {expectedHash newHash : String} (hv : v = { View.none with
      found := some expectedHash, verified := some expectedHash, hash := some newHash }) :
    ServiceSafe ttl (changePasswordIfHash sessionID expectedHash newHash) v := by
  subst hv
  refine safe_bind_call ⟨rfl, rfl, rfl⟩ fun user v1 h1 => ?_
  cases h1
  split_ifs with hdisabled hhash
  · exact safe_throw
  · exact safe_throw
  · refine safe_bind_call rfl fun found v2 h2 => ?_
    cases h2
    cases found with
    | none => exact safe_throw
    | some current =>
      refine safe_bind_call trivial fun now v3 h3 => ?_
      cases h3
      split_ifs with hstale
      · exact safe_throw
      · refine safe_bind_call rfl fun updated v4 h4 => ?_
        cases h4
        split_ifs
        · exact safe_throw
        · refine safe_bind_call rfl fun updated v5 h5 => ?_
          cases h5
          cases updated with
          | false => exact safe_throw
          | true =>
            simp only [reduceIte, Bool.true_eq_false]
            refine safe_bind_call rfl fun _ v6 h6 => ?_
            obtain ⟨found, rfl⟩ := h6
            refine safe_bind_call (f := pure) ?_ fun _ v7 h7 => safe_pure
            exact ⟨user, current, found, rfl, by simpa using hdisabled, rfl,
              by simpa using hstale, rfl, rfl, rfl⟩

theorem changePassword_safe : ServiceSafe ttl (changePassword sessionID) View.none := by
  refine safe_bind_call trivial fun user v1 h1 => ?_
  cases h1
  refine safe_bind_call rfl fun verified v2 h2 => ?_
  cases h2
  cases verified with
  | false => exact safe_throw
  | true =>
    simp only [reduceIte, Bool.true_eq_false]
    split_ifs with hdisabled
    · exact safe_throw
    · refine safe_bind_call trivial fun hash v3 h3 => ?_
      cases h3
      cases hash with
      | none => exact safe_throw
      | some hash => exact changePasswordIfHash_safe rfl

theorem touchWithUserLock_safe : ServiceSafe ttl (touchWithUserLock ttl sessionID) View.none := by
  refine safe_bind_call trivial fun owned v1 h1 => ?_
  cases h1
  split_ifs
  · exact safe_throw
  · refine safe_bind_call ⟨rfl, rfl, rfl⟩ fun user v2 h2 => ?_
    cases h2
    refine safe_bind_call rfl fun found v3 h3 => ?_
    cases h3
    cases found with
    | none => exact safe_throw
    | some session =>
      -- both refusals delete the session and commit
      have hrefuse : ServiceSafe ttl (do
          call (.deleteSession sessionID)
          call (.commit (.refused sessionID))
          throw .sessionExpired : Service SessionRow)
          { View.none with user := some user, row := some (sessionID, session) } := by
        refine safe_bind_call rfl fun _ v4 h4 => ?_
        cases h4
        exact safe_bind_call ⟨user, session, rfl, rfl, rfl⟩ fun _ v5 h5 => safe_throw
      dsimp only
      split_ifs with hdisabled
      · exact hrefuse
      · refine safe_bind_call trivial fun now v4 h4 => ?_
        cases h4
        split_ifs with hstale
        · exact hrefuse
        · refine safe_bind_call rfl fun updated v5 h5 => ?_
          cases h5
          cases updated with
          | false => exact safe_throw
          | true =>
            simp only [reduceIte, Bool.true_eq_false]
            refine safe_bind_call ?_ fun _ v6 h6 => safe_pure
            exact ⟨user, session, now, _, rfl, by simpa using hdisabled, rfl,
              by simpa using hstale, rfl⟩

theorem validateSession_safe : ServiceSafe ttl (validateSession sessionID) View.none := by
  refine safe_bind_call trivial fun found v1 h1 => ?_
  cases h1
  cases found with
  | none => exact safe_throw
  | some p =>
    dsimp only
    split_ifs
    · exact safe_throw
    · refine safe_bind_call trivial fun now v2 h2 => ?_
      split_ifs
      · exact safe_throw
      · exact safe_pure

theorem resetUserPassword_safe : ServiceSafe ttl resetUserPassword View.none := by
  refine safe_bind_call trivial fun hash v1 h1 => ?_
  cases h1
  cases hash with
  | none => exact safe_throw
  | some hash =>
    refine safe_bind_call trivial fun now v2 h2 => ?_
    cases h2
    refine safe_bind_call trivial fun authorized v3 h3 => ?_
    cases h3
    split_ifs
    · exact safe_throw
    · refine safe_bind_call ⟨rfl, rfl, rfl⟩ fun user v4 h4 => ?_
      cases h4
      split_ifs
      · exact safe_throw
      · refine safe_bind_call rfl fun _ v5 h5 => ?_
        cases h5
        refine safe_bind_call rfl fun _ v6 h6 => ?_
        obtain ⟨found, rfl⟩ := h6
        exact safe_bind_call (f := pure) ⟨user, micro now, found, rfl, rfl, rfl, rfl⟩
          fun _ v7 h7 => safe_pure

theorem setUserEnabled_safe {enabled : Bool} :
    ServiceSafe ttl (setUserEnabled enabled) View.none := by
  refine safe_bind_call trivial fun now v1 h1 => ?_
  cases h1
  refine safe_bind_call trivial fun authorized v2 h2 => ?_
  cases h2
  by_cases hauthorized : authorized = false
  · rw [if_pos hauthorized]
    exact safe_throw
  · rw [if_neg hauthorized]
    refine safe_bind_call ⟨rfl, rfl, rfl⟩ fun user v3 h3 => ?_
    cases h3
    by_cases hprotected : user.isSupervisor = true ∧ enabled = false
    · rw [if_pos hprotected]
      exact safe_throw
    · rw [if_neg hprotected]
      cases enabled with
      | true =>
        refine safe_bind_call rfl fun _ v4 h4 => ?_
        cases h4
        exact safe_bind_call (f := pure) ⟨user, rfl, rfl⟩ fun _ v5 h5 => safe_pure
      | false =>
        refine safe_bind_call rfl fun _ v4 h4 => ?_
        cases h4
        refine safe_bind_call rfl fun _ v5 h5 => ?_
        obtain ⟨found, rfl⟩ := h5
        exact safe_bind_call (f := pure) ⟨user, _, found, rfl, rfl, rfl⟩ fun _ v6 h6 => safe_pure

theorem program_safe (request : Request) :
    (request.program ttl).Safe View.Step (View.Ok ttl) (fun _ _ => True) View.none := by
  cases request with
  | login => exact forget_safe login_safe
  | logout sessionID =>
    refine forget_safe ?_
    rw [logout]
    split_ifs
    · exact safe_pure
    · exact safe_bind_call (f := pure) rfl fun _ _ _ => safe_pure
  | touch sessionID => exact forget_safe touchWithUserLock_safe
  | validateSession sessionID => exact forget_safe validateSession_safe
  | changePassword sessionID => exact forget_safe changePassword_safe
  | resetUserPassword => exact forget_safe resetUserPassword_safe
  | setUserEnabled enabled => exact forget_safe setUserEnabled_safe
  | sweep cutoff =>
    exact forget_safe (safe_bind_call (f := pure) rfl fun _ _ _ => safe_pure)

end

/-! ## What a commit does -/

inductive Committed (ttl : Int) (sh : Shared) : Outcome → Shared → Prop
  | created {k hash : String} {now : Int} (hhash : sh.user.passwordHash = hash)
      (henabled : sh.user.disabledAt = none) (hnew : sh.sessions.lookup k = none) :
      Committed ttl sh (.created k hash now)
        { sh with sessions := sh.sessions.insert k (issue sh.user now ttl) }
  | changed {k hash : String} {now : Int} {row : SessionRow} {sessions' : Table String SessionRow}
      (henabled : sh.user.disabledAt = none) (hrow : sh.sessions.lookup k = some row)
      (hstale : stale row sh.user.passwordChangedAt (micro now) = false)
      (hk : sessions'.lookup k =
        some { row with issuedAt := max (micro now) sh.user.passwordChangedAt })
      (hothers : ∀ k', k' ≠ k → sessions'.lookup k' = none) :
      Committed ttl sh (.changed k hash now)
        { sh with
          user := { sh.user with
            passwordHash := hash, passwordChangedAt := max (micro now) sh.user.passwordChangedAt }
          sessions := sessions' }
  | touched {k : String} {row row' : SessionRow} (hrow : sh.sessions.lookup k = some row) :
      Committed ttl sh (.touched k) { sh with sessions := sh.sessions.insert k row' }
  | refused {k : String} :
      Committed ttl sh (.refused k)
        { sh with sessions := sh.sessions.deleteWhere fun k' _ => k' ∈ [k] }
  | reset {hash : String} {at_ : Int} {sessions' : Table String SessionRow}
      (hsessions : ∀ k, sessions'.lookup k = none) :
      Committed ttl sh (.reset hash)
        { sh with
          user := { sh.user with passwordHash := hash, passwordChangedAt := at_ }
          sessions := sessions' }
  | disabled {at_ : Int} {sessions' : Table String SessionRow}
      (hsessions : ∀ k, sessions'.lookup k = none) :
      Committed ttl sh .disabled
        { sh with user := { sh.user with disabledAt := some at_ }, sessions := sessions' }
  | enabled : Committed ttl sh .enabled { sh with user := { sh.user with disabledAt := none } }

/-- What a thread knows is so: `stored` are the password hashes that were the account's so far. -/
structure Consistent (sh : Shared) (tx : Local) (stored : List String) (v : View) : Prop where
  locked : v.user.isSome → tx.userLocked = true
  user : ∀ u, v.user = some u → sh.user = u
  row : ∀ k row, v.row = some (k, row) → k ∈ tx.sessionsLocked ∧ sh.sessions.lookup k = some row
  rowLocked : v.row.isSome → v.user.isSome
  writes : tx.writes = v.writes
  sweptLocked : v.swept.isSome → v.user.isSome
  swept : ∀ kept found, v.swept = some (kept, found) → (∀ k ∈ found, some k ≠ kept) ∧
    ∀ k row, sh.sessions.lookup k = some row → some k ≠ kept → k ∈ found
  found : ∀ hash, v.found = some hash → hash ∈ stored
  verified : ∀ hash, v.verified = some hash → hash ∈ stored
  sessionID : ∀ k, v.sessionID = some k → k ∈ sh.sessionIDs ∧ sh.sessions.lookup k = none
  hash : ∀ h, v.hash = some h → h ∈ sh.hashes ∧ h ∉ stored

variable {k : String}

theorem lookup_delete_none {sessions : Table String SessionRow} {found : List String}
    (h : ∀ row, sessions.lookup k = some row → k ∈ found) :
    (sessions.deleteWhere fun k _ => k ∈ found).lookup k = none := by
  refine eq_none_iff_forall_ne_some.mpr fun row hrow => ?_
  obtain ⟨hmem, hkept⟩ := Table.lookup_deleteWhere_eq_some.mp hrow
  simp [h row hmem] at hkept

namespace Consistent

variable {ttl : Int} {sh sh' : Shared} {tx : Local} {stored stored' : List String} {v : View}

theorem committed {outcome : Outcome} (h : Consistent sh tx stored v)
    (hc : v.Committable ttl outcome) :
    Committed ttl sh outcome (tx.writes.foldl Write.apply sh) := by
  rw [h.writes]
  cases outcome with
  | created k hash now =>
    obtain ⟨user, huser, hhash, henabled, -, hid, hwrites⟩ := hc
    obtain rfl := h.user user huser
    rw [hwrites]
    exact .created hhash henabled (h.sessionID k hid).2
  | changed k hash now =>
    obtain ⟨user, row, found, huser, henabled, hrow, hstale, -, hswept, hwrites⟩ := hc
    obtain rfl := h.user user huser
    obtain ⟨hkept, hfound⟩ := h.swept _ _ hswept
    rw [hwrites]
    refine .changed henabled (h.row k row hrow).2 hstale ?_ fun k' hne => ?_
    · refine Table.lookup_deleteWhere_eq_some.mpr ⟨lookup_insert _, ?_⟩
      exact decide_eq_false fun hk => hkept k hk rfl
    · refine lookup_delete_none fun row' hrow' => hfound k' row' ?_ (by simpa using hne)
      exact (lookup_insert_ne hne).symm.trans hrow'
  | touched k =>
    obtain ⟨user, row, now, row', -, -, hrow, -, hwrites⟩ := hc
    rw [hwrites]
    exact .touched (h.row k row hrow).2
  | refused k =>
    obtain ⟨user, row, -, -, hwrites⟩ := hc
    rw [hwrites]
    exact .refused
  | reset hash =>
    obtain ⟨user, at_, found, huser, -, hswept, hwrites⟩ := hc
    obtain rfl := h.user user huser
    rw [hwrites]
    exact .reset fun k => lookup_delete_none fun row hrow => (h.swept _ _ hswept).2 k row hrow nofun
  | disabled =>
    obtain ⟨user, at_, found, huser, hswept, hwrites⟩ := hc
    obtain rfl := h.user user huser
    rw [hwrites]
    exact .disabled fun k =>
      lookup_delete_none fun row hrow => (h.swept _ _ hswept).2 k row hrow nofun
  | enabled =>
    obtain ⟨user, huser, hwrites⟩ := hc
    obtain rfl := h.user user huser
    rw [hwrites]
    exact .enabled

theorem none (htx : tx.writes = []) : Consistent sh tx stored View.none where
  locked := nofun
  user := nofun
  row := nofun
  rowLocked := nofun
  writes := htx
  sweptLocked := nofun
  swept := nofun
  found := nofun
  verified := nofun
  sessionID := nofun
  hash := nofun

theorem frame (h : Consistent sh tx stored v) (huser : v.user.isSome → sh'.user = sh.user ∧
      ∀ k row, sh'.sessions.lookup k = some row → sh.sessions.lookup k = some row)
    (hrow : ∀ k row, v.row = some (k, row) → sh'.sessions.lookup k = sh.sessions.lookup k)
    (hid : ∀ k, v.sessionID = some k → sh.sessions.lookup k = Option.none →
      sh'.sessions.lookup k = Option.none)
    (hids : sh.sessionIDs ⊆ sh'.sessionIDs) (hhashes : sh.hashes ⊆ sh'.hashes)
    (hstored : stored ⊆ stored') (hhash : ∀ x, v.hash = some x → x ∉ stored → x ∉ stored') :
    Consistent sh' tx stored' v where
  locked := h.locked
  user u hu := by rw [(huser (by simp [hu])).1, h.user u hu]
  row k row hk := by
    obtain ⟨hlocked, hlookup⟩ := h.row k row hk
    exact ⟨hlocked, (hrow k row hk).trans hlookup⟩
  rowLocked := h.rowLocked
  writes := h.writes
  sweptLocked := h.sweptLocked
  swept kept found hswept := by
    obtain ⟨hkept, hfound⟩ := h.swept kept found hswept
    have hlocked := h.sweptLocked (by simp [hswept])
    exact ⟨hkept, fun k row hk => hfound k row ((huser hlocked).2 k row hk)⟩
  found hash hfound := hstored (h.found hash hfound)
  verified hash hverified := hstored (h.verified hash hverified)
  sessionID k hk := by
    obtain ⟨hdrawn, hnew⟩ := h.sessionID k hk
    exact ⟨hids hdrawn, hid k hk hnew⟩
  hash x hx := by
    obtain ⟨hdrawn, hnew⟩ := h.hash x hx
    exact ⟨hhashes hdrawn, hhash x hx hnew⟩

end Consistent

/-! ## One step of a thread -/

def Action.storedHash : Action → Option String
  | .perform (.commit (.changed _ hash _)) _ => some hash
  | .perform (.commit (.reset hash)) _ => some hash
  | _ => none

/-- What a call does to the committed rows: it commits a transaction that has the account's row
locked, or it leaves the account alone and at most deletes sessions no other transaction has
locked. -/
inductive SharedStep (ttl : Int) (s : System) (p : Nat) : Op → Shared → Prop
  | committed {outcome : Outcome} {sh' : Shared} (hlocked : (s.threads p).tx.userLocked = true)
      (h : Committed ttl s.shared outcome sh') : SharedStep ttl s p (.commit outcome) sh'
  | kept {o : Op} {sh' : Shared} (hcommit : ∀ outcome, o ≠ .commit outcome)
      (huser : sh'.user = s.shared.user)
      (hsessions : ∀ k row, sh'.sessions.lookup k = some row →
        s.shared.sessions.lookup k = some row)
      (hlocked : ∀ k q, q ≠ p → k ∈ (s.threads q).tx.sessionsLocked →
        sh'.sessions.lookup k = s.shared.sessions.lookup k)
      (hids : s.shared.sessionIDs ⊆ sh'.sessionIDs) (hhashes : s.shared.hashes ⊆ sh'.hashes) :
      SharedStep ttl s p o sh'

variable {sh' : Shared} {stored : List String}

namespace SharedStep

variable {ttl : Int} {s : System} {p : Nat} {o : Op}

theorem refl (hcommit : ∀ outcome, o ≠ .commit outcome) : SharedStep ttl s p o s.shared :=
  .kept hcommit rfl (fun _ _ h => h) (fun _ _ _ _ => rfl) (Subset.refl _) (Subset.refl _)

theorem of_exec {a : Ans o} {tx' : Local}
    (hv : Consistent s.shared (s.threads p).tx stored v) (hok : v.Ok ttl o)
    (h : Exec s p o a sh' tx') : SharedStep ttl s p o sh' := by
  cases o with
  | commit outcome =>
    obtain ⟨rfl, -⟩ := h
    exact .committed (hv.locked hok.user_isSome) (hv.committed hok)
  | newSessionID =>
    obtain ⟨-, rfl, -⟩ := h
    exact .kept nofun rfl (fun _ _ h => h) (fun _ _ _ _ => rfl) (subset_cons_self _ _)
      (Subset.refl _)
  | hashPassword =>
    cases a with
    | none =>
      obtain ⟨rfl, -⟩ := h
      exact refl nofun
    | some hash =>
      obtain ⟨-, rfl, -⟩ := h
      exact .kept nofun rfl (fun _ _ h => h) (fun _ _ _ _ => rfl) (Subset.refl _)
        (subset_cons_self _ _)
  | deleteNow k =>
    obtain ⟨hfree, rfl, -⟩ := h
    refine .kept nofun rfl (fun k' row hrow => ?_) (fun k' q hq hk' => ?_) (Subset.refl _)
      (Subset.refl _)
    · by_cases hk : k' = k
      · subst hk
        simp at hrow
      · exact (lookup_erase_ne hk).symm.trans hrow
    · refine lookup_erase_ne ?_
      rintro rfl
      exact hfree q hq hk'
  | deleteExpiredBefore cutoff =>
    obtain ⟨found, hfree, rfl, -⟩ := h
    refine .kept nofun rfl (fun k' row hrow => (Table.lookup_deleteWhere_eq_some.mp hrow).1)
      (fun k' q hq hk' => ?_) (Subset.refl _) (Subset.refl _)
    refine Table.lookup_deleteWhere_of_forall fun row => ?_
    have hnot : k' ∉ found := fun hmem => hfree k' hmem q hq hk'
    simp [hnot]
  | verifyPassword | clock | lockAccessAdminSupervisor =>
    obtain ⟨rfl, -⟩ := h
    exact refl nofun
  | findUser | findSessionOwner | readSession | insertSession | deleteSession |
    deleteSessionsExcept =>
    obtain ⟨-, rfl, -⟩ := h
    exact refl nofun
  | lockUser | lockSession | updateUser | updateSession =>
    obtain ⟨-, -, rfl, -⟩ := h
    exact refl nofun

end SharedStep

structure Shared.Ok (sh : Shared) (stored : List String) : Prop where
  current : sh.user.passwordHash ∈ stored
  stored : stored ⊆ sh.hashes
  sessions : ∀ k row, sh.sessions.lookup k = some row → k ∈ sh.sessionIDs

variable {p : Nat}

theorem Consistent.deleted {s : System} {tx : Local}
    (hv : Consistent s.shared tx stored v) (hrow : v.row = .none)
    (h : SharedStep ttl s p o sh') (hcommit : ∀ outcome, o ≠ .commit outcome) :
    Consistent sh' tx stored v := by
  cases h with
  | committed => exact absurd rfl (hcommit _)
  | kept _ huser hsessions _ hids hhashes =>
    refine hv.frame (fun _ => ⟨huser, hsessions⟩) (by simp [hrow]) (fun k _ hnone => ?_) hids hhashes
      (Subset.refl _) fun _ _ hx => hx
    refine eq_none_iff_forall_ne_some.mpr fun row hk => ?_
    simpa [hnone] using hsessions k row hk

theorem Consistent.exec {s : System} {a : Ans o} {tx' : Local} (hsh : s.shared.Ok stored)
    (hv : Consistent s.shared (s.threads p).tx stored v) (hok : v.Ok ttl o)
    (h : Exec s p o a sh' tx') :
    ∃ v', v.Step o a v' ∧ Consistent sh' tx' stored v' := by
  cases o with
  | commit outcome =>
    obtain ⟨-, rfl⟩ := h
    exact ⟨_, rfl, .none rfl⟩
  | findUser =>
    obtain ⟨rfl, rfl, rfl⟩ := h
    refine ⟨_, rfl, { hv with found := ?_ }⟩
    rintro _ ⟨⟩
    exact hsh.current
  | verifyPassword hash =>
    obtain ⟨rfl, rfl⟩ := h
    cases a with
    | false => exact ⟨_, rfl, hv⟩
    | true =>
      refine ⟨_, rfl, { hv with verified := ?_ }⟩
      rintro _ ⟨⟩
      exact hv.found hash hok
  | newSessionID =>
    obtain ⟨hnew, rfl, rfl⟩ := h
    refine ⟨_, rfl, { hv with sessionID := ?_ }⟩
    rintro _ ⟨⟩
    refine ⟨mem_cons_self, eq_none_iff_forall_ne_some.mpr fun row hrow => ?_⟩
    exact hnew (hsh.sessions _ row hrow)
  | hashPassword =>
    cases a with
    | none =>
      obtain ⟨rfl, rfl⟩ := h
      exact ⟨_, rfl, { hv with hash := nofun }⟩
    | some hash =>
      obtain ⟨hnew, rfl, rfl⟩ := h
      refine ⟨_, rfl, { hv with hash := ?_ }⟩
      rintro _ ⟨⟩
      exact ⟨mem_cons_self, fun hmem => hnew (hsh.stored hmem)⟩
  | lockUser =>
    obtain ⟨-, rfl, rfl, rfl⟩ := h
    refine ⟨_, rfl, { hv with
      locked := fun _ => rfl
      user := ?_
      rowLocked := fun _ => rfl
      sweptLocked := fun _ => rfl }⟩
    rintro _ ⟨⟩
    rfl
  | lockSession k =>
    obtain ⟨-, rfl, rfl, rfl⟩ := h
    refine ⟨_, rfl, ?_⟩
    cases hrow : s.shared.sessions.lookup k with
    | none => exact { hv with row := nofun, rowLocked := nofun }
    | some row =>
      refine { hv with row := ?_, rowLocked := fun _ => hok }
      rintro _ _ ⟨⟩
      exact ⟨mem_cons_self, hrow⟩
  | insertSession k row =>
    obtain ⟨-, rfl, rfl⟩ := h
    exact ⟨_, rfl, { hv with writes := by rw [hv.writes] }⟩
  | updateUser row =>
    obtain ⟨rfl, -, rfl, rfl⟩ := h
    exact ⟨_, rfl, { hv with locked := fun _ => rfl, writes := by rw [hv.writes] }⟩
  | updateSession k row =>
    obtain ⟨rfl, -, rfl, rfl⟩ := h
    refine ⟨_, rfl, ?_⟩
    cases hrow : s.shared.sessions.lookup k with
    | none => exact hv
    | some row' =>
      refine { hv with row := fun k' row' hk' => ?_, writes := ?_ }
      · obtain ⟨hlocked, hlookup⟩ := hv.row k' row' hk'
        exact ⟨mem_cons_of_mem _ hlocked, hlookup⟩
      · simp [hv.writes]
  | deleteSession k =>
    obtain ⟨-, rfl, rfl⟩ := h
    refine ⟨_, rfl, { hv with row := fun k' row' hk' => ?_, writes := by rw [hv.writes] }⟩
    obtain ⟨hlocked, hlookup⟩ := hv.row k' row' hk'
    exact ⟨mem_cons_of_mem _ hlocked, hlookup⟩
  | deleteSessionsExcept kept =>
    obtain ⟨-, rfl, rfl⟩ := h
    refine ⟨_, ⟨_, rfl⟩, { hv with
      row := fun k' row' hk' => ?_
      writes := by rw [hv.writes]
      sweptLocked := fun _ => hok
      swept := ?_ }⟩
    · obtain ⟨hlocked, hlookup⟩ := hv.row k' row' hk'
      exact ⟨mem_append_right _ hlocked, hlookup⟩
    · rintro _ _ ⟨⟩
      refine ⟨fun k hk => by simpa using (mem_filter.mp hk).2, fun k row hrow hne => ?_⟩
      refine mem_filter.mpr ⟨?_, by simpa using hne⟩
      exact AList.mem_keys.mpr (lookup_isSome.mp (by simp [hrow]))
  | deleteNow k =>
    have hstep := SharedStep.of_exec hv hok h
    obtain ⟨-, -, rfl⟩ := h
    exact ⟨v, rfl, hv.deleted hok hstep nofun⟩
  | deleteExpiredBefore cutoff =>
    have hstep := SharedStep.of_exec hv hok h
    obtain ⟨_, -, -, rfl⟩ := h
    exact ⟨v, rfl, hv.deleted hok hstep nofun⟩
  | clock | lockAccessAdminSupervisor =>
    obtain ⟨rfl, rfl⟩ := h
    exact ⟨v, rfl, hv⟩
  | findSessionOwner | readSession =>
    obtain ⟨-, rfl, rfl⟩ := h
    exact ⟨v, rfl, hv⟩

/-! ## All threads side by side -/

section

variable {ttl : Int} {s : System} {p : Nat} {o : Op} {a : Ans o} {sh sh' : Shared} {tx' : Local}
  {v v' : View} {outcome : Outcome} {stored : List String}

theorem storedHash_perform (h : ∀ outcome, o ≠ .commit outcome) :
    (Action.perform o a).storedHash = none := by
  cases o with
  | commit outcome => exact absurd rfl (h outcome)
  | _ => rfl

theorem Exec.userLocked (h : Exec s p o a sh' tx') (hlocked : tx'.userLocked = true) :
    (s.threads p).tx.userLocked = true ∨ s.UserFree p := by
  cases o with
  | lockUser => exact .inr h.1
  | updateUser => exact .inr h.2.1
  | commit =>
    obtain ⟨-, rfl⟩ := h
    exact absurd hlocked Bool.false_ne_true
  | hashPassword =>
    cases a with
    | none =>
      obtain ⟨-, rfl⟩ := h
      exact .inl hlocked
    | some =>
      obtain ⟨-, -, rfl⟩ := h
      exact .inl hlocked
  | verifyPassword | clock | lockAccessAdminSupervisor =>
    obtain ⟨-, rfl⟩ := h
    exact .inl hlocked
  | deleteExpiredBefore =>
    obtain ⟨_, -, -, rfl⟩ := h
    exact .inl hlocked
  | lockSession | updateSession =>
    obtain ⟨-, -, -, rfl⟩ := h
    left
    split_ifs at hlocked <;> exact hlocked
  | _ =>
    obtain ⟨-, -, rfl⟩ := h
    exact .inl hlocked

/-- What a thread knows as drawn was drawn before, or the call draws it and it is new. -/
theorem Exec.drawn (h : Exec s p o a sh' tx') (hv : v.Step o a v') :
    (∀ k, v'.sessionID = some k → v.sessionID = some k ∨ k ∉ s.shared.sessionIDs) ∧
      ∀ x, v'.hash = some x → v.hash = some x ∨ x ∉ s.shared.hashes := by
  cases o with
  | newSessionID =>
    cases hv
    refine ⟨?_, fun _ => .inl⟩
    rintro _ ⟨⟩
    exact .inr h.1
  | hashPassword =>
    cases hv
    refine ⟨fun _ => .inl, ?_⟩
    rintro _ ⟨⟩
    exact .inr h.1
  | commit =>
    cases hv
    exact ⟨nofun, nofun⟩
  | deleteSessionsExcept =>
    obtain ⟨_, rfl⟩ := hv
    exact ⟨fun _ => .inl, fun _ => .inl⟩
  | verifyPassword | updateSession =>
    cases hv
    split_ifs <;> exact ⟨fun _ => .inl, fun _ => .inl⟩
  | _ =>
    cases hv
    exact ⟨fun _ => .inl, fun _ => .inl⟩

variable {x : String}

theorem Committed.drawn (h : Committed ttl sh outcome sh') :
    sh'.sessionIDs = sh.sessionIDs ∧ sh'.hashes = sh.hashes := by
  cases h <;> exact ⟨rfl, rfl⟩

theorem Committed.appears {row : SessionRow} (h : Committed ttl sh outcome sh')
    (hk : sh'.sessions.lookup k = some row) (hnew : sh.sessions.lookup k = none) :
    ∃ hash now, outcome = .created k hash now := by
  cases h with
  | @created k' hash now =>
    by_cases hkk : k = k'
    · exact ⟨hash, now, by rw [hkk]⟩
    · have hold := (lookup_insert_ne hkk).symm.trans hk
      simp [hnew] at hold
  | @changed k' _ _ _ _ _ hrow _ _ hothers =>
    by_cases hkk : k = k'
    · cases (hkk ▸ hnew).symm.trans hrow
    · simp [hothers k hkk] at hk
  | @touched k' _ _ hrow =>
    by_cases hkk : k = k'
    · cases (hkk ▸ hnew).symm.trans hrow
    · have hold := (lookup_insert_ne hkk).symm.trans hk
      simp [hnew] at hold
  | refused => cases hnew.symm.trans (Table.lookup_deleteWhere_eq_some.mp hk).1
  | reset hnone => simp [hnone k] at hk
  | disabled hnone => simp [hnone k] at hk
  | enabled => simp [hnew] at hk

theorem View.Committable.storedHash (h : v.Committable ttl outcome)
    (hx : (Action.perform (.commit outcome) ()).storedHash = some x) : v.hash = some x := by
  cases outcome with
  | changed =>
    obtain ⟨_, _, _, -, -, -, -, hhash, -⟩ := h
    cases hx
    exact hhash
  | reset =>
    obtain ⟨_, _, _, -, hhash, -⟩ := h
    cases hx
    exact hhash
  | _ => cases hx

theorem View.Committable.sessionID {hash : String} {now : Int}
    (h : v.Committable ttl (.created k hash now)) : v.sessionID = some k := by
  obtain ⟨_, -, -, -, -, hid, -⟩ := h
  exact hid

theorem Committed.passwordHash (h : Committed ttl sh outcome sh') :
    sh'.user.passwordHash =
      (Action.perform (.commit outcome) ()).storedHash.getD sh.user.passwordHash := by
  cases h <;> rfl

end

/-- At most one thread has a property if the only thread that changes had it before, or no other
does. -/
theorem unique_update {τ : Type} {f : Nat → τ} {x : τ} {P : τ → Prop}
    (hf : ∀ q r, P (f q) → P (f r) → q = r) (hx : P x → P (f p) ∨ ∀ q, q ≠ p → ¬ P (f q)) :
    ∀ q r, P (Function.update f p x q) → P (Function.update f p x r) → q = r := by
  have hother : ∀ q, q ≠ p → P x → ¬ P (f q) := by
    intro q hq hPx hPq
    rcases hx hPx with hPp | hnone
    · exact hq (hf q p hPq hPp)
    · exact hnone q hq hPq
  intro q r hq hr
  by_cases hqp : q = p <;> by_cases hrp : r = p
  · rw [hqp, hrp]
  · subst hqp
    exact absurd (by simpa [hrp] using hr) (hother r hrp (by simpa using hq))
  · subst hrp
    exact absurd (by simpa [hqp] using hq) (hother q hqp (by simpa using hr))
  · exact hf q r (by simpa [hqp] using hq) (by simpa [hrp] using hr)

/-- What the threads know together: `view` is the knowledge of each of them. -/
structure Views (ttl : Int) (s : System) (stored : List String) (view : Nat → View) : Prop where
  consistent : ∀ p, Consistent s.shared (s.threads p).tx stored (view p)
  safe : ∀ p, (s.threads p).program.Safe View.Step (View.Ok ttl) (fun _ _ => True) (view p)
  exclusive : ∀ p q, (s.threads p).tx.userLocked = true → (s.threads q).tx.userLocked = true → p = q
  sessionIDs : ∀ p q k, (view p).sessionID = some k → (view q).sessionID = some k → p = q
  hashes : ∀ p q x, (view p).hash = some x → (view q).hash = some x → p = q
  shared : s.shared.Ok stored

def Follows (ttl : Int) (view view' : Nat → View) : Nat × Action → Prop
  | (p, .perform o a) =>
    (view p).Ok ttl o ∧ (view p).Step o a (view' p) ∧ ∀ q, q ≠ p → view' q = view q
  | (p, _) => view' = Function.update view p .none

namespace Views

variable {ttl : Int} {s s' : System} {stored : List String} {view : Nat → View}
  (h : Views ttl s stored view)
include h

theorem reset {program : Prog Op Ans Unit}
    (hsafe : program.Safe View.Step (View.Ok ttl) (fun _ _ => True) View.none) :
    Views ttl { s with threads := Function.update s.threads p ⟨program, .none⟩ } stored
      (Function.update view p .none) where
  consistent q := by
    by_cases hq : q = p
    · subst hq
      simpa using Consistent.none rfl
    · simpa [hq] using h.consistent q
  safe q := by
    by_cases hq : q = p
    · subst hq
      simpa using hsafe
    · simpa [hq] using h.safe q
  exclusive := by
    refine unique_update (P := fun t : Thread => t.tx.userLocked = true) h.exclusive fun hx => ?_
    exact absurd hx Bool.false_ne_true
  sessionIDs q r k :=
    unique_update (P := fun v : View => v.sessionID = some k) (fun q r => h.sessionIDs q r k)
      (fun hx => absurd hx (some_ne_none k).symm) q r
  hashes q r x :=
    unique_update (P := fun v : View => v.hash = some x) (fun q r => h.hashes q r x)
      (fun hx => absurd hx (some_ne_none x).symm) q r
  shared := h.shared

/-- What the other threads know stays so. -/
theorem other {p q : Nat} {a : Ans o}
    (hok : (view p).Ok ttl o) (hstep : SharedStep ttl s p o sh') (hq : q ≠ p) :
    Consistent sh' (s.threads q).tx (stored ++ (Action.perform o a).storedHash.toList) (view q) := by
  have hv := h.consistent q
  cases hstep with
  | @committed outcome _ hlocked hc =>
    have hfree : ¬ (view q).user.isSome := fun huser =>
      hq (h.exclusive q p (hv.locked huser) hlocked)
    refine hv.frame (fun huser => absurd huser hfree) (fun k row hrow => ?_) (fun k hid hnone => ?_)
      (hc.drawn.1 ▸ Subset.refl _) (hc.drawn.2 ▸ Subset.refl _)
      (subset_append_left _ _) fun x hx hnew => ?_
    · exact absurd (hv.rowLocked (isSome_of_eq_some hrow)) hfree
    · refine eq_none_iff_forall_ne_some.mpr fun row hk => ?_
      obtain ⟨hash, now, rfl⟩ := hc.appears hk hnone
      exact hq (h.sessionIDs q p k hid hok.sessionID)
    · rw [mem_append, not_or]
      refine ⟨hnew, fun hmem => hq (h.hashes q p x hx (hok.storedHash ?_))⟩
      simpa using hmem
  | kept hcommit huser hsessions hlocked hids hhashes =>
    rw [storedHash_perform hcommit, toList_none, append_nil]
    refine hv.frame (fun _ => ⟨huser, hsessions⟩)
      (fun k row hrow => hlocked k q hq (hv.row k row hrow).1) (fun k _ hnone => ?_) hids hhashes
      (Subset.refl _) fun _ _ hx => hx
    refine eq_none_iff_forall_ne_some.mpr fun row hk => ?_
    cases hnone.symm.trans (hsessions k row hk)

theorem shared_step {a : Ans o} (hok : (view p).Ok ttl o) (hstep : SharedStep ttl s p o sh') :
    sh'.Ok (stored ++ (Action.perform o a).storedHash.toList) := by
  have hv := h.consistent p
  cases hstep with
  | @committed outcome _ hlocked hc =>
    refine ⟨?_, ?_, fun k row hk => ?_⟩
    · rw [hc.passwordHash]
      cases hx : (Action.perform (.commit outcome) ()).storedHash with
      | none => simpa using h.shared.current
      | some x => simp
    · rw [hc.drawn.2]
      refine append_subset.mpr ⟨h.shared.stored, fun x hx => ?_⟩
      exact (hv.hash x (hok.storedHash (by simpa using hx))).1
    · rw [hc.drawn.1]
      cases hold : s.shared.sessions.lookup k with
      | none =>
        obtain ⟨hash, now, rfl⟩ := hc.appears hk hold
        exact (hv.sessionID k hok.sessionID).1
      | some row => exact h.shared.sessions k row hold
  | kept hcommit huser hsessions hlocked hids hhashes =>
    rw [storedHash_perform hcommit, toList_none, append_nil]
    refine ⟨huser ▸ h.shared.current, Subset.trans h.shared.stored hhashes, fun k row hk => ?_⟩
    exact hids (h.shared.sessions k row (hsessions k row hk))

theorem step {l : Nat × Action} (hs : Step ttl s l s') :
    ∃ view', Views ttl s' (stored ++ l.2.storedHash.toList) view' ∧ Follows ttl view view' l := by
  cases hs with
  | start request hidle =>
    refine ⟨_, ?_, rfl⟩
    simpa [Action.storedHash] using h.reset (program_safe request)
  | finish =>
    refine ⟨_, ?_, rfl⟩
    have hdone : (Prog.done () : Prog Op Ans Unit).Safe View.Step (View.Ok ttl) (fun _ _ => True)
        View.none := trivial
    simpa [Action.storedHash, Thread.idle] using h.reset hdone
  | @perform p o k a sh' tx' hprogram hexec =>
    have hsafe := h.safe p
    rw [hprogram] at hsafe
    obtain ⟨hok, hnext⟩ := hsafe
    obtain ⟨v', hv', hcons⟩ := (h.consistent p).exec h.shared hok hexec
    have hstep := SharedStep.of_exec (h.consistent p) hok hexec
    refine ⟨Function.update view p v', ⟨fun q => ?_, fun q => ?_, ?_, fun q r x => ?_,
      fun q r x => ?_, h.shared_step hok hstep⟩, hok, by simpa using hv', fun q hq => by simp [hq]⟩
    · by_cases hq : q = p
      · subst hq
        cases o with
        | commit outcome =>
          cases hv'
          obtain ⟨-, rfl⟩ := hexec
          simpa using Consistent.none rfl
        | _ => simpa [Action.storedHash] using hcons
      · simpa [hq] using h.other hok hstep hq
    · by_cases hq : q = p
      · subst hq
        simpa using hnext a v' hv'
      · simpa [hq] using h.safe q
    · refine unique_update (P := fun t : Thread => t.tx.userLocked = true) h.exclusive fun hx => ?_
      refine (hexec.userLocked hx).imp_right fun hfree q hq => ?_
      simp [hfree q hq]
    · refine unique_update (P := fun v : View => v.sessionID = some x) (fun q r => h.sessionIDs q r x)
        (fun hx => ?_) q r
      refine ((hexec.drawn hv').1 x hx).imp_right fun hnew q hq hmem => ?_
      exact hnew ((h.consistent q).sessionID x hmem).1
    · refine unique_update (P := fun v : View => v.hash = some x) (fun q r => h.hashes q r x)
        (fun hx => ?_) q r
      refine ((hexec.drawn hv').2 x hx).imp_right fun hnew q hq hmem => ?_
      exact hnew ((h.consistent q).hash x hmem).1

end Views

end Houfeng.Auth
