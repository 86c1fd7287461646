import Houfeng.Foundation.Prog
import Houfeng.Foundation.Table

/-!
# Login sessions of an account

The authentication service and the session repository, with the administrative transactions that
change the same rows. Functions are programs of statements that run at once on one account under
READ COMMITTED: a statement sees what is committed when it starts, `for update` and writes lock rows
until the transaction ends, and writes show at the commit.
Times are nanoseconds since the Unix epoch.
-/

namespace Houfeng.Auth

/-! ## Rows and times -/

/-- `Truncate(time.Microsecond)`, which is also what a `timestamptz` keeps. -/
def micro (t : Int) : Int := t / 1000 * 1000

def zeroTime : Int := -62135596800000000000

/-- The row of the account. -/
structure UserRow where
  passwordHash : String
  passwordChangedAt : Int
  isSupervisor : Bool
  disabledAt : Option Int

/-- A row of `sessions`, under the hash of its id. -/
structure SessionRow where
  issuedAt : Int
  lastSeenAt : Int
  expiresAt : Int

inductive AuthError
  | invalidCredentials
  | sessionNotFound
  | sessionExpired
  | userNotFound
  | passwordRefused
  | managementForbidden
  | supervisorProtected

/-- The check of `ValidateSession`, `TouchWithUserLock` and `ChangePasswordIfHash`: past its expiry,
or issued before the password was changed. -/
def stale (row : SessionRow) (passwordChangedAt checkedAt : Int) : Bool :=
  row.expiresAt ≤ checkedAt || (row.issuedAt ≠ zeroTime && row.issuedAt < passwordChangedAt)

/-! ## Statements -/

/-- What a transaction has done when it commits; a login and a change of the password with the
reading of the clock they took. -/
inductive Outcome
  | created (sessionID expectedHash : String) (now : Int)
  | changed (sessionID newHash : String) (now : Int)
  | touched (sessionID : String)
  | refused (sessionID : String)
  | reset (newHash : String)
  | disabled
  | enabled

/-- The statements and the other calls of a program. `deleteNow` and `deleteExpiredBefore` are
transactions of their own. -/
inductive Op
  | findUser
  | verifyPassword (hash : String)
  | newSessionID
  | hashPassword
  | clock
  | lockAccessAdminSupervisor
  | findSessionOwner (sessionID : String)
  | readSession (sessionID : String)
  | lockUser
  | lockSession (sessionID : String)
  | insertSession (sessionID : String) (row : SessionRow)
  | updateUser (row : UserRow)
  | updateSession (sessionID : String) (row : SessionRow)
  | deleteSession (sessionID : String)
  | deleteSessionsExcept (kept : Option String)
  | commit (outcome : Outcome)
  | deleteNow (sessionID : String)
  | deleteExpiredBefore (cutoff : Int)

@[reducible] def Ans : Op → Type
  | .findUser => UserRow
  | .verifyPassword _ => Bool
  | .newSessionID => String
  | .hashPassword => Option String
  | .clock => Int
  | .lockAccessAdminSupervisor => Bool
  | .findSessionOwner _ => Bool
  | .readSession _ => Option (SessionRow × UserRow)
  | .lockUser => UserRow
  | .lockSession _ => Option SessionRow
  | .updateUser _ => Bool
  | .updateSession _ _ => Bool
  | _ => Unit

abbrev Service := Routine Op Ans AuthError

def call (o : Op) : Service (Ans o) := Routine.call o

/-! ## The session repository -/

variable (ttl : Int) (sessionID : String)

/-- Whether the session passes now. -/
def validateSession : Service Unit := do
  match ← call (.readSession sessionID) with
  | none => throw .sessionNotFound
  | some (row, user) =>
    if user.disabledAt.isSome then throw .sessionExpired
    else
      let now ← call .clock
      if stale row user.passwordChangedAt (micro now) then throw .sessionExpired

/-- A new session. It is not issued before the password was changed. -/
def issue (user : UserRow) (now ttl : Int) : SessionRow :=
  let issuedAt := max (micro now) user.passwordChangedAt
  ⟨issuedAt, issuedAt, micro (issuedAt + ttl)⟩

/-- Creates the session if the verified password is still the stored one. -/
def createIfPasswordHash (expectedHash sessionID : String) : Service SessionRow := do
  let user ← call .lockUser
  if user.passwordHash ≠ expectedHash ∨ user.disabledAt.isSome then throw .invalidCredentials
  else
    let now ← call .clock
    call (.insertSession sessionID (issue user now ttl))
    call (.commit (.created sessionID expectedHash now))
    pure (issue user now ttl)

/-- Changes the password and deletes the other sessions. -/
def changePasswordIfHash (currentSessionID expectedHash newHash : String) : Service Unit := do
  let user ← call .lockUser
  if user.disabledAt.isSome then throw .sessionNotFound
  else if user.passwordHash ≠ expectedHash then throw .invalidCredentials
  else
    match ← call (.lockSession currentSessionID) with
    | none => throw .sessionNotFound
    | some current =>
      let now ← call .clock
      if stale current user.passwordChangedAt (micro now) then throw .sessionExpired
      else
        let changedAt := max (micro now) user.passwordChangedAt
        if (← call (.updateUser
            { user with passwordHash := newHash, passwordChangedAt := changedAt })) = false then
          throw .userNotFound
        else if (← call (.updateSession currentSessionID
            { current with issuedAt := changedAt })) = false then
          throw .sessionNotFound
        else
          call (.deleteSessionsExcept (some currentSessionID))
          call (.commit (.changed currentSessionID newHash now))

/-- Prolongs a session that passes and deletes one that does not. -/
def touchWithUserLock : Service SessionRow := do
  if (← call (.findSessionOwner sessionID)) = false then throw .sessionNotFound
  else
    let user ← call .lockUser
    match ← call (.lockSession sessionID) with
    | none => throw .sessionNotFound
    | some session =>
      if user.disabledAt.isSome then
        call (.deleteSession sessionID)
        call (.commit (.refused sessionID))
        throw .sessionExpired
      else
        let now ← call .clock
        if stale session user.passwordChangedAt (micro now) then
          call (.deleteSession sessionID)
          call (.commit (.refused sessionID))
          throw .sessionExpired
        else
          let baseline := max (max (micro now) session.lastSeenAt) user.passwordChangedAt
          let refreshed : SessionRow :=
            { session with lastSeenAt := baseline, expiresAt := micro (baseline + ttl) }
          if (← call (.updateSession sessionID refreshed)) = false then throw .sessionNotFound
          else
            call (.commit (.touched sessionID))
            pure refreshed

/-! ## The authentication service -/

/-- Verifies the password outside the transaction that creates the session. -/
def login : Service SessionRow := do
  let user ← call .findUser
  if (← call (.verifyPassword user.passwordHash)) = false then throw .invalidCredentials
  else if user.disabledAt.isSome then throw .invalidCredentials
  else
    let sessionID ← call .newSessionID
    createIfPasswordHash ttl user.passwordHash sessionID

/-- Verifies and hashes outside the transaction that changes the password. -/
def changePassword (currentSessionID : String) : Service Unit := do
  let user ← call .findUser
  if (← call (.verifyPassword user.passwordHash)) = false then throw .invalidCredentials
  else if user.disabledAt.isSome then throw .sessionExpired
  else
    match ← call .hashPassword with
    | none => throw .passwordRefused
    | some hash => changePasswordIfHash currentSessionID user.passwordHash hash

def logout : Service Unit :=
  if sessionID = "" then pure () else call (.deleteNow sessionID)

/-! ## Access administration -/

/-- A supervisor's password is not reset, the actor's own included. -/
def resetUserPassword : Service Unit := do
  match ← call .hashPassword with
  | none => throw .passwordRefused
  | some newHash =>
    let now ← call .clock
    if (← call .lockAccessAdminSupervisor) = false then throw .managementForbidden
    else
      let user ← call .lockUser
      if user.isSupervisor then throw .supervisorProtected
      else
        let _ ← call (.updateUser
          { user with passwordHash := newHash, passwordChangedAt := micro now })
        call (.deleteSessionsExcept none)
        call (.commit (.reset newHash))

/-- Disabling deletes all sessions. -/
def setUserEnabled (enabled : Bool) : Service Unit := do
  let now ← call .clock
  if (← call .lockAccessAdminSupervisor) = false then throw .managementForbidden
  else
    let user ← call .lockUser
    if user.isSupervisor = true ∧ enabled = false then throw .supervisorProtected
    else if enabled then
      let _ ← call (.updateUser { user with disabledAt := none })
      call (.commit .enabled)
    else
      let _ ← call (.updateUser { user with
        disabledAt := some (user.disabledAt.getD (micro now)) })
      call (.deleteSessionsExcept none)
      call (.commit .disabled)

/-- The requests of the account. -/
inductive Request
  | login
  | logout (sessionID : String)
  | touch (sessionID : String)
  | validateSession (sessionID : String)
  | changePassword (currentSessionID : String)
  | resetUserPassword
  | setUserEnabled (enabled : Bool)
  | sweep (cutoff : Int)

def forget {α : Type} (x : Service α) : Prog Op Ans Unit := x.run.bind fun _ => .done ()

def Request.program : Request → Prog Op Ans Unit
  | .login => forget (Auth.login ttl)
  | .logout sessionID => forget (Auth.logout sessionID)
  | .touch sessionID => forget (touchWithUserLock ttl sessionID)
  | .validateSession sessionID => forget (Auth.validateSession sessionID)
  | .changePassword currentSessionID => forget (Auth.changePassword currentSessionID)
  | .resetUserPassword => forget Auth.resetUserPassword
  | .setUserEnabled enabled => forget (Auth.setUserEnabled enabled)
  | .sweep cutoff => forget (call (.deleteExpiredBefore cutoff))

/-! ## Transactions side by side -/

/-- An uncommitted write. A delete names the rows its statement found. -/
inductive Write
  | user (row : UserRow)
  | session (sessionID : String) (row : SessionRow)
  | delete (sessionIDs : List String)

/-- A transaction in progress: the rows it has locked and its writes. -/
structure Local where
  userLocked : Bool
  sessionsLocked : List String
  writes : List Write

def Local.none : Local := ⟨false, [], []⟩

/-- What is committed, and the session ids and password hashes drawn so far. -/
structure Shared where
  user : UserRow
  sessions : Table String SessionRow
  sessionIDs : List String
  hashes : List String

/-- A request that is being served. -/
structure Thread where
  program : Prog Op Ans Unit
  tx : Local

def Thread.idle : Thread := ⟨.done (), .none⟩

/-- The account with everything that goes on on it. -/
structure System where
  shared : Shared
  threads : Nat → Thread

def Write.apply (s : Shared) : Write → Shared
  | .user row => { s with user := row }
  | .session sessionID row => { s with sessions := s.sessions.insert sessionID row }
  | .delete sessionIDs => { s with sessions := s.sessions.deleteWhere fun k _ => k ∈ sessionIDs }

/-- No other transaction has locked the account's row. -/
def System.UserFree (s : System) (p : Nat) : Prop :=
  ∀ q, q ≠ p → (s.threads q).tx.userLocked = false

/-- No other transaction has locked the row of the session. -/
def System.SessionFree (s : System) (p : Nat) (sessionID : String) : Prop :=
  ∀ q, q ≠ p → sessionID ∉ (s.threads q).tx.sessionsLocked

/-- A call of the thread `p`: its answer, what is shared afterwards, and its transaction. A statement
that has to wait does not happen; the sweep deletes among the rows it found when it started. Session
ids and password hashes are never drawn twice. -/
def Exec (s : System) (p : Nat) (o : Op) (a : Ans o) (shared' : Shared) (tx' : Local) : Prop :=
  let shared := s.shared
  let tx := (s.threads p).tx
  match o, a with
  | .findUser, user => user = shared.user ∧ shared' = shared ∧ tx' = tx
  | .verifyPassword _, _ => shared' = shared ∧ tx' = tx
  | .newSessionID, sessionID =>
    sessionID ∉ shared.sessionIDs ∧
      shared' = { shared with sessionIDs := sessionID :: shared.sessionIDs } ∧ tx' = tx
  | .hashPassword, none => shared' = shared ∧ tx' = tx
  | .hashPassword, some hash =>
    hash ∉ shared.hashes ∧ shared' = { shared with hashes := hash :: shared.hashes } ∧ tx' = tx
  | .clock, _ => shared' = shared ∧ tx' = tx
  | .lockAccessAdminSupervisor, _ => shared' = shared ∧ tx' = tx
  | .findSessionOwner sessionID, found =>
    found = (shared.sessions.lookup sessionID).isSome ∧ shared' = shared ∧ tx' = tx
  | .readSession sessionID, found =>
    found = (shared.sessions.lookup sessionID).map (·, shared.user) ∧ shared' = shared ∧ tx' = tx
  | .lockUser, user =>
    s.UserFree p ∧ user = shared.user ∧ shared' = shared ∧ tx' = { tx with userLocked := true }
  | .lockSession sessionID, found =>
    s.SessionFree p sessionID ∧ found = shared.sessions.lookup sessionID ∧ shared' = shared ∧
      tx' = if found.isSome then
        { tx with sessionsLocked := sessionID :: tx.sessionsLocked } else tx
  | .insertSession sessionID row, _ =>
    shared.sessions.lookup sessionID = none ∧ shared' = shared ∧
      tx' = { tx with writes := tx.writes ++ [.session sessionID row] }
  | .updateUser row, updated =>
    updated = true ∧ s.UserFree p ∧ shared' = shared ∧
      tx' = { tx with userLocked := true, writes := tx.writes ++ [.user row] }
  | .updateSession sessionID row, updated =>
    updated = (shared.sessions.lookup sessionID).isSome ∧ s.SessionFree p sessionID ∧
      shared' = shared ∧
      tx' = if updated then
        { tx with
          sessionsLocked := sessionID :: tx.sessionsLocked
          writes := tx.writes ++ [.session sessionID row] } else tx
  | .deleteSession sessionID, _ =>
    s.SessionFree p sessionID ∧ shared' = shared ∧
      tx' = { tx with
        sessionsLocked := sessionID :: tx.sessionsLocked
        writes := tx.writes ++ [.delete [sessionID]] }
  | .deleteSessionsExcept kept, _ =>
    let found := shared.sessions.keys.filter fun k => some k ≠ kept
    (∀ k ∈ found, s.SessionFree p k) ∧ shared' = shared ∧
      tx' = { tx with
        sessionsLocked := found ++ tx.sessionsLocked
        writes := tx.writes ++ [.delete found] }
  | .commit _, _ => shared' = tx.writes.foldl Write.apply shared ∧ tx' = .none
  | .deleteNow sessionID, _ =>
    s.SessionFree p sessionID ∧
      shared' = { shared with sessions := shared.sessions.erase sessionID } ∧ tx' = tx
  | .deleteExpiredBefore cutoff, _ =>
    ∃ found : List String, (∀ k ∈ found, s.SessionFree p k) ∧
      shared' = { shared with
        sessions := shared.sessions.deleteWhere fun k row =>
          k ∈ found && row.expiresAt < cutoff } ∧ tx' = tx

inductive Action
  | start (request : Request)
  | perform (o : Op) (a : Ans o)
  | finish

/-- The steps of the account. A thread that returns or fails rolls back what it has not committed. -/
inductive Step (ttl : Int) (s : System) : Nat × Action → System → Prop
  | start {p : Nat} (request : Request) (h : s.threads p = .idle) :
      Step ttl s (p, .start request)
        { s with threads := Function.update s.threads p ⟨request.program ttl, .none⟩ }
  | perform {p : Nat} {o : Op} {k : Ans o → Prog Op Ans Unit} {a : Ans o} {shared' : Shared}
      {tx' : Local} (hprogram : (s.threads p).program = .call o k) (h : Exec s p o a shared' tx') :
      Step ttl s (p, .perform o a) ⟨shared', Function.update s.threads p ⟨k a, tx'⟩⟩
  | finish {p : Nat} : Step ttl s (p, .finish)
      { s with threads := Function.update s.threads p .idle }

/-! ## Sessions that pass -/

/-- The answers to a program that runs on the committed rows with nothing in its way and the clock
at `now`. Nothing is drawn or verified. -/
def Shared.answer (sh : Shared) (now : Int) : (o : Op) → Ans o
  | .findUser => sh.user
  | .verifyPassword _ => false
  | .newSessionID => ""
  | .hashPassword => none
  | .clock => now
  | .lockAccessAdminSupervisor => false
  | .findSessionOwner sessionID => (sh.sessions.lookup sessionID).isSome
  | .readSession sessionID => (sh.sessions.lookup sessionID).map (·, sh.user)
  | .lockUser => sh.user
  | .lockSession sessionID => sh.sessions.lookup sessionID
  | .insertSession _ _ => ()
  | .updateUser _ => true
  | .updateSession sessionID _ => (sh.sessions.lookup sessionID).isSome
  | .deleteSession _ | .deleteSessionsExcept _ | .commit _ | .deleteNow _ |
    .deleteExpiredBefore _ => ()

/-- The session passes `ValidateSession` at `now`. -/
def Shared.Validates (sh : Shared) (now : Int) (sessionID : String) : Prop :=
  (validateSession sessionID).eval (sh.answer now) = .ok ()

/-- The session passes `Touch` at `now`. -/
def Shared.Touches (sh : Shared) (now : Int) (sessionID : String) : Prop :=
  ∃ row, (touchWithUserLock ttl sessionID).eval (sh.answer now) = .ok row

end Houfeng.Auth
