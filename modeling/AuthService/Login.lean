import AuthService.Footprint
import AuthService.Resumption.Pool

/-!
# AuthService.Login

Where an `AuthService.login` call stands, read off the statements it has executed. The row is read
once, in the first statement; every later phase carries it as it was then.

* `timed`, `unlocking` — the row was LOCKED with an expiry; the expiry has passed.
* `checking`           — the status checks are passed, the password is not verified yet.
* `wrong`, `counted`   — the verification failed; the failed attempt is counted.
* `verified`, `issued` — the verification succeeded; the refresh token is inserted.

`conforms_login`: a login goes through these phases in this order and issues in each of them the
statements listed in `allowed` only.
-/

namespace Auth

open Relational Resumption Prog

inductive LoginPhase where
  | start
  | timed (c : UserCredential)
  | unlocking (c : UserCredential)
  | checking (c : UserCredential)
  | wrong (c : UserCredential)
  | counted (c : UserCredential) (failedAttempts : Nat)
  | verified (c : UserCredential)
  | issued (c : UserCredential) (row : RefreshToken)
  | refused
  deriving DecidableEq

namespace LoginPhase

/-- The status checks on the row just read. -/
def admission (c : UserCredential) : LoginPhase :=
  match c.status, c.lockedUntil with
  | .active, _ => .checking c
  | .locked, some _ => .timed c
  | _, _ => .refused

/-- `credential.lockedUntil <= new Date()`. -/
def lockExpired (c : UserCredential) (now : Int) : Bool := c.lockedUntil.any (· ≤ now)

def next : LoginPhase → (s : Stmt) → Except Exn s.Reply → LoginPhase
  | .start, .findCredentialByEmail _, .ok none => .refused
  | .start, .findCredentialByEmail _, .ok (some c) => admission c
  | .timed c, .newDate, .ok now => if lockExpired c now then .unlocking c else .refused
  | .unlocking c, .unlockAccount _, .ok _ => .checking c
  | .checking c, .verifyPassword _ _, .ok valid => if valid then .verified c else .wrong c
  | .wrong c, .incrementFailedAttempts _, .ok (some n) => .counted c n
  | .wrong _, .incrementFailedAttempts _, .ok none => .refused
  | .verified c, .createRefreshToken _, .ok row => .issued c row
  | φ, _, _ => φ

/-- Statements that leave everything but events and audit rows alone. -/
def aside : Stmt → Bool
  | .newDate => true
  | .publish _ => true
  | .createAuditLog _ => true
  | _ => false

/-- After the `n`-th failed attempt: the lock, if `n` is the maximum. -/
def locking (env : Env) (c : UserCredential) (n : Nat) : Stmt → Prop
  | .lockAccount id lockedUntil =>
    id = c.id ∧ env.maxLoginAttempts ≤ n ∧ lockedUntil.isSome = true
  | .revokeAllByUserId id reason _ => id = c.id ∧ reason = "account_locked:brute_force"
  | s => aside s = true

/-- Between the password check and the insert of the refresh token. -/
def issuing (c : UserCredential) : Stmt → Prop
  | .resetFailedAttempts id => id = c.id
  | .updateLastLogin id _ _ => id = c.id
  | .signAccessToken sub _ roles _ => sub = c.id ∧ roles = c.roles
  | .createRefreshToken data => data.userId = c.id
  | s => s.quiet = true

/-- After the insert: the eviction of the oldest sessions. -/
def evicting : Stmt → Prop
  | .revokeToken _ reason _ => reason = "max_sessions_exceeded"
  | s => s.quiet = true

def allowed (env : Env) (email password : String) : LoginPhase → Stmt → Prop
  | .start, .findCredentialByEmail e => e = email
  | .timed _, .newDate => True
  | .unlocking c, .unlockAccount id => id = c.id
  | .checking c, .verifyPassword hash p => hash = c.passwordHash ∧ p = password
  | .wrong c, .incrementFailedAttempts id => id = c.id
  | .counted c n, s => locking env c n s
  | .verified c, s => issuing c s
  | .issued _ _, s => evicting s
  | .refused, .createAuditLog _ => True
  | _, _ => False

/-- A response is sent only where a refresh token of the account has been inserted. -/
def final : LoginPhase → Except Exn AuthResponse → Prop
  | .issued c _, .ok a => a.userId = c.id
  | _, .ok _ => False
  | _, .error _ => True

def monitor (env : Env) (email password : String) : Monitor sig LoginPhase :=
  ⟨next, allowed env email password⟩

variable {env : Env} {email password : String}

theorem final_error (φ : LoginPhase) (e : Exn) : final φ (.error e) := by
  cases φ <;> trivial

theorem evicting_of_quiet {s : Stmt} (h : s.quiet = true) : evicting s := by
  cases s <;> first | exact h | cases h

theorem uses_lockOnBruteForce (c : UserCredential) (n : Nat) :
    (AuthService.lockOnBruteForce env c n).Uses (locking env c n) := by
  unfold AuthService.lockOnBruteForce
  split
  · rename_i hn
    refine uses_perform_bind rfl fun now => ?_
    refine uses_perform_bind ⟨rfl, hn, rfl⟩ fun _ => ?_
    refine uses_bind (uses_publish rfl fun _ => rfl) fun _ => ?_
    exact uses_revokeAllUserTokens rfl fun at' => ⟨rfl, rfl⟩
  · trivial

theorem next_counted {c : UserCredential} {n : Nat} (s : Stmt) (r : Except Exn s.Reply) :
    next (.counted c n) s r = .counted c n := rfl

theorem next_issued {c : UserCredential} {row : RefreshToken} (s : Stmt)
    (r : Except Exn s.Reply) : next (.issued c row) s r = .issued c row := rfl

theorem conforms_loginFailed (c : UserCredential) (ipAddress userAgent : Option String) :
    (monitor env email password).Conforms final (.wrong c)
      (AuthService.loginFailed env c email ipAddress userAgent) := by
  unfold AuthService.loginFailed UserCredentialRepository.incrementFailedAttempts
  simp only [bind_eq, bind_assoc]
  refine Monitor.conforms_perform_bind rfl (fun attempts? => ?_) fun e => final_error _ _
  cases attempts? with
  | none => exact final_error _ _
  | some n =>
    show (monitor env email password).Conforms final (.counted c n) _
    simp only [pure_eq, ret_bind]
    have hrest : ∀ {α : Type} {p : AuthProg α} {k : α → AuthProg AuthResponse},
        p.Uses (locking env c n) →
        (∀ a, (monitor env email password).Conforms final (.counted c n) (k a)) →
        (monitor env email password).Conforms final (.counted c n) (p.bind k) :=
      fun hp hk => Monitor.conforms_uses_bind hp (fun s hs => hs)
        (fun s r _ => next_counted s r) hk fun e => final_error _ _
    refine hrest (uses_publish rfl fun _ => rfl) fun _ => ?_
    refine hrest (uses_lockOnBruteForce c n) fun _ => ?_
    exact hrest ((uses_perform _).mpr rfl) fun _ => final_error _ _

theorem conforms_loginSucceeded (c : UserCredential) (ipAddress userAgent : Option String) :
    (monitor env email password).Conforms final (.verified c)
      (AuthService.loginSucceeded env c email ipAddress userAgent) := by
  unfold AuthService.loginSucceeded UserCredentialRepository.resetFailedAttempts
    UserCredentialRepository.updateLastLogin TokenService.generateAccessToken
    TokenService.generateRefreshToken RefreshTokenRepository.create
  simp only [bind_eq, bind_assoc]
  refine Monitor.conforms_perform_bind rfl (fun _ => ?_) fun e => final_error _ _
  refine Monitor.conforms_perform_bind rfl (fun lastLoginAt => ?_) fun e => final_error _ _
  refine Monitor.conforms_perform_bind rfl (fun _ => ?_) fun e => final_error _ _
  refine Monitor.conforms_perform_bind ⟨rfl, rfl⟩ (fun accessToken => ?_) fun e => final_error _ _
  refine Monitor.conforms_perform_bind rfl (fun rawToken => ?_) fun e => final_error _ _
  refine Monitor.conforms_perform_bind rfl (fun now => ?_) fun e => final_error _ _
  refine Monitor.conforms_perform_bind rfl (fun issuedAt => ?_) fun e => final_error _ _
  refine Monitor.conforms_perform_bind rfl (fun row => ?_) fun e => final_error _ _
  show (monitor env email password).Conforms final (.issued c row) _
  simp only [pure_eq, ret_bind]
  have hrest : ∀ {α : Type} {p : AuthProg α} {k : α → AuthProg AuthResponse},
      p.Uses evicting →
      (∀ a, (monitor env email password).Conforms final (.issued c row) (k a)) →
      (monitor env email password).Conforms final (.issued c row) (p.bind k) :=
    fun hp hk => Monitor.conforms_uses_bind hp (fun s hs => hs)
      (fun s r _ => next_issued s r) hk fun e => final_error _ _
  refine hrest (uses_enforceMaxSessions (fun _ => evicting_of_quiet) fun id at' => rfl)
    fun _ => ?_
  refine hrest (uses_publish rfl fun _ => rfl) fun _ => ?_
  exact hrest ((uses_perform _).mpr rfl) fun _ => rfl

theorem conforms_loginVerify (c : UserCredential) (ipAddress userAgent : Option String) :
    (monitor env email password).Conforms final (.checking c)
      (AuthService.loginVerify env c email password ipAddress userAgent) := by
  unfold AuthService.loginVerify
  refine Monitor.conforms_perform_bind ⟨rfl, rfl⟩ (fun valid => ?_) fun e => final_error _ _
  cases valid with
  | true => exact conforms_loginSucceeded c ipAddress userAgent
  | false => exact conforms_loginFailed c ipAddress userAgent

/-- An audit row and an exception end a refused login. -/
theorem conforms_refused {entry : AuditLog} {e : Exn} :
    (monitor env email password).Conforms final .refused
      ((AuditLogRepository.create entry).bind fun _ => (.throw e : AuthProg AuthResponse)) :=
  Monitor.conforms_perform_bind trivial (fun _ => final_error _ _) fun _ => final_error _ _

theorem conforms_login (ipAddress userAgent : Option String) :
    (monitor env email password).Conforms final .start
      (AuthService.login env email password ipAddress userAgent) := by
  unfold AuthService.login
  refine Monitor.conforms_perform_bind rfl (fun credential? => ?_) fun e => final_error _ _
  cases credential? with
  | none => exact conforms_refused
  | some c =>
    cases hs : c.status with
    | active =>
      have hadm : admission c = .checking c := by simp [admission, hs]
      simp only [monitor, next, hadm, hs]
      exact conforms_loginVerify c ipAddress userAgent
    | banned =>
      have hadm : admission c = .refused := by simp [admission, hs]
      simp only [monitor, next, hadm, hs]
      exact conforms_refused
    | deleted =>
      have hadm : admission c = .refused := by simp [admission, hs]
      simp only [monitor, next, hadm, hs]
      exact final_error _ _
    | locked =>
      cases hl : c.lockedUntil with
      | none =>
        have hadm : admission c = .refused := by simp [admission, hs, hl]
        simp only [monitor, next, hadm, hs, hl]
        exact conforms_refused
      | some lockedUntil =>
        have hadm : admission c = .timed c := by simp [admission, hs, hl]
        simp only [monitor, next, hadm, hs, hl]
        refine Monitor.conforms_perform_bind trivial (fun now => ?_) fun e => final_error _ _
        by_cases hexp : lockedUntil ≤ now
        · have hlock : lockExpired c now = true := by simp [lockExpired, hl, hexp]
          simp only [next, hlock, hexp, if_true]
          refine Monitor.conforms_perform_bind rfl (fun _ => ?_) fun e => final_error _ _
          exact conforms_loginVerify c ipAddress userAgent
        · have hlock : lockExpired c now = false := by simp [lockExpired, hl, hexp]
          simp only [next, hlock, hexp, if_false]
          exact conforms_refused

/-! ## What a login's statements leave alone -/

theorem not_deletes_of_allowed {φ : LoginPhase} {s : Stmt} (ha : allowed env email password φ s) :
    s.deletesRefreshTokens = false ∧ s.changesAccounts = false := by
  cases s
  case deleteExpiredAndRevoked | deleteCredential | createCredential => cases φ <;> cases ha
  all_goals exact ⟨rfl, rfl⟩

theorem not_createResetToken_of_allowed {φ : LoginPhase} {s : Stmt}
    (ha : allowed env email password φ s) (userId : Nat) (tokenHash : TokenHash)
    (expiresAt : Int) : s ≠ .createPasswordResetToken userId tokenHash expiresAt := by
  rintro rfl
  cases φ <;> cases ha

/-- A login comes to `issued` by its insert only, and the row is stored for the account. -/
theorem issued_next {w : World} {φ : LoginPhase} {s : Stmt} {reply : Except Exn s.Reply}
    {c : UserCredential} {row : RefreshToken} (ha : allowed env email password φ s)
    (hr : (World.exec env s w).1 = reply) (h : next φ s reply = .issued c row) :
    φ = .issued c row ∨
      φ = .verified c ∧ row ∈ (World.exec env s w).2.refreshTokens.rows ∧ row.userId = c.id := by
  revert h
  fun_cases next φ s reply
  all_goals intro h
  case case2 e c₀ => simp only [admission] at h; split at h <;> cases h
  case case10 c₀ data row₀ =>
    cases h
    have hdata : data.userId = c.id := ha
    rcases World.exec_createRefreshToken env w data with ⟨e, he⟩ | ⟨table, he, hrows, -⟩
    · rw [he] at hr; cases hr
    · rw [he] at hr ⊢
      cases hr
      refine .inr ⟨rfl, ?_, hdata⟩
      show _ ∈ table.rows
      rw [hrows]
      exact List.mem_append_right _ (List.mem_singleton.mpr rfl)
  all_goals first | exact .inl h | cases h

end LoginPhase
end Auth
