import AuthService.Requests

/-!
# AuthService.Footprint

Which statements a request can issue, whatever the replies. `Request.footprint` lists them with the
arguments that are known from the request alone, and `uses_handle` proves the list: a property of
worlds kept by every statement of a footprint is kept by the request (`serve_invariant`).

The footprints of the branches of `login` are given on their own, for proofs that know which row the
login has read; `login_induction` is the case analysis that leads to them.
-/

namespace Auth

open Relational Resumption Prog

/-- Statements that write no row of the four tables, no blacklist key and no access token. -/
def Stmt.quiet : Stmt → Bool
  | .newDate => true
  | .uuidv4 => true
  | .hashPassword _ => true
  | .verifyPassword _ _ => true
  | .findCredentialById _ => true
  | .findCredentialByEmail _ => true
  | .findLockedAccountsToUnlock _ => true
  | .findRefreshTokenByHash _ => true
  | .findActiveByUserId _ _ => true
  | .countActiveByUserId _ _ => true
  | .findOldestActiveByUserId _ _ => true
  | .findResetTokenByHash _ => true
  | .findAllRoles => true
  | .findRoleByName _ => true
  | .createAuditLog _ => true
  | .existsBlacklist _ => true
  | .publish _ => true
  | _ => false

/-- Statements that read a row of `user_credentials`. -/
def Stmt.readsAccount : Stmt → Bool
  | .findCredentialById _ => true
  | .findCredentialByEmail _ => true
  | .findLockedAccountsToUnlock _ => true
  | _ => false

/-- Quiet statements that read no account. -/
def Stmt.blind (s : Stmt) : Bool := s.quiet && !s.readsAccount

theorem quiet_of_blind {s : Stmt} (h : s.blind = true) : s.quiet = true :=
  (Bool.and_eq_true_iff.mp h).1

/-- Statements that publish an event or write an audit row. -/
def Stmt.emits : Stmt → Bool
  | .createAuditLog _ => true
  | .publish _ => true
  | _ => false

/-- Blind statements that emit nothing. -/
def Stmt.tacit (s : Stmt) : Bool := s.blind && !s.emits

theorem blind_of_tacit {s : Stmt} (h : s.tacit = true) : s.blind = true :=
  (Bool.and_eq_true_iff.mp h).1

/-- A token pair issued for user `a`, and the eviction of the oldest sessions. -/
def issueFootprint (a : Nat) : Stmt → Prop
  | .signAccessToken sub _ _ _ => sub = a
  | .createRefreshToken data => data.userId = a
  | .revokeToken _ reason _ => reason = "max_sessions_exceeded"
  | s => s.quiet = true

/-- `login` from the password check on, for the row with id `a`. -/
def loginFootprint (a : Nat) : Stmt → Prop
  | .incrementFailedAttempts id => id = a
  | .resetFailedAttempts id => id = a
  | .updateLastLogin id _ _ => id = a
  | .lockAccount id lockedUntil => id = a ∧ lockedUntil.isSome = true
  | .revokeAllByUserId id reason _ => id = a ∧ reason = "account_locked:brute_force"
  | s => issueFootprint a s

/-- `refreshTokens`, after the lookup, for the row `t`. -/
def rotateFootprint (t : RefreshToken) : Stmt → Prop
  | .revokeToken id reason _ => id = t.id ∧ reason = "rotated"
  | .createRefreshToken data => data.userId = t.userId
  | .setReplacedBy id _ => id = t.id
  | .updateLastUsed _ _ => True
  | s => s.quiet = true

/-- `refreshTokens`: the alarm, or the rotation of some row. -/
def refreshFootprint : Stmt → Prop
  | .revokeAllByUserId _ reason _ => reason = "token_reuse_detected"
  | s => s.quiet = true ∨ ∃ t, rotateFootprint t s

def Request.footprint : Request → Stmt → Prop
  | .register _ _ _ _, .createCredential _ _ roles => roles = ["USER"]
  | .register _ _ _ _, s => ∃ a, issueFootprint a s
  | .login _ _ _ _, .unlockAccount _ => True
  | .login _ _ _ _, s => ∃ a, loginFootprint a s
  | .refreshToken _, .signAccessToken _ _ _ _ => True
  | .refreshToken _, s => refreshFootprint s
  | .logout _ _ _ _, .setBlacklist _ ttlSeconds => 0 < ttlSeconds
  | .logout _ _ _ _, .revokeToken _ reason _ => reason = "logout"
  | .forgotPassword _ _, .deleteResetTokensByUserId _ => True
  | .forgotPassword _ _, .createPasswordResetToken _ _ _ => True
  | .resetPassword _ _ _, .updatePassword _ _ _ => True
  | .resetPassword _ _ _, .markAsUsed _ _ => True
  | .resetPassword _ _ _, .deleteResetTokensByUserId _ => True
  | .resetPassword _ _ _, .revokeAllByUserId _ reason _ => reason = "password_reset"
  | .lockAccount u _ duration _, .lockAccount id lockedUntil =>
    id = u ∧ (lockedUntil.isSome = true → ∃ n, duration = some (n + 1))
  | .lockAccount u why _ _, .revokeAllByUserId id reason _ =>
    id = u ∧ reason = "account_locked:" ++ why
  | .unlockAccount u _, .unlockAccount id => id = u
  | .banUser u _ _, .updateStatus id status => id = u ∧ status = .banned
  | .banUser u why _, .revokeAllByUserId id reason _ => id = u ∧ reason = "account_banned:" ++ why
  | .deleteCredentials u, .deleteCredential id => id = u
  | .assignRole u _ _, .updateRoles id _ => id = u
  | .assignRole u _ _, .revokeAllByUserId id reason _ => id = u ∧ reason = "role_changed"
  | .revokeRole u _ _, .updateRoles id _ => id = u
  | .revokeRole u _ _, .revokeAllByUserId id reason _ => id = u ∧ reason = "role_changed"
  | .revokeToken u why, .revokeAllByUserId id reason _ =>
    u = some id ∧ reason = why.getD "token_revoked"
  | .revokeAllTokens u why, .revokeAllByUserId id reason _ =>
    id = u ∧ reason = why.getD "all_tokens_revoked"
  | .revokeSession sessionId, .revokeToken id reason _ => id = sessionId ∧ reason = "user_revoked"
  | .unlockExpiredLockouts, .unlockAccount _ => True
  | .cleanupRefreshTokens, .deleteExpiredAndRevoked _ => True
  | .cleanupPasswordResets, .deleteExpiredOrUsed _ => True
  | _, s => s.quiet = true

variable {env : Env} {A : Stmt → Prop}

/-! ## Pieces that several requests share -/

theorem uses_publish {event : Int → DomainEvent} (hclock : A .newDate)
    (hevent : ∀ at', A (.publish (event at'))) :
    (newDate.bind fun timestamp => EventService.safePublish (event timestamp)).Uses A :=
  uses_perform_bind hclock fun _ => uses_tryCatch ((uses_perform _).mpr (hevent _)) fun _ => trivial

theorem uses_revokeAllUserTokens {u : Nat} {reason : String} (hclock : A .newDate)
    (h : ∀ at', A (.revokeAllByUserId u reason at')) :
    (TokenService.revokeAllUserTokens u reason).Uses A :=
  uses_bind (uses_perform_bind hclock fun at' => (uses_perform _).mpr (h at')) fun _ => trivial

theorem uses_generateRefreshToken_of_tacit {u : Nat}
    {deviceFingerprint ipAddress userAgent : Option String} (hq : ∀ s, s.tacit = true → A s)
    (h : ∀ data, data.userId = u → A (.createRefreshToken data)) :
    (TokenService.generateRefreshToken env u deviceFingerprint ipAddress userAgent).Uses A := by
  unfold TokenService.generateRefreshToken RefreshTokenRepository.create
  refine uses_perform_bind (hq _ rfl) fun _ => ?_
  refine uses_perform_bind (hq _ rfl) fun _ => ?_
  refine uses_bind (uses_perform_bind (hq _ rfl) fun _ => ?_) fun _ => trivial
  exact (uses_perform _).mpr (h _ rfl)

theorem uses_generateRefreshToken {u : Nat} {deviceFingerprint ipAddress userAgent : Option String}
    (hq : ∀ s, s.quiet = true → A s) (h : ∀ data, data.userId = u → A (.createRefreshToken data)) :
    (TokenService.generateRefreshToken env u deviceFingerprint ipAddress userAgent).Uses A :=
  uses_generateRefreshToken_of_tacit (fun s hs => hq s (quiet_of_blind (blind_of_tacit hs))) h

theorem uses_enforceMaxSessions_of {u : Nat} (hclock : A .newDate)
    (hcount : ∀ at', A (.countActiveByUserId u at'))
    (holdest : ∀ at', A (.findOldestActiveByUserId u at'))
    (h : ∀ id at', A (.revokeToken id "max_sessions_exceeded" at')) :
    (SessionService.enforceMaxSessions env u).Uses A := by
  unfold SessionService.enforceMaxSessions
  refine uses_bind (uses_perform_bind hclock fun at' => (uses_perform _).mpr (hcount at'))
    fun activeCount => ?_
  split
  · trivial
  · refine uses_repeatN ?_
    refine uses_bind (uses_perform_bind hclock fun at' => (uses_perform _).mpr (holdest at'))
      fun oldestToken? => ?_
    cases oldestToken? with
    | none => trivial
    | some t => exact uses_perform_bind hclock fun at' => (uses_perform _).mpr (h t.id at')

theorem uses_enforceMaxSessions_of_tacit {u : Nat} (hq : ∀ s, s.tacit = true → A s)
    (h : ∀ id at', A (.revokeToken id "max_sessions_exceeded" at')) :
    (SessionService.enforceMaxSessions env u).Uses A :=
  uses_enforceMaxSessions_of (hq _ rfl) (fun _ => hq _ rfl) (fun _ => hq _ rfl) h

theorem uses_enforceMaxSessions {u : Nat} (hq : ∀ s, s.quiet = true → A s)
    (h : ∀ id at', A (.revokeToken id "max_sessions_exceeded" at')) :
    (SessionService.enforceMaxSessions env u).Uses A :=
  uses_enforceMaxSessions_of_tacit (fun s hs => hq s (quiet_of_blind (blind_of_tacit hs))) h

theorem issueFootprint_of_quiet {a : Nat} {s : Stmt} (h : s.quiet = true) : issueFootprint a s := by
  cases s <;> first | exact h | cases h

theorem loginFootprint_of_issue {a : Nat} {s : Stmt} (h : issueFootprint a s) :
    loginFootprint a s := by
  cases s <;> first | exact h | cases h

theorem loginFootprint_of_quiet {a : Nat} {s : Stmt} (h : s.quiet = true) : loginFootprint a s :=
  loginFootprint_of_issue (issueFootprint_of_quiet h)

theorem rotateFootprint_of_quiet {t : RefreshToken} {s : Stmt} (h : s.quiet = true) :
    rotateFootprint t s := by
  cases s <;> first | exact h | cases h

theorem Request.footprint_of_quiet (r : Request) {s : Stmt} (h : s.quiet = true) :
    r.footprint s := by
  cases r
  case register => cases s <;> first | exact ⟨0, h⟩ | cases h
  case login => cases s <;> first | exact ⟨0, h⟩ | cases h
  case refreshToken => cases s <;> first | exact .inl h | cases h
  all_goals cases s <;> first | exact h | cases h

/-! ## The flows -/

theorem uses_registerSession (c : UserCredential) (ipAddress userAgent : Option String) :
    (AuthService.registerSession env c ipAddress userAgent).Uses (issueFootprint c.id) := by
  have hq : ∀ s : Stmt, s.quiet = true → issueFootprint c.id s := fun s h =>
    issueFootprint_of_quiet h
  unfold AuthService.registerSession
  refine uses_perform_bind rfl fun accessToken => ?_
  refine uses_bind (uses_generateRefreshToken hq fun data hd => hd) fun pair => ?_
  refine uses_bind (uses_enforceMaxSessions hq fun id at' => rfl) fun _ => ?_
  refine uses_bind (uses_publish (hq _ rfl) fun _ => hq _ rfl) fun _ => ?_
  exact uses_perform_bind (hq _ rfl) fun _ => trivial

theorem uses_register (email password : String) (ipAddress userAgent : Option String) :
    (AuthService.register env email password ipAddress userAgent).Uses
      (Request.footprint (.register email password ipAddress userAgent)) := by
  have hq := fun s => Request.footprint_of_quiet (.register email password ipAddress userAgent)
    (s := s)
  unfold AuthService.register
  refine uses_perform_bind (hq _ rfl) fun existing => ?_
  cases existing with
  | some c => trivial
  | none =>
    refine uses_bind (uses_perform_bind (hq _ rfl) fun _ => (uses_perform _).mpr rfl) fun c => ?_
    exact (uses_registerSession c ipAddress userAgent).mono fun s h => by
      cases s <;> first | exact ⟨c.id, h⟩ | cases h

/-- The branch of `login` for a wrong password, its event and its audit row included. -/
theorem uses_loginFailed_of (c : UserCredential) (email : String)
    (ipAddress userAgent : Option String) (hclock : A .newDate)
    (hcount : A (.incrementFailedAttempts c.id))
    (hfailed : ∀ ip n at', A (.publish (.loginFailed email ip n at')))
    (hlock : ∀ lockedUntil, A (.lockAccount c.id (some lockedUntil)))
    (hlocked : ∀ reason lockedUntil at', A (.publish (.accountLocked c.id reason lockedUntil at')))
    (hrevoke : ∀ at', A (.revokeAllByUserId c.id "account_locked:brute_force" at'))
    (hlog : ∀ metadata, A (.createAuditLog
      (AuthService.loginFailure (some c.id) email ipAddress userAgent metadata))) :
    (AuthService.loginFailed env c email ipAddress userAgent).Uses A := by
  unfold AuthService.loginFailed UserCredentialRepository.incrementFailedAttempts
  simp only [bind_eq, bind_assoc]
  refine uses_perform_bind hcount fun attempts? => ?_
  cases attempts? with
  | none => trivial
  | some n =>
    simp only [pure_eq, ret_bind]
    refine uses_bind (uses_publish hclock fun at' => hfailed _ _ at') fun _ => ?_
    refine uses_bind ?_ fun _ => uses_perform_bind (hlog _) fun _ => trivial
    unfold AuthService.lockOnBruteForce
    split
    · refine uses_perform_bind hclock fun _ => ?_
      refine uses_perform_bind (hlock _) fun _ => ?_
      refine uses_bind (uses_publish hclock fun at' => hlocked _ _ at') fun _ => ?_
      exact uses_revokeAllUserTokens hclock hrevoke
    · trivial

theorem uses_loginFailed_of_blind (c : UserCredential) (email : String)
    (ipAddress userAgent : Option String) (hq : ∀ s, s.blind = true → A s)
    (hcount : A (.incrementFailedAttempts c.id))
    (hlock : ∀ lockedUntil, A (.lockAccount c.id (some lockedUntil)))
    (hrevoke : ∀ at', A (.revokeAllByUserId c.id "account_locked:brute_force" at')) :
    (AuthService.loginFailed env c email ipAddress userAgent).Uses A :=
  uses_loginFailed_of c email ipAddress userAgent (hq _ rfl) hcount
    (fun _ _ _ => hq _ rfl) hlock (fun _ _ _ => hq _ rfl) hrevoke fun _ => hq _ rfl

theorem uses_loginFailed (c : UserCredential) (email : String) (ipAddress userAgent : Option String)
    (hq : ∀ s, s.quiet = true → A s) (hcount : A (.incrementFailedAttempts c.id))
    (hlock : ∀ lockedUntil, A (.lockAccount c.id (some lockedUntil)))
    (hrevoke : ∀ at', A (.revokeAllByUserId c.id "account_locked:brute_force" at')) :
    (AuthService.loginFailed env c email ipAddress userAgent).Uses A :=
  uses_loginFailed_of_blind c email ipAddress userAgent (fun s hs => hq s (quiet_of_blind hs)) hcount
    hlock hrevoke

/-- The success path of `login`, its event and its audit row included. -/
theorem uses_loginSucceeded_of_tacit (c : UserCredential) (email : String)
    (ipAddress userAgent : Option String) (hq : ∀ s, s.tacit = true → A s)
    (hreset : A (.resetFailedAttempts c.id)) (hlast : ∀ ip at', A (.updateLastLogin c.id ip at'))
    (hsign : A (.signAccessToken c.id c.email c.roles .access))
    (hcreate : ∀ data, data.userId = c.id → A (.createRefreshToken data))
    (hevict : ∀ id at', A (.revokeToken id "max_sessions_exceeded" at'))
    (hevent : ∀ ip fingerprint at', A (.publish (.userLoggedIn c.id c.email ip fingerprint at')))
    (hlog : ∀ metadata, A (.createAuditLog ⟨"LOGIN", some c.id, some email, ipAddress, userAgent,
      .success, some metadata⟩)) :
    (AuthService.loginSucceeded env c email ipAddress userAgent).Uses A := by
  unfold AuthService.loginSucceeded
  refine uses_perform_bind hreset fun _ => ?_
  refine uses_bind (uses_perform_bind (hq _ rfl) fun _ => (uses_perform _).mpr (hlast _ _))
    fun _ => ?_
  refine uses_perform_bind hsign fun accessToken => ?_
  refine uses_bind (uses_generateRefreshToken_of_tacit hq hcreate) fun pair => ?_
  refine uses_bind (uses_enforceMaxSessions_of_tacit hq hevict) fun _ => ?_
  refine uses_bind (uses_publish (hq _ rfl) fun at' => hevent _ _ at') fun _ => ?_
  exact uses_perform_bind (hlog _) fun _ => trivial

theorem uses_loginSucceeded_of_blind (c : UserCredential) (email : String)
    (ipAddress userAgent : Option String) (hq : ∀ s, s.blind = true → A s)
    (hreset : A (.resetFailedAttempts c.id)) (hlast : ∀ ip at', A (.updateLastLogin c.id ip at'))
    (hsign : A (.signAccessToken c.id c.email c.roles .access))
    (hcreate : ∀ data, data.userId = c.id → A (.createRefreshToken data))
    (hevict : ∀ id at', A (.revokeToken id "max_sessions_exceeded" at')) :
    (AuthService.loginSucceeded env c email ipAddress userAgent).Uses A :=
  uses_loginSucceeded_of_tacit c email ipAddress userAgent (fun s hs => hq s (blind_of_tacit hs))
    hreset hlast hsign hcreate hevict (fun _ _ _ => hq _ rfl) fun _ => hq _ rfl

theorem uses_loginVerify (c : UserCredential) (email password : String)
    (ipAddress userAgent : Option String) :
    (AuthService.loginVerify env c email password ipAddress userAgent).Uses
      (loginFootprint c.id) := by
  have hq : ∀ s : Stmt, s.quiet = true → loginFootprint c.id s := fun s h =>
    loginFootprint_of_quiet h
  unfold AuthService.loginVerify
  refine uses_perform_bind (hq _ rfl) fun valid => ?_
  split
  · exact uses_loginSucceeded_of_blind c email ipAddress userAgent
      (fun s hs => hq s (quiet_of_blind hs)) rfl (fun _ _ => rfl) rfl (fun _ hd => hd)
      fun _ _ => rfl
  · exact uses_loginFailed c email ipAddress userAgent hq rfl (fun _ => ⟨rfl, rfl⟩)
      fun _ => ⟨rfl, rfl⟩

/-- The statements of `login` between the lookup and the password check. -/
def Stmt.admits : Stmt → Bool
  | .findCredentialByEmail _ => true
  | .newDate => true
  | .unlockAccount _ => true
  | _ => false

/-- Every way that a login can go: it is refused, with an audit row or (a deleted account) without, or
goes on to the password check of the account that it has found. -/
theorem login_induction {P : AuthProg AuthResponse → Prop} {email password : String}
    {ipAddress userAgent : Option String}
    (hstep : ∀ (s : Stmt) (f : s.Reply → AuthProg AuthResponse), s.admits = true → (∀ a, P (f a)) →
      P ((query s).bind f))
    (hrefused : ∀ entry e, P ((AuditLogRepository.create entry).bind fun _ => .throw e))
    (hdeleted : ∀ e, P (.throw e))
    (hverify : ∀ c, P (AuthService.loginVerify env c email password ipAddress userAgent)) :
    P (AuthService.login env email password ipAddress userAgent) := by
  unfold AuthService.login
  refine hstep _ _ rfl fun credential? => ?_
  cases credential? with
  | none => exact hrefused _ _
  | some c =>
    cases hs : c.status with
    | active => simp only [hs]; exact hverify c
    | banned => simp only [hs]; exact hrefused _ _
    | deleted => simp only [hs]; exact hdeleted _
    | locked =>
      cases hl : c.lockedUntil with
      | none => simp only [hs, hl]; exact hrefused _ _
      | some lockedUntil =>
        simp only [hs, hl]
        refine hstep _ _ rfl fun now => ?_
        split
        · exact hstep _ _ rfl fun _ => hverify c
        · exact hrefused _ _

theorem uses_login (email password : String) (ipAddress userAgent : Option String) :
    (AuthService.login env email password ipAddress userAgent).Uses
      (Request.footprint (.login email password ipAddress userAgent)) := by
  have hq := fun s => Request.footprint_of_quiet (.login email password ipAddress userAgent)
    (s := s)
  refine login_induction (fun s f hs hf => uses_perform_bind ?_ hf)
    (fun _ _ => uses_perform_bind (hq _ rfl) fun _ => trivial) (fun _ => trivial) fun c => ?_
  · cases s <;> first | exact hq _ rfl | trivial
  · refine (uses_loginVerify c email password ipAddress userAgent).mono fun s h => ?_
    cases s <;> first | exact ⟨c.id, h⟩ | trivial

theorem uses_rotate (t : RefreshToken) (ipAddress userAgent : Option String) :
    (TokenService.rotate env t ipAddress userAgent).Uses (rotateFootprint t) := by
  have hq : ∀ s : Stmt, s.quiet = true → rotateFootprint t s := fun s h =>
    rotateFootprint_of_quiet h
  unfold TokenService.rotate
  refine uses_bind (uses_perform_bind (hq _ rfl) fun _ => (uses_perform _).mpr ⟨rfl, rfl⟩)
    fun _ => ?_
  refine uses_bind (uses_generateRefreshToken hq fun data hd => hd) fun pair => ?_
  refine uses_perform_bind rfl fun _ => ?_
  refine uses_bind (uses_perform_bind (hq _ rfl) fun _ => (uses_perform _).mpr trivial) fun _ => ?_
  trivial

theorem uses_refreshTokens (rawRefreshToken : Nat) (ipAddress userAgent : Option String) :
    (TokenService.refreshTokens env rawRefreshToken ipAddress userAgent).Uses refreshFootprint := by
  have hq : ∀ s : Stmt, s.quiet = true → refreshFootprint s := fun s h => by
    cases s <;> first | exact .inl h | cases h
  unfold TokenService.refreshTokens
  refine uses_perform_bind (hq _ rfl) fun existing? => ?_
  cases existing? with
  | none => trivial
  | some t =>
    simp only
    split
    · exact uses_bind (uses_revokeAllUserTokens (hq _ rfl) fun at' => rfl) fun _ => trivial
    · refine uses_perform_bind (hq _ rfl) fun now => ?_
      split
      · trivial
      · exact (uses_rotate t ipAddress userAgent).mono fun s h => by
          cases s <;> first | exact .inr ⟨t, h⟩ | cases h

/-- A refresh emits nothing. -/
theorem uses_refreshTokens_of_tacit (rawRefreshToken : Nat) (ipAddress userAgent : Option String)
    (hq : ∀ s, s.tacit = true → A s)
    (halarm : ∀ u at', A (.revokeAllByUserId u "token_reuse_detected" at'))
    (hrevoke : ∀ id at', A (.revokeToken id "rotated" at'))
    (hcreate : ∀ data, A (.createRefreshToken data)) (hlink : ∀ i j, A (.setReplacedBy i j))
    (hused : ∀ id at', A (.updateLastUsed id at')) :
    (TokenService.refreshTokens env rawRefreshToken ipAddress userAgent).Uses A := by
  unfold TokenService.refreshTokens
  refine uses_perform_bind (hq _ rfl) fun existing? => ?_
  cases existing? with
  | none => trivial
  | some t =>
    simp only
    split
    · exact uses_bind (uses_revokeAllUserTokens (hq _ rfl) (halarm _)) fun _ => trivial
    · refine uses_perform_bind (hq _ rfl) fun now => ?_
      split
      · trivial
      · unfold TokenService.rotate
        refine uses_bind (uses_perform_bind (hq _ rfl) fun _ => (uses_perform _).mpr (hrevoke _ _))
          fun _ => ?_
        refine uses_bind (uses_generateRefreshToken_of_tacit hq fun _ _ => hcreate _) fun pair => ?_
        refine uses_perform_bind (hlink _ _) fun _ => ?_
        exact uses_bind (uses_perform_bind (hq _ rfl) fun _ => (uses_perform _).mpr (hused _ _))
          fun _ => trivial

theorem uses_issueAccessToken (result : RefreshResult) (hfind : ∀ id, A (.findCredentialById id))
    (h : ∀ sub email roles, A (.signAccessToken sub email roles .access)) :
    (AuthController.issueAccessToken result).Uses A := by
  unfold AuthController.issueAccessToken
  refine uses_perform_bind (hfind _) fun credential? => ?_
  cases credential? with
  | none => trivial
  | some c => exact uses_perform_bind (h _ _ _) fun _ => trivial

theorem uses_refreshToken (rawRefreshToken : Nat) :
    (AuthController.refreshToken env rawRefreshToken).Uses
      (Request.footprint (.refreshToken rawRefreshToken)) := by
  have hq := fun s => Request.footprint_of_quiet (.refreshToken rawRefreshToken) (s := s)
  unfold AuthController.refreshToken
  refine uses_bind ((uses_refreshTokens rawRefreshToken none none).mono fun s h => ?_)
    fun result => uses_issueAccessToken result (fun _ => hq _ rfl) fun _ _ _ => trivial
  cases s <;> first | exact h | trivial

theorem uses_logoutSession {accessToken : Jwt} {refreshToken : Nat}
    (hfind : A (.findRefreshTokenByHash (hashToken refreshToken))) (hclock : A .newDate)
    (h : ∀ id at', A (.revokeToken id "logout" at')) :
    (AuthService.logoutSession accessToken refreshToken).Uses A := by
  unfold AuthService.logoutSession
  refine uses_perform_bind hfind fun entity? => ?_
  cases entity? with
  | none => trivial
  | some t =>
    exact uses_bind (uses_perform_bind hclock fun at' => (uses_perform _).mpr (h t.id at'))
      fun _ => trivial

theorem uses_revokeAccessToken {accessToken : Jwt} (hclock : A .newDate)
    (hset : ∀ jti ttlSeconds, 0 < ttlSeconds → A (.setBlacklist jti ttlSeconds)) :
    (TokenService.revokeAccessToken accessToken).Uses A := by
  unfold TokenService.revokeAccessToken
  split
  · trivial
  · refine uses_perform_bind hclock fun now => ?_
    simp only
    split
    · rename_i httl
      unfold BlacklistService.blacklistToken
      split
      · trivial
      · exact (uses_perform _).mpr (hset _ _ httl)
    · trivial

theorem uses_publishLogout {userId jti : Option Nat} (hclock : A .newDate)
    (hevent : ∀ u j at', A (.publish (.userLoggedOut u j at'))) :
    (AuthService.publishLogout userId jti).Uses A := by
  unfold AuthService.publishLogout
  split
  · exact uses_publish hclock fun at' => hevent _ _ at'
  · trivial

/-- A logout, its event and its audit row included. -/
theorem uses_logout_of (accessToken : Jwt) (refreshToken : Nat)
    (ipAddress userAgent : Option String) (hclock : A .newDate)
    (hfind : A (.findRefreshTokenByHash (hashToken refreshToken)))
    (hset : ∀ jti ttlSeconds, 0 < ttlSeconds → A (.setBlacklist jti ttlSeconds))
    (hrevoke : ∀ id at', A (.revokeToken id "logout" at'))
    (hevent : ∀ u j at', A (.publish (.userLoggedOut u j at')))
    (hlog : ∀ userId metadata, A (.createAuditLog ⟨"LOGOUT", userId, none, ipAddress, userAgent,
      .success, some metadata⟩)) :
    (AuthService.logout accessToken refreshToken ipAddress userAgent).Uses A := by
  unfold AuthService.logout
  refine uses_bind (uses_revokeAccessToken hclock hset) fun _ => ?_
  refine uses_bind (uses_logoutSession hfind hclock hrevoke) fun userId => ?_
  exact uses_bind (uses_publishLogout hclock hevent) fun _ => (uses_perform _).mpr (hlog _ _)

theorem uses_logout_of_tacit (accessToken : Jwt) (refreshToken : Nat)
    (ipAddress userAgent : Option String) (hq : ∀ s, s.tacit = true → A s)
    (hset : ∀ jti ttlSeconds, 0 < ttlSeconds → A (.setBlacklist jti ttlSeconds))
    (hrevoke : ∀ id at', A (.revokeToken id "logout" at'))
    (hevent : ∀ u j at', A (.publish (.userLoggedOut u j at')))
    (hlog : ∀ userId metadata, A (.createAuditLog ⟨"LOGOUT", userId, none, ipAddress, userAgent,
      .success, some metadata⟩)) :
    (AuthService.logout accessToken refreshToken ipAddress userAgent).Uses A :=
  uses_logout_of accessToken refreshToken ipAddress userAgent (hq _ rfl) (hq _ rfl) hset hrevoke
    hevent hlog

theorem uses_logout (accessToken : Jwt) (refreshToken : Nat) (ipAddress userAgent : Option String) :
    (AuthService.logout accessToken refreshToken ipAddress userAgent).Uses
      (Request.footprint (.logout accessToken refreshToken ipAddress userAgent)) := by
  have hq := fun s => Request.footprint_of_quiet
    (.logout accessToken refreshToken ipAddress userAgent) (s := s)
  exact uses_logout_of_tacit accessToken refreshToken ipAddress userAgent
    (fun s hs => hq s (quiet_of_blind (blind_of_tacit hs))) (fun _ _ h => h) (fun _ _ => rfl)
    (fun _ _ _ => hq _ rfl) fun _ _ => hq _ rfl

theorem uses_validateAccessToken (token : Jwt) (hclock : A .newDate)
    (hexists : ∀ jti, A (.existsBlacklist jti)) :
    (TokenService.validateAccessToken env token).Uses A := by
  unfold TokenService.validateAccessToken
  refine uses_perform_bind hclock fun now => ?_
  split
  · trivial
  · trivial
  · refine uses_bind (uses_tryCatch ((uses_perform _).mpr (hexists _)) fun _ => trivial)
      fun blacklisted => ?_
    split
    · trivial
    · trivial

theorem uses_introspect_of (token : Jwt) (hclock : A .newDate)
    (hexists : ∀ jti, A (.existsBlacklist jti)) : (TokenController.introspect env token).Uses A := by
  refine uses_bind (uses_validateAccessToken token hclock hexists) fun result => ?_
  split
  · trivial
  · trivial

theorem uses_introspect (token : Jwt) :
    (TokenController.introspect env token).Uses (Request.footprint (.introspect token)) :=
  uses_introspect_of token rfl fun _ => rfl

theorem uses_validateToken_of (token : Jwt) (hclock : A .newDate)
    (hexists : ∀ jti, A (.existsBlacklist jti)) (hfind : ∀ id, A (.findCredentialById id)) :
    (AuthService.validateToken env token).Uses A := by
  unfold AuthService.validateToken
  refine uses_bind (uses_validateAccessToken token hclock hexists) fun result => ?_
  split
  · refine uses_tryCatch ?_ fun _ => trivial
    refine uses_perform_bind (hfind _) fun user? => ?_
    cases user? with
    | none => trivial
    | some user =>
      simp only
      split
      · split
        · refine uses_perform_bind hclock fun now => ?_
          split
          · trivial
          · trivial
        · trivial
      · trivial
      · trivial
      · trivial
  · trivial

theorem uses_validateToken (token : Jwt) :
    (AuthService.validateToken env token).Uses (Request.footprint (.validateToken token)) :=
  uses_validateToken_of token rfl (fun _ => rfl) fun _ => rfl

theorem uses_forgotPassword (email : String) (ipAddress : Option String) :
    (AuthService.forgotPassword env email ipAddress).Uses
      (Request.footprint (.forgotPassword email ipAddress)) := by
  have hq := fun s => Request.footprint_of_quiet (.forgotPassword email ipAddress) (s := s)
  unfold AuthService.forgotPassword
  refine uses_perform_bind (hq _ rfl) fun user? => ?_
  cases user? with
  | none => trivial
  | some user =>
    refine uses_perform_bind (hq _ rfl) fun rawToken => ?_
    refine uses_perform_bind (hq _ rfl) fun now => ?_
    refine uses_perform_bind trivial fun _ => ?_
    refine uses_perform_bind trivial fun _ => ?_
    refine uses_bind (uses_publish (hq _ rfl) fun _ => hq _ rfl) fun _ => ?_
    exact (uses_perform _).mpr (hq _ rfl)

theorem uses_resetPassword (rawToken : Nat) (newPassword : String) (ipAddress : Option String) :
    (AuthService.resetPassword rawToken newPassword ipAddress).Uses
      (Request.footprint (.resetPassword rawToken newPassword ipAddress)) := by
  have hq := fun s => Request.footprint_of_quiet (.resetPassword rawToken newPassword ipAddress)
    (s := s)
  unfold AuthService.resetPassword
  refine uses_perform_bind (hq _ rfl) fun resetToken? => ?_
  cases resetToken? with
  | none => trivial
  | some t =>
    simp only
    split
    · trivial
    · refine uses_perform_bind (hq _ rfl) fun now => ?_
      split
      · trivial
      · unfold AuthService.redeem CredentialService.updatePassword
          UserCredentialRepository.updatePassword
        simp only [bind_eq, bind_assoc]
        refine uses_perform_bind (hq _ rfl) fun hash => ?_
        refine uses_perform_bind (hq _ rfl) fun at' => ?_
        refine uses_perform_bind trivial fun _ => ?_
        refine uses_bind (uses_perform_bind (hq _ rfl) fun _ => (uses_perform _).mpr trivial)
          fun _ => ?_
        refine uses_perform_bind trivial fun _ => ?_
        refine uses_bind (uses_revokeAllUserTokens (hq _ rfl) fun at' => rfl) fun _ => ?_
        refine uses_bind (uses_publish (hq _ rfl) fun _ => hq _ rfl) fun _ => ?_
        exact (uses_perform _).mpr (hq _ rfl)

theorem uses_lockAccount (u : Nat) (reason : String) (duration : Option Nat)
    (adminUserId : Option String) :
    (AccountService.lockAccount env u reason duration adminUserId).Uses
      (Request.footprint (.lockAccount u reason duration adminUserId)) := by
  have hq := fun s => Request.footprint_of_quiet (.lockAccount u reason duration adminUserId)
    (s := s)
  have hrest : ∀ (lockedUntil : Option Int) (entry : AuditLog),
      (lockedUntil.isSome = true → ∃ n, duration = some (n + 1)) →
      ((UserCredentialRepository.lockAccount u lockedUntil).bind fun _ =>
        (TokenService.revokeAllUserTokens u ("account_locked:" ++ reason)).bind fun _ =>
          (EventService.publishAccountLocked u reason lockedUntil).bind fun _ =>
            AuditLogRepository.create entry).Uses
        (Request.footprint (.lockAccount u reason duration adminUserId)) := by
    intro lockedUntil entry hd
    refine uses_perform_bind ⟨rfl, hd⟩ fun _ => ?_
    refine uses_bind (uses_revokeAllUserTokens (hq _ rfl) fun at' => ⟨rfl, rfl⟩) fun _ => ?_
    exact uses_bind (uses_publish (hq _ rfl) fun _ => hq _ rfl) fun _ => (uses_perform _).mpr (hq _ rfl)
  unfold AccountService.lockAccount
  refine uses_perform_bind (hq _ rfl) fun user? => ?_
  cases user? with
  | none => trivial
  | some user =>
    show Uses _ (Prog.bind (AccountService.lockExpiry env duration) _)
    unfold AccountService.lockExpiry
    split
    · exact hrest none _ (by simp)
    · exact hrest none _ (by simp)
    · rename_i minutes hne
      refine uses_bind (uses_perform_bind (hq _ rfl) fun now => trivial) fun lockedUntil => ?_
      refine hrest lockedUntil _ fun _ => ?_
      cases minutes with
      | zero => exact absurd rfl hne
      | succ n => exact ⟨n, rfl⟩

theorem uses_unlockAccount (u : Nat) (adminUserId : Option String) :
    (AccountService.unlockAccount u adminUserId).Uses
      (Request.footprint (.unlockAccount u adminUserId)) := by
  have hq := fun s => Request.footprint_of_quiet (.unlockAccount u adminUserId) (s := s)
  unfold AccountService.unlockAccount
  refine uses_perform_bind (hq _ rfl) fun user? => ?_
  cases user? with
  | none => trivial
  | some user =>
    refine uses_perform_bind rfl fun _ => ?_
    exact uses_bind (uses_publish (hq _ rfl) fun _ => hq _ rfl) fun _ => (uses_perform _).mpr (hq _ rfl)

theorem uses_banUser (u : Nat) (reason : String) (adminUserId : Option String) :
    (AccountService.banUser u reason adminUserId).Uses
      (Request.footprint (.banUser u reason adminUserId)) := by
  have hq := fun s => Request.footprint_of_quiet (.banUser u reason adminUserId) (s := s)
  unfold AccountService.banUser
  refine uses_perform_bind (hq _ rfl) fun user? => ?_
  cases user? with
  | none => trivial
  | some user =>
    refine uses_perform_bind ⟨rfl, rfl⟩ fun _ => ?_
    refine uses_bind (uses_revokeAllUserTokens (hq _ rfl) fun at' => ⟨rfl, rfl⟩) fun _ => ?_
    exact uses_bind (uses_publish (hq _ rfl) fun _ => hq _ rfl) fun _ => (uses_perform _).mpr (hq _ rfl)

theorem uses_deleteCredentials (u : Nat) :
    (AccountService.deleteCredentials u).Uses (Request.footprint (.deleteCredentials u)) := by
  have hq := fun s => Request.footprint_of_quiet (.deleteCredentials u) (s := s)
  unfold AccountService.deleteCredentials
  refine uses_perform_bind rfl fun deleted => ?_
  exact uses_bind (uses_publish (hq _ rfl) fun _ => hq _ rfl) fun _ => (uses_perform _).mpr (hq _ rfl)

theorem uses_assignRole (u : Nat) (role assignedBy : String) :
    (RoleService.assignRole u role assignedBy).Uses
      (Request.footprint (.assignRole u role assignedBy)) := by
  have hq := fun s => Request.footprint_of_quiet (.assignRole u role assignedBy) (s := s)
  unfold RoleService.assignRole
  refine uses_perform_bind (hq _ rfl) fun user? => ?_
  cases user? with
  | none => trivial
  | some user =>
    refine uses_perform_bind (hq _ rfl) fun role? => ?_
    cases role? with
    | none => trivial
    | some r =>
      simp only
      split
      · trivial
      · refine uses_perform_bind rfl fun _ => ?_
        exact uses_bind (uses_revokeAllUserTokens (hq _ rfl) fun at' => ⟨rfl, rfl⟩) fun _ =>
          uses_publish (hq _ rfl) fun _ => hq _ rfl

theorem uses_revokeRole (u : Nat) (role revokedBy : String) :
    (RoleService.revokeRole u role revokedBy).Uses
      (Request.footprint (.revokeRole u role revokedBy)) := by
  have hq := fun s => Request.footprint_of_quiet (.revokeRole u role revokedBy) (s := s)
  unfold RoleService.revokeRole
  refine uses_perform_bind (hq _ rfl) fun user? => ?_
  cases user? with
  | none => trivial
  | some user =>
    simp only
    split
    · refine uses_perform_bind rfl fun _ => ?_
      exact uses_bind (uses_revokeAllUserTokens (hq _ rfl) fun at' => ⟨rfl, rfl⟩) fun _ =>
        uses_publish (hq _ rfl) fun _ => hq _ rfl
    · trivial

theorem uses_handleUnlock :
    UnlockExpiredLockoutsJob.handleUnlock.Uses (Request.footprint .unlockExpiredLockouts) := by
  unfold UnlockExpiredLockoutsJob.handleUnlock
  refine uses_tryCatch ?_ fun _ => trivial
  refine uses_bind (uses_perform_bind rfl fun now => (uses_perform _).mpr rfl) fun accounts => ?_
  exact uses_forEach fun c _ => uses_tryCatch ((uses_perform _).mpr trivial) fun _ => trivial

theorem uses_handle (r : Request) : (handle env r).Uses r.footprint := by
  cases r with
  | register email password ip ua =>
    exact uses_bind (uses_register email password ip ua) fun _ => trivial
  | login email password ip ua =>
    exact uses_bind (uses_login email password ip ua) fun _ => trivial
  | refreshToken raw => exact uses_bind (uses_refreshToken raw) fun _ => trivial
  | logout token raw ip ua => exact uses_bind (uses_logout token raw ip ua) fun _ => trivial
  | validateToken token => exact uses_bind (uses_validateToken token) fun _ => trivial
  | introspect token => exact uses_bind (uses_introspect token) fun _ => trivial
  | forgotPassword email ip => exact uses_bind (uses_forgotPassword email ip) fun _ => trivial
  | resetPassword raw password ip =>
    exact uses_bind (uses_resetPassword raw password ip) fun _ => trivial
  | lockAccount u reason duration admin =>
    exact uses_bind (uses_lockAccount u reason duration admin) fun _ => trivial
  | unlockAccount u admin => exact uses_bind (uses_unlockAccount u admin) fun _ => trivial
  | banUser u reason admin => exact uses_bind (uses_banUser u reason admin) fun _ => trivial
  | deleteCredentials u => exact uses_bind (uses_deleteCredentials u) fun _ => trivial
  | assignRole u role by' => exact uses_bind (uses_assignRole u role by') fun _ => trivial
  | revokeRole u role by' => exact uses_bind (uses_revokeRole u role by') fun _ => trivial
  | getUserRoles u =>
    refine uses_bind (uses_perform_bind rfl fun user? => ?_) fun _ => trivial
    cases user? <;> trivial
  | getAllRoles => exact uses_perform_bind rfl fun _ => trivial
  | revokeToken u reason =>
    have hq := fun s => Request.footprint_of_quiet (.revokeToken u reason) (s := s)
    refine uses_bind ?_ fun _ => trivial
    cases u with
    | none => trivial
    | some u => exact uses_revokeAllUserTokens (hq _ rfl) fun at' => ⟨rfl, rfl⟩
  | revokeAllTokens u reason =>
    have hq := fun s => Request.footprint_of_quiet (.revokeAllTokens u reason) (s := s)
    exact uses_bind (uses_revokeAllUserTokens (hq _ rfl) fun at' => ⟨rfl, rfl⟩) fun _ => trivial
  | revokeSession id =>
    exact uses_bind (uses_perform_bind rfl fun _ => (uses_perform _).mpr ⟨rfl, rfl⟩) fun _ => trivial
  | getActiveSessions u =>
    exact uses_bind (uses_bind (uses_perform_bind rfl fun _ => (uses_perform _).mpr rfl)
      fun _ => trivial) fun _ => trivial
  | unlockExpiredLockouts => exact uses_bind uses_handleUnlock fun _ => trivial
  | cleanupRefreshTokens =>
    refine uses_bind (uses_tryCatch ?_ fun _ => trivial) fun _ => trivial
    exact uses_bind (uses_perform_bind rfl fun _ => (uses_perform _).mpr trivial) fun _ => trivial
  | cleanupPasswordResets =>
    refine uses_bind (uses_tryCatch ?_ fun _ => trivial) fun _ => trivial
    exact uses_bind (uses_perform_bind rfl fun _ => (uses_perform _).mpr trivial) fun _ => trivial

/-- Statements that insert no row and set no rotation link. -/
def Stmt.plain : Stmt → Bool
  | .createCredential _ _ _ => false
  | .createRefreshToken _ => false
  | .setReplacedBy _ _ => false
  | .createPasswordResetToken _ _ _ => false
  | _ => true

/-- Requests that issue plain statements only. -/
def Request.plain : Request → Bool
  | .register _ _ _ _ => false
  | .login _ _ _ _ => false
  | .refreshToken _ => false
  | .forgotPassword _ _ => false
  | _ => true

theorem plain_of_quiet {s : Stmt} (h : s.quiet = true) : s.plain = true := by
  cases s <;> first | rfl | cases h

theorem plain_of_footprint {r : Request} (hr : r.plain = true) {s : Stmt} (hs : r.footprint s) :
    s.plain = true := by
  cases s
  case createCredential | createRefreshToken | setReplacedBy | createPasswordResetToken =>
    cases r <;> first | (cases hs; done) | cases hr
  all_goals rfl

/-- Requests that may touch `password_reset_tokens`. -/
def Request.touchesResets : Request → Bool
  | .forgotPassword _ _ => true
  | .resetPassword _ _ _ => true
  | .deleteCredentials _ => true
  | .cleanupPasswordResets => true
  | _ => false

theorem not_writesResetTokens {r : Request} (hr : r.touchesResets = false) {s : Stmt}
    (hs : r.footprint s) : s.writesResetTokens = false := by
  cases s
  case createPasswordResetToken | markAsUsed | deleteExpiredOrUsed | deleteResetTokensByUserId
      | deleteCredential =>
    cases r
    case register | login =>
      obtain ⟨a, ha⟩ := hs
      cases ha
    case refreshToken => rcases hs with hs | ⟨t, hs⟩ <;> cases hs
    all_goals first | (cases hs; done) | cases hr
  all_goals rfl

/-- What every statement of its footprint keeps, a request keeps. -/
theorem serve_invariant {I : World → Prop} {r : Request}
    (hI : ∀ s w, r.footprint s → I w → I (World.exec env s w).2) {w : World} (h : I w) :
    I (serve env r w).2 :=
  run_invariant (uses_handle r) hI h

theorem supply_serve (env : Env) (r : Request) (w : World) : w.supply ≤ (serve env r w).2.supply :=
  serve_invariant (I := fun v : World => w.supply ≤ v.supply)
    (fun s v _ hv => Nat.le_trans hv (World.exec_supply env s v)) (Nat.le_refl _)

theorem roles_serve (env : Env) (r : Request) (w : World) : (serve env r w).2.roles = w.roles :=
  serve_invariant (I := fun v : World => v.roles = w.roles)
    (fun s v _ hv => (World.exec_roles env s v).trans hv) rfl

end Auth
