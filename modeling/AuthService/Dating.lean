import AuthService.Footprint
import AuthService.Resumption.Pool

/-!
# AuthService.Dating

Where the dates that requests write come from.

* `Readings`     — the clock readings of a program so far, the latest first.
* `Dated`        — a revocation carries a reading, and a new session expires a number of days after
  one and is issued at the next.
* `dated_handle` — every request is dated, whatever the replies. In an interleaving a reading may be
  long past when the statement that carries it takes effect.
-/

namespace Auth

open Relational Resumption Prog

variable {env : Env} {α β : Type}

/-- Statements that carry no date into `refresh_tokens`. -/
def Stmt.undated : Stmt → Bool
  | .revokeToken _ _ _ => false
  | .revokeAllByUserId _ _ _ => false
  | .createRefreshToken _ => false
  | _ => true

/-- The session that a statement inserts. -/
def Stmt.inserts : Stmt → Option NewRefreshToken
  | .createRefreshToken data => some data
  | _ => none

/-- The date of a revocation. -/
def Stmt.revokedAt? : Stmt → Option Int
  | .revokeToken _ _ revokedAt => some revokedAt
  | .revokeAllByUserId _ _ revokedAt => some revokedAt
  | _ => none

/-- A row keeps the date of its revocation, or gets the statement's. -/
theorem revokedAt_onRefreshToken (s : Stmt) (t : RefreshToken) :
    (s.onRefreshToken t).revokedAt = t.revokedAt ∨
      ∃ revokedAt, s.revokedAt? = some revokedAt ∧
        (s.onRefreshToken t).revokedAt = some revokedAt := by
  cases s
  case revokeToken id reason revokedAt =>
    by_cases hid : t.id = id
    · refine .inr ⟨revokedAt, rfl, ?_⟩
      simp [Stmt.onRefreshToken, Stmt.tokenUpdate, Table.patchIf, hid, RefreshToken.revoke]
    · left
      simp [Stmt.onRefreshToken, Stmt.tokenUpdate, Table.patchIf, hid]
  case revokeAllByUserId userId reason revokedAt =>
    by_cases hp : (decide (t.userId = userId) && !t.revoked) = true
    · refine .inr ⟨revokedAt, rfl, ?_⟩
      simp only [Stmt.onRefreshToken, Stmt.tokenUpdate, Table.patchIf, if_pos hp]
      rfl
    · left
      simp only [Stmt.onRefreshToken, Stmt.tokenUpdate, Table.patchIf, if_neg hp]
  case setReplacedBy id j =>
    left
    simp only [Stmt.onRefreshToken, Stmt.tokenUpdate, Table.patchIf]
    split <;> rfl
  case updateLastUsed id lastUsedAt =>
    left
    simp only [Stmt.onRefreshToken, Stmt.tokenUpdate, Table.patchIf]
    split <;> rfl
  all_goals exact .inl rfl

namespace Readings

def next (φ : List Int) : (s : Stmt) → Except Exn s.Reply → List Int
  | .newDate, .ok now => now :: φ
  | _, _ => φ

def allowed (env : Env) (φ : List Int) : Stmt → Prop
  | .revokeToken _ _ revokedAt => revokedAt ∈ φ
  | .revokeAllByUserId _ _ revokedAt => revokedAt ∈ φ
  | .createRefreshToken data => ∃ now rest, φ = data.issuedAt :: now :: rest ∧
      data.expiresAt = env.zone.setDatePlus now env.refreshTokenExpiryDays
  | _ => True

def monitor (env : Env) : Monitor sig (List Int) := ⟨next, allowed env⟩

theorem allowed_of_undated {s : Stmt} (hs : s.undated = true) (φ : List Int) :
    (monitor env).allowed φ s := by
  cases s <;> trivial

theorem mem_of_allowed {s : Stmt} {φ : List Int} (ha : allowed env φ s) {revokedAt : Int}
    (hs : s.revokedAt? = some revokedAt) : revokedAt ∈ φ := by
  cases s
  case revokeToken | revokeAllByUserId =>
    cases hs
    exact ha
  all_goals cases hs

end Readings

/-- Whatever has been read before. -/
def Dated (env : Env) (p : AuthProg α) : Prop :=
  ∀ φ, (Readings.monitor env).Conforms (fun _ _ => True) φ p

theorem dated_of_uses {p : AuthProg α} (hp : p.Uses fun s : Stmt => s.undated = true) :
    Dated env p :=
  Monitor.tracks_of_uses hp fun φ _ hs => Readings.allowed_of_undated hs φ

theorem dated_bind {p : AuthProg α} {f : α → AuthProg β} (hp : Dated env p)
    (hf : ∀ a, Dated env (f a)) : Dated env (p.bind f) :=
  Monitor.tracks_bind hp hf

theorem dated_query {s : Stmt} (hs : s.undated = true) : Dated env (query s) :=
  dated_of_uses (p := query s) ((uses_perform (S := sig) s).mpr hs)

theorem dated_perform_bind {s : Stmt} {f : s.Reply → AuthProg α} (hs : s.undated = true)
    (hf : ∀ a, Dated env (f a)) : Dated env ((query s).bind f) :=
  dated_bind (dated_query hs) hf

theorem dated_publish {event : Int → DomainEvent} :
    Dated env (newDate.bind fun timestamp => EventService.safePublish (event timestamp)) :=
  dated_of_uses (uses_publish rfl fun _ => rfl)

/-! ## The statements that carry a date -/

theorem dated_revokeToken (id : Nat) (reason : String) :
    Dated env (RefreshTokenRepository.revokeToken id reason) := by
  intro φ
  refine Monitor.conforms_perform_bind trivial (fun revokedAt => ?_) fun _ => trivial
  exact Monitor.conforms_perform List.mem_cons_self fun _ => trivial

theorem dated_revokeAllUserTokens (userId : Nat) (reason : String) :
    Dated env (TokenService.revokeAllUserTokens userId reason) := by
  refine dated_bind (fun φ => ?_) fun _ => dated_of_uses trivial
  refine Monitor.conforms_perform_bind trivial (fun revokedAt => ?_) fun _ => trivial
  exact Monitor.conforms_perform List.mem_cons_self fun _ => trivial

theorem dated_generateRefreshToken (userId : Nat)
    (deviceFingerprint ipAddress userAgent : Option String) :
    Dated env
      (TokenService.generateRefreshToken env userId deviceFingerprint ipAddress userAgent) := by
  unfold TokenService.generateRefreshToken RefreshTokenRepository.create
  refine dated_perform_bind rfl fun rawToken φ => ?_
  refine Monitor.conforms_perform_bind trivial (fun now => ?_) fun _ => trivial
  refine Monitor.conforms_bind ?_
  refine Monitor.conforms_perform_bind trivial (fun issuedAt => ?_) fun _ => trivial
  refine Monitor.conforms_perform ⟨now, φ, rfl, rfl⟩ fun r => ?_
  cases r <;> trivial

theorem dated_enforceMaxSessions (userId : Nat) :
    Dated env (SessionService.enforceMaxSessions env userId) := by
  unfold SessionService.enforceMaxSessions
  refine dated_bind (dated_perform_bind rfl fun _ => dated_query rfl) fun activeCount => ?_
  split
  · exact dated_of_uses trivial
  · refine Monitor.tracks_repeatN ?_ _
    refine dated_bind (dated_perform_bind rfl fun _ => dated_query rfl) fun oldest? => ?_
    cases oldest? with
    | none => exact dated_of_uses trivial
    | some t => exact dated_revokeToken _ _

/-! ## The requests -/

theorem dated_registerSession (c : UserCredential) (ipAddress userAgent : Option String) :
    Dated env (AuthService.registerSession env c ipAddress userAgent) := by
  unfold AuthService.registerSession
  refine dated_perform_bind rfl fun accessToken => ?_
  refine dated_bind (dated_generateRefreshToken _ _ _ _) fun pair => ?_
  refine dated_bind (dated_enforceMaxSessions _) fun _ => ?_
  exact dated_bind dated_publish fun _ => dated_perform_bind rfl fun _ => dated_of_uses trivial

theorem dated_register (email password : String) (ipAddress userAgent : Option String) :
    Dated env (AuthService.register env email password ipAddress userAgent) := by
  unfold AuthService.register
  refine dated_perform_bind rfl fun existing => ?_
  cases existing with
  | some c => exact dated_of_uses trivial
  | none =>
    refine dated_bind ?_ fun c => dated_registerSession c ipAddress userAgent
    exact dated_perform_bind rfl fun _ => dated_query rfl

theorem dated_loginFailed (c : UserCredential) (email : String)
    (ipAddress userAgent : Option String) :
    Dated env (AuthService.loginFailed env c email ipAddress userAgent) := by
  unfold AuthService.loginFailed
  refine dated_bind ?_ fun attempts => ?_
  · refine dated_perform_bind rfl fun attempts? => ?_
    cases attempts? <;> exact dated_of_uses trivial
  · refine dated_bind dated_publish fun _ => ?_
    refine dated_bind ?_ fun _ => dated_perform_bind rfl fun _ => dated_of_uses trivial
    unfold AuthService.lockOnBruteForce
    split
    · refine dated_perform_bind rfl fun _ => ?_
      refine dated_perform_bind rfl fun _ => ?_
      exact dated_bind dated_publish fun _ => dated_revokeAllUserTokens _ _
    · exact dated_of_uses trivial

theorem dated_loginVerify (c : UserCredential) (email password : String)
    (ipAddress userAgent : Option String) :
    Dated env (AuthService.loginVerify env c email password ipAddress userAgent) := by
  unfold AuthService.loginVerify
  refine dated_perform_bind rfl fun valid => ?_
  split
  · unfold AuthService.loginSucceeded
    refine dated_perform_bind rfl fun _ => ?_
    refine dated_bind (dated_perform_bind rfl fun _ => dated_query rfl) fun _ => ?_
    refine dated_perform_bind rfl fun accessToken => ?_
    refine dated_bind (dated_generateRefreshToken _ _ _ _) fun pair => ?_
    refine dated_bind (dated_enforceMaxSessions _) fun _ => ?_
    exact dated_bind dated_publish fun _ => dated_perform_bind rfl fun _ => dated_of_uses trivial
  · exact dated_loginFailed c email ipAddress userAgent

theorem dated_login (email password : String) (ipAddress userAgent : Option String) :
    Dated env (AuthService.login env email password ipAddress userAgent) := by
  refine login_induction (fun s f hs hf => dated_perform_bind ?_ hf)
    (fun _ _ => dated_perform_bind rfl fun _ => dated_of_uses trivial) (fun _ => dated_of_uses trivial)
    fun c => dated_loginVerify c email password ipAddress userAgent
  cases s <;> first | rfl | cases hs

theorem dated_rotate (t : RefreshToken) (ipAddress userAgent : Option String) :
    Dated env (TokenService.rotate env t ipAddress userAgent) := by
  unfold TokenService.rotate
  refine dated_bind (dated_revokeToken _ _) fun _ => ?_
  refine dated_bind (dated_generateRefreshToken _ _ _ _) fun pair => dated_of_uses ?_
  refine uses_perform_bind rfl fun _ => ?_
  exact uses_bind (uses_perform_bind rfl fun _ => (uses_perform _).mpr rfl) fun _ => trivial

theorem dated_refreshToken (rawRefreshToken : Nat) :
    Dated env (AuthController.refreshToken env rawRefreshToken) := by
  unfold AuthController.refreshToken
  refine dated_bind ?_ fun result => dated_of_uses
    (uses_issueAccessToken result (fun _ => rfl) fun _ _ _ => rfl)
  unfold TokenService.refreshTokens
  refine dated_perform_bind rfl fun existing? => ?_
  cases existing? with
  | none => exact dated_of_uses trivial
  | some t =>
    simp only
    split
    · exact dated_bind (dated_revokeAllUserTokens _ _) fun _ => dated_of_uses trivial
    · refine dated_perform_bind rfl fun now => ?_
      split
      · exact dated_of_uses trivial
      · exact dated_rotate t none none

theorem dated_logout (accessToken : Jwt) (refreshToken : Nat)
    (ipAddress userAgent : Option String) :
    Dated env (AuthService.logout accessToken refreshToken ipAddress userAgent) := by
  unfold AuthService.logout
  refine dated_bind ?_ fun _ => dated_bind ?_ fun userId => ?_
  · unfold TokenService.revokeAccessToken
    split
    · exact dated_of_uses trivial
    · refine dated_perform_bind rfl fun now => ?_
      simp only
      split
      · unfold BlacklistService.blacklistToken
        split
        · exact dated_of_uses trivial
        · exact dated_query rfl
      · exact dated_of_uses trivial
  · unfold AuthService.logoutSession
    refine dated_perform_bind rfl fun token? => ?_
    cases token? with
    | none => exact dated_of_uses trivial
    | some t => exact dated_bind (dated_revokeToken _ _) fun _ => dated_of_uses trivial
  · refine dated_bind ?_ fun _ => dated_query rfl
    unfold AuthService.publishLogout
    split
    · exact dated_publish
    · exact dated_of_uses trivial

theorem dated_resetPassword (rawToken : Nat) (newPassword : String) (ipAddress : Option String) :
    Dated env (AuthService.resetPassword rawToken newPassword ipAddress) := by
  unfold AuthService.resetPassword
  refine dated_perform_bind rfl fun token? => ?_
  cases token? with
  | none => exact dated_of_uses trivial
  | some t =>
    simp only
    split
    · exact dated_of_uses trivial
    · refine dated_perform_bind rfl fun now => ?_
      split
      · exact dated_of_uses trivial
      · unfold AuthService.redeem
        refine dated_bind ?_ fun _ => ?_
        · exact dated_perform_bind rfl fun _ => dated_perform_bind rfl fun _ => dated_query rfl
        · refine dated_bind (dated_perform_bind rfl fun _ => dated_query rfl) fun _ => ?_
          refine dated_perform_bind rfl fun _ => ?_
          refine dated_bind (dated_revokeAllUserTokens _ _) fun _ => ?_
          exact dated_bind dated_publish fun _ => dated_query rfl

theorem dated_lockAccount (userId : Nat) (reason : String) (durationMinutes : Option Nat)
    (adminUserId : Option String) :
    Dated env (AccountService.lockAccount env userId reason durationMinutes adminUserId) := by
  unfold AccountService.lockAccount
  refine dated_perform_bind rfl fun user? => ?_
  cases user? with
  | none => exact dated_of_uses trivial
  | some c =>
    refine dated_bind ?_ fun lockedUntil => ?_
    · unfold AccountService.lockExpiry
      split
      · exact dated_of_uses trivial
      · exact dated_of_uses trivial
      · exact dated_perform_bind rfl fun _ => dated_of_uses trivial
    · refine dated_perform_bind rfl fun _ => ?_
      refine dated_bind (dated_revokeAllUserTokens _ _) fun _ => ?_
      exact dated_bind dated_publish fun _ => dated_query rfl

theorem dated_banUser (userId : Nat) (reason : String) (adminUserId : Option String) :
    Dated env (AccountService.banUser userId reason adminUserId) := by
  unfold AccountService.banUser
  refine dated_perform_bind rfl fun user? => ?_
  cases user? with
  | none => exact dated_of_uses trivial
  | some c =>
    refine dated_perform_bind rfl fun _ => ?_
    refine dated_bind (dated_revokeAllUserTokens _ _) fun _ => ?_
    exact dated_bind dated_publish fun _ => dated_query rfl

theorem dated_assignRole (userId : Nat) (role assignedBy : String) :
    Dated env (RoleService.assignRole userId role assignedBy) := by
  unfold RoleService.assignRole
  refine dated_perform_bind rfl fun user? => ?_
  cases user? with
  | none => exact dated_of_uses trivial
  | some c =>
    refine dated_perform_bind rfl fun entity? => ?_
    cases entity? with
    | none => exact dated_of_uses trivial
    | some entity =>
      simp only
      split
      · exact dated_of_uses trivial
      · refine dated_perform_bind rfl fun _ => ?_
        exact dated_bind (dated_revokeAllUserTokens _ _) fun _ => dated_publish

theorem dated_revokeRole (userId : Nat) (role revokedBy : String) :
    Dated env (RoleService.revokeRole userId role revokedBy) := by
  unfold RoleService.revokeRole
  refine dated_perform_bind rfl fun user? => ?_
  cases user? with
  | none => exact dated_of_uses trivial
  | some c =>
    simp only
    split
    · refine dated_perform_bind rfl fun _ => ?_
      exact dated_bind (dated_revokeAllUserTokens _ _) fun _ => dated_publish
    · exact dated_of_uses trivial

theorem dated_handle (env : Env) (r : Request) : Dated env (handle env r) := by
  cases r
  case register => exact dated_bind (dated_register _ _ _ _) fun _ => dated_of_uses trivial
  case login => exact dated_bind (dated_login _ _ _ _) fun _ => dated_of_uses trivial
  case refreshToken => exact dated_bind (dated_refreshToken _) fun _ => dated_of_uses trivial
  case logout => exact dated_bind (dated_logout _ _ _ _) fun _ => dated_of_uses trivial
  case resetPassword => exact dated_bind (dated_resetPassword _ _ _) fun _ => dated_of_uses trivial
  case lockAccount => exact dated_bind (dated_lockAccount _ _ _ _) fun _ => dated_of_uses trivial
  case banUser => exact dated_bind (dated_banUser _ _ _) fun _ => dated_of_uses trivial
  case assignRole => exact dated_bind (dated_assignRole _ _ _) fun _ => dated_of_uses trivial
  case revokeRole => exact dated_bind (dated_revokeRole _ _ _) fun _ => dated_of_uses trivial
  case revokeToken userId reason =>
    refine dated_bind ?_ fun _ => dated_of_uses trivial
    unfold AuthController.revokeToken
    cases userId with
    | none => exact dated_of_uses trivial
    | some u => exact dated_revokeAllUserTokens _ _
  case revokeAllTokens =>
    exact dated_bind (dated_revokeAllUserTokens _ _) fun _ => dated_of_uses trivial
  case revokeSession => exact dated_bind (dated_revokeToken _ _) fun _ => dated_of_uses trivial
  all_goals
    refine dated_of_uses ((uses_handle _).mono fun s hs => ?_)
    cases s <;> first | rfl | cases hs

end Auth
