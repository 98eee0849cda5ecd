import AuthService.Repositories

/-!
# AuthService.Services

The service classes, the three scheduled jobs and the controllers that add behaviour of their own,
method by method and statement by statement in the order of the source. Logging is left out; so are
`traceId` parameters, which only audit rows and events carry.

* `TokenService`, `SessionService`, `CredentialService` — tokens, sessions, passwords.
* `AuthService`, `AccountService`, `RoleService`        — the flows.
* `UnlockExpiredLockoutsJob` and the cleanup jobs       — the schedule.
* `AuthController`, `TokenController`                   — refresh, bulk revocation, introspection.
-/

namespace Auth

open Resumption Prog

structure RefreshResult where
  refreshToken : Nat
  expiresIn : Nat
  userId : Nat
  deriving DecidableEq

structure AuthResponse where
  accessToken : Jwt
  refreshToken : Nat
  expiresIn : Nat
  tokenType : String
  userId : Nat
  deriving DecidableEq

structure TokenValidationResult where
  valid : Bool
  payload : Option JwtPayload
  reason : Option String
  deriving DecidableEq

/-! ## token.util -/

def decodeToken : Jwt → Option DecodedClaims
  | .signed p => some ⟨some p.sub, some p.jti, some p.exp⟩
  | .unsigned claims => some claims
  | .malformed => none

def extractJti (token : Jwt) : Option Nat := (decodeToken token).bind (·.jti)

/-- Remaining seconds until expiry at `now`, or 0 if already expired. -/
def remainingTtl (token : Jwt) (now : Int) : Int :=
  match (decodeToken token).bind (·.exp) with
  | none => 0
  | some exp => if exp - World.seconds now > 0 then exp - World.seconds now else 0

inductive JwtError where
  | tokenExpiredError
  | jsonWebTokenError

/-- `jwt.verify`: signature, expiry, audience and issuer, in this order. -/
def verifyAccessToken (env : Env) (token : Jwt) (now : Int) : Except JwtError JwtPayload :=
  match token with
  | .malformed => .error .jsonWebTokenError
  | .unsigned _ => .error .jsonWebTokenError
  | .signed p =>
    if World.seconds now ≥ p.exp then .error .tokenExpiredError
    else if p.aud ≠ env.audience then .error .jsonWebTokenError
    else if p.iss ≠ env.issuer then .error .jsonWebTokenError
    else .ok p

namespace TokenService

variable (env : Env)

def generateAccessToken (userId : Nat) (email : String) (roles : List String) : AuthProg Jwt :=
  query (.signAccessToken userId email roles .access)

def generateRefreshToken (userId : Nat) (deviceFingerprint ipAddress userAgent : Option String) :
    AuthProg (Nat × RefreshToken) := do
  let rawToken ← uuidv4
  let tokenHash := hashToken rawToken
  let now ← newDate
  let expiresAt := env.zone.setDatePlus now env.refreshTokenExpiryDays
  let refreshTokenEntity ← RefreshTokenRepository.create userId tokenHash expiresAt
    deviceFingerprint ipAddress userAgent
  pure (rawToken, refreshTokenEntity)

def validateAccessToken (token : Jwt) : AuthProg TokenValidationResult := do
  let now ← newDate
  match verifyAccessToken env token now with
  | .error .tokenExpiredError => pure ⟨false, none, some "expired"⟩
  | .error .jsonWebTokenError => pure ⟨false, none, some "invalid_signature"⟩
  | .ok payload => do
    let isBlacklisted ← BlacklistService.isBlacklisted payload.jti
    if isBlacklisted then pure ⟨false, none, some "blacklisted"⟩
    else pure ⟨true, some payload, none⟩

/-- Only refresh tokens are touched. -/
def revokeAllUserTokens (userId : Nat) (reason : String) : AuthProg Unit := do
  let _ ← RefreshTokenRepository.revokeAllByUserId userId reason
  pure ()

/-- The part of `refreshTokens` after its checks: revoke the old token, issue and link the new. -/
def rotate (existingToken : RefreshToken) (ipAddress userAgent : Option String) :
    AuthProg RefreshResult := do
  RefreshTokenRepository.revokeToken existingToken.id "rotated"
  let deviceFingerprint := env.generateDeviceFingerprint userAgent ipAddress
  let userId := existingToken.userId
  let (newRawRefreshToken, newRefreshToken) ←
    generateRefreshToken env userId (some deviceFingerprint) ipAddress userAgent
  RefreshTokenRepository.setReplacedBy existingToken.id newRefreshToken.id
  RefreshTokenRepository.updateLastUsed newRefreshToken.id
  pure ⟨newRawRefreshToken, env.getAccessTokenExpirySeconds, userId⟩

def refreshTokens (rawRefreshToken : Nat) (ipAddress userAgent : Option String) :
    AuthProg RefreshResult := do
  let existingToken? ← RefreshTokenRepository.findByTokenHash (hashToken rawRefreshToken)
  match existingToken? with
  | none => Prog.throw (.error ErrorMessages.AUTH_REFRESH_TOKEN_INVALID)
  | some existingToken =>
    -- reuse detection: the token was already revoked
    if existingToken.revoked then do
      revokeAllUserTokens existingToken.userId "token_reuse_detected"
      Prog.throw (.error ErrorMessages.AUTH_TOKEN_REUSE_DETECTED)
    else do
      let now ← newDate
      if existingToken.expiresAt < now then
        Prog.throw (.error ErrorMessages.AUTH_REFRESH_TOKEN_INVALID)
      else rotate env existingToken ipAddress userAgent

def revokeAccessToken (token : Jwt) : AuthProg Unit :=
  match extractJti token with
  | none => pure ()
  | some jti => do
    let now ← newDate
    let ttl := remainingTtl token now
    if ttl > 0 then BlacklistService.blacklistToken jti ttl else pure ()

def revokeRefreshToken (tokenId : Nat) (reason : String) : AuthProg Unit :=
  RefreshTokenRepository.revokeToken tokenId reason

end TokenService

namespace SessionService

variable (env : Env)

structure SessionInfo where
  sessionId : Nat
  userId : Nat
  deviceFingerprint : Option String
  ipAddress : Option String
  userAgent : Option String
  issuedAt : Int
  expiresAt : Int
  lastUsedAt : Option Int
  deriving DecidableEq

def getActiveSessions (userId : Nat) : AuthProg (List SessionInfo) := do
  let activeTokens ← RefreshTokenRepository.findActiveByUserId userId
  pure (activeTokens.map fun token =>
    { sessionId := token.id, userId := token.userId, deviceFingerprint := token.deviceFingerprint,
      ipAddress := token.ipAddress, userAgent := token.userAgent, issuedAt := token.issuedAt,
      expiresAt := token.expiresAt, lastUsedAt := token.lastUsedAt })

/-- One pass of the eviction loop. -/
def evictOldest (userId : Nat) : AuthProg Unit := do
  let oldestToken? ← RefreshTokenRepository.findOldestActiveByUserId userId
  match oldestToken? with
  | some oldestToken => RefreshTokenRepository.revokeToken oldestToken.id "max_sessions_exceeded"
  | none => pure ()

def enforceMaxSessions (userId : Nat) : AuthProg Unit := do
  let activeCount ← RefreshTokenRepository.countActiveByUserId userId
  if activeCount ≤ env.maxSessions then pure ()
  else repeatN (evictOldest userId) (activeCount - env.maxSessions)

def revokeSession (sessionId : Nat) (reason : String) : AuthProg Unit :=
  RefreshTokenRepository.revokeToken sessionId reason

end SessionService

namespace CredentialService

def hashPassword (password : String) : AuthProg String := query (.hashPassword password)

def verifyPassword (storedHash password : String) : AuthProg Bool :=
  query (.verifyPassword storedHash password)

/-- The repository's default role list is `['USER']`. -/
def createCredential (email password : String) : AuthProg UserCredential := do
  let passwordHash ← hashPassword password
  UserCredentialRepository.createCredential email passwordHash ["USER"]

def updatePassword (userId : Nat) (newPassword : String) : AuthProg Unit := do
  let passwordHash ← hashPassword newPassword
  UserCredentialRepository.updatePassword userId passwordHash

end CredentialService

/-! ## auth.service -/

namespace AuthService

variable (env : Env)

/-- `register` after the account has been created: the first session. -/
def registerSession (credential : UserCredential) (ipAddress userAgent : Option String) :
    AuthProg AuthResponse := do
  let deviceFingerprint := env.generateDeviceFingerprint userAgent ipAddress
  let accessToken ←
    TokenService.generateAccessToken credential.id credential.email credential.roles
  let (refreshToken, _) ← TokenService.generateRefreshToken env credential.id
    (some deviceFingerprint) ipAddress userAgent
  SessionService.enforceMaxSessions env credential.id
  let expiresIn := env.getAccessTokenExpirySeconds
  EventService.publishUserCreated credential.id credential.email credential.roles
  AuditLogRepository.create
    { eventType := "REGISTER", userId := some credential.id, email := some credential.email,
      ipAddress, userAgent, outcome := .success, metadata := none }
  pure ⟨accessToken, refreshToken, expiresIn, "Bearer", credential.id⟩

def register (email password : String) (ipAddress userAgent : Option String) :
    AuthProg AuthResponse := do
  let existing ← UserCredentialRepository.findByEmail email
  match existing with
  | some _ => Prog.throw (.conflict ErrorMessages.AUTH_EMAIL_EXISTS)
  | none => do
    let credential ← CredentialService.createCredential email password
    registerSession env credential ipAddress userAgent

/-- The audit row of a refused login. -/
def loginFailure (userId : Option Nat) (email : String) (ipAddress userAgent : Option String)
    (metadata : List (String × MetaValue)) : AuditLog :=
  { eventType := "LOGIN", userId, email := some email, ipAddress, userAgent, outcome := .failure,
    metadata := some metadata }

/-- The lock inside the wrong-password branch of `login`. -/
def lockOnBruteForce (credential : UserCredential) (failedAttempts : Nat) : AuthProg Unit :=
  if failedAttempts ≥ env.maxLoginAttempts then do
    let now ← newDate
    let lockedUntil := env.zone.setMinutesPlus now env.lockoutDurationMinutes
    UserCredentialRepository.lockAccount credential.id (some lockedUntil)
    EventService.publishAccountLocked credential.id "brute_force" (some lockedUntil)
    TokenService.revokeAllUserTokens credential.id "account_locked:brute_force"
  else pure ()

/-- The branch of `login` for a wrong password. -/
def loginFailed (credential : UserCredential) (email : String)
    (ipAddress userAgent : Option String) : AuthProg AuthResponse := do
  let failedAttempts ← UserCredentialRepository.incrementFailedAttempts credential.id
  EventService.publishLoginFailed email (ipAddress.getD "unknown") failedAttempts
  lockOnBruteForce env credential failedAttempts
  AuditLogRepository.create (loginFailure (some credential.id) email ipAddress userAgent
    [("reason", .text "invalid_password"), ("failedAttempts", .number failedAttempts),
      ("accountLocked", .flag (failedAttempts ≥ env.maxLoginAttempts))])
  Prog.throw (.unauthorized ErrorMessages.AUTH_INVALID_CREDENTIALS)

/-- The success path of `login`. -/
def loginSucceeded (credential : UserCredential) (email : String)
    (ipAddress userAgent : Option String) : AuthProg AuthResponse := do
  UserCredentialRepository.resetFailedAttempts credential.id
  UserCredentialRepository.updateLastLogin credential.id (ipAddress.getD "unknown")
  let deviceFingerprint := env.generateDeviceFingerprint userAgent ipAddress
  let accessToken ←
    TokenService.generateAccessToken credential.id credential.email credential.roles
  let (refreshToken, _) ← TokenService.generateRefreshToken env credential.id
    (some deviceFingerprint) ipAddress userAgent
  SessionService.enforceMaxSessions env credential.id
  let expiresIn := env.getAccessTokenExpirySeconds
  EventService.publishUserLoggedIn credential.id credential.email (ipAddress.getD "unknown")
    deviceFingerprint
  AuditLogRepository.create
    { eventType := "LOGIN", userId := some credential.id, email := some email, ipAddress, userAgent,
      outcome := .success, metadata := some [("deviceFingerprint", .text deviceFingerprint)] }
  pure ⟨accessToken, refreshToken, expiresIn, "Bearer", credential.id⟩

/-- `login` from the password check on. -/
def loginVerify (credential : UserCredential) (email password : String)
    (ipAddress userAgent : Option String) : AuthProg AuthResponse := do
  let passwordValid ← CredentialService.verifyPassword credential.passwordHash password
  if passwordValid then loginSucceeded env credential email ipAddress userAgent
  else loginFailed env credential email ipAddress userAgent

def loginLocked (credential : UserCredential) (email : String)
    (ipAddress userAgent : Option String) : AuthProg AuthResponse := do
  AuditLogRepository.create (loginFailure (some credential.id) email ipAddress userAgent
    [("reason", .text "account_locked")])
  Prog.throw (.forbidden ErrorMessages.AUTH_ACCOUNT_LOCKED)

def login (email password : String) (ipAddress userAgent : Option String) :
    AuthProg AuthResponse := do
  let credential? ← UserCredentialRepository.findByEmail email
  match credential? with
  | none => do
    AuditLogRepository.create (loginFailure none email ipAddress userAgent
      [("reason", .text "email_not_found")])
    Prog.throw (.unauthorized ErrorMessages.AUTH_INVALID_CREDENTIALS)
  | some credential =>
    match credential.status with
    | .locked =>
      match credential.lockedUntil with
      | some lockedUntil => do
        let now ← newDate
        if lockedUntil ≤ now then
          -- the lock has expired; the row in memory still says LOCKED, which no later check tests
          UserCredentialRepository.unlockAccount credential.id
          loginVerify env credential email password ipAddress userAgent
        else loginLocked credential email ipAddress userAgent
      | none => loginLocked credential email ipAddress userAgent
    | .banned => do
      AuditLogRepository.create (loginFailure (some credential.id) email ipAddress userAgent
        [("reason", .text "account_banned")])
      Prog.throw (.forbidden ErrorMessages.AUTH_ACCOUNT_BANNED)
    | .deleted => Prog.throw (.unauthorized ErrorMessages.AUTH_INVALID_CREDENTIALS)
    | .active => loginVerify env credential email password ipAddress userAgent

/-- The refresh-token half of `logout`; its value is the `userId` of the audit row. -/
def logoutSession (accessToken : Jwt) (refreshToken : Nat) : AuthProg (Option Nat) := do
  let refreshTokenEntity? ← RefreshTokenRepository.findByTokenHash (hashToken refreshToken)
  match refreshTokenEntity? with
  | some refreshTokenEntity => do
    TokenService.revokeRefreshToken refreshTokenEntity.id "logout"
    pure (some refreshTokenEntity.userId)
  | none => pure ((decodeToken accessToken).bind (·.sub))

/-- `if (userId && jti)`. -/
def publishLogout (userId jti : Option Nat) : AuthProg Unit :=
  match userId, jti with
  | some userId, some jti => EventService.publishUserLoggedOut userId jti
  | _, _ => pure ()

def logout (accessToken : Jwt) (refreshToken : Nat) (ipAddress userAgent : Option String) :
    AuthProg Unit := do
  let jti := extractJti accessToken
  TokenService.revokeAccessToken accessToken
  let userId ← logoutSession accessToken refreshToken
  publishLogout userId jti
  AuditLogRepository.create
    { eventType := "LOGOUT", userId, email := none, ipAddress, userAgent, outcome := .success,
      metadata := some [("jti", jti.elim .null .uuid)] }

/-- The account-status check of `validateToken`; a database error lets the token through. -/
def checkAccountStatus (result : TokenValidationResult) (payload : JwtPayload) :
    AuthProg TokenValidationResult :=
  let check : AuthProg TokenValidationResult := do
    let user? ← UserCredentialRepository.findById payload.sub
    match user? with
    | none => pure ⟨false, none, some "invalid"⟩
    | some user =>
      match user.status with
      | .locked =>
        match user.lockedUntil with
        | some lockedUntil => do
          let now ← newDate
          if lockedUntil ≤ now then pure result else pure ⟨false, none, some "account_locked"⟩
        | none => pure ⟨false, none, some "account_locked"⟩
      | .banned => pure ⟨false, none, some "account_banned"⟩
      | .deleted => pure ⟨false, none, some "invalid"⟩
      | .active => pure result
  check.tryCatch fun _ => pure result

def validateToken (token : Jwt) : AuthProg TokenValidationResult := do
  let result ← TokenService.validateAccessToken env token
  match result.valid, result.payload with
  | true, some payload => checkAccountStatus result payload
  | _, _ => pure result

def forgotPassword (email : String) (ipAddress : Option String) : AuthProg Unit := do
  let user? ← UserCredentialRepository.findByEmail email
  match user? with
  | none => pure ()
  | some user => do
    let rawToken ← uuidv4
    let tokenHash := hashToken rawToken
    let now ← newDate
    let expiresAt := env.zone.setMinutesPlus now env.passwordResetExpiryMinutes
    PasswordResetTokenRepository.deleteByUserId user.id
    let _ ← PasswordResetTokenRepository.create user.id tokenHash expiresAt
    EventService.publishPasswordResetRequested user.id user.email rawToken expiresAt
    AuditLogRepository.create
      { eventType := "PASSWORD_RESET_REQUESTED", userId := some user.id, email := some user.email,
        ipAddress, userAgent := none, outcome := .success, metadata := none }

/-- The part of `resetPassword` after its checks. -/
def redeem (resetToken : PasswordResetToken) (newPassword : String) (ipAddress : Option String) :
    AuthProg Unit := do
  CredentialService.updatePassword resetToken.userId newPassword
  PasswordResetTokenRepository.markAsUsed resetToken.id
  PasswordResetTokenRepository.deleteByUserId resetToken.userId
  TokenService.revokeAllUserTokens resetToken.userId "password_reset"
  EventService.publishPasswordResetCompleted resetToken.userId
  AuditLogRepository.create
    { eventType := "PASSWORD_RESET_COMPLETED", userId := some resetToken.userId, email := none,
      ipAddress, userAgent := none, outcome := .success, metadata := none }

def resetPassword (rawToken : Nat) (newPassword : String) (ipAddress : Option String) :
    AuthProg Unit := do
  let resetToken? ← PasswordResetTokenRepository.findByTokenHash (hashToken rawToken)
  match resetToken? with
  | none => Prog.throw (.badRequest ErrorMessages.AUTH_PASSWORD_RESET_INVALID)
  | some resetToken =>
    if resetToken.used then Prog.throw (.badRequest ErrorMessages.AUTH_PASSWORD_RESET_USED)
    else do
      let now ← newDate
      if resetToken.expiresAt < now then
        Prog.throw (.badRequest ErrorMessages.AUTH_PASSWORD_RESET_INVALID)
      else redeem resetToken newPassword ipAddress

end AuthService

/-! ## account.service -/

namespace AccountService

variable (env : Env)

/-- `if (durationMinutes)`: a missing or zero duration is an indefinite lock. -/
def lockExpiry (durationMinutes : Option Nat) : AuthProg (Option Int) :=
  match durationMinutes with
  | none => pure none
  | some 0 => pure none
  | some minutes => do
    let now ← newDate
    pure (some (env.zone.setMinutesPlus now minutes))

def lockAccount (userId : Nat) (reason : String) (durationMinutes : Option Nat)
    (adminUserId : Option String) : AuthProg Unit := do
  let user? ← UserCredentialRepository.findById userId
  match user? with
  | none => Prog.throw (.error ErrorMessages.AUTH_USER_NOT_FOUND)
  | some _ => do
    let lockedUntil ← lockExpiry env durationMinutes
    UserCredentialRepository.lockAccount userId lockedUntil
    TokenService.revokeAllUserTokens userId ("account_locked:" ++ reason)
    EventService.publishAccountLocked userId reason lockedUntil
    AuditLogRepository.create
      { eventType := "ACCOUNT_LOCKED", userId := some userId, email := none, ipAddress := none,
        userAgent := none, outcome := .success,
        metadata := some [("reason", .text reason),
          ("lockedUntil", lockedUntil.elim (.text "indefinite") .instant),
          ("adminUserId", adminUserId.elim .null .text)] }

def unlockAccount (userId : Nat) (adminUserId : Option String) : AuthProg Unit := do
  let user? ← UserCredentialRepository.findById userId
  match user? with
  | none => Prog.throw (.error ErrorMessages.AUTH_USER_NOT_FOUND)
  | some _ => do
    UserCredentialRepository.unlockAccount userId
    let unlockedBy := adminUserId.getD "system"
    EventService.publishAccountUnlocked userId unlockedBy
    AuditLogRepository.create
      { eventType := "ACCOUNT_UNLOCKED", userId := some userId, email := none, ipAddress := none,
        userAgent := none, outcome := .success, metadata := some [("unlockedBy", .text unlockedBy)] }

def banUser (userId : Nat) (reason : String) (adminUserId : Option String) : AuthProg Unit := do
  let user? ← UserCredentialRepository.findById userId
  match user? with
  | none => Prog.throw (.error ErrorMessages.AUTH_USER_NOT_FOUND)
  | some _ => do
    UserCredentialRepository.updateStatus userId .banned
    TokenService.revokeAllUserTokens userId ("account_banned:" ++ reason)
    let bannedBy := adminUserId.getD "system"
    EventService.publishAccountBanned userId reason bannedBy
    AuditLogRepository.create
      { eventType := "ACCOUNT_BANNED", userId := some userId, email := none, ipAddress := none,
        userAgent := none, outcome := .success,
        metadata := some [("reason", .text reason), ("bannedBy", .text bannedBy)] }

def deleteCredentials (userId : Nat) : AuthProg Unit := do
  let deleted ← UserCredentialRepository.deleteCredential userId
  EventService.publishCredentialsDeleted userId
  AuditLogRepository.create
    { eventType := "CREDENTIALS_DELETED", userId := some userId, email := none, ipAddress := none,
      userAgent := none, outcome := .success,
      metadata := some [("deleted", .flag deleted), ("idempotent", .flag !deleted)] }

end AccountService

/-! ## role.service -/

namespace RoleService

def assignRole (userId : Nat) (role assignedBy : String) : AuthProg Unit := do
  let user? ← UserCredentialRepository.findById userId
  match user? with
  | none => Prog.throw (.error ErrorMessages.AUTH_USER_NOT_FOUND)
  | some user => do
    let roleEntity ← RoleRepository.findByName role
    match roleEntity with
    | none => Prog.throw (.error ("Role '" ++ role ++ "' does not exist"))
    | some _ =>
      if user.roles.contains role then pure ()
      else do
        UserCredentialRepository.updateRoles userId (user.roles ++ [role])
        TokenService.revokeAllUserTokens userId "role_changed"
        EventService.publishRoleAssigned userId role assignedBy

def revokeRole (userId : Nat) (role revokedBy : String) : AuthProg Unit := do
  let user? ← UserCredentialRepository.findById userId
  match user? with
  | none => Prog.throw (.error ErrorMessages.AUTH_USER_NOT_FOUND)
  | some user =>
    if user.roles.contains role then do
      UserCredentialRepository.updateRoles userId (user.roles.filter (· ≠ role))
      TokenService.revokeAllUserTokens userId "role_changed"
      EventService.publishRoleRevoked userId role revokedBy
    else pure ()

def getUserRoles (userId : Nat) : AuthProg (List String) := do
  let user? ← UserCredentialRepository.findById userId
  match user? with
  | none => Prog.throw (.error ErrorMessages.AUTH_USER_NOT_FOUND)
  | some user => pure user.roles

def getAllRoles : AuthProg (List Role) := RoleRepository.findAll

end RoleService

/-! ## jobs -/

/-- One write for each account the query returned; a failing write is logged and skipped. -/
def UnlockExpiredLockoutsJob.handleUnlock : AuthProg Unit :=
  let unlock (account : UserCredential) : AuthProg Unit :=
    (UserCredentialRepository.unlockAccount account.id).tryCatch fun _ => pure ()
  let job : AuthProg Unit := do
    let lockedAccounts ← UserCredentialRepository.findLockedAccountsToUnlock
    forEach unlock lockedAccounts
  job.tryCatch fun _ => pure ()

def ExpiredRefreshTokenCleanupJob.handleCleanup : AuthProg Unit :=
  let job : AuthProg Unit := do
    let _ ← RefreshTokenRepository.deleteExpiredAndRevoked
    pure ()
  job.tryCatch fun _ => pure ()

def ExpiredPasswordResetCleanupJob.handleCleanup : AuthProg Unit :=
  let job : AuthProg Unit := do
    let _ ← PasswordResetTokenRepository.deleteExpiredOrUsed
    pure ()
  job.tryCatch fun _ => pure ()

/-! ## auth.controller -/

namespace AuthController

variable (env : Env)

/-- `refreshToken` after `refreshTokens`: an access token for the user's current claims. -/
def issueAccessToken (result : RefreshResult) : AuthProg AuthResponse := do
  let credential? ← UserCredentialRepository.findById result.userId
  match credential? with
  | none => Prog.throw (.error "User credential not found during token refresh")
  | some credential => do
    let accessToken ←
      TokenService.generateAccessToken credential.id credential.email credential.roles
    pure ⟨accessToken, result.refreshToken, result.expiresIn, "Bearer", result.userId⟩

def refreshToken (rawRefreshToken : Nat) : AuthProg AuthResponse := do
  let result ← TokenService.refreshTokens env rawRefreshToken none none
  issueAccessToken result

/-- `tokenJti` of the body is never read. -/
def revokeToken (userId : Option Nat) (reason : Option String) : AuthProg Unit :=
  match userId with
  | some userId => TokenService.revokeAllUserTokens userId (reason.getD "token_revoked")
  | none => pure ()

def revokeAllTokens (userId : Nat) (reason : Option String) : AuthProg Unit :=
  TokenService.revokeAllUserTokens userId (reason.getD "all_tokens_revoked")

end AuthController

/-! ## token.controller -/

/-- The answer about an inactive token has no other field set. -/
structure TokenIntrospectResponse where
  active : Bool
  sub : Option Nat
  email : Option String
  roles : Option (List String)
  exp : Option Int
  iat : Option Int
  jti : Option Nat
  tokenType : Option TokenType
  deriving DecidableEq

/-- The account status is not looked at. -/
def TokenController.introspect (env : Env) (token : Jwt) : AuthProg TokenIntrospectResponse := do
  let result ← TokenService.validateAccessToken env token
  match result.valid, result.payload with
  | true, some payload =>
    pure ⟨true, some payload.sub, some payload.email, some payload.roles, some payload.exp,
      some payload.iat, some payload.jti, some payload.tokenType⟩
  | _, _ => pure ⟨false, none, none, none, none, none, none, none⟩

end Auth
