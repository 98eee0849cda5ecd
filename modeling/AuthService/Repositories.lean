import AuthService.World

/-!
# AuthService.Repositories

The repository classes, `BlacklistService` over `RedisClient`, and `EventService`, method by
method. A `new Date()` among a statement's arguments is read before the statement is sent, so the
clock may have moved on when the statement runs.
-/

namespace Auth

open Resumption Prog

/-- One awaited statement. -/
abbrev query (s : Stmt) : AuthProg s.Reply := perform (S := sig) s

/-- `new Date()`. -/
def newDate : AuthProg Int := query .newDate

def uuidv4 : AuthProg Nat := query .uuidv4

namespace UserCredentialRepository

def findById (id : Nat) : AuthProg (Option UserCredential) := query (.findCredentialById id)

/-- Case-insensitive: `LOWER(uc.email) = LOWER(:email)`. -/
def findByEmail (email : String) : AuthProg (Option UserCredential) :=
  query (.findCredentialByEmail email)

def createCredential (email passwordHash : String) (roles : List String) :
    AuthProg UserCredential :=
  query (.createCredential email passwordHash roles)

def updateStatus (id : Nat) (status : UserStatus) : AuthProg Unit :=
  query (.updateStatus id status)

/-- `result.raw[0]` is undefined when no row was updated. -/
def incrementFailedAttempts (id : Nat) : AuthProg Nat := do
  match ← (query (.incrementFailedAttempts id) : AuthProg (Option Nat)) with
  | some attempts => pure attempts
  | none => Prog.throw .typeError

def resetFailedAttempts (id : Nat) : AuthProg Unit := query (.resetFailedAttempts id)

def lockAccount (id : Nat) (lockedUntil : Option Int) : AuthProg Unit :=
  query (.lockAccount id lockedUntil)

def unlockAccount (id : Nat) : AuthProg Unit := query (.unlockAccount id)

def updateLastLogin (id : Nat) (ip : String) : AuthProg Unit := do
  let lastLoginAt ← newDate
  query (.updateLastLogin id ip lastLoginAt)

def updatePassword (id : Nat) (passwordHash : String) : AuthProg Unit := do
  let passwordChangedAt ← newDate
  query (.updatePassword id passwordHash passwordChangedAt)

def updateRoles (id : Nat) (roles : List String) : AuthProg Unit := query (.updateRoles id roles)

def deleteCredential (id : Nat) : AuthProg Bool := query (.deleteCredential id)

def findLockedAccountsToUnlock : AuthProg (List UserCredential) := do
  let now ← newDate
  query (.findLockedAccountsToUnlock now)

end UserCredentialRepository

namespace RefreshTokenRepository

def create (userId : Nat) (tokenHash : TokenHash) (expiresAt : Int)
    (deviceFingerprint ipAddress userAgent : Option String) : AuthProg RefreshToken := do
  let issuedAt ← newDate
  query (.createRefreshToken
    { userId, tokenHash, expiresAt, issuedAt, deviceFingerprint, ipAddress, userAgent })

def findByTokenHash (tokenHash : TokenHash) : AuthProg (Option RefreshToken) :=
  query (.findRefreshTokenByHash tokenHash)

def findActiveByUserId (userId : Nat) : AuthProg (List RefreshToken) := do
  let now ← newDate
  query (.findActiveByUserId userId now)

def revokeToken (id : Nat) (reason : String) : AuthProg Unit := do
  let revokedAt ← newDate
  query (.revokeToken id reason revokedAt)

def revokeAllByUserId (userId : Nat) (reason : String) : AuthProg Nat := do
  let revokedAt ← newDate
  query (.revokeAllByUserId userId reason revokedAt)

def setReplacedBy (id replacedByTokenId : Nat) : AuthProg Unit :=
  query (.setReplacedBy id replacedByTokenId)

def updateLastUsed (id : Nat) : AuthProg Unit := do
  let lastUsedAt ← newDate
  query (.updateLastUsed id lastUsedAt)

def countActiveByUserId (userId : Nat) : AuthProg Nat := do
  let now ← newDate
  query (.countActiveByUserId userId now)

def findOldestActiveByUserId (userId : Nat) : AuthProg (Option RefreshToken) := do
  let now ← newDate
  query (.findOldestActiveByUserId userId now)

def deleteExpiredAndRevoked : AuthProg Nat := do
  let now ← newDate
  query (.deleteExpiredAndRevoked now)

end RefreshTokenRepository

namespace PasswordResetTokenRepository

def create (userId : Nat) (tokenHash : TokenHash) (expiresAt : Int) : AuthProg PasswordResetToken :=
  query (.createPasswordResetToken userId tokenHash expiresAt)

def findByTokenHash (tokenHash : TokenHash) : AuthProg (Option PasswordResetToken) :=
  query (.findResetTokenByHash tokenHash)

def markAsUsed (id : Nat) : AuthProg Unit := do
  let usedAt ← newDate
  query (.markAsUsed id usedAt)

def deleteExpiredOrUsed : AuthProg Nat := do
  let now ← newDate
  query (.deleteExpiredOrUsed now)

def deleteByUserId (userId : Nat) : AuthProg Unit := query (.deleteResetTokensByUserId userId)

end PasswordResetTokenRepository

namespace RoleRepository

def findAll : AuthProg (List Role) := query .findAllRoles

def findByName (name : String) : AuthProg (Option Role) := query (.findRoleByName name)

end RoleRepository

def AuditLogRepository.create (entry : AuditLog) : AuthProg Unit := query (.createAuditLog entry)

namespace BlacklistService

def blacklistToken (jti : Nat) (ttlSeconds : Int) : AuthProg Unit :=
  if ttlSeconds ≤ 0 then pure () else query (.setBlacklist jti ttlSeconds)

/-- `RedisClient.isTokenBlacklisted` is fail-open: an unreachable Redis answers `false`. -/
def isBlacklisted (jti : Nat) : AuthProg Bool :=
  (query (.existsBlacklist jti)).tryCatch fun _ => pure false

end BlacklistService

namespace EventService

/-- Publishing failures are logged, never propagated. -/
def safePublish (event : DomainEvent) : AuthProg Unit :=
  (query (.publish event)).tryCatch fun _ => pure ()

def publishUserCreated (userId : Nat) (email : String) (roles : List String) : AuthProg Unit := do
  let timestamp ← newDate
  safePublish (.userAccountCreated userId email roles timestamp)

def publishUserLoggedIn (userId : Nat) (email ip deviceFingerprint : String) : AuthProg Unit := do
  let timestamp ← newDate
  safePublish (.userLoggedIn userId email ip deviceFingerprint timestamp)

def publishUserLoggedOut (userId jti : Nat) : AuthProg Unit := do
  let timestamp ← newDate
  safePublish (.userLoggedOut userId jti timestamp)

def publishAccountLocked (userId : Nat) (reason : String) (lockedUntil : Option Int) :
    AuthProg Unit := do
  let timestamp ← newDate
  safePublish (.accountLocked userId reason lockedUntil timestamp)

def publishAccountUnlocked (userId : Nat) (unlockedBy : String) : AuthProg Unit := do
  let timestamp ← newDate
  safePublish (.accountUnlocked userId unlockedBy timestamp)

def publishAccountBanned (userId : Nat) (reason bannedBy : String) : AuthProg Unit := do
  let timestamp ← newDate
  safePublish (.accountBanned userId reason bannedBy timestamp)

def publishCredentialsDeleted (userId : Nat) : AuthProg Unit := do
  let timestamp ← newDate
  safePublish (.credentialsDeleted userId timestamp)

def publishPasswordResetRequested (userId : Nat) (email : String) (resetToken : Nat)
    (expiresAt : Int) : AuthProg Unit := do
  let timestamp ← newDate
  safePublish (.passwordResetRequested userId email resetToken expiresAt timestamp)

def publishPasswordResetCompleted (userId : Nat) : AuthProg Unit := do
  let timestamp ← newDate
  safePublish (.passwordResetCompleted userId timestamp)

def publishRoleAssigned (userId : Nat) (role assignedBy : String) : AuthProg Unit := do
  let timestamp ← newDate
  safePublish (.roleAssigned userId role assignedBy timestamp)

def publishRoleRevoked (userId : Nat) (role revokedBy : String) : AuthProg Unit := do
  let timestamp ← newDate
  safePublish (.roleRevoked userId role revokedBy timestamp)

def publishLoginFailed (email ip : String) (attemptCount : Nat) : AuthProg Unit := do
  let timestamp ← newDate
  safePublish (.loginFailed email ip attemptCount timestamp)

end EventService

end Auth
