import AuthService.Relational.Table

/-!
# AuthService.Entities

The rows of the five tables, the domain events and the JWT claims, with the columns and fields the
services read or write. Identifiers (UUID v4) are opaque: only equality is ever used, so they are
numbers. Instants are milliseconds since the epoch. A raw token is a UUID too, and its SHA-256
digest carries its preimage, which makes the hash injective.

`created_at`, `updated_at`, `audit_logs.id` and the trace ids of audit rows and events are left
out: no service reads them.
-/

namespace Auth

open Relational

/-- The SHA-256 hex digest of a raw token. -/
structure TokenHash where
  preimage : Nat
  deriving DecidableEq, Repr

def hashToken (token : Nat) : TokenHash := ⟨token⟩

inductive UserStatus where
  | active
  | locked
  | banned
  | deleted
  deriving DecidableEq, Repr

structure UserCredential where
  id : Nat
  email : String
  passwordHash : String
  status : UserStatus
  roles : List String
  failedLoginAttempts : Nat
  lockedUntil : Option Int
  lastLoginAt : Option Int
  lastLoginIp : Option String
  passwordChangedAt : Option Int
  deriving DecidableEq, Repr

structure RefreshToken where
  id : Nat
  userId : Nat
  tokenHash : TokenHash
  issuedAt : Int
  expiresAt : Int
  revoked : Bool
  revokedAt : Option Int
  revocationReason : Option String
  deviceFingerprint : Option String
  ipAddress : Option String
  userAgent : Option String
  lastUsedAt : Option Int
  replacedByTokenId : Option Nat
  deriving DecidableEq, Repr

structure PasswordResetToken where
  id : Nat
  userId : Nat
  tokenHash : TokenHash
  expiresAt : Int
  used : Bool
  usedAt : Option Int
  deriving DecidableEq, Repr

structure Role where
  id : Nat
  name : String
  description : Option String
  permissions : Option (List String)
  deriving DecidableEq, Repr

inductive AuditOutcome where
  | success
  | failure
  deriving DecidableEq, Repr

/-- A value in the JSONB `metadata` column. -/
inductive MetaValue where
  | text (s : String)
  | number (n : Nat)
  | flag (b : Bool)
  | uuid (u : Nat)
  | instant (t : Int)
  | null
  deriving DecidableEq, Repr

structure AuditLog where
  eventType : String
  userId : Option Nat
  email : Option String
  ipAddress : Option String
  userAgent : Option String
  outcome : AuditOutcome
  metadata : Option (List (String × MetaValue))
  deriving DecidableEq, Repr

/-- The events of `EventService` that some service publishes, each with its payload. -/
inductive DomainEvent where
  | userAccountCreated (userId : Nat) (email : String) (roles : List String) (timestamp : Int)
  | userLoggedIn (userId : Nat) (email ip deviceFingerprint : String) (timestamp : Int)
  | userLoggedOut (userId jti : Nat) (timestamp : Int)
  | accountLocked (userId : Nat) (reason : String) (lockedUntil : Option Int) (timestamp : Int)
  | accountUnlocked (userId : Nat) (unlockedBy : String) (timestamp : Int)
  | accountBanned (userId : Nat) (reason bannedBy : String) (timestamp : Int)
  | credentialsDeleted (userId : Nat) (timestamp : Int)
  | passwordResetRequested (userId : Nat) (email : String) (resetToken : Nat)
      (expiresAt timestamp : Int)
  | passwordResetCompleted (userId : Nat) (timestamp : Int)
  | roleAssigned (userId : Nat) (role assignedBy : String) (timestamp : Int)
  | roleRevoked (userId : Nat) (role revokedBy : String) (timestamp : Int)
  | loginFailed (email ip : String) (attemptCount : Nat) (timestamp : Int)
  deriving DecidableEq, Repr

inductive TokenType where
  | access
  | refresh
  deriving DecidableEq, Repr

/-- The claims of a signed access token; `iat` and `exp` are in seconds. -/
structure JwtPayload where
  sub : Nat
  email : String
  roles : List String
  tokenType : TokenType
  jti : Nat
  iat : Int
  exp : Int
  iss : String
  aud : String
  deriving DecidableEq, Repr

/-- What `jwt.decode` reads off a token without looking at its signature. -/
structure DecodedClaims where
  sub : Option Nat
  jti : Option Nat
  exp : Option Int
  deriving DecidableEq, Repr

/-- A string presented as an access token: signed with the service's private key, decodable but
not so signed, or no JWT at all. -/
inductive Jwt where
  | signed (payload : JwtPayload)
  | unsigned (claims : DecodedClaims)
  | malformed
  deriving DecidableEq, Repr

instance : Row UserCredential Nat String := ⟨UserCredential.id, UserCredential.email⟩

instance : Row RefreshToken Nat TokenHash := ⟨RefreshToken.id, RefreshToken.tokenHash⟩

instance : Row PasswordResetToken Nat TokenHash :=
  ⟨PasswordResetToken.id, PasswordResetToken.tokenHash⟩

instance : Row Role Nat String := ⟨Role.id, Role.name⟩

/-! ## Active sessions -/

/-- The `where` clause of every session query: `revoked: false, expiresAt: MoreThan(now)`. -/
def RefreshToken.active (t : RefreshToken) (now : Int) : Bool := !t.revoked && now < t.expiresAt

theorem RefreshToken.not_active_of_revoked {t : RefreshToken} {now : Int} (h : t.revoked = true) :
    t.active now = false := by
  simp [active, h]

theorem RefreshToken.not_active_of_expired {t : RefreshToken} {now : Int} (h : t.expiresAt ≤ now) :
    t.active now = false := by
  simp only [active, Bool.and_eq_false_iff, decide_eq_false_iff_not]
  omega

end Auth
