import AuthService.Entities

/-!
# AuthService.Env

What the services take from outside the repository: the configuration, the host's time zone, the
password-hash libraries, jsonwebtoken's reading of an `expiresIn` string, SQL's `LOWER`, the order in
which PostgreSQL breaks ties of `ORDER BY issued_at`, and what it reads as Unicode or as a UUID. Each
is a parameter, so a theorem about every `Env` holds for every host and every deployment.
-/

namespace Auth

/-- `ConfigService.get(path)`: `none` where no such path is registered. -/
structure ConfigService where
  number : String → Option Nat
  string : String → Option String

/-- The host's time zone: ECMAScript's `LocalTime` and `UTC` on time values. -/
structure TimeZone where
  localTime : Int → Int
  utc : Int → Int

/-- `date.setMinutes(date.getMinutes() + minutes)`: fields beyond the hour carry over in local
time, and the result is converted back. -/
def TimeZone.setMinutesPlus (z : TimeZone) (date : Int) (minutes : Nat) : Int :=
  z.utc (z.localTime date + minutes * 60000)

/-- `date.setDate(date.getDate() + days)`. -/
def TimeZone.setDatePlus (z : TimeZone) (date : Int) (days : Nat) : Int :=
  z.utc (z.localTime date + days * 86400000)

def TimeZone.UTC : TimeZone := ⟨id, id⟩

/-- The row `ORDER BY issued_at ASC LIMIT 1` returns: an oldest one, ties broken in any way. -/
structure OldestFirst where
  pick : List RefreshToken → Option RefreshToken
  pick_mem : ∀ {ts t}, pick ts = some t → t ∈ ts
  pick_le : ∀ {ts t}, pick ts = some t → ∀ u ∈ ts, t.issuedAt ≤ u.issuedAt
  pick_none : ∀ {ts}, pick ts = none → ts = []

namespace OldestFirst

/-- Ties broken by position: the first of the oldest rows. -/
def firstOf : List RefreshToken → Option RefreshToken
  | [] => none
  | t :: ts =>
    match firstOf ts with
    | none => some t
    | some u => if t.issuedAt ≤ u.issuedAt then some t else some u

theorem firstOf_none {ts : List RefreshToken} (h : firstOf ts = none) : ts = [] := by
  cases ts with
  | nil => rfl
  | cons t ts =>
    simp only [firstOf] at h
    split at h
    · cases h
    · split at h <;> cases h

theorem firstOf_spec {ts : List RefreshToken} {t : RefreshToken} (h : firstOf ts = some t) :
    t ∈ ts ∧ ∀ u ∈ ts, t.issuedAt ≤ u.issuedAt := by
  induction ts generalizing t with
  | nil => cases h
  | cons a ts ih =>
    simp only [firstOf] at h
    split at h
    · rename_i hn
      cases h
      have hnil := firstOf_none hn
      subst hnil
      simp
    · rename_i u hu
      obtain ⟨hmem, hle⟩ := ih hu
      split at h
      · rename_i hau
        cases h
        refine ⟨List.mem_cons_self, fun v hv => ?_⟩
        rcases List.mem_cons.mp hv with rfl | hv
        · exact Int.le_refl _
        · have := hle v hv; omega
      · rename_i hau
        cases h
        refine ⟨List.mem_cons_of_mem _ hmem, fun v hv => ?_⟩
        rcases List.mem_cons.mp hv with rfl | hv
        · omega
        · exact hle v hv

def byPosition : OldestFirst where
  pick := firstOf
  pick_mem h := (firstOf_spec h).1
  pick_le h := (firstOf_spec h).2
  pick_none h := firstOf_none h

end OldestFirst

structure Env where
  config : ConfigService
  zone : TimeZone
  oldest : OldestFirst
  /-- SQL's `LOWER`. -/
  sqlLower : String → String
  /-- `String.prototype.toLowerCase` and `trim`. -/
  toLowerCase : String → String
  trim : String → String
  /-- The SHA-256 hex digest of a string. -/
  sha256 : String → String
  /-- `argon2.hash` with a fresh salt; `none` where the native bindings fail. -/
  argon2Hash : (password : String) → (salt : Nat) → Option String
  argon2Verify : (hash password : String) → Bool
  bcryptHash : (password : String) → (salt : Nat) → Option String
  bcryptCompare : (password hash : String) → Bool
  /-- jsonwebtoken's `expiresIn`, in whole seconds; `none` where it throws. -/
  timespan : String → Option Int
  /-- `String.prototype.isWellFormed`: no lone surrogate. A `String` stands for one of JavaScript. -/
  isWellFormed : String → Bool := fun _ => true
  /-- The text of an identifier: a UUID, or what an unsigned token has for a `sub` or a `jti`. -/
  idText : Nat → String := fun id => toString id
  /-- PostgreSQL reads the text as a UUID. -/
  isUuid : String → Bool := fun _ => true

namespace Env

variable (env : Env)

/-! ## The configured values, as the services read them -/

def maxLoginAttempts : Nat := (env.config.number "auth.maxLoginAttempts").getD 5

def lockoutDurationMinutes : Nat := (env.config.number "auth.lockoutDurationMinutes").getD 30

def maxSessions : Nat := (env.config.number "session.maxConcurrent").getD 5

def refreshTokenExpiryDays : Nat := (env.config.number "jwt.refreshTokenExpiryDays").getD 7

def passwordResetExpiryMinutes : Nat := (env.config.number "auth.passwordResetExpiryMinutes").getD 15

def accessTokenExpiry : String := (env.config.string "jwt.accessTokenExpiry").getD "15m"

def issuer : String := (env.config.string "jwt.issuer").getD "auth-service"

def audience : String := (env.config.string "jwt.audience").getD "api-gateway"

/-! ## hash.util and device-fingerprint.util -/

def startsWith (s pre : String) : Bool := pre.toList.isPrefixOf s.toList

/-- `CredentialService.verifyPassword`: the algorithm is read off the stored hash's prefix. -/
def verifyPassword (storedHash password : String) : Bool :=
  if startsWith storedHash "$argon2" then env.argon2Verify storedHash password
  else if startsWith storedHash "$2b" || startsWith storedHash "$2a" then
    env.bcryptCompare password storedHash
  else false

/-- `CredentialService.hashPassword`: argon2id, or bcrypt when argon2 fails. -/
def hashPassword (password : String) (salt : Nat) : Option String :=
  match env.argon2Hash password salt with
  | some hash => some hash
  | none => env.bcryptHash password salt

def generateDeviceFingerprint (userAgent ipAddress : Option String) : String :=
  let normalizedUA := env.trim (env.toLowerCase (userAgent.getD ""))
  let normalizedIP := env.trim (ipAddress.getD "")
  env.sha256 (normalizedUA ++ "|" ++ normalizedIP)

end Env

/-! ## getAccessTokenExpirySeconds -/

def parseInt (digits : List Char) : Nat :=
  digits.foldl (fun n c => 10 * n + (c.toNat - '0'.toNat)) 0

/-- `expiry.match(/^(\d+)(s|m|h|d)$/)`. -/
def matchExpiry (expiry : String) : Option (Nat × Char) :=
  let digits := expiry.toList.dropLast
  match expiry.toList.getLast? with
  | none => none
  | some unit =>
    if digits ≠ [] ∧ digits.all Char.isDigit ∧ unit ∈ ['s', 'm', 'h', 'd'] then
      some (parseInt digits, unit)
    else none

/-- The access token lifetime in seconds that `AuthResponse.expiresIn` announces. -/
def Env.getAccessTokenExpirySeconds (env : Env) : Nat :=
  match matchExpiry env.accessTokenExpiry with
  | some (value, 's') => value
  | some (value, 'm') => value * 60
  | some (value, 'h') => value * 3600
  | some (value, 'd') => value * 86400
  | _ => 900

/-- The defaults of the configuration, UTC, and hashes a reader can follow. -/
def Env.plain : Env where
  config := ⟨fun _ => none, fun _ => none⟩
  zone := .UTC
  oldest := .byPosition
  sqlLower s := s
  toLowerCase s := s
  trim s := s
  sha256 s := s
  argon2Hash password _ := some ("$argon2" ++ password)
  argon2Verify hash password := hash == "$argon2" ++ password
  bcryptHash _ _ := none
  bcryptCompare _ _ := false
  timespan _ := some 900

end Auth
