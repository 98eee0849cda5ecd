import AuthService.RevokeToken
import AuthService.ValidationPipe
import AuthService.Validation.Schema

/-!
# AuthService.Dtos

The bodies of the requests, from the JSON that a client sends to the validated DTO.

* `Input`, `Value` — a JSON value, and what a decorated property holds after `plainToClass`.
* `Dto`            — a class, property by property, with the decorators that the DTOs use.
* `transform`      — `CustomValidationPipe`: implicit conversion, `@Transform`, `validate`.
* `transform_exact` — which bodies crash it, which pass, and what is reported of the others.

Of an array or an object no decorator reads the contents, but class-transformer goes through them, and
may throw. Decorators of one property are registered from the last to the first. The nesting of a body
is taken to fit the call stack.
-/

namespace Auth

open Validation

/-! ## Values -/

/-- What `Number(..)` makes of a value: of a finite number, its floor and whether it is whole. -/
inductive Numeric where
  | nan
  | infinity (negative : Bool)
  | finite (floor : Int) (whole : Bool)
  deriving DecidableEq

/-- A JSON value, as `JSON.parse` leaves it. A number comes with what `String(..)` makes of it. -/
inductive Input where
  | null
  | boolean (value : Bool)
  | number (text : String) (value : Numeric)
  | string (value : String)
  | array (elements : List Input)
  | object (members : List (String × Input))

/-- A property of type `String` or `Number` after the conversion. -/
inductive Value where
  | undefined
  | null
  | text (value : String)
  | number (value : Numeric)
  | array
  deriving DecidableEq

/-- How the service reads the strings of a request. -/
structure Wire where
  /-- validator's `isEmail`. -/
  isEmail : String → Bool
  toNumber : String → Numeric
  id : String → Id
  secret : String → Nat
  jwt : String → Jwt

namespace Input

/-- `String(value)`, of whatever is not nil. Of an array the elements are converted. -/
def toText : Input → Value
  | .null => .null
  | .boolean value => .text (toString value)
  | .number text _ => .text text
  | .string value => .text value
  | .array _ => .array
  | .object _ => .text "[object Object]"

/-- `Number(value)`. -/
def toNumber (wire : Wire) : Input → Value
  | .null => .null
  | .boolean value => .number (.finite value.toNat true)
  | .number _ value => .number value
  | .string value => .number (wire.toNumber value)
  | .array _ => .array
  | .object _ => .number .nan

def truthy : Input → Bool
  | .null => false
  | .boolean value => value
  | .number _ value => value ≠ .nan && value ≠ .finite 0 true
  | .string value => value ≠ ""
  | .array _ => true
  | .object _ => true

/-- Keys that are not copied: the first two by name, and those of the functions that `Object.prototype`
has. -/
def skipped : List String :=
  ["__proto__", "constructor", "hasOwnProperty", "isPrototypeOf", "propertyIsEnumerable",
    "toLocaleString", "toString", "valueOf", "__defineGetter__", "__defineSetter__", "__lookupGetter__",
    "__lookupSetter__"]

mutual

/-- `String(..)` and `Number(..)` throw on an object with a `toString` of its own, which cannot be
called: the `valueOf` that is left returns the object. -/
def converts : Input → Bool
  | .array elements => convertsAll elements
  | .object members => members.all fun member => member.1 ≠ "toString"
  | _ => true

def convertsAll : List Input → Bool
  | [] => true
  | value :: values => value.converts && convertsAll values

end

mutual

/-- A value without a declared type is copied member by member. An object's `constructor` of its own
that is truthy is taken for a class, and `new` throws. -/
def copies : Input → Bool
  | .array elements => copiesAll elements
  | .object members => copiesMembers members
  | _ => true

def copiesAll : List Input → Bool
  | [] => true
  | value :: values => value.copies && copiesAll values

def copiesMembers : List (String × Input) → Bool
  | [] => true
  | (key, value) :: members =>
    (if key = "constructor" then !value.truthy else key ∈ skipped || value.copies) &&
      copiesMembers members

end

end Input

/-- `value?.trim().toLowerCase()`; where there is no `trim`, it throws. -/
def Env.transformEmail (env : Env) : Value → Option Value
  | .undefined => some .undefined
  | .null => some .undefined
  | .text value => some (.text (env.normalizeEmail value))
  | .number _ => none
  | .array => none

/-! ## The DTOs -/

inductive DesignType where
  | string
  | number
  deriving DecidableEq

/-- A decorated property, its `design:type`, and whether it has the email `@Transform`. -/
structure DtoProperty extends Property Value where
  designType : DesignType
  transformed : Bool

abbrev Dto := List DtoProperty

namespace Dto

/-! ### Decorators -/

def isText : Value → Bool
  | .text _ => true
  | _ => false

def isString (property : String) : Constraint Value :=
  ⟨"isString", property ++ " must be a string", fun _ value => isText value⟩

def isNotEmpty (message : String) : Constraint Value :=
  ⟨"isNotEmpty", message, fun _ value => value ∉ [.text "", .null, .undefined]⟩

def isEmail (wire : Wire) (message : String) : Constraint Value :=
  ⟨"isEmail", message, fun _ value => match value with
    | .text text => wire.isEmail text
    | _ => false⟩

/-- validator's `isLength` counts code points, variation selectors apart. -/
def lengthOf (text : String) : Nat :=
  (text.toList.filter fun c => c.toNat ≠ 0xFE0E && c.toNat ≠ 0xFE0F).length

def minLength (min : Nat) (message : String) : Constraint Value :=
  ⟨"minLength", message, fun _ value => match value with
    | .text text => min ≤ lengthOf text
    | _ => false⟩

/-- `@Matches` with a lookahead `(?=.*[..])`, which finds a character of the class anywhere. -/
def containsOne (class' : Char → Bool) (message : String) : Constraint Value :=
  ⟨"matches", message, fun _ value => match value with
    | .text text => text.toList.any class'
    | _ => false⟩

def isUUID (message : String) : Constraint Value :=
  ⟨"isUuid", message, fun _ value => match value with
    | .text text => Auth.isUUID (.text text)
    | _ => false⟩

def isEnum (values : List String) (message : String) : Constraint Value :=
  ⟨"isEnum", message, fun _ value => match value with
    | .text text => text ∈ values
    | _ => false⟩

def isInt (message : String) : Constraint Value :=
  ⟨"isInt", message, fun _ value => match value with
    | .number (.finite _ whole) => whole
    | _ => false⟩

def least (bound : Int) (message : String) : Constraint Value :=
  ⟨"min", message, fun _ value => match value with
    | .number (.finite floor _) => bound ≤ floor
    | .number (.infinity negative) => !negative
    | _ => false⟩

/-- `value === relatedValue`, at properties of type `String`. Two arrays are never the same. -/
def same : Value → Value → Bool
  | .text a, .text b => a = b
  | .null, .null => true
  | .undefined, .undefined => true
  | _, _ => false

def matchWith (related message : String) : Constraint Value :=
  ⟨"Match", message, fun o value => same value (o.get related)⟩

/-- `@IsOptional()`. -/
def isOptional : Entity Value → Value → Bool := fun _ value => value ∉ [.null, .undefined]

/-- `@ValidateIf((o) => !o.property)`. -/
def validateUnless (property : String) : Entity Value → Value → Bool := fun o _ =>
  o.get property ∈ [.undefined, .null, .text ""]

/-! ### Classes -/

def schema (dto : Dto) : List (Property Value) := dto.map DtoProperty.toProperty

def names (dto : Dto) : List String := dto.map fun p => p.name

def lowercase (c : Char) : Bool := 'a' ≤ c && c ≤ 'z'
def uppercase (c : Char) : Bool := 'A' ≤ c && c ≤ 'Z'
def decimal (c : Char) : Bool := '0' ≤ c && c ≤ '9'
def special (c : Char) : Bool := c ∈ "!@#$%^&*()_+-=[]\x7b\x7d;':\"\\|,.<>/?".toList

section Properties

variable (wire : Wire)

def emailProperty (name required : String) : DtoProperty :=
  ⟨⟨name, [], [isNotEmpty required, isEmail wire "Please provide a valid email address"]⟩, .string,
    true⟩

def textProperty (name required : String) : DtoProperty :=
  ⟨⟨name, [], [isNotEmpty required, isString name]⟩, .string, false⟩

def optionalProperty (name : String) : DtoProperty :=
  ⟨⟨name, [isOptional], [isString name]⟩, .string, false⟩

def newPasswordProperty (name required : String) : DtoProperty :=
  ⟨⟨name, [],
    [containsOne special "Password must contain at least one special character",
      containsOne decimal "Password must contain at least one number",
      containsOne uppercase "Password must contain at least one uppercase letter",
      containsOne lowercase "Password must contain at least one lowercase letter",
      minLength 8 "Password must be at least 8 characters long",
      isNotEmpty required,
      isString name]⟩,
    .string, false⟩

def confirmationProperty (name related message : String) : DtoProperty :=
  ⟨⟨name, [], [matchWith related message, isNotEmpty "Password confirmation is required",
    isString name]⟩, .string, false⟩

def userIdProperty : DtoProperty :=
  ⟨⟨"userId", [], [isNotEmpty "User ID is required", isUUID "userId must be a valid UUID"]⟩,
    .string, false⟩

def roleProperty : DtoProperty :=
  ⟨⟨"role", [], [isNotEmpty "Role is required", isEnum ["USER", "ADMIN", "MODERATOR"]
    "Role must be one of: USER, ADMIN, MODERATOR"]⟩, .string, false⟩

def registerDto : Dto :=
  [emailProperty wire "email" "Email is required",
    newPasswordProperty "password" "Password is required",
    confirmationProperty "confirmPassword" "password" "confirmPassword must match password"]

def loginDto : Dto :=
  [emailProperty wire "email" "Email is required", textProperty "password" "Password is required",
    optionalProperty "deviceInfo"]

def logoutDto : Dto := [textProperty "refreshToken" "Refresh token is required"]

def validateTokenDto : Dto := [textProperty "token" "Token is required"]

def refreshTokenDto : Dto := [textProperty "refreshToken" "Refresh token is required"]

def revokeTokenDto : Dto :=
  [⟨⟨"tokenJti", [isOptional, validateUnless "userId"], [isString "tokenJti"]⟩, .string, false⟩,
    ⟨⟨"userId", [isOptional, validateUnless "tokenJti"], [isUUID "userId must be a valid UUID"]⟩,
      .string, false⟩,
    optionalProperty "reason"]

def forgotPasswordDto : Dto := [emailProperty wire "email" "Email is required"]

def resetPasswordDto : Dto :=
  [textProperty "token" "Reset token is required",
    newPasswordProperty "newPassword" "New password is required",
    confirmationProperty "confirmNewPassword" "newPassword" "confirmNewPassword must match newPassword"]

def assignRoleDto : Dto := [userIdProperty, roleProperty]

def revokeRoleDto : Dto := [userIdProperty, roleProperty]

def lockAccountDto : Dto :=
  [userIdProperty, textProperty "reason" "A reason for locking the account is required",
    ⟨⟨"durationMinutes", [isOptional], [least 1 "durationMinutes must be at least 1",
      isInt "durationMinutes must be an integer"]⟩, .number, false⟩]

def banUserDto : Dto := [userIdProperty, textProperty "reason" "A reason for banning is required"]

end Properties

end Dto

/-! ## CustomValidationPipe -/

/-- The body of a request: a JSON object. -/
abbrev Body := Record Input

def Record.get? {α : Type} (r : Record α) (key : String) : Option α :=
  (r.entries.find? fun e => e.1 = key).map Prod.snd

section Pipe

variable (env : Env) (wire : Wire)

def DtoProperty.converted (p : DtoProperty) (value : Input) : Value :=
  match p.designType with
  | .string => value.toText
  | .number => value.toNumber wire

/-- The value of a property that the body has; `none` where its conversion or its `@Transform` throws. -/
def DtoProperty.convert (p : DtoProperty) (value : Input) : Option Value :=
  if !value.converts then none
  else if p.transformed then env.transformEmail (p.converted wire value)
  else some (p.converted wire value)

def DtoProperty.read (p : DtoProperty) (body : Body) : Option Value :=
  match body.get? p.name with
  | none => some .undefined
  | some value => p.convert env wire value

/-- What the body has beyond the properties of the class is copied without a throw. -/
def Dto.copiesRest (dto : Dto) (body : Body) : Bool :=
  body.entries.all fun entry =>
    entry.1 ∈ Input.skipped || entry.1 ∈ dto.names || entry.2.copies

/-- `plainToClass`; `none` where it throws. -/
def plainToClass (dto : Dto) (body : Body) : Option (Entity Value) :=
  if (dto.all fun p => (p.read env wire body).isSome) && dto.copiesRest body then
    some ⟨body.keys.filter fun key => key ∉ Input.skipped, fun name =>
      ((dto.find? fun p => p.name = name).bind fun p => p.read env wire body).getD .undefined⟩
  else none

inductive Rejection where
  | typeError
  | validation (errors : Record (List String))

def toValidationError (v : Violation) : ValidationError :=
  .mk v.property (some (v.messages.map Prod.snd)) []

namespace CustomValidationPipe

def transform (dto : Dto) (body : Body) : Except Rejection (Entity Value) :=
  match plainToClass env wire dto body with
  | none => .error .typeError
  | some entity =>
    match violations dto.schema entity with
    | [] => .ok entity
    | errors => .error (.validation (formatErrors (errors.map toValidationError) ""))

end CustomValidationPipe

end Pipe

/-! ## What the pipe answers -/

variable {env : Env} {wire : Wire} {dto : Dto} {body : Body} {o : Entity Value} {key : String}

/-- The object has a property that the class has not, or violates a constraint of the property. -/
def Dto.Fault (dto : Dto) (o : Entity Value) (key : String) (messages : List String) : Prop :=
  (key ∈ o.keys ∧ key ∉ dto.names ∧ messages = ["property " ++ key ++ " should not exist"]) ∨
    ∃ p ∈ dto, p.name = key ∧ p.violated o ≠ [] ∧
      messages = (Validation.messages (p.violated o)).map Prod.snd

theorem convert_of_eq_some {p : DtoProperty} {value : Input} {v : Value}
    (h : p.convert env wire value = some v) :
    (if p.transformed then env.transformEmail (p.converted wire value)
      else some (p.converted wire value)) = some v := by
  unfold DtoProperty.convert at h
  cases hconverts : value.converts with
  | false => simp [hconverts] at h
  | true => simpa [hconverts] using h

/-- Strings read as far as the tests need it. -/
def Wire.plain : Wire where
  isEmail text := '@' ∈ text.toList && '.' ∈ text.toList
  toNumber _ := .nan
  id _ := .malformed
  secret text := text.length
  jwt _ := .malformed

/-- A converted property as the model of the revoke-token request has it. -/
def Value.field : Value → Field
  | .undefined => .absent
  | .null => .absent
  | .text value => .text value
  | .number _ => .array
  | .array => .array

def RevokeTokenDto.ofEntity (o : Entity Value) : RevokeTokenDto :=
  ⟨(o.get "tokenJti").field, (o.get "userId").field, (o.get "reason").field⟩

theorem mem_falsy (v : Value) :
    decide (v ∈ [.undefined, .null, .text ""]) = !v.field.truthy := by
  cases v <;> simp [Value.field, Field.truthy]

theorem not_mem_nil (v : Value) : decide (v ∉ [Value.null, .undefined]) = decide (v.field ≠ .absent) := by
  cases v <;> simp [Value.field]

/-- The class and its model accept the same. -/
theorem revokeTokenDto_valid :
    (∀ p ∈ Dto.revokeTokenDto, p.violated o = []) ↔ (RevokeTokenDto.ofEntity o).valid = true := by
  have hisString : ∀ v : Value, Dto.isText v = isString v.field := by
    intro v
    cases v <;> rfl
  have hisUUID : ∀ v : Value, (Dto.isUUID "userId must be a valid UUID").holds o v = isUUID v.field := by
    intro v
    cases v <;> rfl
  simp only [Dto.revokeTokenDto, Dto.optionalProperty, List.forall_mem_cons, violated_eq_nil,
    RevokeTokenDto.valid, RevokeTokenDto.tokenJtiRules, RevokeTokenDto.userIdRules,
    RevokeTokenDto.reasonRules, RevokeTokenDto.ofEntity, PropertyRules.accepts, List.all_cons,
    List.all_nil, Dto.isString, Dto.isOptional, Dto.validateUnless, validateIf, isOptional, hisString,
    hisUUID, mem_falsy, not_mem_nil, Bool.and_true, Bool.and_eq_true, and_assoc]
  simp [Bool.and_comm]

end Auth
