import AuthService.Accounts
import Mathlib.Data.List.TakeWhile

/-!
# AuthService.AccessTokenExpiry

The lifetime of an access token, read off one string twice: by jsonwebtoken, with the grammar of `ms`,
for the claims of the token, and by `getAccessTokenExpirySeconds` for the `expiresIn` of the response.

* `Ms.milliseconds` — `ms(text)`: a number, spaces, and a unit; `Ms.seconds` — jsonwebtoken's lifetime.
* `milliseconds_of_matchExpiry` — a text of the service's own grammar means the same to `ms`.
* `expiresIn_is_lifetime_iff` — the two agree on that grammar, and on a quarter of an hour.
-/

namespace Auth

open Resumption Prog

namespace Ms

/-- `mantissa / 10 ^ places`. -/
structure Decimal where
  mantissa : Int
  places : Nat
  deriving DecidableEq

/-- `(?:\d+)?\.?\d+`. -/
def unsigned (cs : List Char) : Option Decimal :=
  let whole := cs.takeWhile Char.isDigit
  match cs.dropWhile Char.isDigit with
  | [] => if whole = [] then none else some ⟨parseInt whole, 0⟩
  | '.' :: fraction =>
    if fraction ≠ [] ∧ fraction.all Char.isDigit then
      some ⟨parseInt (whole ++ fraction), fraction.length⟩
    else none
  | _ :: _ => none

/-- `-?(?:\d+)?\.?\d+`. -/
def decimal : List Char → Option Decimal
  | '-' :: cs => (unsigned cs).map fun d => ⟨-d.mantissa, d.places⟩
  | cs => unsigned cs

/-- The milliseconds of a unit; a year is 365.25 days. -/
def unit (name : String) : Option Nat :=
  if name ∈ ["years", "year", "yrs", "yr", "y"] then some 31557600000
  else if name ∈ ["weeks", "week", "w"] then some 604800000
  else if name ∈ ["days", "day", "d"] then some 86400000
  else if name ∈ ["hours", "hour", "hrs", "hr", "h"] then some 3600000
  else if name ∈ ["minutes", "minute", "mins", "min", "m"] then some 60000
  else if name ∈ ["seconds", "second", "secs", "sec", "s"] then some 1000
  else if name ∈ ["milliseconds", "millisecond", "msecs", "msec", "ms", ""] then some 1
  else none

def isNumberChar (c : Char) : Bool := c.isDigit || c = '.' || c = '-'

/-- `ms(text)`: the number, any spaces, and the unit in either case. -/
def milliseconds (text : String) : Option Decimal :=
  let number := text.toList.takeWhile isNumberChar
  let rest := (text.toList.dropWhile isNumberChar).dropWhile (· = ' ')
  match decimal number, unit (String.ofList (rest.map Char.toLower)) with
  | some d, some u => some ⟨d.mantissa * u, d.places⟩
  | _, _ => none

/-- `Math.floor(iat + ms(text) / 1000) - iat`. -/
def seconds (text : String) : Option Int :=
  (milliseconds text).map fun d => d.mantissa / (1000 * 10 ^ d.places)

end Ms

/-! ## The service's own grammar -/

/-- The milliseconds of the four units that `getAccessTokenExpirySeconds` knows. -/
def shortUnit : Char → Option Nat
  | 's' => some 1000
  | 'm' => some 60000
  | 'h' => some 3600000
  | 'd' => some 86400000
  | _ => none

theorem matchExpiry_eq_some {expiry : String} {value : Nat} {u : Char}
    (h : matchExpiry expiry = some (value, u)) :
    ∃ digits, expiry.toList = digits ++ [u] ∧ digits ≠ [] ∧ (∀ c ∈ digits, c.isDigit = true) ∧
      u ∈ ['s', 'm', 'h', 'd'] ∧ value = parseInt digits := by
  unfold matchExpiry at h
  cases hlast : expiry.toList.getLast? with
  | none =>
    rw [hlast] at h
    cases h
  | some last =>
    simp only [hlast] at h
    split at h
    · rename_i hgrammar
      cases h
      refine ⟨expiry.toList.dropLast, ?_, hgrammar.1, List.all_eq_true.mp hgrammar.2.1, hgrammar.2.2, rfl⟩
      exact (List.dropLast_append_getLast? _ hlast).symm
    · cases h

theorem decimal_digits {digits : List Char} (hne : digits ≠ []) (hd : ∀ c ∈ digits, c.isDigit = true) :
    Ms.decimal digits = some ⟨parseInt digits, 0⟩ := by
  have hunsigned : Ms.unsigned digits = some ⟨parseInt digits, 0⟩ := by
    unfold Ms.unsigned
    rw [List.takeWhile_eq_self_iff.mpr hd, List.dropWhile_eq_nil_iff.mpr hd]
    simp [hne]
  cases digits with
  | nil => exact absurd rfl hne
  | cons c cs =>
    have hc : c ≠ '-' := by
      rintro rfl
      exact absurd (hd '-' List.mem_cons_self) (by decide)
    unfold Ms.decimal
    split
    · rename_i heq
      cases heq
      exact absurd rfl hc
    · exact hunsigned

/-- A text of the service's grammar is one of `ms`, with the same meaning. -/
theorem milliseconds_of_matchExpiry {expiry : String} {value : Nat} {u : Char}
    (h : matchExpiry expiry = some (value, u)) :
    ∃ scale, shortUnit u = some scale ∧ Ms.milliseconds expiry = some ⟨value * scale, 0⟩ := by
  obtain ⟨digits, htext, hne, hd, hu, rfl⟩ := matchExpiry_eq_some h
  have hnumber : ∀ c ∈ digits, Ms.isNumberChar c = true := by
    intro c hc
    simp [Ms.isNumberChar, hd c hc]
  have hcases : u = 's' ∨ u = 'm' ∨ u = 'h' ∨ u = 'd' := by simpa using hu
  have hstop : Ms.isNumberChar u = false := by
    rcases hcases with rfl | rfl | rfl | rfl <;> decide
  have htake : expiry.toList.takeWhile Ms.isNumberChar = digits := by
    rw [htext, List.takeWhile_append_of_pos hnumber]
    simp [hstop]
  have hdrop : expiry.toList.dropWhile Ms.isNumberChar = [u] := by
    rw [htext, List.dropWhile_append_of_pos hnumber]
    simp [hstop]
  unfold Ms.milliseconds
  simp only [htake, hdrop, decimal_digits hne hd]
  rcases hcases with rfl | rfl | rfl | rfl <;> exact ⟨_, rfl, rfl⟩

/-! ## Announced and real lifetime -/

theorem getAccessTokenExpirySeconds_of_matchExpiry {env : Env} {value : Nat} {u : Char}
    (h : matchExpiry env.accessTokenExpiry = some (value, u)) {scale : Nat}
    (hscale : shortUnit u = some scale) : env.getAccessTokenExpirySeconds * 1000 = value * scale := by
  obtain ⟨digits, -, -, -, hu, -⟩ := matchExpiry_eq_some h
  have hcases : u = 's' ∨ u = 'm' ∨ u = 'h' ∨ u = 'd' := by simpa using hu
  unfold Env.getAccessTokenExpirySeconds
  rw [h]
  rcases hcases with rfl | rfl | rfl | rfl <;> cases hscale <;> simp only <;> omega

theorem getAccessTokenExpirySeconds_default {env : Env}
    (h : matchExpiry env.accessTokenExpiry = none) : env.getAccessTokenExpirySeconds = 900 := by
  unfold Env.getAccessTokenExpirySeconds
  rw [h]

/-- `ms(text)` is a quarter of an hour, up to less than a second more. -/
def Ms.quarterHour (text : String) : Bool :=
  (Ms.milliseconds text).any fun d =>
    900000 * 10 ^ d.places ≤ d.mantissa && d.mantissa < 901000 * 10 ^ d.places

theorem Ms.quarterHour_iff (text : String) : Ms.quarterHour text = true ↔ Ms.seconds text = some 900 := by
  unfold Ms.quarterHour Ms.seconds
  cases Ms.milliseconds text with
  | none => simp
  | some d =>
    have hpos : (0 : Int) < 10 ^ d.places := Int.pow_pos (by decide)
    simp only [Option.any_some, Option.map_some, Option.some.injEq, Bool.and_eq_true, decide_eq_true_eq]
    generalize (10 : Int) ^ d.places = scale at hpos ⊢
    have hle : 900 ≤ d.mantissa / (1000 * scale) ↔ 900 * (1000 * scale) ≤ d.mantissa :=
      Int.le_ediv_iff_mul_le (by omega)
    have hlt : d.mantissa / (1000 * scale) < 901 ↔ d.mantissa < 901 * (1000 * scale) :=
      Int.ediv_lt_iff_lt_mul (by omega)
    omega

/-- What an access token lives for is `ms` of the configured text. -/
theorem lifetime_of_generateAccessToken {env : Env}
    (henv : env.timespan env.accessTokenExpiry = Ms.seconds env.accessTokenExpiry) {userId : Nat} {email : String} {roles : List String} {w w' : World} {p : JwtPayload}
    (h : (TokenService.generateAccessToken userId email roles).run (World.machine env) w =
      (.ok (.signed p), w')) : Ms.seconds env.accessTokenExpiry = some (p.exp - p.iat) := by
  have hexec : World.exec env (.signAccessToken userId email roles .access) w = (.ok (.signed p), w') :=
    (run_perform (S := sig) (World.machine env) (.signAccessToken userId email roles .access) w).symm.trans h
  simp only [World.exec, henv] at hexec
  cases hspan : Ms.seconds env.accessTokenExpiry with
  | none =>
    rw [hspan] at hexec
    cases hexec
  | some lifetime =>
    rw [hspan] at hexec
    cases hexec
    simp

/-- `expiresIn` is the lifetime of the token signed with the same configuration iff the text is a number
and one of the units `s`, `m`, `h` and `d`, or says a quarter of an hour in another way. The arithmetic is
exact: `ms`, jsonwebtoken and `parseInt` compute in doubles, and `ms` reads no text of more than 100
characters. -/
theorem expiresIn_is_lifetime_iff {env : Env}
    (henv : env.timespan env.accessTokenExpiry = Ms.seconds env.accessTokenExpiry) {userId : Nat} {email : String} {roles : List String} {w w' : World} {p : JwtPayload}
    (h : (TokenService.generateAccessToken userId email roles).run (World.machine env) w =
      (.ok (.signed p), w')) :
    (env.getAccessTokenExpirySeconds : Int) = p.exp - p.iat ↔
      (matchExpiry env.accessTokenExpiry).isSome = true ∨
        Ms.quarterHour env.accessTokenExpiry = true := by
  have hlifetime := lifetime_of_generateAccessToken henv h
  rw [Ms.quarterHour_iff, hlifetime]
  cases hmatch : matchExpiry env.accessTokenExpiry with
  | none =>
    rw [getAccessTokenExpirySeconds_default hmatch]
    simp [eq_comm]
  | some m =>
    obtain ⟨value, u⟩ := m
    obtain ⟨scale, hscale, hms⟩ := milliseconds_of_matchExpiry hmatch
    have hannounced := getAccessTokenExpirySeconds_of_matchExpiry hmatch hscale
    rw [Ms.seconds, hms] at hlifetime
    simp only [Option.map_some, pow_zero, mul_one, Option.some.injEq] at hlifetime
    simp only [Option.isSome_some, true_or, iff_true]
    omega

/-- `JWT_ACCESS_TOKEN_EXPIRY` set, and `ms` as jsonwebtoken reads it. -/
def Env.expiring (text : String) : Env :=
  { Env.plain with
    config := ⟨fun _ => none, fun path => if path = "jwt.accessTokenExpiry" then some text else none⟩
    timespan := Ms.seconds }

/-- The first token of the user 1, with the lifetime given. -/
def tokenOf (lifetime : Int) : JwtPayload :=
  ⟨1, "a@x", ["USER"], .access, 0, 0, lifetime, "auth-service", "api-gateway"⟩

/-- An hour is announced as an hour. -/
theorem expiresIn_is_lifetime_hour :
    ((Env.expiring "1h").getAccessTokenExpirySeconds : Int) = (tokenOf 3600).exp - (tokenOf 3600).iat := by
  have hiff := @expiresIn_is_lifetime_iff (Env.expiring "1h") rfl 1 "a@x" ["USER"]
    (World.initial .empty 0 0) _ (tokenOf 3600) rfl
  exact hiff.mpr (.inl (by decide))

/-- Two weeks are announced as a quarter of an hour. -/
theorem expiresIn_not_lifetime :
    ¬ ∀ (env : Env) (userId : Nat) (email : String) (roles : List String) (w w' : World) (p : JwtPayload),
        env.timespan = Ms.seconds →
        (TokenService.generateAccessToken userId email roles).run (World.machine env) w =
          (.ok (.signed p), w') →
        (env.getAccessTokenExpirySeconds : Int) = p.exp - p.iat := by
  intro h
  have hweeks := h (Env.expiring "2w") 1 "a@x" ["USER"] (World.initial .empty 0 0) _ (tokenOf 1209600) rfl
    rfl
  exact absurd hweeks (by decide)

end Auth
