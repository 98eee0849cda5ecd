import AuthService.AccessTokens

/-!
# AuthService.Introspection

The two endpoints that judge an access token.

* `JwtPayload.passes` — the checks of `validateAccessToken`, which both make: expiry, audience, issuer,
  blacklist.
* `serve_introspect`  — introspection makes no others.
* `introspection_agrees_iff` — it agrees with `validateToken` iff the account of a token that passes
  is there and not kept out.
-/

namespace Auth

open Relational Resumption Prog

variable {env : Env} {w : World} {p : JwtPayload}

/-- What `TokenService.validateAccessToken` checks. -/
def JwtPayload.passes (env : Env) (w : World) (p : JwtPayload) : Bool :=
  World.seconds w.now < p.exp && p.aud = env.audience && p.iss = env.issuer && !w.isBlacklisted p.jti

/-- What `AuthService.validateToken` checks besides. -/
def World.admits (w : World) (user : Nat) : Bool :=
  (w.lockState user).any fun l => (l.rejection w.now).isNone

theorem rejection_none_iff : p.rejection env w = none ↔ p.passes env w = true ∧ w.admits p.sub = true := by
  unfold JwtPayload.rejection JwtPayload.passes World.admits
  by_cases hexp : World.seconds w.now ≥ p.exp
  · have hlt : ¬ World.seconds w.now < p.exp := by omega
    simp [hexp, hlt]
  · have hlt : World.seconds w.now < p.exp := by omega
    by_cases haud : p.aud = env.audience
    · by_cases hiss : p.iss = env.issuer
      · cases hlist : w.isBlacklisted p.jti with
        | true => simp [hexp, haud, hiss]
        | false =>
          cases w.lockState p.sub with
          | none => simp [hexp, haud, hiss]
          | some l => simp [hexp, hlt, haud, hiss, Option.isNone_iff_eq_none]
      · simp [hexp, haud, hiss]
    · simp [hexp, haud]

def TokenController.inactive : TokenIntrospectResponse := ⟨false, none, none, none, none, none, none, none⟩

/-- What `introspect` reports of a token. -/
def JwtPayload.introspection (env : Env) (w : World) (p : JwtPayload) : TokenIntrospectResponse :=
  if p.passes env w then
    ⟨true, some p.sub, some p.email, some p.roles, some p.exp, some p.iat, some p.jti, some p.tokenType⟩
  else TokenController.inactive

theorem run_validateAccessToken (env : Env) (w : World) (p : JwtPayload) :
    ∃ result, (TokenService.validateAccessToken env (.signed p)).run (World.machine env) w =
        (.ok result, w) ∧
      (p.passes env w = true → result = ⟨true, some p, none⟩) ∧
      (p.passes env w = false → result.valid = false) := by
  unfold TokenService.validateAccessToken verifyAccessToken JwtPayload.passes
  simp only [bind_eq, pure_eq]
  rw [run_newDate_bind]
  by_cases hexp : World.seconds w.now ≥ p.exp
  · have hlt : ¬ World.seconds w.now < p.exp := by omega
    simp only [if_pos hexp]
    exact ⟨_, rfl, by simp [hlt], fun _ => rfl⟩
  · by_cases haud : p.aud = env.audience
    · by_cases hiss : p.iss = env.issuer
      · simp only [if_neg hexp, haud, hiss, ne_eq, not_true_eq_false, if_false]
        rw [run_isBlacklisted_bind]
        cases hlist : w.isBlacklisted p.jti with
        | true => exact ⟨_, rfl, by simp, fun _ => rfl⟩
        | false => exact ⟨_, rfl, fun _ => rfl, by simp; omega⟩
      · simp only [if_neg hexp, haud, hiss, ne_eq, not_true_eq_false, if_false, not_false_eq_true,
          if_true]
        exact ⟨_, rfl, by simp, fun _ => rfl⟩
    · simp only [if_neg hexp, haud, ne_eq, not_false_eq_true, if_true]
      exact ⟨_, rfl, by simp, fun _ => rfl⟩

theorem serve_introspect (env : Env) (w : World) (p : JwtPayload) :
    serve env (.introspect (.signed p)) w = (.ok (.introspection (p.introspection env w)), w) := by
  obtain ⟨result, hrun, hpass, hfail⟩ := run_validateAccessToken env w p
  refine run_bind_ok _ ?_
  unfold TokenController.introspect JwtPayload.introspection
  simp only [bind_eq, pure_eq]
  rw [run_bind_ok _ hrun]
  cases hp : p.passes env w with
  | true =>
    rw [hpass hp]
    rfl
  | false =>
    have hinvalid := hfail hp
    obtain ⟨valid, payload, reason⟩ := result
    obtain rfl : valid = false := hinvalid
    rfl

/-! ## The two answers -/

/-- Introspection reports the token as active. -/
def World.reportsActive (env : Env) (w : World) (token : Jwt) : Prop :=
  ∃ r, (serve env (.introspect token) w).1 = .ok (.introspection r) ∧ r.active = true

/-- Validation reports the token as valid. -/
def World.reportsValid (env : Env) (w : World) (token : Jwt) : Prop :=
  ∃ r, (serve env (.validateToken token) w).1 = .ok (.validation r) ∧ r.valid = true

theorem reportsActive_iff : w.reportsActive env (.signed p) ↔ p.passes env w = true := by
  unfold World.reportsActive
  rw [serve_introspect]
  constructor
  · rintro ⟨r, hr, hactive⟩
    cases hr
    unfold JwtPayload.introspection at hactive
    split at hactive
    · assumption
    · cases hactive
  · intro hp
    exact ⟨_, rfl, by simp [JwtPayload.introspection, hp]⟩

theorem reportsValid_iff :
    w.reportsValid env (.signed p) ↔ p.passes env w = true ∧ w.admits p.sub = true := by
  unfold World.reportsValid
  rw [serve_validateToken, ← rejection_none_iff]
  constructor
  · rintro ⟨r, hr, hvalid⟩
    cases hr
    cases hrejected : p.rejection env w with
    | none => rfl
    | some reason =>
      rw [hrejected] at hvalid
      cases hvalid
  · intro hnone
    exact ⟨_, rfl, by rw [hnone]; rfl⟩

/-- Introspection agrees with validation iff the token is refused by the checks that both make, or its
account is there and not locked, banned or deleted. -/
theorem introspection_agrees_iff (env : Env) (w : World) (token : Jwt) :
    (w.reportsActive env token ↔ w.reportsValid env token) ↔
      ∀ p, token = .signed p → p.passes env w = true → w.admits p.sub = true := by
  cases token with
  | malformed =>
    refine iff_of_true (iff_of_false ?_ ?_) (by simp)
    · rintro ⟨r, hr, hactive⟩
      cases hr
      cases hactive
    · rintro ⟨r, hr, hvalid⟩
      cases hr
      cases hvalid
  | unsigned claims =>
    refine iff_of_true (iff_of_false ?_ ?_) (by simp)
    · rintro ⟨r, hr, hactive⟩
      cases hr
      cases hactive
    · rintro ⟨r, hr, hvalid⟩
      cases hr
      cases hvalid
  | signed p =>
    rw [reportsActive_iff, reportsValid_iff]
    constructor
    · intro h p' heq hp
      cases heq
      exact (h.mp hp).2
    · intro h
      exact ⟨fun hp => ⟨hp, h p rfl hp⟩, fun hp => hp.1⟩

/-- The first user's access token. -/
def registeredToken : JwtPayload :=
  ⟨1, "a@x", ["USER"], .access, 2, 0, 900, "auth-service", "api-gateway"⟩

/-- The user is banned: the token is active, and not valid. -/
theorem introspection_ignores_ban :
    registeredToken ∈ registered.signed ∧
      ¬ ∀ (w : World) (token : Jwt), Reachable Env.plain w →
        (w.reportsActive Env.plain token ↔ w.reportsValid Env.plain token) := by
  refine ⟨by decide +kernel, fun h => ?_⟩
  have hbanned := h _ (.signed registeredToken)
    (registered_reachable.after [.request (.banUser 1 "abuse" none)])
  rw [reportsActive_iff, reportsValid_iff] at hbanned
  revert hbanned
  decide +kernel

end Auth
