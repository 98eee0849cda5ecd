import AuthService.Deletion
import AuthService.Isolation
import AuthService.Resumption.Lockstep

/-!
# AuthService.RedisOutage

Requests and jobs, statement by statement, while Redis is unreachable at some instants: a blacklist
lookup is answered with `false` (fail-open), and a logout ends before it has done anything.

* `World.outage`  — the statements, where Redis fails every command at the instants that `down` names.
* `cutOff`        — a logout whose blacklist key was not written; `KeyFirst` — it comes before
  everything else a logout does.
* `Lenient`       — a program that takes a failed lookup for `false`; `Inquires` — the reads and the
  answer that are left after it.
* `Beside`        — a thread beside its counterpart in the run with Redis up.
* `redis_outage_confined` — the run is the run with Redis up and without those logouts, but for the
  checks of tokens whose blacklist key was overlooked.
-/

namespace Auth

open Relational Resumption Prog

/-- The commands that go to Redis. -/
def Stmt.redis : Stmt → Bool
  | .setBlacklist _ _ => true
  | .existsBlacklist _ => true
  | _ => false

/-- At an instant when Redis is `down`, each of its commands fails and changes nothing. -/
def World.outage (env : Env) (down : Int → Option Exn) : Machine sig World where
  exec s w :=
    match s.redis, down w.now with
    | true, some e => (.error e, w)
    | _, _ => World.exec env s w
  tick := (World.machine env).tick

/-- A blacklist key that was not written. -/
def unkeyed : Exchange sig → Bool
  | ⟨.setBlacklist _ _, .error _⟩ => true
  | _ => false

/-- A blacklist key that was not written, and not for what the token says. -/
def missesKey (x : Exchange sig.refusable) : Bool := x.stmt.2.isNone && unkeyed x.unrefused

/-- The answer about a token that is on the blacklist. -/
def Request.listed : Request → Response
  | .validateToken _ => .validation ⟨false, none, some "blacklisted"⟩
  | _ => .introspection ⟨false, none, none, none, none, none, none, none⟩

/-- The answers about the token `p` where it is not on the blacklist. -/
def Request.Unlisted (p : JwtPayload) : Request → Response → Prop
  | .validateToken _, v =>
    v = .validation ⟨true, some p, none⟩ ∨
      ∃ reason ∈ ["invalid", "account_locked", "account_banned"],
        v = .validation ⟨false, none, some reason⟩
  | .introspect _, v =>
    v = .introspection ⟨true, some p.sub, some p.email, some p.roles, some p.exp, some p.iat,
      some p.jti, some p.tokenType⟩
  | _, _ => False

/-- The token that a request asks about. -/
def Request.judged : Request → Option Jwt
  | .validateToken token => some token
  | .introspect token => some token
  | _ => none

variable {env : Env} {down : Int → Option Exn} {w w' : World} {r : Request}

/-! ## Statements -/

/-- Redis fails the statement, or it is executed as ever. -/
theorem outage_exec (env : Env) (down : Int → Option Exn) (s : sig.refusable.Stmt) (w : World) :
    (World.outage env down).refusable.exec s w = (World.machine env).refusable.exec s w ∨
      ∃ e, s.2 = none ∧ s.1.redis = true ∧ down w.now = some e ∧
        (World.outage env down).refusable.exec s w = (.error e, w) := by
  obtain ⟨s, refused⟩ := s
  cases refused with
  | some e => exact .inl rfl
  | none =>
    cases hs : s.redis with
    | false =>
      refine .inl ?_
      simp only [Machine.refusable, World.outage, hs]
      rfl
    | true =>
      cases hdown : down w.now with
      | none =>
        refine .inl ?_
        simp only [Machine.refusable, World.outage, hs, hdown]
        rfl
      | some e =>
        refine .inr ⟨e, rfl, rfl, rfl, ?_⟩
        simp only [Machine.refusable, World.outage, hs, hdown]

theorem outage_keeps {I : World → Prop} {s : sig.refusable.Stmt} (h : I w)
    (hexec : I (World.exec env s.1 w).2) : I ((World.outage env down).refusable.exec s w).2 := by
  rcases outage_exec env down s w with hsame | ⟨e, -, -, -, hfail⟩
  · rw [hsame]
    exact exec_refusable_keeps h hexec
  · rw [hfail]
    exact h

theorem outage_now (s : sig.refusable.Stmt) (w : World) :
    ((World.outage env down).refusable.exec s w).2.now = w.now :=
  outage_keeps (I := fun v => v.now = w.now) rfl (World.exec_now env s.1 w)

/-! ## Programs -/

/-- A program that reads the clock and accounts only, and returns an answer in `P`. -/
def Inquires (P : Response → Prop) : Prog sig.refusable Response → Prop
  | .ret v => P v
  | .throw _ => False
  | .call s k => (s.1 = .newDate ∨ ∃ id, s.1 = .findCredentialById id) ∧ ∀ r, Inquires P (k r)

/-- The rest of a program takes a failed lookup for one that finds nothing, and a logout whose key is not
written ends with the failure. -/
def Stmt.Lenient (r : Request) :
    (s : Stmt) → (Except Exn s.Reply → Prog sig.refusable Response) → Prop
  | .existsBlacklist _, k =>
    (∀ e, k (.error e) = k (.ok false)) ∧ k (.ok true) = .ret r.listed ∧
      ∀ p, r.judged = some (.signed p) → Inquires (r.Unlisted p) (k (.ok false))
  | .setBlacklist _ _, k =>
    (∃ token raw ip ua, r = .logout token raw ip ua) ∧ ∀ e, k (.error e) = .throw e
  | _, _ => True

def Lenient (r : Request) : Prog sig.refusable Response → Prop
  | .ret _ => True
  | .throw _ => True
  | .call s k => s.1.Lenient r k ∧ ∀ reply, Lenient r (k reply)

theorem Inquires.lenient {P : Response → Prop} {p : Prog sig.refusable Response}
    (h : Inquires P p) : Lenient r p := by
  induction p with
  | ret v => trivial
  | throw e => trivial
  | call s k ih =>
    obtain ⟨hs, hk⟩ := h
    refine ⟨?_, fun reply => ih reply (hk reply)⟩
    obtain ⟨s, refused⟩ := s
    rcases hs with rfl | ⟨id, rfl⟩ <;> trivial

theorem lenient_of_uses {refuse : Stmt → Option Exn} {p : AuthProg Response}
    (hp : p.Uses fun s : Stmt => s.redis = false) : Lenient r (p.submit refuse) := by
  induction p with
  | ret a => trivial
  | throw e => trivial
  | call s k ih =>
    refine ⟨?_, fun reply => ih reply (hp.2 reply)⟩
    obtain ⟨hs, -⟩ := hp
    cases s
    case existsBlacklist | setBlacklist => cases hs
    all_goals trivial

/-- What is left of `validateToken` after the lookup. -/
theorem inquires_checkAccountStatus (refuse : Stmt → Option Exn) (p : JwtPayload) :
    Inquires (Request.Unlisted p (.validateToken (.signed p)))
      (((AuthService.checkAccountStatus ⟨true, some p, none⟩ p).bind fun v =>
        .ret (.validation v)).submit refuse) := by
  refine ⟨.inr ⟨p.sub, rfl⟩, fun reply => ?_⟩
  cases reply with
  | error e => exact .inl rfl
  | ok user? =>
    cases user? with
    | none => exact .inr ⟨"invalid", by simp, rfl⟩
    | some user =>
      obtain ⟨id, email, passwordHash, status, roles, attempts, lockedUntil, lastLoginAt, lastLoginIp,
        passwordChangedAt⟩ := user
      cases status with
      | active => exact .inl rfl
      | banned => exact .inr ⟨"account_banned", by simp, rfl⟩
      | deleted => exact .inr ⟨"invalid", by simp, rfl⟩
      | locked =>
        cases lockedUntil with
        | none => exact .inr ⟨"account_locked", by simp, rfl⟩
        | some lockedUntil =>
          refine ⟨.inl rfl, fun reply => ?_⟩
          cases reply with
          | error e => exact .inl rfl
          | ok now =>
            show Inquires _ ((((if lockedUntil ≤ now then .ret ⟨true, some p, none⟩
              else .ret ⟨false, none, some "account_locked"⟩ : AuthProg TokenValidationResult).tryCatch
                fun _ => .ret ⟨true, some p, none⟩).bind fun v => .ret (.validation v)).submit refuse)
            split
            · exact .inl rfl
            · exact .inr ⟨"account_locked", by simp, rfl⟩

theorem lenient_validateToken (env : Env) (refuse : Stmt → Option Exn) (token : Jwt) :
    Lenient (.validateToken token) ((handle env (.validateToken token)).submit refuse) := by
  refine ⟨trivial, fun reply => ?_⟩
  cases reply with
  | error e => trivial
  | ok now =>
    dsimp only [Prog.bind]
    cases hverify : verifyAccessToken env token now with
    | error e => cases e <;> trivial
    | ok p =>
      obtain rfl := verifyAccessToken_ok hverify
      have hinquires := inquires_checkAccountStatus refuse p
      refine ⟨⟨fun e => rfl, rfl, fun p' hp => ?_⟩, fun reply => ?_⟩
      · cases hp
        exact hinquires
      · cases reply with
        | error e => exact hinquires.lenient
        | ok listed =>
          cases listed with
          | true => trivial
          | false => exact hinquires.lenient

theorem lenient_introspect (env : Env) (refuse : Stmt → Option Exn) (token : Jwt) :
    Lenient (.introspect token) ((handle env (.introspect token)).submit refuse) := by
  refine ⟨trivial, fun reply => ?_⟩
  cases reply with
  | error e => trivial
  | ok now =>
    dsimp only [Prog.bind]
    cases hverify : verifyAccessToken env token now with
    | error e => cases e <;> trivial
    | ok p =>
      obtain rfl := verifyAccessToken_ok hverify
      refine ⟨⟨fun e => rfl, rfl, fun p' hp => ?_⟩, fun reply => ?_⟩
      · cases hp
        exact rfl
      · cases reply with
        | error e => trivial
        | ok listed => cases listed <;> trivial

/-- What a logout does after it has blacklisted the access token. -/
def logoutRest (token : Jwt) (raw : Nat) (ip ua : Option String) : AuthProg Unit := do
  let userId ← AuthService.logoutSession token raw
  AuthService.publishLogout userId (extractJti token)
  AuditLogRepository.create
    { eventType := "LOGOUT", userId, email := none, ipAddress := ip, userAgent := ua,
      outcome := .success, metadata := some [("jti", (extractJti token).elim .null .uuid)] }

theorem uses_logoutRest (token : Jwt) (raw : Nat) (ip ua : Option String) :
    (logoutRest token raw ip ua).Uses fun s : Stmt => s.redis = false := by
  refine uses_bind (uses_logoutSession rfl rfl fun _ _ => rfl) fun userId => ?_
  exact uses_bind (uses_publishLogout rfl fun _ _ _ => rfl) fun _ => (uses_perform _).mpr rfl

theorem lenient_logout (env : Env) (refuse : Stmt → Option Exn) (token : Jwt) (raw : Nat)
    (ip ua : Option String) :
    Lenient (.logout token raw ip ua) ((handle env (.logout token raw ip ua)).submit refuse) := by
  have hrest : ∀ r, Lenient r (((logoutRest token raw ip ua).bind fun _ => .ret .done).submit refuse) :=
    fun r => lenient_of_uses (uses_bind (uses_logoutRest token raw ip ua) fun _ => trivial)
  show Lenient _ ((((TokenService.revokeAccessToken token).bind fun _ =>
    logoutRest token raw ip ua).bind fun _ => .ret .done).submit refuse)
  rw [bind_assoc]
  unfold TokenService.revokeAccessToken
  cases hjti : extractJti token with
  | none => exact hrest _
  | some jti =>
    refine ⟨trivial, fun reply => ?_⟩
    cases reply with
    | error e => trivial
    | ok now =>
      show Lenient _ (((if remainingTtl token now > 0 then
        BlacklistService.blacklistToken jti (remainingTtl token now) else .ret ()).bind _).submit refuse)
      unfold BlacklistService.blacklistToken
      split
      · split
        · exact hrest _
        · refine ⟨⟨⟨token, raw, ip, ua, rfl⟩, fun e => rfl⟩, fun reply => ?_⟩
          cases reply with
          | error e => trivial
          | ok _ => exact hrest _
      · exact hrest _

theorem uses_job (j : Job) : (handle env j.request).Uses fun s : Stmt => s.redis = false := by
  cases j with
  | unlockExpiredLockouts =>
    refine uses_bind (uses_tryCatch ?_ fun _ => trivial) fun _ => trivial
    refine uses_bind (uses_perform_bind rfl fun now => (uses_perform _).mpr rfl) fun accounts => ?_
    exact uses_forEach fun c _ => uses_tryCatch ((uses_perform _).mpr rfl) fun _ => trivial
  | cleanupRefreshTokens =>
    refine uses_bind (uses_tryCatch ?_ fun _ => trivial) fun _ => trivial
    exact uses_bind (uses_perform_bind rfl fun _ => (uses_perform _).mpr rfl) fun _ => trivial
  | cleanupPasswordResets =>
    refine uses_bind (uses_tryCatch ?_ fun _ => trivial) fun _ => trivial
    exact uses_bind (uses_perform_bind rfl fun _ => (uses_perform _).mpr rfl) fun _ => trivial

/-- A request that does not judge a token looks no blacklist key up. -/
theorem uses_unasking (hr : r.addressed = true) :
    (handle env r).Uses fun s : Stmt => ∀ jti, s ≠ .existsBlacklist jti := by
  refine (uses_of_justified (addresses_handle env hr)).mono ?_
  rintro s ⟨h, hs⟩ jti rfl
  exact hs

theorem lenient_http (env : Env) (x : HttpRequest) : Lenient (x.request env) (x.program env) := by
  unfold HttpRequest.program
  rcases addressed_or_validates env x with haddressed | hvalidates
  · by_cases hlogout : ∃ raw, x.route = .logout raw
    · obtain ⟨raw, hroute⟩ := hlogout
      have hrequest : x.request env = .logout x.accessToken raw none none := by
        unfold HttpRequest.request
        rw [hroute]
      rw [hrequest]
      exact lenient_logout env _ x.accessToken raw none none
    · refine lenient_of_uses (((uses_unasking haddressed).and (uses_handle _)).mono fun s hs => ?_)
      obtain ⟨hunasking, hs⟩ := hs
      cases s
      case existsBlacklist jti => exact absurd rfl (hunasking jti)
      case setBlacklist jti ttl =>
        refine absurd hs (not_setBlacklist fun token raw ip ua hrequest => hlogout ?_)
        unfold HttpRequest.request at hrequest
        cases hroute : x.route
        case logout raw => exact ⟨raw, rfl⟩
        all_goals
          rw [hroute] at hrequest
          cases hrequest
      all_goals rfl
  · cases hrequest : x.request env
    case validateToken token => exact lenient_validateToken env _ token
    case introspect token => exact lenient_introspect env _ token
    all_goals
      rw [hrequest] at hvalidates
      cases hvalidates

theorem lenient_program {a : Activity} (hr : a.Serves env r) : Lenient r (a.program env) := by
  cases a with
  | pass n => cases hr
  | job j =>
    cases hr
    exact lenient_of_uses (uses_job j)
  | http x =>
    cases hr
    exact lenient_http env x

/-- A lookup comes after the token has been found genuine and unexpired. -/
def Asked (env : Env) (r : Request) (h : List (Exchange sig)) (s : Stmt) : Prop :=
  ∀ jti, s = .existsBlacklist jti → ∃ p t, r.judged = some (.signed p) ∧
    verifyAccessToken env (.signed p) t = .ok p ∧ ⟨.newDate, .ok t⟩ ∈ h

theorem asked_of_uses {α : Type} {h : List (Exchange sig)} {p : AuthProg α}
    (hp : p.Uses fun s : Stmt => ∀ jti, s ≠ .existsBlacklist jti) : p.Justified (Asked env r) h :=
  justified_of_uses hp fun _ _ _ hs jti hjti => absurd hjti (hs jti)

theorem uses_checkAccountStatus {A : Stmt → Prop} (result : TokenValidationResult) (p : JwtPayload)
    (hclock : A .newDate) (hfind : ∀ id, A (.findCredentialById id)) :
    (AuthService.checkAccountStatus result p).Uses A := by
  refine uses_tryCatch (uses_perform_bind (hfind _) fun user? => ?_) fun _ => trivial
  cases user? with
  | none => trivial
  | some user =>
    simp only
    split
    · split
      · apply uses_perform_bind hclock
        intro now
        split <;> trivial
      · trivial
    · trivial
    · trivial
    · trivial

theorem asked_validateAccessToken {token : Jwt} (hr : r.judged = some token) :
    (TokenService.validateAccessToken env token).Justified (Asked env r) [] := by
  apply justified_perform_bind (by simp [Asked])
  intro now
  split
  · trivial
  · trivial
  · rename_i p hverify
    obtain rfl := verifyAccessToken_ok hverify
    refine ⟨fun jti _ => ⟨p, now, hr, hverify, by simp⟩, fun reply => ?_⟩
    cases reply with
    | error e => trivial
    | ok listed => cases listed <;> trivial

theorem asked_handle (env : Env) (hr : r.addressed = true ∨ r.validates = true) :
    (handle env r).Justified (Asked env r) [] := by
  rcases hr with haddressed | hvalidates
  · exact asked_of_uses (uses_unasking haddressed)
  · cases r
    case introspect token =>
      refine justified_map (justified_bind (asked_validateAccessToken rfl) fun h' _ result => ?_) _
      split <;> trivial
    case validateToken token =>
      refine justified_map (justified_bind (asked_validateAccessToken rfl) fun h' _ result => ?_) _
      split
      · exact asked_of_uses (uses_checkAccountStatus _ _ (by simp) (by simp))
      · trivial
    all_goals cases hvalidates

theorem asked_program (env : Env) (a : Activity) :
    (a.program env).Justified
      (fun h s => ∃ r, a.Serves env r ∧ Asked env r (h.map Exchange.unrefused) s.1) [] := by
  cases a with
  | pass n => trivial
  | http x =>
    apply (justified_submit (asked_handle env (addressed_or_validates env x))).mono
    intro h s hs
    exact ⟨_, rfl, hs⟩
  | job j =>
    refine (justified_submit (asked_of_uses ((uses_job j).mono ?_))).mono fun h s hs => ⟨_, rfl, hs⟩
    rintro s hs jti rfl
    cases hs

/-- A logout writes its blacklist key after reading the clock and before anything else, and does nothing
where the key was not written. -/
def KeyFirst (h : List (Exchange sig)) (s : Stmt) : Prop :=
  (∀ x ∈ h, unkeyed x = false) ∧
    ∀ jti ttl, s = .setBlacklist jti ttl → ∀ x ∈ h, x.stmt = .newDate

theorem set_of_unkeyed {x : Exchange sig} (h : unkeyed x = true) :
    ∃ jti ttl, x.stmt = .setBlacklist jti ttl := by
  obtain ⟨s, reply⟩ := x
  cases s
  case setBlacklist jti ttl => exact ⟨jti, ttl, rfl⟩
  all_goals cases h

theorem keyFirst_of_uses {α : Type} {h : List (Exchange sig)} {p : AuthProg α}
    (hp : p.Uses fun s : Stmt => ∀ jti ttl, s ≠ .setBlacklist jti ttl)
    (hkeys : ∀ x ∈ h, unkeyed x = false) : p.Justified KeyFirst h := by
  induction p generalizing h with
  | ret a => trivial
  | throw e => trivial
  | call s k ih =>
    obtain ⟨hs, hk⟩ := hp
    refine ⟨⟨hkeys, fun jti ttl hset => absurd hset (hs jti ttl)⟩, fun reply => ih reply (hk reply) ?_⟩
    intro x hx
    rcases List.mem_cons.mp hx with rfl | hx
    · cases s
      case setBlacklist jti ttl => exact absurd rfl (hs jti ttl)
      all_goals rfl
    · exact hkeys x hx

theorem keyFirst_logout (token : Jwt) (raw : Nat) (ip ua : Option String) :
    (AuthService.logout token raw ip ua).Justified KeyFirst [] := by
  have hrest : (logoutRest token raw ip ua).Uses fun s : Stmt => ∀ jti ttl, s ≠ .setBlacklist jti ttl := by
    refine (uses_logoutRest token raw ip ua).mono ?_
    rintro s hs jti ttl rfl
    cases hs
  show ((TokenService.revokeAccessToken token).bind fun _ => logoutRest token raw ip ua).Justified _ _
  unfold TokenService.revokeAccessToken
  cases hjti : extractJti token with
  | none => exact keyFirst_of_uses hrest (by simp)
  | some jti =>
    refine ⟨⟨by simp, by simp⟩, fun reply => ?_⟩
    cases reply with
    | error e => trivial
    | ok now =>
      have hclock : ∀ x ∈ [(⟨.newDate, .ok now⟩ : Exchange sig)], unkeyed x = false := by
        intro x hx
        rw [List.mem_singleton.mp hx]
        rfl
      show ((if remainingTtl token now > 0 then
        BlacklistService.blacklistToken jti (remainingTtl token now) else .ret ()).bind _).Justified _ _
      unfold BlacklistService.blacklistToken
      split
      · split
        · exact keyFirst_of_uses hrest hclock
        · refine ⟨⟨hclock, fun _ _ _ x hx => by rw [List.mem_singleton.mp hx]⟩, fun reply => ?_⟩
          cases reply with
          | error e => trivial
          | ok _ =>
            apply keyFirst_of_uses hrest
            intro x hx
            rcases List.mem_cons.mp hx with rfl | hx
            · rfl
            · exact hclock x hx
      · exact keyFirst_of_uses hrest hclock

theorem keyFirst_program (env : Env) (a : Activity) :
    (a.program env).Justified (fun h s => KeyFirst (h.map Exchange.unrefused) s.1) [] := by
  have hgoal : ∀ {r : Request} {refuse : Stmt → Option Exn},
      ((handle env r).submit refuse).Justified
        (fun h s => KeyFirst (h.map Exchange.unrefused) s.1) [] := by
    intro r refuse
    refine justified_submit ?_
    by_cases hlogout : ∃ token raw ip ua, r = .logout token raw ip ua
    · obtain ⟨token, raw, ip, ua, rfl⟩ := hlogout
      exact justified_map (keyFirst_logout token raw ip ua) _
    · refine keyFirst_of_uses ((uses_handle r).mono fun s hs jti ttl hset => ?_) (by simp)
      rw [hset] at hs
      exact not_setBlacklist (fun token raw ip ua hr => hlogout ⟨token, raw, ip, ua, hr⟩) hs
  cases a with
  | pass n => trivial
  | job j => exact hgoal
  | http x => exact hgoal

/-! ## Runs -/

section Interleaved

variable {ι : Type} [DecidableEq ι] {acts : ι → Activity} {lost : ι → Bool}
  {M : Machine sig.refusable World}
  {C : Pool sig.refusable World ι (fun _ => Response) → Label ι → Prop}
  {q q' : Pool sig.refusable World ι fun _ => Response} {i : ι}
  {s : sig.refusable.Stmt} {k : Except Exn (sig.refusable.Reply s) → Prog sig.refusable Response}

/-- A logout that Redis has cut off. -/
def cutOff (q : Pool sig.refusable World ι fun _ => Response) (i : ι) : Bool :=
  (q.history i).any missesKey

theorem cutOff_other {j : ι} (hp : q.prog j = .call s k) (hij : j ≠ i) :
    cutOff (q.step M (.run j)) i = cutOff q i := by
  unfold cutOff
  rw [Pool.history_step hp, if_neg hij]

/-- A thread is cut off by a statement that comes after readings of the clock only. -/
theorem cutOff_self (hr : Reach M C (answering env acts w) q) (hp : q.prog i = .call s k)
    (hcut : cutOff (q.step M (.run i)) i = true) :
    missesKey ⟨s, (M.exec s q.world).1⟩ = true ∧ ∀ x ∈ q.history i, x.stmt.1 = .newDate := by
  obtain ⟨hkeys, hclock⟩ : KeyFirst (q.seen i) s.1 :=
    hr.justified_seen (J := fun _ h s => KeyFirst h s) rfl (fun i => keyFirst_program env (acts i)) hp
  unfold cutOff at hcut
  rw [Pool.history_step hp, if_pos rfl, List.any_cons, Bool.or_eq_true] at hcut
  have hmisses : missesKey ⟨s, (M.exec s q.world).1⟩ = true := by
    rcases hcut with hnew | hold
    · exact hnew
    · obtain ⟨x, hx, hmisses⟩ := List.any_eq_true.mp hold
      have hunkeyed := (Bool.and_eq_true_iff.mp hmisses).2
      rw [hkeys _ (List.mem_map_of_mem hx)] at hunkeyed
      cases hunkeyed
  obtain ⟨jti, ttl, hset⟩ := set_of_unkeyed (Bool.and_eq_true_iff.mp hmisses).2
  exact ⟨hmisses, fun x hx => hclock jti ttl hset _ (List.mem_map_of_mem hx)⟩

/-- Such a logout has read the clock, and nothing else. -/
theorem history_cutOff (hr : Reach M C (answering env acts w) q) (hcut : cutOff q i = true) :
    ∀ x ∈ q.history i, x.stmt.1 = .newDate ∨ missesKey x = true := by
  refine hr.invariant_steps
    (I := fun q => cutOff q i = true → ∀ x ∈ q.history i, x.stmt.1 = .newDate ∨ missesKey x = true)
    (fun hnone => by cases hnone) (fun q n _ ih _ => ih) (fun q j s k hq ih _ hp hcut => ?_) hcut
  by_cases hji : j = i
  · subst hji
    obtain ⟨hmisses, hclock⟩ := cutOff_self hq hp hcut
    rw [Pool.history_step hp, if_pos rfl]
    intro x hx
    rcases List.mem_cons.mp hx with rfl | hx
    · exact .inr hmisses
    · exact .inl (hclock x hx)
  · rw [cutOff_other hp hji] at hcut
    rw [Pool.history_step hp, if_neg hji]
    exact ih hcut

theorem asked_reach (hr : Reach M C (answering env acts w) q) (hp : q.prog i = .call s k) :
    ∃ r, (acts i).Serves env r ∧ Asked env r (q.seen i) s.1 :=
  hr.justified_seen (J := fun i h s => ∃ r, (acts i).Serves env r ∧ Asked env r h s) rfl
    (fun i => asked_program env (acts i)) hp

theorem lenient_reach (hr : Reach M C (answering env acts w) q) (hserves : (acts i).Serves env r) :
    Lenient r (q.prog i) := by
  refine hr.invariant_steps (p := answering env acts w) (I := fun q => Lenient r (q.prog i))
    (lenient_program hserves)
    (fun q n _ ih _ => ih) fun q j s k _ ih _ hp => ?_
  rw [Pool.step_call hp]
  by_cases hij : i = j
  · subst hij
    rw [hp] at ih
    simpa using ih.2 (M.exec s q.world).1
  · simpa [Function.update_of_ne hij] using ih

/-- The clock has been read since the start, and not ahead of time. -/
theorem outage_read (hr : Reach (World.outage env down).refusable C (answering env acts w) q) {t : Int}
    (hread : ⟨.newDate, .ok t⟩ ∈ q.seen i) : w.now ≤ t ∧ t ≤ q.world.now := by
  suffices h : w.now ≤ q.world.now ∧
      ∀ t, ⟨.newDate, .ok t⟩ ∈ q.seen i → w.now ≤ t ∧ t ≤ q.world.now from h.2 t hread
  refine hr.invariant_steps
    (I := fun q => w.now ≤ q.world.now ∧
      ∀ t, ⟨.newDate, .ok t⟩ ∈ q.seen i → w.now ≤ t ∧ t ≤ q.world.now) ?_ ?_ ?_
  · exact ⟨Int.le_refl _, fun t ht => by cases ht⟩
  · intro q n _ ih _
    have hlater : (q.step (World.outage env down).refusable (.tick n)).world.now = q.world.now + n := rfl
    rw [hlater]
    refine ⟨by have := ih.1; omega, fun t ht => ?_⟩
    have hold := ih.2 t ht
    omega
  · intro q j s k _ ih _ hp
    rw [Pool.world_step hp, outage_now]
    refine ⟨ih.1, fun t ht => ?_⟩
    rcases Pool.mem_seen_step_ok hp ht with hold | ⟨-, -, hreply, -⟩
    · exact ih.2 t hold
    · have ht : q.world.now = t := Except.ok.inj hreply
      rw [← ht]
      exact ⟨ih.1, Int.le_refl _⟩

/-- What Redis has done to a logout that it has cut off. -/
theorem cutOff_reach (hr : Reach (World.outage env down).refusable C (answering env acts w) q)
    (hcut : cutOff q i = true) :
    ∃ token raw ip ua e now, (acts i).Serves env (.logout token raw ip ua) ∧ down now = some e ∧
      now ≤ q.world.now ∧ q.prog i = .throw e := by
  refine hr.invariant_steps
    (I := fun q => cutOff q i = true → ∃ token raw ip ua e now,
      (acts i).Serves env (.logout token raw ip ua) ∧ down now = some e ∧ now ≤ q.world.now ∧
        q.prog i = .throw e) ?_ ?_ ?_ hcut
  · intro hnone
    cases hnone
  · intro q n _ ih _ hcut
    obtain ⟨token, raw, ip, ua, e, now, hserves, hdown, hle, hp⟩ := ih hcut
    refine ⟨token, raw, ip, ua, e, now, hserves, hdown, ?_, hp⟩
    show now ≤ q.world.now + n
    omega
  · intro q j s k hq ih _ hp hcut
    rw [Pool.world_step hp, outage_now]
    by_cases hji : j = i
    · subst hji
      obtain ⟨hmisses, -⟩ := cutOff_self hq hp hcut
      obtain ⟨r, hserves, -⟩ := asked_reach hq hp
      have hlenient := lenient_reach hq hserves
      rw [hp] at hlenient
      obtain ⟨s, refused⟩ := s
      obtain ⟨hspared, hunkeyed⟩ := Bool.and_eq_true_iff.mp hmisses
      obtain rfl : refused = none := Option.isNone_iff_eq_none.mp hspared
      obtain ⟨jti, ttl, hset⟩ := set_of_unkeyed hunkeyed
      obtain rfl : s = .setBlacklist jti ttl := hset
      obtain ⟨⟨⟨token, raw, ip, ua, rfl⟩, hfail⟩, -⟩ := hlenient
      rcases outage_exec env down (.setBlacklist jti ttl, none) q.world with hsame | ⟨e, -, -, hdown, hexec⟩
      · rw [hsame] at hmisses
        cases hmisses
      · refine ⟨token, raw, ip, ua, e, q.world.now, hserves, hdown, Int.le_refl _, ?_⟩
        rw [Pool.step_call hp, hexec]
        simp [hfail]
    · rw [cutOff_other hp hji] at hcut
      obtain ⟨token, raw, ip, ua, e, now, hserves, hdown, hle, hthrown⟩ := ih hcut
      refine ⟨token, raw, ip, ua, e, now, hserves, hdown, hle, ?_⟩
      rw [Pool.step_call hp]
      simpa [Function.update_of_ne (Ne.symm hji)] using hthrown

/-- The request has asked about a genuine token that had not expired, and Redis was down when it looked
the token up. -/
structure Overlooked (env : Env) (down : Int → Option Exn) (since now : Int) (r : Request)
    (p : JwtPayload) : Prop where
  judged : r.judged = some (.signed p)
  asked : ∃ t at' e, since ≤ t ∧ t ≤ at' ∧ at' ≤ now ∧
    verifyAccessToken env (.signed p) t = .ok p ∧ down at' = some e

/-- A thread beside its counterpart in the run with Redis up, which may have found its token listed. -/
inductive Beheld (env : Env) (down : Int → Option Exn) (since : Int) (a : Activity) (now : Int) :
    Prog sig.refusable Response → Prog sig.refusable Response → Prop where
  | same (p : Prog sig.refusable Response) : Beheld env down since a now p p
  | overlooked (r : Request) (p : JwtPayload) (k : Prog sig.refusable Response)
      (hr : a.Serves env r) (hp : Overlooked env down since now r p)
      (hk : Inquires (r.Unlisted p) k) : Beheld env down since a now k (.ret r.listed)

theorem Beheld.later {since now later : Int} {a : Activity} {p p' : Prog sig.refusable Response}
    (h : Beheld env down since a now p p') (hle : now ≤ later) :
    Beheld env down since a later p p' := by
  cases h with
  | same => exact .same _
  | overlooked r p _ hr hp hk =>
    obtain ⟨hjudged, t, at', e, hsince, hread, hat, hverify, hdown⟩ := hp
    exact .overlooked r p _ hr
      ⟨hjudged, t, at', e, hsince, hread, Int.le_trans hat hle, hverify, hdown⟩ hk

/-- What the log of the whole run tells of each exchange: the threads in `lost` are those cut off. -/
def Foretold (lost : ι → Bool) (i : ι) (x : Exchange sig.refusable) : Prop :=
  (lost i = true → x.stmt.1 = .newDate ∨ missesKey x = true) ∧ (lost i = false → missesKey x = false)

/-- A statement that is issued where both threads stand alike. -/
theorem beheld_call (hr : Reach (World.outage env down).refusable C (answering env acts w) q)
    (hp : q.prog i = .call s k)
    (hkeys : missesKey ⟨s, ((World.outage env down).refusable.exec s q.world).1⟩ = false) :
    ((World.outage env down).refusable.exec s q.world).2 =
        ((World.machine env).refusable.exec s q.world).2 ∧
      Beheld env down w.now (acts i) q.world.now
        (k ((World.outage env down).refusable.exec s q.world).1)
        (k ((World.machine env).refusable.exec s q.world).1) := by
  rcases outage_exec env down s q.world with hsame | ⟨e, hspared, hredis, hdown, hfail⟩
  · rw [hsame]
    exact ⟨rfl, .same _⟩
  · obtain ⟨r, hserves, hasked⟩ := asked_reach hr hp
    have hlenient := lenient_reach hr hserves
    rw [hp] at hlenient
    rw [hfail] at hkeys ⊢
    obtain ⟨s, refused⟩ := s
    obtain rfl : refused = none := hspared
    cases s
    case setBlacklist jti ttl => cases hkeys
    case existsBlacklist jti =>
      obtain ⟨⟨hfalse, htrue, hinquires⟩, -⟩ := hlenient
      obtain ⟨p, t, hjudged, hverify, hread⟩ := hasked jti rfl
      obtain ⟨hsince, hle⟩ := outage_read hr hread
      refine ⟨rfl, ?_⟩
      rw [hfalse e]
      show Beheld _ _ _ _ _ _ (k (.ok (q.world.isBlacklisted jti)))
      cases q.world.isBlacklisted jti with
      | false => exact .same _
      | true =>
        rw [htrue]
        exact .overlooked r p _ hserves ⟨hjudged, t, q.world.now, e, hsince, hle, Int.le_refl _,
          hverify, hdown⟩ (hinquires p hjudged)
    all_goals cases hredis

theorem unchanged_of_missesKey
    (h : missesKey ⟨s, ((World.outage env down).refusable.exec s w).1⟩ = true) :
    ((World.outage env down).refusable.exec s w).2 = w := by
  rcases outage_exec env down s w with hsame | ⟨e, -, -, -, hfail⟩
  · rw [hsame] at h ⊢
    obtain ⟨s, refused⟩ := s
    cases refused with
    | some e => rfl
    | none =>
      obtain ⟨jti, ttl, hset⟩ := set_of_unkeyed (Bool.and_eq_true_iff.mp h).2
      obtain rfl : s = .setBlacklist jti ttl := hset
      cases h
  · rw [hfail]

/-- The two runs keep abreast. -/
theorem lockstep_outage (env : Env) (down : Int → Option Exn) (acts : ι → Activity) (w : World)
    (lost : ι → Bool) :
    Lockstep (World.outage env down).refusable (World.machine env).refusable
      (fun q l => ∀ i, ∀ x ∈ (q.step (World.outage env down).refusable l).history i, Foretold lost i x)
      (answering env acts w) (answering env acts w) lost Eq
      fun i v => Beheld env down w.now (acts i) v.now := by
  constructor
  case tick =>
    rintro n v _ rfl
    rfl
  case waits =>
    intro i n v a a' h
    refine h.later ?_
    show v.now ≤ v.now + n
    omega
  case keeps =>
    intro i s v a a' h
    exact h.later (Int.le_of_eq (outage_now s v).symm)
  case idles =>
    intro q q' i s k hq _ hc hi hp h
    have hseen : ⟨s, ((World.outage env down).refusable.exec s q.world).1⟩ ∈
        (q.step (World.outage env down).refusable (.run i)).history i := by
      rw [Pool.history_step hp, if_pos rfl]
      exact List.mem_cons_self
    rw [← h]
    rcases (hc i _ hseen).1 hi with hclock | hmisses
    · refine outage_keeps (I := fun v => v = q.world) rfl ?_
      have hclock : s.1 = .newDate := hclock
      rw [hclock]
      rfl
    · exact unchanged_of_missesKey hmisses
  case moves =>
    intro q q' i hq _ hc hi h hbeheld
    rw [← h]
    generalize hp : q.prog i = a at hbeheld
    generalize hp' : q'.prog i = a' at hbeheld
    cases hbeheld with
    | same =>
      cases a with
      | ret a => exact ⟨rfl, .same _⟩
      | throw e => exact ⟨rfl, .same _⟩
      | call s k =>
        have hseen : ⟨s, ((World.outage env down).refusable.exec s q.world).1⟩ ∈
            (q.step (World.outage env down).refusable (.run i)).history i := by
          rw [Pool.history_step hp, if_pos rfl]
          exact List.mem_cons_self
        obtain ⟨hworld, hprog⟩ := beheld_call hq hp ((hc i _ hseen).2 hi)
        exact ⟨hworld, hprog.later (Int.le_of_eq (outage_now s q.world).symm)⟩
    | overlooked r p _ hr hover hk =>
      cases a with
      | ret v => exact ⟨rfl, .overlooked r p _ hr hover hk⟩
      | throw e => exact hk.elim
      | call s k =>
        obtain ⟨hs, hk⟩ := hk
        have hworld : ((World.outage env down).refusable.exec s q.world).2 = q.world := by
          refine outage_keeps (I := fun v => v = q.world) rfl ?_
          rcases hs with hs | ⟨id, hs⟩ <;> rw [hs] <;> rfl
        refine ⟨hworld, ?_⟩
        show Beheld env down w.now (acts i) ((World.outage env down).refusable.exec s q.world).2.now
          (k _) (.ret r.listed)
        rw [hworld]
        exact .overlooked r p _ hr hover (hk _)

/-- What the whole run tells of each exchange holds at every step of it. -/
theorem foretold_runs (env : Env) (M : Machine sig.refusable World) (acts : ι → Activity) (w : World)
    (ls : List (Label ι)) :
    Pool.Meets M (fun q l => ∀ i, ∀ x ∈ (q.step M l).history i,
        Foretold (cutOff ((answering env acts w).runs M ls)) i x) (answering env acts w) ls := by
  refine Pool.meets_history fun i x hx => ⟨fun hlost => ?_, fun hkept => ?_⟩
  · exact history_cutOff (Pool.reach_of_meets (Pool.meets_true _ _ ls)) hlost x hx
  · cases hmisses : missesKey x with
    | false => rfl
    | true =>
      have hcut := List.any_eq_true.mpr ⟨x, hx, hmisses⟩
      unfold cutOff at hkept
      rw [hkept] at hcut
      cases hcut

/-- While Redis is down at any instants, the service goes on as it would with Redis up and without the
logouts that Redis has cut off: these end with its error and have done nothing, every other request and
job ends alike and the worlds are the same. Only a request that has asked about a genuine token which
was not expired, and found Redis down as it looked the token up, may be answered as if the token were not
on the blacklist. -/
theorem redis_outage_confined (env : Env) (down : Int → Option Exn) (w : World) (acts : ι → Activity)
    (ls : List (Label ι)) :
    let run := (answering env acts w).runs (World.outage env down).refusable ls
    let rest := (answering env acts w).runs (World.machine env).refusable
      (ls.filter (Label.moves (cutOff run)))
    rest.world = run.world ∧
      (∀ i, cutOff run i = true → ∃ token raw ip ua e now,
        (acts i).Serves env (.logout token raw ip ua) ∧ down now = some e ∧ now ≤ run.world.now ∧
          run.result? i = some (.error e)) ∧
      ∀ i, cutOff run i = false → rest.result? i = run.result? i ∨
        ∃ r p, (acts i).Serves env r ∧ Overlooked env down w.now run.world.now r p ∧
          rest.result? i = some (.ok r.listed) ∧
          ∀ a, run.result? i = some a → ∃ v, a = .ok v ∧ r.Unlisted p v := by
  intro run rest
  have hmeets := foretold_runs env (World.outage env down).refusable acts w ls
  have habreast := (lockstep_outage env down acts w (cutOff run)).runs .refl .refl
    ⟨rfl, fun i _ => .same _⟩ hmeets
  refine ⟨habreast.world.symm, fun i hcut => ?_, fun i hkept => ?_⟩
  · obtain ⟨token, raw, ip, ua, e, now, hserves, hdown, hle, hthrown⟩ :=
      cutOff_reach (Pool.reach_of_meets hmeets) hcut
    refine ⟨token, raw, ip, ua, e, now, hserves, hdown, hle, ?_⟩
    unfold Pool.result?
    rw [hthrown]
  · have hbeheld : Beheld env down w.now (acts i) run.world.now (run.prog i) (rest.prog i) :=
      habreast.prog i hkept
    unfold Pool.result?
    generalize run.prog i = a at hbeheld
    generalize rest.prog i = a' at hbeheld
    cases hbeheld with
    | same => exact .inl rfl
    | overlooked r p _ hr hover hk =>
      refine .inr ⟨r, p, hr, hover, rfl, fun answer hanswer => ?_⟩
      cases a with
      | ret v =>
        cases hanswer
        exact ⟨v, rfl, hk⟩
      | throw e => exact hk.elim
      | call s k => cases hanswer

/-- A second logout is cut off; the key that the first one has written is overlooked. -/
example :
    let p : JwtPayload := ⟨1, "a@x", ["USER"], .access, 2, 0, 900, "auth-service", "api-gateway"⟩
    let headers : Headers := ⟨none, none, none, none, .token (.signed p)⟩
    let acts : Option (Bool × Bool) → Activity
      | none => .http (registration none)
      | some (false, _) => .http ⟨headers, none, .logout 3⟩
      | some (true, _) => .http ⟨headers, none, .validateToken (.signed p)⟩
    let ls : List (Label (Option (Bool × Bool))) :=
      List.replicate 13 (.run none) ++ List.replicate 9 (.run (some (false, false))) ++ [.tick 1] ++
        List.replicate 2 (.run (some (false, true))) ++ List.replicate 3 (.run (some (true, false)))
    let pool := answering Env.plain acts (World.initial .empty 0 0)
    let down : Int → Option Exn := fun now => if now = 1 then some (.error "Redis is down") else none
    let run := pool.runs (World.outage Env.plain down).refusable ls
    let rest := pool.runs (World.machine Env.plain).refusable (ls.filter (Label.moves (cutOff run)))
    cutOff run (some (false, true)) = true ∧
      run.result? (some (true, false)) = some (.ok (.validation ⟨true, some p, none⟩)) ∧
      rest.result? (some (true, false)) =
        some (.ok (Request.listed (.validateToken (.signed p)))) := by
  decide +kernel

end Interleaved

end Auth
