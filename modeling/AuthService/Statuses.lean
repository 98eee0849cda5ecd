import AuthService.Outcomes
import AuthService.Privileges
import AuthService.Resumption.Guard

/-!
# AuthService.Statuses

The status with which a request is answered while any other requests and jobs are served.

* `Route.Served`   — what keeps one statement of a route from a 5xx, in the world that it meets.
* `answering`      — requests and jobs, concurrently; `Served` — the steps of one request that meet the
  condition.
* `raises_`        — the exceptions of the services, where no statement fails.
* `guarded_`       — the services whose exceptions depend on what their statements find.
* `client_errors`  — a request all of whose steps meet the condition fails with a 4xx only.
-/

namespace Auth

open Relational Resumption Prog

/-- The row that the last statement, a lookup by a token's hash, has found. -/
def lastFound : Monitor sig (Option RefreshToken) where
  next
    | _, .findRefreshTokenByHash _, .ok t? => t?
    | _, _, _ => none
  allowed _ _ := True

/-- The routes that throw a plain `Error` when `findById` finds no user. -/
def Route.needsUser : Route → Bool
  | .refreshToken _ => true
  | .assignRole _ _ => true
  | .revokeRole _ _ => true
  | .getUserRoles _ => true
  | .lockAccount _ _ _ => true
  | .unlockAccount _ => true
  | .banUser _ _ => true
  | _ => false

def Route.refreshes : Route → Bool
  | .refreshToken _ => true
  | _ => false

/-- The statement of the route leads to no 5xx in the world `w`; `found` is the row that the statement
before it has looked up. -/
def Route.Served (env : Env) (route : Route) (found : Option RefreshToken) (w : World) : Stmt → Prop
  | .findCredentialById id => route.needsUser = true → ∃ c, w.account id = some c
  | .findRoleByName name => ∃ r ∈ w.roles.rows, r.name = name
  | .findRefreshTokenByHash tokenHash =>
    route.refreshes = true → ∃ t ∈ w.refreshTokens.rows, t.tokenHash = tokenHash ∧ t.revoked = false
  | .newDate => route.refreshes = true → ∀ t, found = some t → ¬ t.expiresAt < w.now
  | .incrementFailedAttempts id => ∃ c, w.account id = some c ∧ c.failedLoginAttempts < maxInteger
  | .lockAccount _ lockedUntil => lockedUntil.all (· ≤ maxDate) = true
  | .createRefreshToken data => (∃ c, w.account data.userId = some c) ∧ data.expiresAt ≤ maxDate
  | .createPasswordResetToken userId _ expiresAt =>
    (∃ c, w.account userId = some c) ∧ expiresAt ≤ maxDate
  | .hashPassword password => (env.hashPassword password w.supply).isSome = true
  | .signAccessToken _ _ _ _ => (env.timespan env.accessTokenExpiry).isSome = true
  | .setBlacklist _ ttlSeconds => w.now + ttlSeconds * 1000 ≤ maxEviction
  | _ => True

/-- A request, a job, or nothing to do, as one thread. -/
def Activity.program (env : Env) : Activity → Prog sig.refusable Response
  | .http r => r.program env
  | .job j => (handle env j.request).submit fun _ => none
  | .pass _ => .ret .done

/-- Requests and jobs served concurrently from `w` on. -/
def answering {ι : Type} (env : Env) (req : ι → Activity) (w : World) :
    Pool sig.refusable World ι fun _ => Response :=
  .start w fun i => (req i).program env

/-- The steps of the request `r` in thread `i` are not refused, and lead to no 5xx. -/
def Served {ι : Type} [DecidableEq ι] (env : Env) (i : ι) (r : HttpRequest)
    (q : Pool sig.refusable World ι fun _ => Response) : Label ι → Prop
  | .tick _ => True
  | .run j => j = i → ∀ s, q.next? i = some s →
    s.2 = none ∧ r.route.Served env (q.phase (fun _ => lastFound.refusable) (fun _ => none) i) q.world s.1

variable {env : Env} {route : Route} {u : Nat}

/-! ## Exceptions -/

section Raises

variable {E : Exn → Prop} {α : Type}

theorem raises_generateRefreshToken {deviceFingerprint ipAddress userAgent : Option String} :
    (TokenService.generateRefreshToken env u deviceFingerprint ipAddress userAgent).Raises E := by
  refine raises_perform_bind fun rawToken => raises_perform_bind fun now => ?_
  exact raises_bind (raises_perform_bind fun _ => raises_perform _) fun row => trivial

theorem raises_enforceMaxSessions : (SessionService.enforceMaxSessions env u).Raises E := by
  unfold SessionService.enforceMaxSessions
  refine raises_bind (raises_perform_bind fun _ => raises_perform _) fun activeCount => ?_
  split
  · trivial
  · refine raises_repeatN (raises_bind (raises_perform_bind fun _ => raises_perform _) fun oldest? => ?_)
    cases oldest? with
    | none => trivial
    | some t => exact raises_perform_bind fun _ => raises_perform _

/-- What follows an issued token pair. -/
theorem raises_afterIssue {event : Int → DomainEvent} {entry : AuditLog} {a : α} :
    (afterIssue env u event entry a).Raises E :=
  raises_bind raises_enforceMaxSessions fun _ => raises_bind raises_publish fun _ =>
    raises_perform_bind fun _ => trivial

theorem raises_registerSession (c : UserCredential) (ipAddress userAgent : Option String) :
    (AuthService.registerSession env c ipAddress userAgent).Raises E :=
  raises_perform_bind fun _ => raises_bind raises_generateRefreshToken fun _ => raises_afterIssue

theorem raises_register (email password : String) (ipAddress userAgent : Option String)
    (hE : E (.conflict ErrorMessages.AUTH_EMAIL_EXISTS)) :
    (AuthService.register env email password ipAddress userAgent).Raises E := by
  refine raises_perform_bind fun existing => ?_
  cases existing with
  | some c => exact hE
  | none =>
    exact raises_bind (raises_perform_bind fun _ => raises_perform _) fun c =>
      raises_registerSession c ipAddress userAgent

theorem raises_loginSucceeded (c : UserCredential) (email : String) (ipAddress userAgent : Option String) :
    (AuthService.loginSucceeded env c email ipAddress userAgent).Raises E := by
  refine raises_perform_bind fun _ => ?_
  refine raises_bind (raises_perform_bind fun _ => raises_perform _) fun _ => ?_
  exact raises_perform_bind fun _ => raises_bind raises_generateRefreshToken fun _ => raises_afterIssue

/-- The branch of a wrong password, once it is counted. -/
theorem raises_counted (c : UserCredential) (email : String) (ipAddress userAgent : Option String)
    (n : Nat) (hE : E (.unauthorized ErrorMessages.AUTH_INVALID_CREDENTIALS)) :
    ((EventService.publishLoginFailed email (ipAddress.getD "unknown") n).bind fun _ =>
      (AuthService.lockOnBruteForce env c n).bind fun _ =>
        (AuditLogRepository.create (wrongPasswordEntry env c.id email ipAddress userAgent n)).bind fun _ =>
          (.throw (.unauthorized ErrorMessages.AUTH_INVALID_CREDENTIALS) :
            AuthProg AuthResponse)).Raises E := by
  refine raises_bind raises_publish fun _ => raises_bind ?_ fun _ => raises_perform_bind fun _ => hE
  unfold AuthService.lockOnBruteForce
  split
  · refine raises_perform_bind fun _ => raises_perform_bind fun _ => ?_
    exact raises_bind raises_publish fun _ => raises_revokeAllUserTokens
  · trivial

theorem raises_rotate (t : RefreshToken) (ipAddress userAgent : Option String) :
    (TokenService.rotate env t ipAddress userAgent).Raises E := by
  refine raises_bind (raises_perform_bind fun _ => raises_perform _) fun _ => ?_
  refine raises_bind raises_generateRefreshToken fun pair => raises_perform_bind fun _ => ?_
  exact raises_bind (raises_perform_bind fun _ => raises_perform _) fun _ => trivial

theorem raises_logout (token : Jwt) (raw : Nat) (ipAddress userAgent : Option String) :
    (AuthService.logout token raw ipAddress userAgent).Raises E := by
  refine raises_bind ?_ fun _ => raises_bind ?_ fun userId => raises_bind ?_ fun _ => raises_perform _
  · unfold TokenService.revokeAccessToken
    split
    · trivial
    · refine raises_perform_bind fun now => ?_
      simp only
      split
      · unfold BlacklistService.blacklistToken
        split
        · trivial
        · exact raises_perform _
      · trivial
  · refine raises_perform_bind fun entity? => ?_
    cases entity? with
    | none => trivial
    | some t => exact raises_bind (raises_perform_bind fun _ => raises_perform _) fun _ => trivial
  · unfold AuthService.publishLogout
    split
    · exact raises_publish
    · trivial

theorem raises_validateAccessToken (token : Jwt) :
    (TokenService.validateAccessToken env token).Raises E := by
  refine raises_perform_bind fun now => ?_
  split
  · trivial
  · trivial
  · refine raises_bind (raises_tryCatch (raises_perform _) fun _ => trivial) fun blacklisted => ?_
    split
    · trivial
    · trivial

theorem raises_validateToken (token : Jwt) : (AuthService.validateToken env token).Raises E := by
  refine raises_bind (raises_validateAccessToken token) fun result => ?_
  split
  · refine raises_tryCatch (raises_perform_bind fun user? => ?_) fun _ => trivial
    cases user? with
    | none => trivial
    | some user =>
      simp only
      split
      · split
        · refine raises_perform_bind fun now => ?_
          split
          · trivial
          · trivial
        · trivial
      · trivial
      · trivial
      · trivial
  · trivial

theorem raises_introspect (token : Jwt) : (TokenController.introspect env token).Raises E := by
  refine raises_bind (raises_validateAccessToken token) fun result => ?_
  split
  · trivial
  · trivial

theorem raises_forgotPassword (email : String) (ipAddress : Option String) :
    (AuthService.forgotPassword env email ipAddress).Raises E := by
  refine raises_perform_bind fun user? => ?_
  cases user? with
  | none => trivial
  | some user =>
    refine raises_perform_bind fun rawToken => raises_perform_bind fun now => ?_
    refine raises_perform_bind fun _ => raises_perform_bind fun _ => ?_
    exact raises_bind raises_publish fun _ => raises_perform _

theorem raises_resetPassword (rawToken : Nat) (newPassword : String) (ipAddress : Option String)
    (hinvalid : E (.badRequest ErrorMessages.AUTH_PASSWORD_RESET_INVALID))
    (hused : E (.badRequest ErrorMessages.AUTH_PASSWORD_RESET_USED)) :
    (AuthService.resetPassword rawToken newPassword ipAddress).Raises E := by
  refine raises_perform_bind fun resetToken? => ?_
  cases resetToken? with
  | none => exact hinvalid
  | some t =>
    simp only
    split
    · exact hused
    · refine raises_perform_bind fun now => ?_
      split
      · exact hinvalid
      · refine raises_bind (raises_perform_bind fun _ => raises_perform_bind fun _ => raises_perform _)
          fun _ => ?_
        refine raises_bind (raises_perform_bind fun _ => raises_perform _) fun _ => ?_
        refine raises_perform_bind fun _ => raises_bind raises_revokeAllUserTokens fun _ => ?_
        exact raises_bind raises_publish fun _ => raises_perform _

theorem raises_deleteCredentials : (AccountService.deleteCredentials u).Raises E :=
  raises_perform_bind fun _ => raises_bind raises_publish fun _ => raises_perform _

end Raises

/-! ## Guarded services -/

/-- A status in the 400s. -/
def Exn.Client (e : Exn) : Prop := 400 ≤ e.status ∧ e.status < 500

/-- As long as every statement is served, the program ends with no other exceptions. -/
abbrev Mild {α : Type} (env : Env) (route : Route) (found : Option RefreshToken) (p : AuthProg α) : Prop :=
  p.Guarded lastFound (World.machine env) (route.Served env) (Answers Exn.Client) found

/-- The constraints that are left: duplicate keys, which the filter maps to 409. -/
theorem served_fails {found : Option RefreshToken} {w : World} {s : Stmt} {e : Exn}
    (hs : route.Served env found w s) (h : (World.exec env s w).1 = .error e) : e.Client := by
  have hunique : e = .uniqueViolation → e.Client := by
    rintro rfl
    exact ⟨by decide, by decide⟩
  cases s
  case hashPassword password =>
    obtain ⟨hash, hhash⟩ := Option.isSome_iff_exists.mp hs
    simp only [World.exec, hhash] at h
    cases h
  case signAccessToken =>
    obtain ⟨lifetime, hspan⟩ := Option.isSome_iff_exists.mp hs
    simp only [World.exec, hspan] at h
    cases h
  case createCredential =>
    simp only [World.exec] at h
    split at h
    · cases h
    · cases h
      exact hunique rfl
  case createRefreshToken | createPasswordResetToken =>
    simp only [World.exec, World.hasUser_iff.mpr hs.1, if_true] at h
    split at h
    · cases h
    · cases h
      exact hunique rfl
  all_goals cases h

section Guarded

variable {α β : Type} {found : Option RefreshToken}

theorem mild_of_raises {p : AuthProg α} (hp : p.Raises Exn.Client) (found : Option RefreshToken) :
    Mild env route found p :=
  guarded_of_raises hp (fun _ _ _ _ hs he => served_fails hs he) found

theorem mild_query_bind {s : Stmt} {f : s.Reply → AuthProg α}
    (hf : ∀ w a, route.Served env found w s → (World.exec env s w).1 = .ok a →
      Mild env route (lastFound.next found s (.ok a)) (f a)) :
    Mild env route found ((query s).bind f) :=
  guarded_perform_bind (S := sig) hf fun _ _ hs he e' heq => by
    cases heq
    exact served_fails hs he

/-- A lookup that finds its user. -/
theorem mild_findById {f : Option UserCredential → AuthProg α} (hroute : route.needsUser = true)
    (hf : ∀ found c, Mild env route found (f (some c))) :
    Mild env route found ((UserCredentialRepository.findById u).bind f) := by
  refine mild_query_bind fun w a hs ha => ?_
  obtain ⟨c, hc⟩ := hs hroute
  have hfound : (w.account u) = a := Except.ok.inj ha
  rw [← hfound, hc]
  exact hf _ c

theorem ChecksUser.mild {p : AuthProg α} (h : ChecksUser u p) (hroute : route.needsUser = true) :
    Mild env route found p := by
  obtain ⟨f, rfl, -, hsome⟩ := h
  exact mild_findById hroute fun found c => mild_of_raises (hsome _ c) found

theorem mild_assignRole (role assignedBy : String) (hroute : route.needsUser = true) :
    Mild env route found (RoleService.assignRole u role assignedBy) := by
  refine mild_findById hroute fun found c => mild_query_bind fun w role? hs hrole => ?_
  have hfound : (w.roles.find? fun r => r.name = role) = role? := Except.ok.inj hrole
  cases role? with
  | none =>
    obtain ⟨r, hr, hname⟩ := hs
    exact absurd hname (by simpa using Table.find?_none hfound r hr)
  | some r => exact mild_of_raises raises_assign _

theorem mild_refreshTokens {raw : Nat} {ipAddress userAgent : Option String}
    (hroute : route.refreshes = true) :
    Mild env route found (TokenService.refreshTokens env raw ipAddress userAgent) := by
  refine mild_query_bind fun w t? hs ht => ?_
  have hfound : w.presented raw = t? := Except.ok.inj ht
  obtain ⟨t, hmem, hhash, hrev⟩ := hs hroute
  have hpresented : w.presented raw = some t := presented_of_mem hmem hhash
  rw [← hfound, hpresented]
  simp only [hrev, Bool.false_eq_true, if_false]
  refine mild_query_bind fun w' now hs' hnow => ?_
  have hclock : w'.now = now := Except.ok.inj hnow
  rw [if_neg (by rw [← hclock]; exact hs' hroute t rfl)]
  exact mild_of_raises (raises_rotate t ipAddress userAgent) _

theorem mild_refreshToken {raw : Nat} (hneeds : route.needsUser = true)
    (hroute : route.refreshes = true) :
    Mild env route found (AuthController.refreshToken env raw) := by
  refine guarded_seq (mild_refreshTokens hroute) fun found result => ?_
  refine mild_findById hneeds fun found c => mild_of_raises ?_ found
  exact raises_perform_bind fun _ => raises_ret _

theorem mild_loginVerify (c : UserCredential) (email password : String) (ipAddress userAgent : Option String) :
    Mild env route found (AuthService.loginVerify env c email password ipAddress userAgent) := by
  refine mild_query_bind fun w valid _ _ => ?_
  cases valid with
  | true => exact mild_of_raises (raises_loginSucceeded c email ipAddress userAgent) _
  | false =>
    simp only [Bool.false_eq_true, if_false]
    unfold AuthService.loginFailed UserCredentialRepository.incrementFailedAttempts
    simp only [bind_eq, Prog.bind_assoc]
    refine mild_query_bind fun w attempts? hs hattempts => ?_
    obtain ⟨c₁, hc₁, -⟩ := hs
    have hcount := (exec_incrementFailedAttempts env hc₁).symm.trans hattempts
    cases hcount
    simp only [pure_eq, ret_bind]
    exact mild_of_raises (raises_counted c email ipAddress userAgent _ ⟨by decide, by decide⟩) _

theorem mild_login (email password : String) (ipAddress userAgent : Option String) :
    Mild env route found (AuthService.login env email password ipAddress userAgent) := by
  have hrefused : ∀ (entry : AuditLog) (e : Exn) (found : Option RefreshToken), e.Client →
      Mild env route found ((AuditLogRepository.create entry).bind fun _ =>
        (.throw e : AuthProg AuthResponse)) := by
    intro entry e found he
    refine mild_of_raises ?_ found
    exact raises_perform_bind fun _ => he
  have hunauthorized : (Exn.unauthorized ErrorMessages.AUTH_INVALID_CREDENTIALS).Client :=
    ⟨by decide, by decide⟩
  unfold AuthService.login
  refine mild_query_bind fun w credential? _ _ => ?_
  cases credential? with
  | none => exact hrefused _ _ _ hunauthorized
  | some c =>
    cases hs : c.status with
    | active => simp only [hs]; exact mild_loginVerify c email password ipAddress userAgent
    | banned => simp only [hs]; exact hrefused _ _ _ ⟨by decide, by decide⟩
    | deleted => simp only [hs]; exact fun e he => by cases he; exact hunauthorized
    | locked =>
      cases hl : c.lockedUntil with
      | none => simp only [hs, hl]; exact hrefused _ _ _ ⟨by decide, by decide⟩
      | some lockedUntil =>
        simp only [hs, hl]
        refine mild_query_bind fun w now _ _ => ?_
        split
        · exact mild_query_bind fun w _ _ _ => mild_loginVerify c email password ipAddress userAgent
        · exact hrefused _ _ _ ⟨by decide, by decide⟩

end Guarded

/-! ## Requests -/

theorem checks_getUserRoles : ChecksUser u (RoleService.getUserRoles u) :=
  ⟨_, rfl, rfl, fun _ _ => trivial⟩

/-- Every request is answered with a result or a 4xx, as long as its statements are served. -/
theorem mild_handle (env : Env) (r : HttpRequest) (found : Option RefreshToken) :
    Mild env r.route found (handle env (r.request env)) := by
  have hraises : ∀ {α : Type} {p : AuthProg α} {g : α → Response}, p.Raises Exn.Client →
      Mild env r.route found (p.bind fun a => .ret (g a)) := fun hp =>
    mild_of_raises (raises_bind hp fun _ => raises_ret _) found
  have hmild : ∀ {α : Type} {p : AuthProg α} {g : α → Response}, Mild env r.route found p →
      Mild env r.route found (p.bind fun a => .ret (g a)) := fun hp =>
    guarded_seq hp fun _ _ => mild_of_raises (raises_ret _) _
  obtain ⟨headers, ip, route⟩ := r
  cases route with
  | register email password =>
    exact hraises (raises_register _ _ _ _ ⟨by decide, by decide⟩)
  | login email password => exact hmild (mild_login _ _ _ _)
  | logout raw => exact hraises (raises_logout _ _ _ _)
  | validateToken token => exact hraises (raises_validateToken token)
  | refreshToken raw => exact hmild (mild_refreshToken rfl rfl)
  | revokeToken userId reason =>
    refine hraises ?_
    cases userId with
    | none => trivial
    | some id => exact raises_revokeAllUserTokens
  | revokeAllTokens userId reason => exact hraises raises_revokeAllUserTokens
  | forgotPassword email => exact hraises (raises_forgotPassword _ _)
  | resetPassword raw password =>
    exact hraises (raises_resetPassword _ _ _ ⟨by decide, by decide⟩ ⟨by decide, by decide⟩)
  | introspect token => exact hraises (raises_introspect token)
  | getActiveSessions userId =>
    refine hraises (raises_bind ?_ fun _ => trivial)
    exact raises_perform_bind fun _ => raises_perform _
  | revokeSession sessionId => exact hraises (raises_perform_bind fun _ => raises_perform _)
  | assignRole userId role => exact hmild (mild_assignRole _ _ rfl)
  | revokeRole userId role => exact hmild ((checks_revokeRole _ _).mild rfl)
  | getUserRoles userId => exact hmild (checks_getUserRoles.mild rfl)
  | getAllRoles => exact hraises (raises_perform _)
  | lockAccount userId reason durationMinutes => exact hmild ((checks_lockAccount _ _ _).mild rfl)
  | unlockAccount userId => exact hmild ((checks_unlockAccount _).mild rfl)
  | banUser userId reason => exact hmild ((checks_banUser _ _).mild rfl)
  | deleteCredentials userId => exact hraises raises_deleteCredentials

/-- Any number of requests and jobs, interleaved in any way: a request all of whose steps meet the
condition is answered with a 4xx if it fails. -/
theorem client_errors (env : Env) {ι : Type} [DecidableEq ι] (req : ι → Activity) (w : World)
    {q : Pool sig.refusable World ι fun _ => Response} {i : ι} {r : HttpRequest} (hi : req i = .http r)
    (hr : Reach (World.machine env).refusable (Served env i r) (answering env req w) q) {e : Exn}
    (hres : q.result? i = some (.error e)) : 400 ≤ e.status ∧ e.status < 500 := by
  have hstart : ((answering env req w).prog i).Guarded lastFound.refusable (World.machine env).refusable
      (fun found w s => s.2 = none ∧ r.route.Served env found w s.1) (Answers Exn.Client) none := by
    show ((req i).program env).Guarded _ _ _ _ _
    rw [hi]
    exact guarded_submit (mild_handle env r none)
  exact hr.guarded_result (fun _ => none) (m := fun _ => lastFound.refusable)
    (fun q s hC hs => hC rfl s hs) hstart hres e rfl

/-- A login with an email that nobody has is answered with 401. -/
theorem client_errors_login :
    let req : Fin 1 → Activity := fun _ => .http (asAdmin (.login "a@x" "p"))
    let q := (answering Env.plain req (World.initial .empty 0 0)).runs (World.machine Env.plain).refusable
      [.run 0, .tick 5, .run 0]
    ∃ e, q.result? 0 = some (.error e) ∧ 400 ≤ e.status ∧ e.status < 500 := by
  intro req q
  have hr : Reach (World.machine Env.plain).refusable
      (Served Env.plain (0 : Fin 1) (asAdmin (.login "a@x" "p")))
      (answering Env.plain req (World.initial .empty 0 0)) q := by
    refine .step (.run 0) (.step (.tick 5) (.step (.run 0) .refl ?_) trivial) ?_
    · rintro - s hs
      cases hs
      exact ⟨rfl, trivial⟩
    · rintro - s hs
      cases hs
      exact ⟨rfl, trivial⟩
  have hres : q.result? 0 =
      some (.error (.unauthorized ErrorMessages.AUTH_INVALID_CREDENTIALS)) := rfl
  exact ⟨_, hres, client_errors Env.plain req _ rfl hr hres⟩

/-- A refresh with an unknown token is answered with 500. -/
theorem unknown_token_server_error :
    ¬ ∀ (ι : Type) [DecidableEq ι] (req : ι → Activity) (w : World), Reachable Env.plain w →
      ∀ q : Pool sig.refusable World ι fun _ => Response,
        Reach (World.machine Env.plain).refusable (fun _ _ => True) (answering Env.plain req w) q →
          ∀ i r e, req i = .http r → q.result? i = some (.error e) → e.status < 500 := by
  intro h
  let req : Fin 1 → Activity := fun _ => .http (asAdmin (.refreshToken 7))
  have hstatus := h (Fin 1) req (World.initial .empty 0 0) ⟨.empty, 0, 0, [], rfl⟩ _
    (.single (l := .run 0) trivial) 0 _ (.error ErrorMessages.AUTH_REFRESH_TOKEN_INVALID) rfl rfl
  revert hstatus
  decide

end Auth
