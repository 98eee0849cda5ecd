import AuthService.Http

/-!
# AuthService.Privileges

What requests without the ADMIN role in `X-User-Roles` can make of roles and of the status of an
account.

* `AdminOnlyGuard.headerRoles` — how the guard reads the header; no route asks it.
* `Automatic`        — the changes of a status that need no administrator.
* `Unescalated`      — one activity raises no privilege, and the admin routes are refused.
* `unescalated_iff`  — a run without the ADMIN role stays unescalated exactly when it leaves the five
  admin routes alone: any other request does, and none to those is refused with 403.
-/

namespace Auth

open Relational Resumption Prog

/-- `extractRoles`, as far as it reads the header: `split(',')`, each `trim().toUpperCase()`. -/
def AdminOnlyGuard.headerRoles (env : Env) (toUpperCase : String → String) (headers : Headers) :
    List String :=
  match headers.userRoles with
  | none => []
  | some "" => []
  | some roles => (roles.toList.splitOn ',').map fun role => toUpperCase (env.trim (String.ofList role))

def Headers.carriesAdmin (env : Env) (toUpperCase : String → String) (headers : Headers) : Bool :=
  (AdminOnlyGuard.headerRoles env toUpperCase headers).contains Roles.admin.value

/-- The routes whose API operation says `(admin only)`. -/
def Route.adminOnly : Route → Bool
  | .lockAccount _ _ _ => true
  | .unlockAccount _ => true
  | .banUser _ _ => true
  | .assignRole _ _ => true
  | .revokeRole _ _ => true
  | _ => false

/-- A request that carries the ADMIN role. -/
def Activity.carriesAdmin (env : Env) (toUpperCase : String → String) : Activity → Bool
  | .http r => r.headers.carriesAdmin env toUpperCase
  | _ => false

def Activity.adminOnly : Activity → Bool
  | .http r => r.route.adminOnly
  | _ => false

/-- The activity may change the status of the row `c` to that of `c'` without an administrator. -/
inductive Automatic (env : Env) (w : World) (c c' : UserCredential) : Activity → Prop where
  /-- The wrong password that reaches the maximum. -/
  | bruteForce (r : HttpRequest) (email password : String) (hroute : r.route = .login email password)
      (hfound : w.byEmail env (env.normalizeEmail email) = some c)
      (hwrong : env.verifyPassword c.passwordHash password = false)
      (hcount : env.maxLoginAttempts ≤ c'.failedLoginAttempts) (hlocked : c'.status = .locked) :
      Automatic env w c c' (.http r)
  /-- A login after the lock has run out. -/
  | login (r : HttpRequest) (email password : String) (hroute : r.route = .login email password)
      (hfound : w.byEmail env (env.normalizeEmail email) = some c)
      (hexpired : c.lockState.expired w.now = true) (hactive : c'.status = .active) :
      Automatic env w c c' (.http r)
  | job (hexpired : c.lockState.ranOut w.now = true) (hactive : c'.status = .active) :
      Automatic env w c c' (.job .unlockExpiredLockouts)

def SameDatabase (w w' : World) : Prop :=
  w'.credentials = w.credentials ∧ w'.refreshTokens = w.refreshTokens ∧
    w'.passwordResetTokens = w.passwordResetTokens ∧ w'.roles = w.roles ∧ w'.auditLogs = w.auditLogs

/-- The activity raises no privilege, and a request to an admin route is refused. -/
structure Unescalated (env : Env) (w : World) (a : Activity) : Prop where
  refused : ∀ r, a = .http r → r.route.adminOnly = true →
    (∃ e, (r.respond env w).1 = .error e ∧ e.status = 403) ∧ SameDatabase w (perform env w a)
  roles : ∀ u c c', w.account u = some c → (perform env w a).account u = some c' →
    c'.roles = c.roles
  status : ∀ u c c', w.account u = some c → (perform env w a).account u = some c' →
    c'.status = c.status ∨ Automatic env w c c' a
  added : ∀ u c', w.account u = none → (perform env w a).account u = some c' →
    (∃ r email password, a = .http r ∧ r.route = .register email password) ∧
      c'.status = .active ∧ c'.roles = ["USER"]
  removed : ∀ u c, w.account u = some c → (perform env w a).account u = none →
    ∃ r, a = .http r ∧ r.route = .deleteCredentials (.uuid u)

variable {env : Env} {w : World} {u : Nat} {c c' : UserCredential}

/-! ## Requests to the admin routes are never answered 403 -/

section Admin

variable {E : Exn → Prop}

theorem raises_publish {event : Int → DomainEvent} :
    (newDate.bind fun timestamp => EventService.safePublish (event timestamp)).Raises E :=
  raises_perform_bind fun _ => ⟨fun _ => trivial, fun _ _ => trivial⟩

theorem raises_revokeAllUserTokens {reason : String} :
    (TokenService.revokeAllUserTokens u reason).Raises E :=
  raises_bind (raises_perform_bind fun _ => raises_perform _) fun _ => trivial

/-- The operation looks its user up first, throws if there is none, and raises nothing of its own after
that. -/
def ChecksUser {α : Type} (u : Nat) (p : AuthProg α) : Prop :=
  ∃ f, p = (UserCredentialRepository.findById u).bind f ∧
    f none = .throw (.error ErrorMessages.AUTH_USER_NOT_FOUND) ∧
      ∀ (E : Exn → Prop) (c : UserCredential), (f (some c)).Raises E

theorem ChecksUser.raises {α : Type} {p : AuthProg α} (h : ChecksUser u p)
    (hE : E (.error ErrorMessages.AUTH_USER_NOT_FOUND)) : p.Raises E := by
  obtain ⟨f, rfl, hnone, hsome⟩ := h
  refine raises_perform_bind fun user? => ?_
  cases user? with
  | none => rw [hnone]; exact hE
  | some c => exact hsome E c

theorem checks_lockAccount (reason : String) (duration : Option Nat) (adminUserId : Option String) :
    ChecksUser u (AccountService.lockAccount env u reason duration adminUserId) := by
  refine ⟨_, rfl, rfl, fun E c => raises_bind ?_ fun lockedUntil => ?_⟩
  · unfold AccountService.lockExpiry
    split
    · trivial
    · trivial
    · exact raises_perform_bind fun _ => trivial
  · refine raises_perform_bind fun _ => raises_bind raises_revokeAllUserTokens fun _ => ?_
    exact raises_bind raises_publish fun _ => raises_perform _

theorem checks_unlockAccount (adminUserId : Option String) :
    ChecksUser u (AccountService.unlockAccount u adminUserId) := by
  refine ⟨_, rfl, rfl, fun E c => raises_perform_bind fun _ => ?_⟩
  exact raises_bind raises_publish fun _ => raises_perform _

theorem checks_banUser (reason : String) (adminUserId : Option String) :
    ChecksUser u (AccountService.banUser u reason adminUserId) := by
  refine ⟨_, rfl, rfl, fun E c => raises_perform_bind fun _ => ?_⟩
  refine raises_bind raises_revokeAllUserTokens fun _ => ?_
  exact raises_bind raises_publish fun _ => raises_perform _

theorem checks_revokeRole (role revokedBy : String) :
    ChecksUser u (RoleService.revokeRole u role revokedBy) := by
  refine ⟨_, rfl, rfl, fun E c => ?_⟩
  simp only
  split
  · exact raises_perform_bind fun _ => raises_bind raises_revokeAllUserTokens fun _ => raises_publish
  · trivial

/-- The part of `assignRole` after its checks. -/
theorem raises_assign {c : UserCredential} {role assignedBy : String} :
    (if c.roles.contains role then .ret ()
      else (UserCredentialRepository.updateRoles u (c.roles ++ [role])).bind fun _ =>
        (TokenService.revokeAllUserTokens u "role_changed").bind fun _ =>
          EventService.publishRoleAssigned u role assignedBy : AuthProg Unit).Raises E := by
  split
  · trivial
  · exact raises_perform_bind fun _ => raises_bind raises_revokeAllUserTokens fun _ => raises_publish

theorem raises_assignRole (role assignedBy : String)
    (hE : E (.error ErrorMessages.AUTH_USER_NOT_FOUND))
    (hrole : E (.error ("Role '" ++ role ++ "' does not exist"))) :
    (RoleService.assignRole u role assignedBy).Raises E := by
  refine raises_perform_bind fun user? => ?_
  cases user? with
  | none => exact hE
  | some c =>
    refine raises_perform_bind fun role? => ?_
    cases role? with
    | none => exact hrole
    | some r => exact raises_assign

/-- No 403 ever comes from an admin route: nothing on its way raises a `ForbiddenException`. -/
theorem respond_adminOnly {r : HttpRequest} (hr : r.route.adminOnly = true) {e : Exn}
    (he : (r.respond env w).1 = .error e) : e.status ≠ 403 := by
  have hraises : (handle env (r.request env)).Raises fun e : Exn => e.status ≠ 403 := by
    unfold HttpRequest.request
    cases hroute : r.route with
    | lockAccount => exact raises_bind ((checks_lockAccount _ _ _).raises (by decide)) fun _ => trivial
    | unlockAccount => exact raises_bind ((checks_unlockAccount _).raises (by decide)) fun _ => trivial
    | banUser => exact raises_bind ((checks_banUser _ _).raises (by decide)) fun _ => trivial
    | assignRole =>
      exact raises_bind (raises_assignRole _ _ (by decide) (by simp [Exn.status])) fun _ => trivial
    | revokeRole => exact raises_bind ((checks_revokeRole _ _).raises (by decide)) fun _ => trivial
    | _ => rw [hroute] at hr; cases hr
  refine of_run_submit_error (M := World.machine env) hraises
    (fun s w e he => ?_) (fun s e he => ?_) (Prod.ext he rfl)
  · rcases World.exec_failure env s w he with rfl | rfl | rfl | rfl <;> simp [Exn.status]
  · rw [status_of_refusal he]
    decide

end Admin

/-! ## Every other activity raises no privilege -/

/-! ### Which statements come through -/

theorem updateRoles_footprint {a : Activity} (ha : a.adminOnly = false) {id : Nat} {roles : List String} :
    ¬ a.footprint env (.updateRoles id roles) := by
  intro h
  rcases a with ⟨headers, ip, route⟩ | j | n
  · obtain ⟨hs, -⟩ := h
    cases route
    case register | login => obtain ⟨id, hs⟩ := hs; cases hs
    case refreshToken => rcases hs with hs | ⟨t, hs⟩ <;> cases hs
    case assignRole | revokeRole => cases ha
    all_goals cases hs
  · cases j <;> cases h
  · exact h

/-- Accounts are inserted by `register`, with the role `USER`. -/
theorem createCredential_footprint {a : Activity} {email hash : String} {roles : List String}
    (h : a.footprint env (.createCredential email hash roles)) :
    (∃ r email password, a = .http r ∧ r.route = .register email password) ∧ roles = ["USER"] := by
  rcases a with ⟨headers, ip, route⟩ | j | n
  · obtain ⟨hs, -⟩ := h
    cases route
    case register email password => exact ⟨⟨_, email, password, rfl, rfl⟩, hs⟩
    case login => obtain ⟨id, hs⟩ := hs; cases hs
    case refreshToken => rcases hs with hs | ⟨t, hs⟩ <;> cases hs
    all_goals cases hs
  · cases j <;> cases h
  · exact h.elim

/-- Accounts are deleted by `deleteCredentials`, with a UUID. -/
theorem deleteCredential_footprint {a : Activity} {id : Nat}
    (h : a.footprint env (.deleteCredential id)) :
    ∃ r, a = .http r ∧ r.route = .deleteCredentials (.uuid id) := by
  rcases a with ⟨headers, ip, route⟩ | j | n
  · obtain ⟨hs, hr⟩ := h
    cases route
    case deleteCredentials userId =>
      cases userId with
      | uuid n => cases hs; exact ⟨_, rfl, rfl⟩
      | malformed => cases hr
    case register | login => obtain ⟨id, hs⟩ := hs; cases hs
    case refreshToken => rcases hs with hs | ⟨t, hs⟩ <;> cases hs
    all_goals cases hs
  · cases j <;> cases h
  · exact h.elim

/-! ### What becomes of an account -/

theorem onCredential_roles {s : Stmt} (hs : ∀ id roles, s ≠ .updateRoles id roles) :
    (s.onCredential c).roles = c.roles := by
  cases s
  case updateRoles id roles => exact absurd rfl (hs id roles)
  case updateStatus | incrementFailedAttempts | resetFailedAttempts | lockAccount | unlockAccount
      | updateLastLogin | updatePassword =>
    simp only [Stmt.onCredential, Stmt.credentialUpdate]
    split
    · rfl
    · rfl
  all_goals rfl

/-- The account with the roles of `c`, or no account any more. -/
theorem roles_exec (env : Env) {s : Stmt} (hs : ∀ id roles, s ≠ .updateRoles id roles)
    (hc : w.account u = some c) :
    (∃ c', (World.exec env s w).2.account u = some c' ∧ c'.roles = c.roles) ∨
      s = .deleteCredential u := by
  by_cases hdel : s = .deleteCredential u
  · exact .inr hdel
  · by_cases hch : s.changesAccounts = true
    · cases s
      case createCredential => exact .inl ⟨c, World.account_createCredential hc, rfl⟩
      case deleteCredential id =>
        refine .inl ⟨c, (World.account_deleteCredential ?_).trans hc, rfl⟩
        rintro rfl
        exact hdel rfl
      all_goals cases hch
    · refine .inl ⟨s.onCredential c, ?_, onCredential_roles hs⟩
      rw [World.account_exec (by simpa using hch), hc]
      rfl

theorem account_common {a : Activity} (ha : a.adminOnly = false) (hc : w.account u = some c) :
    (∃ c', (perform env w a).account u = some c' ∧ c'.roles = c.roles) ∨
      (perform env w a).account u = none ∧ ∃ r, a = .http r ∧ r.route = .deleteCredentials (.uuid u) := by
  refine perform_invariant (I := fun w' => (∃ c', w'.account u = some c' ∧ c'.roles = c.roles) ∨
    w'.account u = none ∧ ∃ r, a = .http r ∧ r.route = .deleteCredentials (.uuid u))
    (fun s w hs h => ?_) (fun w n h => h) (.inl ⟨c, hc, rfl⟩)
  rcases h with ⟨c', hc', hroles⟩ | ⟨hnone, hdel⟩
  · have hkeeps : ∀ id roles, s ≠ .updateRoles id roles := by
      rintro id roles rfl
      exact updateRoles_footprint ha hs
    rcases roles_exec env hkeeps hc' with ⟨c'', hc'', hroles'⟩ | rfl
    · exact .inl ⟨c'', hc'', hroles'.trans hroles⟩
    · exact .inr ⟨World.account_deleted env w u, deleteCredential_footprint hs⟩
  · rcases World.account_none_exec env s hnone with hnone' | ⟨email, hash, roles, rfl, -, -⟩
    · exact .inr ⟨hnone', hdel⟩
    · obtain ⟨r, rfl, hroute⟩ := hdel
      obtain ⟨⟨r', email', password, hr', hroute'⟩, -⟩ := createCredential_footprint hs
      cases hr'
      rw [hroute] at hroute'
      cases hroute'

theorem account_added {a : Activity} (hnone : w.account u = none)
    (hc' : (perform env w a).account u = some c') :
    (∃ r email password, a = .http r ∧ r.route = .register email password) ∧
      c'.status = .active ∧ c'.roles = ["USER"] := by
  have hI : (perform env w a).account u = none ∨
      (∃ r email password, a = .http r ∧ r.route = .register email password) ∧
        ∃ c', (perform env w a).account u = some c' ∧ c'.status = .active ∧ c'.roles = ["USER"] := by
    refine perform_invariant (I := fun w' => w'.account u = none ∨
      (∃ r email password, a = .http r ∧ r.route = .register email password) ∧
        ∃ c', w'.account u = some c' ∧ c'.status = .active ∧ c'.roles = ["USER"])
      (fun s w hs h => ?_) (fun w n h => h) (.inl hnone)
    clear hc'
    rcases h with hnone | ⟨hreg, c', hc', hnew⟩
    · rcases World.account_none_exec env s hnone with hnone' | ⟨email, hash, roles, rfl, -, hc'⟩
      · exact .inl hnone'
      · obtain ⟨hreg, hroles⟩ := createCredential_footprint hs
        exact .inr ⟨hreg, _, hc', rfl, hroles⟩
    · refine .inr ⟨hreg, c', ?_, hnew⟩
      obtain ⟨r, email, password, rfl, hroute⟩ := hreg
      obtain ⟨hs, -⟩ := hs
      unfold HttpRequest.request at hs
      rw [hroute] at hs
      by_cases hw : s.writesCredentials = true
      · cases s
        case createCredential => exact World.account_createCredential hc'
        all_goals first | (cases hw; done) | (obtain ⟨id, hs⟩ := hs; cases hs)
      · rw [← hc']
        exact congrArg (fun table : Table UserCredential => table.find? fun c => c.id = u)
          (World.exec_credentials env s w (by simpa using hw))
  rcases hI with hI | ⟨hreg, c'', hc'', hnew⟩
  · rw [hI] at hc'
    cases hc'
  · rw [hc''] at hc'
    cases hc'
    exact ⟨hreg, hnew⟩

/-! ### What becomes of a status -/

theorem perform_login {r : HttpRequest} (hr : r.route.traced = true) (w : World) (u : Nat) :
    (r.respond env w).2.lockState u = (serve env (r.request env) w).2.lockState u := by
  obtain ⟨logs, hsame⟩ := respond_traced env hr w
  rw [hsame]
  rfl

theorem status_failed (env : Env) (now : Int) (l : LockState) :
    (l.failed env now).status = l.status ∨ (l.failed env now).status = .locked ∧
      env.maxLoginAttempts ≤ (l.failed env now).failedLoginAttempts := by
  unfold LockState.failed
  split
  · rename_i hmax
    exact .inr ⟨rfl, hmax⟩
  · exact .inl rfl

/-- The status after a login: as before, or unlocked, or locked for a wrong password too many. -/
theorem status_afterLogin (env : Env) (now : Int) (valid : Bool) (l : LockState) :
    (l.afterLogin env now valid).status = l.status ∨
      (l.expired now = true ∧ (l.afterLogin env now valid).status = .active) ∨
      valid = false ∧ (l.afterLogin env now valid).status = .locked ∧
        env.maxLoginAttempts ≤ (l.afterLogin env now valid).failedLoginAttempts := by
  unfold LockState.afterLogin
  cases hr : l.refusal now with
  | some e => exact .inl rfl
  | none =>
    by_cases he : l.expired now = true
    · simp only [he, if_true]
      cases valid with
      | true => exact .inr (.inl ⟨trivial, rfl⟩)
      | false =>
        rcases status_failed env now ⟨.active, 0, none⟩ with hsame | hlocked
        · exact .inr (.inl ⟨trivial, hsame⟩)
        · exact .inr (.inr ⟨rfl, hlocked⟩)
    · simp only [if_neg he]
      cases valid with
      | true => exact .inl rfl
      | false =>
        rcases status_failed env now l with hsame | hlocked
        · exact .inl hsame
        · exact .inr (.inr ⟨rfl, hlocked⟩)

/-- A login changes a status at the maximum of failed attempts, or after the lock has run out. -/
theorem status_login {r : HttpRequest} {email password : String}
    (hroute : r.route = .login email password) (hc : w.account u = some c)
    (hc' : (r.respond env w).2.account u = some c') :
    c'.status = c.status ∨ Automatic env w c c' (.http r) := by
  have hl : w.lockState u = some c.lockState := by rw [World.lockState, hc]; rfl
  have hl' : (r.respond env w).2.lockState u = some c'.lockState := by
    rw [World.lockState, hc']
    rfl
  rw [perform_login (by rw [hroute]; rfl)] at hl'
  unfold HttpRequest.request at hl'
  rw [hroute] at hl'
  by_cases hfound : w.byEmail env (env.normalizeEmail email) = some c
  · obtain rfl := World.account_id hc
    rw [lockState_login hfound] at hl'
    have hafter := Option.some.inj hl'
    have hstatus := status_afterLogin env w.now (env.verifyPassword c.passwordHash password) c.lockState
    rw [hafter] at hstatus
    rcases hstatus with hsame | ⟨hexpired, hactive⟩ | ⟨hwrong, hlocked, hcount⟩
    · exact .inl hsame
    · exact .inr (.login r email password hroute hfound hexpired hactive)
    · exact .inr (.bruteForce r email password hroute hfound hwrong hcount hlocked)
  · left
    rw [lockState_login_other (u := u) (fun c₁ hc₁ hid => hfound ?_) hl] at hl'
    · exact congrArg LockState.status (Option.some.inj hl').symm
    · rw [hc₁, ← World.account_of_byEmail hc₁, hid, hc]

theorem status_common {a : Activity} (ha : a.adminOnly = false) (hc : w.account u = some c)
    (hc' : (perform env w a).account u = some c') :
    c'.status = c.status ∨ Automatic env w c c' a := by
  have hl : w.lockState u = some c.lockState := by rw [World.lockState, hc]; rfl
  have hl' : (perform env w a).lockState u = some c'.lockState := by
    rw [World.lockState, hc']
    rfl
  have hkept : (perform env w a).lockState u = some c.lockState →
      c'.status = c.status ∨ Automatic env w c c' a := fun h =>
    .inl (congrArg LockState.status (Option.some.inj (hl'.symm.trans h)))
  rcases a with r | j | n
  · by_cases hconc : (r.request env).concerns u = true
    · obtain ⟨headers, ip, route⟩ := r
      cases route
      case login email password => exact status_login rfl hc hc'
      case lockAccount | unlockAccount | banUser => cases ha
      case deleteCredentials userId =>
        let r : HttpRequest := ⟨headers, ip, .deleteCredentials userId⟩
        have hI : (r.respond env w).2.lockState u = some c.lockState ∨
            (r.respond env w).2.account u = none := by
          refine respond_invariant
            (I := fun w' => w'.lockState u = some c.lockState ∨ w'.account u = none)
            (fun s w hs hr h => ?_) (.inl hl)
          rcases h with h | hnone
          · by_cases hdel : s = .deleteCredential u
            · subst hdel
              exact .inr (World.account_deleted env w u)
            · refine .inl (lockState_exec ?_ h)
              cases s
              case deleteCredential id =>
                refine decide_eq_false fun hid => hdel ?_
                rw [hid]
              all_goals first | rfl | cases hs
          · rcases World.account_none_exec env s hnone with hnone' | ⟨email, hash, roles, rfl, -, -⟩
            · exact .inr hnone'
            · cases hs
        rcases hI with hI | hI
        · exact hkept hI
        · rw [show perform env w (.http r) = (r.respond env w).2 from rfl, hI] at hc'
          cases hc'
      all_goals cases hconc
    · refine hkept (respond_invariant (I := fun w' => w'.lockState u = some c.lockState)
        (fun s w hs hr h => ?_) hl)
      exact lockState_exec (not_touchesLock_of_footprint (by simpa using hconc) hs) h
  · cases j
    case unlockExpiredLockouts =>
      have hjob : (perform env w (.job .unlockExpiredLockouts)).lockState u = _ := lockState_job env hl
      by_cases hr : c.lockState.ranOut w.now = true
      · rw [if_pos hr] at hjob
        have hactive := congrArg LockState.status (Option.some.inj (hl'.symm.trans hjob))
        exact .inr (.job hr hactive)
      · rw [if_neg hr] at hjob
        exact hkept hjob
    all_goals exact hkept (lockState_serve_other rfl hl)
  · exact hkept hl

/-- Whatever it sends, a request to any other route, a job or the passing of time raises nothing. -/
theorem unescalated_of_unprivileged {a : Activity} (ha : a.adminOnly = false) : Unescalated env w a where
  refused := by
    rintro r rfl hr
    simp [Activity.adminOnly, hr] at ha
  roles := by
    intro u c c' hc hc'
    rcases account_common ha hc with ⟨c'', hc'', hroles⟩ | ⟨hnone, -⟩
    · rw [hc''] at hc'
      cases hc'
      exact hroles
    · rw [hnone] at hc'
      cases hc'
  status := fun u c c' => status_common ha
  added := fun u c' => account_added
  removed := by
    intro u c hc hnone
    rcases account_common ha hc with ⟨c', hc', -⟩ | ⟨-, hdel⟩
    · rw [hnone] at hc'
      cases hc'
    · exact hdel

theorem not_unescalated_of_adminOnly {r : HttpRequest} (hr : r.route.adminOnly = true) :
    ¬ Unescalated env w (.http r) := by
  intro h
  obtain ⟨⟨e, he, hstatus⟩, -⟩ := h.refused r rfl hr
  exact respond_adminOnly hr he hstatus

theorem During.of_mem {P : World → Activity → Prop} {as : List Activity} (h : During env P w as)
    {a : Activity} (ha : a ∈ as) : ∃ w, P w a := by
  induction as generalizing w with
  | nil => cases ha
  | cons b as ih =>
    rcases List.mem_cons.mp ha with rfl | ha
    · exact ⟨w, h.1⟩
    · exact ih h.2 ha

/-- In a run of requests without the ADMIN role, none raises a privilege and those to the admin routes
are refused with 403, exactly when there are none to the admin routes. -/
theorem unescalated_iff (env : Env) (toUpperCase : String → String) (w : World) (as : List Activity)
    (_hrole : ∀ a ∈ as, a.carriesAdmin env toUpperCase = false) :
    During env (Unescalated env) w as ↔ ∀ a ∈ as, a.adminOnly = false := by
  constructor
  · intro h a ha
    obtain ⟨w', hw'⟩ := h.of_mem ha
    cases a with
    | http r =>
      cases hadmin : r.route.adminOnly with
      | false => exact hadmin
      | true => exact absurd hw' (not_unescalated_of_adminOnly hadmin)
    | job j => rfl
    | pass n => rfl
  · intro h
    exact during_of_forall fun w a ha => unescalated_of_unprivileged (h a ha)

/-- A request of a user whose roles are `USER` and `MODERATOR`. -/
def asUser (route : Route) : HttpRequest :=
  ⟨⟨none, some "user, moderator", some "1", none, .token .malformed⟩, none, route⟩

theorem unescalated_iff_login :
    During Env.plain (Unescalated Env.plain) registered
      [.http (asUser (.login "a@x" "q")), .http (asUser (.revokeAllTokens (.uuid 1) none)),
        .job .unlockExpiredLockouts] :=
  (unescalated_iff Env.plain String.toUpper registered _ (by decide +kernel)).mpr (by decide +kernel)

/-- An empty database with the role `ADMIN`, in which user 1 has registered. -/
def registeredBesideAdmin : World :=
  runs Env.plain (World.initial ⟨[⟨100, "ADMIN", none, none⟩], by simp, by simp⟩ 0 0)
    [.request (.register "a@x" "p" none none)]

/-- User 1 assigns itself the role `ADMIN`. -/
theorem user_becomes_admin :
    ¬ ∀ (w : World), Reachable Env.plain w → ∀ as : List Activity,
      (∀ a ∈ as, a.carriesAdmin Env.plain String.toUpper = false) →
        During Env.plain (Unescalated Env.plain) w as := by
  intro h
  have hrun := h registeredBesideAdmin ⟨_, _, _, _, rfl⟩ [.http (asUser (.assignRole 1 .admin))]
    (by decide +kernel)
  have hbefore : (registeredBesideAdmin.account 1).map (·.roles) = some ["USER"] := by decide +kernel
  have hafter : ((perform Env.plain registeredBesideAdmin
      (.http (asUser (.assignRole 1 .admin)))).account 1).map (·.roles) = some ["USER", "ADMIN"] := by
    decide +kernel
  obtain ⟨c, hc, hroles⟩ := Option.map_eq_some_iff.mp hbefore
  obtain ⟨c', hc', hroles'⟩ := Option.map_eq_some_iff.mp hafter
  have hsame := hrun.1.roles 1 c c' hc hc'
  rw [hroles, hroles'] at hsame
  cases hsame

end Auth
