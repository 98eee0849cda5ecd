import AuthService.Footprint

/-!
# AuthService.Accounts

The lock state of one account (status, counter, expiry) under whole requests.

* `LockState`, `World.lockState` — the three columns that the lockout logic reads and writes.
* `lockState_serve_other`        — requests that do not concern the account leave it alone.
* `lockState_lockAccount`, `lockState_unlockAccount`, `lockState_banUser`, `lockState_job` — what the
  administrator's operations and the job make of it.
* `run_login_refused`, `run_login_admitted`, `lockState_login` — what a login makes of it.
* `LockState.after`, `lockState_act` — all of these as one function of the action.
-/

namespace Auth

open Relational Resumption Prog

structure LockState where
  status : UserStatus
  failedLoginAttempts : Nat
  lockedUntil : Option Int
  deriving DecidableEq

def UserCredential.lockState (c : UserCredential) : LockState :=
  ⟨c.status, c.failedLoginAttempts, c.lockedUntil⟩

def World.lockState (w : World) (u : Nat) : Option LockState :=
  (w.account u).map UserCredential.lockState

/-- Statements that write the lock state of account `u` or delete it. -/
def touchesLock (u : Nat) : Stmt → Bool
  | .updateStatus id _ => id = u
  | .incrementFailedAttempts id => id = u
  | .resetFailedAttempts id => id = u
  | .lockAccount id _ => id = u
  | .unlockAccount id => id = u
  | .deleteCredential id => id = u
  | _ => false

variable {env : Env} {u : Nat} {w : World} {l : LockState}

theorem onCredential_lockState {s : Stmt} {c : UserCredential} (h : touchesLock c.id s = false) :
    (s.onCredential c).lockState = c.lockState := by
  cases s
  case updateStatus | incrementFailedAttempts | resetFailedAttempts | lockAccount | unlockAccount =>
    rw [Stmt.onCredential_other]
    rintro f hf
    cases hf
    simp [touchesLock] at h
  case updateLastLogin | updatePassword | updateRoles =>
    simp only [Stmt.onCredential, Stmt.credentialUpdate]
    split
    · rfl
    · rfl
  all_goals rfl

theorem lockState_exec {s : Stmt} (hs : touchesLock u s = false) (hl : w.lockState u = some l) :
    (World.exec env s w).2.lockState u = some l := by
  obtain ⟨c, hc, rfl⟩ := Option.map_eq_some_iff.mp hl
  have hid := World.account_id hc
  by_cases hch : s.changesAccounts = true
  · cases s
    case createCredential email passwordHash roles =>
      rw [World.lockState, World.account_createCredential hc]
      rfl
    case deleteCredential id =>
      have hne : u ≠ id := by
        rintro rfl
        simp [touchesLock] at hs
      rw [World.lockState, World.account_deleteCredential hne, hc]
      rfl
    all_goals cases hch
  · rw [World.lockState, World.account_exec (by simpa using hch), hc]
    exact congrArg some (onCredential_lockState (by rwa [hid]))

/-- What a targeted `UPDATE` makes of the lock state. -/
theorem lockState_update {s : Stmt} {f : Patch UserCredential}
    (hs : s.credentialUpdate = some (u, f)) (hch : s.changesAccounts = false)
    {g : LockState → LockState} (hg : ∀ c, (f.apply c).lockState = g c.lockState)
    (hl : w.lockState u = some l) : (World.exec env s w).2.lockState u = some (g l) := by
  obtain ⟨c, hc, rfl⟩ := Option.map_eq_some_iff.mp hl
  have hid := World.account_id hc
  rw [World.lockState, World.account_exec hch, hc]
  refine congrArg some ?_
  have hrow : s.onCredential c = f.apply c := by
    simp only [Stmt.onCredential, hs, hid, if_true]
  rw [hrow, hg]

theorem lockState_run {α : Type} {p : AuthProg α} (hp : p.Uses fun s => touchesLock u s = false)
    (hl : w.lockState u = some l) : (p.run (World.machine env) w).2.lockState u = some l :=
  run_invariant (I := fun w : World => w.lockState u = some l) hp (fun _ _ hs h => lockState_exec hs h) hl

theorem run_now {α : Type} (p : AuthProg α) (w : World) :
    (p.run (World.machine env) w).2.now = w.now := by
  induction p generalizing w with
  | ret a => rfl
  | throw e => rfl
  | call s k ih => exact (ih _ _).trans (World.exec_now env s w)

theorem not_touchesLock_of_quiet {s : Stmt} (h : s.quiet = true) : touchesLock u s = false := by
  cases s <;> first | rfl | cases h

/-! ## Requests about other accounts -/

/-- The requests that may write the lock state of account `u`. -/
def Request.concerns (u : Nat) : Request → Bool
  | .login _ _ _ _ => true
  | .lockAccount id _ _ _ => id = u
  | .unlockAccount id _ => id = u
  | .banUser id _ _ => id = u
  | .deleteCredentials id => id = u
  | .unlockExpiredLockouts => true
  | _ => false

theorem not_touchesLock_of_footprint {r : Request} (h : r.concerns u = false) {s : Stmt}
    (hs : r.footprint s) : touchesLock u s = false := by
  cases r
  case login | unlockExpiredLockouts => cases h
  case lockAccount | banUser =>
    have hne := of_decide_eq_false h
    cases s <;> first | rfl | exact decide_eq_false (hs.1.symm ▸ hne) | cases hs
  case unlockAccount | deleteCredentials =>
    have hne := of_decide_eq_false h
    cases s <;> first | rfl | exact decide_eq_false (Eq.symm hs ▸ hne) | cases hs
  case register => cases s <;> first | rfl | (obtain ⟨a, ha⟩ := hs; cases ha)
  case refreshToken => cases s <;> first | rfl | (rcases hs with hs | ⟨t, hs⟩ <;> cases hs)
  all_goals cases s <;> first | rfl | cases hs

theorem lockState_serve_other {r : Request} (h : r.concerns u = false)
    (hl : w.lockState u = some l) : (serve env r w).2.lockState u = some l :=
  lockState_run ((uses_handle r).mono fun _ hs => not_touchesLock_of_footprint h hs) hl

/-! ## Administrators and the job -/

/-- The bulk revocation, event and audit row after a status write. -/
theorem uses_afterwards {reason : String} {event : Int → DomainEvent} {entry : AuditLog} {v : Nat} :
    ((TokenService.revokeAllUserTokens v reason).bind fun _ =>
      (newDate.bind fun timestamp => EventService.safePublish (event timestamp)).bind fun _ =>
        AuditLogRepository.create entry).Uses fun s => touchesLock u s = false :=
  uses_bind (uses_revokeAllUserTokens rfl fun _ => rfl) fun _ =>
    uses_bind (uses_publish rfl fun _ => rfl) fun _ => (uses_perform _).mpr rfl

/-- `if (durationMinutes)`, at the instant `now`. -/
def lockUntil (env : Env) (durationMinutes : Option Nat) (now : Int) : Option Int :=
  match durationMinutes with
  | none => none
  | some 0 => none
  | some (n + 1) => some (env.zone.setMinutesPlus now (n + 1))

theorem run_lockExpiry (durationMinutes : Option Nat) (w : World) :
    (AccountService.lockExpiry env durationMinutes).run (World.machine env) w =
      (.ok (lockUntil env durationMinutes w.now), w) := by
  unfold AccountService.lockExpiry lockUntil
  cases durationMinutes with
  | none => rfl
  | some n =>
    cases n with
    | zero => rfl
    | succ n => rfl

/-- A statement on the account, then statements that leave it alone. -/
theorem lockState_perform_bind {α : Type} {s : Stmt} {f : s.Reply → AuthProg α} {a : s.Reply}
    {l' : LockState} (ha : (World.exec env s w).1 = .ok a)
    (hl : (World.exec env s w).2.lockState u = some l')
    (hf : (f a).Uses fun s => touchesLock u s = false) :
    ((Prog.bind (query s) f).run (World.machine env) w).2.lockState u = some l' := by
  rw [show (Prog.bind (query s) f).run (World.machine env) w =
    (f a).run (World.machine env) (World.exec env s w).2 from run_perform_bind _ ha]
  exact lockState_run hf hl

/-- The existence check that every operation of an administrator starts with. -/
theorem run_findById_bind {α : Type} (f : Option UserCredential → AuthProg α) :
    ((UserCredentialRepository.findById u).bind f).run (World.machine env) w =
      (f (w.account u)).run (World.machine env) w :=
  run_perform_bind (S := sig) (World.machine env) (s := .findCredentialById u) (a := w.account u) rfl

theorem lockState_lockAccount {reason : String} {duration : Option Nat}
    {adminUserId : Option String} (hl : w.lockState u = some l) :
    (serve env (.lockAccount u reason duration adminUserId) w).2.lockState u =
      some ⟨.locked, l.failedLoginAttempts, lockUntil env duration w.now⟩ := by
  obtain ⟨c, hc, -⟩ := Option.map_eq_some_iff.mp hl
  have hwrite : (World.exec env (.lockAccount u (lockUntil env duration w.now)) w).2.lockState u =
      some ⟨.locked, l.failedLoginAttempts, lockUntil env duration w.now⟩ :=
    lockState_update (g := fun l => ⟨.locked, l.failedLoginAttempts, lockUntil env duration w.now⟩)
      rfl rfl (fun c => rfl) hl
  unfold serve handle AccountService.lockAccount
  simp only [bind_eq]
  rw [run_bind_ret, run_findById_bind, hc]
  simp only
  rw [run_bind_ok _ (run_lockExpiry duration w)]
  exact lockState_perform_bind rfl hwrite uses_afterwards

theorem lockState_unlockAccount {adminUserId : Option String} (hl : w.lockState u = some l) :
    (serve env (.unlockAccount u adminUserId) w).2.lockState u = some ⟨.active, 0, none⟩ := by
  obtain ⟨c, hc, -⟩ := Option.map_eq_some_iff.mp hl
  have hwrite : (World.exec env (.unlockAccount u) w).2.lockState u = some ⟨.active, 0, none⟩ :=
    lockState_update (g := fun _ => ⟨.active, 0, none⟩) rfl rfl (fun c => rfl) hl
  unfold serve handle AccountService.unlockAccount
  simp only [bind_eq]
  rw [run_bind_ret, run_findById_bind, hc]
  refine lockState_perform_bind rfl hwrite ?_
  exact uses_bind (uses_publish rfl fun _ => rfl) fun _ => (uses_perform _).mpr rfl

theorem lockState_banUser {reason : String} {adminUserId : Option String}
    (hl : w.lockState u = some l) :
    (serve env (.banUser u reason adminUserId) w).2.lockState u =
      some ⟨.banned, l.failedLoginAttempts, l.lockedUntil⟩ := by
  obtain ⟨c, hc, -⟩ := Option.map_eq_some_iff.mp hl
  have hwrite : (World.exec env (.updateStatus u .banned) w).2.lockState u =
      some ⟨.banned, l.failedLoginAttempts, l.lockedUntil⟩ :=
    lockState_update (g := fun l => ⟨.banned, l.failedLoginAttempts, l.lockedUntil⟩) rfl rfl
      (fun c => rfl) hl
  unfold serve handle AccountService.banUser
  simp only [bind_eq]
  rw [run_bind_ret, run_findById_bind, hc]
  exact lockState_perform_bind rfl hwrite uses_afterwards

/-- A ban that comes through has found the account. -/
theorem banUser_found {reason : String} {adminUserId : Option String} {r : Response}
    (hok : (serve env (.banUser u reason adminUserId) w).1 = .ok r) :
    ∃ l, w.lockState u = some l := by
  cases hc : w.account u with
  | some c => exact ⟨c.lockState, by rw [World.lockState, hc]; rfl⟩
  | none =>
    have hnone : (AccountService.banUser u reason adminUserId).run (World.machine env) w =
        (.error (.error ErrorMessages.AUTH_USER_NOT_FOUND), w) := by
      unfold AccountService.banUser
      simp only [bind_eq]
      rw [run_findById_bind, hc]
      rfl
    rw [show serve env (.banUser u reason adminUserId) w =
      (.error (.error ErrorMessages.AUTH_USER_NOT_FOUND), w) from run_bind_error _ hnone] at hok
    cases hok

/-- The lock has run out, by the job's strict comparison. -/
def LockState.ranOut (l : LockState) (now : Int) : Bool :=
  l.status = .locked && l.lockedUntil.any (· < now)

/-- The loop of the job, by induction on the accounts left. -/
theorem lockState_unlocks (env : Env) (accounts : List UserCredential) (w : World) {l : LockState}
    (hl : w.lockState u = some l) :
    ∃ w', (forEach (fun account : UserCredential =>
        (UserCredentialRepository.unlockAccount account.id).tryCatch fun _ => .ret ())
          accounts).run (World.machine env) w = (.ok (), w') ∧
      w'.lockState u = some (if u ∈ accounts.map (·.id) then ⟨.active, 0, none⟩ else l) := by
  induction accounts generalizing w l with
  | nil => exact ⟨w, rfl, hl⟩
  | cons c cs ih =>
    have hstep : (World.exec env (.unlockAccount c.id) w).2.lockState u =
        some (if c.id = u then ⟨.active, 0, none⟩ else l) := by
      by_cases hid : c.id = u
      · rw [if_pos hid, hid]
        exact lockState_update (g := fun _ => ⟨.active, 0, none⟩) rfl rfl (fun c => rfl) hl
      · rw [if_neg hid]
        exact lockState_exec (decide_eq_false hid) hl
    obtain ⟨w', hrun, hl'⟩ := ih _ hstep
    refine ⟨w', hrun, hl'.trans ?_⟩
    by_cases hmem : u ∈ cs.map (·.id)
    · rw [if_pos hmem, if_pos (by rw [List.map_cons]; exact List.mem_cons_of_mem _ hmem)]
    · rw [if_neg hmem]
      by_cases hid : c.id = u
      · rw [if_pos hid, if_pos (by rw [List.map_cons, hid]; exact List.mem_cons_self)]
      · rw [if_neg hid, if_neg]
        rw [List.map_cons, List.mem_cons]
        rintro (h | h)
        · exact hid h.symm
        · exact hmem h

/-- The rows that `findLockedAccountsToUnlock` returns. -/
def unlockable (now : Int) (c : UserCredential) : Bool :=
  c.status = .locked && match c.lockedUntil with
    | some t => t < now
    | none => false

theorem unlockable_eq_ranOut (now : Int) (c : UserCredential) :
    unlockable now c = c.lockState.ranOut now := by
  unfold unlockable LockState.ranOut UserCredential.lockState
  cases c.lockedUntil with
  | none => rfl
  | some t => rfl

/-- The job, from the rows that its query returns. -/
theorem serve_job {w' : World}
    (hrun : (forEach (fun account : UserCredential =>
      (UserCredentialRepository.unlockAccount account.id).tryCatch fun _ => (.ret () : AuthProg Unit))
        (w.credentials.select (unlockable w.now))).run (World.machine env) w = (.ok (), w')) :
    (serve env .unlockExpiredLockouts w).2 = w' := by
  unfold serve handle
  rw [run_bind_ret]
  unfold UnlockExpiredLockoutsJob.handleUnlock
  rw [run_tryCatch]
  have hjob : ((UserCredentialRepository.findLockedAccountsToUnlock).bind fun accounts =>
      forEach (fun account : UserCredential =>
        (UserCredentialRepository.unlockAccount account.id).tryCatch fun _ => .ret ())
          accounts).run (World.machine env) w = (.ok (), w') := hrun
  simp only [bind_eq, pure_eq]
  rw [hjob]

theorem lockState_job (env : Env) (hl : w.lockState u = some l) :
    (serve env .unlockExpiredLockouts w).2.lockState u =
      some (if l.ranOut w.now then ⟨.active, 0, none⟩ else l) := by
  obtain ⟨c, hc, rfl⟩ := Option.map_eq_some_iff.mp hl
  obtain ⟨hmem, -⟩ := Table.find?_mem hc
  have hid := World.account_id hc
  obtain ⟨w', hrun, hl'⟩ := lockState_unlocks env (w.credentials.select (unlockable w.now)) w hl
  have hiff : u ∈ (w.credentials.select (unlockable w.now)).map (·.id) ↔
      c.lockState.ranOut w.now = true := by
    rw [List.mem_map]
    constructor
    · rintro ⟨c', hc', hid'⟩
      obtain ⟨hmem', hp⟩ := List.mem_filter.mp hc'
      obtain rfl : c' = c := Table.eq_of_key hmem' hmem (hid'.trans hid.symm)
      rwa [unlockable_eq_ranOut] at hp
    · intro h
      exact ⟨c, List.mem_filter.mpr ⟨hmem, by rwa [unlockable_eq_ranOut]⟩, hid⟩
  rw [serve_job hrun, hl']
  by_cases hr : c.lockState.ranOut w.now = true
  · rw [if_pos (hiff.mpr hr), if_pos hr]
  · rw [if_neg (fun h => hr (hiff.mp h)), if_neg hr]

/-! ## Logins -/

/-- The lock has run out, by the login's comparison. -/
def LockState.expired (l : LockState) (now : Int) : Bool :=
  l.status = .locked && l.lockedUntil.any (· ≤ now)

/-- The exception with which the status checks of `login` end it. -/
def LockState.refusal (l : LockState) (now : Int) : Option Exn :=
  match l.status with
  | .active => none
  | .locked =>
    if l.lockedUntil.any (· ≤ now) then none
    else some (.forbidden ErrorMessages.AUTH_ACCOUNT_LOCKED)
  | .banned => some (.forbidden ErrorMessages.AUTH_ACCOUNT_BANNED)
  | .deleted => some (.unauthorized ErrorMessages.AUTH_INVALID_CREDENTIALS)

section Login

variable {email password : String} {ipAddress userAgent : Option String} {c : UserCredential}

/-- The lookup of `login`. -/
theorem run_findByEmail_bind {α : Type} (f : Option UserCredential → AuthProg α) :
    ((UserCredentialRepository.findByEmail email).bind f).run (World.machine env) w =
      (f (w.byEmail env email)).run (World.machine env) w :=
  run_perform_bind (S := sig) (World.machine env) (s := .findCredentialByEmail email)
    (a := w.byEmail env email) rfl

theorem run_newDate_bind {α : Type} (f : Int → AuthProg α) :
    (newDate.bind f).run (World.machine env) w = (f w.now).run (World.machine env) w := rfl

/-- A login on an email nobody has writes an audit row. -/
theorem run_login_unknown (password : String) (ipAddress userAgent : Option String)
    (hc : w.byEmail env email = none) :
    ∃ logs, (AuthService.login env email password ipAddress userAgent).run (World.machine env) w =
      (.error (.unauthorized ErrorMessages.AUTH_INVALID_CREDENTIALS), { w with auditLogs := logs }) := by
  unfold AuthService.login
  simp only [bind_eq]
  rw [run_findByEmail_bind, hc]
  exact ⟨_, rfl⟩

/-- A login that the status checks refuse writes at most an audit row. -/
theorem run_login_refused (password : String) (ipAddress userAgent : Option String)
    (hc : w.byEmail env email = some c) {e : Exn}
    (he : c.lockState.refusal w.now = some e) :
    ∃ logs, (AuthService.login env email password ipAddress userAgent).run (World.machine env) w =
      (.error e, { w with auditLogs := logs }) := by
  unfold AuthService.login
  simp only [bind_eq]
  rw [run_findByEmail_bind, hc]
  unfold LockState.refusal UserCredential.lockState at he
  cases hs : c.status with
  | active => simp [hs] at he
  | banned =>
    simp only [hs] at he ⊢
    cases he
    exact ⟨_, rfl⟩
  | deleted =>
    simp only [hs] at he ⊢
    cases he
    exact ⟨w.auditLogs, rfl⟩
  | locked =>
    cases hlu : c.lockedUntil with
    | none =>
      simp only [hs, hlu, Option.any_none, Bool.false_eq_true, if_false] at he ⊢
      cases he
      exact ⟨_, rfl⟩
    | some t =>
      by_cases ht : t ≤ w.now
      · simp [hs, hlu, ht] at he
      · simp only [hs, hlu, Option.any_some, ht, decide_false, Bool.false_eq_true, if_false]
          at he ⊢
        cases he
        rw [run_newDate_bind, if_neg ht]
        exact ⟨_, rfl⟩

/-- A login that passes the status checks goes on to the password, after the auto-unlock of an
expired lock. -/
theorem run_login_admitted (hc : w.byEmail env email = some c)
    (he : c.lockState.refusal w.now = none) :
    (AuthService.login env email password ipAddress userAgent).run (World.machine env) w =
      (AuthService.loginVerify env c email password ipAddress userAgent).run (World.machine env)
        (if c.lockState.expired w.now then (World.exec env (.unlockAccount c.id) w).2 else w) := by
  unfold AuthService.login
  simp only [bind_eq]
  rw [run_findByEmail_bind, hc]
  unfold LockState.refusal UserCredential.lockState at he
  unfold LockState.expired UserCredential.lockState
  cases hs : c.status with
  | active => simp only [hs, reduceCtorEq, decide_false, Bool.false_and, Bool.false_eq_true, if_false]
  | banned => simp [hs] at he
  | deleted => simp [hs] at he
  | locked =>
    cases hlu : c.lockedUntil with
    | none => simp [hs, hlu] at he
    | some t =>
      by_cases ht : t ≤ w.now
      · simp only [hs, hlu, Option.any_some, ht, decide_true, Bool.and_self, if_true]
        rw [run_newDate_bind, if_pos ht]
        rfl
      · simp [hs, hlu, ht] at he

theorem run_verifyPassword_bind {α : Type} (hash given : String) (f : Bool → AuthProg α) :
    ((CredentialService.verifyPassword hash given).bind f).run (World.machine env) w =
      (f (env.verifyPassword hash given)).run (World.machine env) w := rfl

/-- The right password resets the counter, whatever becomes of the rest of the login. -/
theorem run_hashPassword_bind {α : Type} (password : String) (f : String → AuthProg α) :
    ((CredentialService.hashPassword password).bind f).run (World.machine env) w =
      match env.hashPassword password w.supply with
      | some hash => (f hash).run (World.machine env) { w with supply := w.supply + 1 }
      | none => (.error (.error "hashing failed"), w) := by
  cases h : env.hashPassword password w.supply with
  | none =>
    refine run_bind_error _ ((run_perform (S := sig) _ _ _).trans ?_)
    simp only [World.machine, World.exec, h]
  | some hash =>
    refine run_bind_ok _ ((run_perform (S := sig) _ _ _).trans ?_)
    simp only [World.machine, World.exec, h]

/-- The payload of the token that `signAccessToken` signs. -/
def accessPayload (env : Env) (w : World) (sub : Nat) (email : String) (roles : List String)
    (lifetime : Int) : JwtPayload :=
  ⟨sub, email, roles, .access, w.supply, World.seconds w.now, World.seconds w.now + lifetime,
    env.issuer, env.audience⟩

theorem run_generateAccessToken_bind {α : Type} (sub : Nat) (email : String) (roles : List String)
    (f : Jwt → AuthProg α) :
    ((TokenService.generateAccessToken sub email roles).bind f).run (World.machine env) w =
      match env.timespan env.accessTokenExpiry with
      | some lifetime =>
        (f (.signed (accessPayload env w sub email roles lifetime))).run (World.machine env)
          (World.exec env (.signAccessToken sub email roles .access) w).2
      | none => (.error (.error "expiresIn is not a timespan"), w) := by
  cases h : env.timespan env.accessTokenExpiry with
  | none =>
    refine run_bind_error _ ((run_perform (S := sig) _ _ _).trans ?_)
    simp only [World.machine, World.exec, h]
  | some lifetime =>
    refine run_bind_ok _ ((run_perform (S := sig) _ _ _).trans ?_)
    simp only [World.machine, World.exec, h]
    rfl

theorem lockState_loginVerify_right (hv : env.verifyPassword c.passwordHash password = true)
    (hl : w.lockState c.id = some l) :
    ((AuthService.loginVerify env c email password ipAddress userAgent).run (World.machine env)
      w).2.lockState c.id = some ⟨l.status, 0, l.lockedUntil⟩ := by
  have hwrite : (World.exec env (.resetFailedAttempts c.id) w).2.lockState c.id =
      some ⟨l.status, 0, l.lockedUntil⟩ :=
    lockState_update (g := fun l => ⟨l.status, 0, l.lockedUntil⟩) rfl rfl (fun c => rfl) hl
  have hq : ∀ s : Stmt, s.quiet = true → touchesLock c.id s = false :=
    fun s h => not_touchesLock_of_quiet h
  unfold AuthService.loginVerify
  simp only [bind_eq]
  rw [run_verifyPassword_bind, hv, if_pos rfl]
  unfold AuthService.loginSucceeded
  refine lockState_perform_bind rfl hwrite ?_
  refine uses_bind (uses_perform_bind rfl fun _ => (uses_perform _).mpr rfl) fun _ => ?_
  refine uses_perform_bind rfl fun accessToken => ?_
  refine uses_bind (uses_generateRefreshToken hq fun data hd => rfl) fun pair => ?_
  refine uses_bind (uses_enforceMaxSessions hq fun id at' => rfl) fun _ => ?_
  refine uses_bind (uses_publish rfl fun _ => rfl) fun _ => ?_
  exact uses_perform_bind rfl fun _ => trivial

/-- The lock state after the wrong password that makes `l` count one more. -/
def LockState.failed (env : Env) (now : Int) (l : LockState) : LockState :=
  if env.maxLoginAttempts ≤ l.failedLoginAttempts + 1 then
    ⟨.locked, l.failedLoginAttempts + 1,
      some (env.zone.setMinutesPlus now env.lockoutDurationMinutes)⟩
  else { l with failedLoginAttempts := l.failedLoginAttempts + 1 }

/-- The audit row of the `n`-th wrong password. -/
def wrongPasswordEntry (env : Env) (u : Nat) (email : String) (ipAddress userAgent : Option String)
    (n : Nat) : AuditLog :=
  AuthService.loginFailure (some u) email ipAddress userAgent
    [("reason", .text "invalid_password"), ("failedAttempts", .number n),
      ("accountLocked", .flag (n ≥ env.maxLoginAttempts))]

/-- The lock at the maximum of failed attempts, and the sessions it revokes. -/
def bruteForceLocked (env : Env) (w : World) (u : Nat) : World :=
  (World.exec env (.revokeAllByUserId u "account_locked:brute_force" w.now)
    (World.exec env (.lockAccount u
      (some (env.zone.setMinutesPlus w.now env.lockoutDurationMinutes))) w).2).2

/-- The `n`-th wrong password on account `u`, which is counted in `w`. -/
def afterWrongPassword (env : Env) (w : World) (u : Nat) (email : String)
    (ipAddress userAgent : Option String) (n : Nat) : World :=
  if env.maxLoginAttempts ≤ n then
    { bruteForceLocked env w u with
      published := w.published ++ [.loginFailed email (ipAddress.getD "unknown") n w.now] ++
        [.accountLocked u "brute_force"
          (some (env.zone.setMinutesPlus w.now env.lockoutDurationMinutes)) w.now]
      auditLogs := w.auditLogs ++ [wrongPasswordEntry env u email ipAddress userAgent n] }
  else
    { w with
      published := w.published ++ [.loginFailed email (ipAddress.getD "unknown") n w.now]
      auditLogs := w.auditLogs ++ [wrongPasswordEntry env u email ipAddress userAgent n] }

/-- The statement that counts a wrong password answers with the new count. -/
theorem exec_incrementFailedAttempts (env : Env) {c₁ : UserCredential} (hc : w.account u = some c₁) :
    (World.exec env (.incrementFailedAttempts u) w).1 = .ok (some (c₁.failedLoginAttempts + 1)) := by
  have hid := World.account_id hc
  have hcounted : (World.exec env (.incrementFailedAttempts u) w).2.account u =
      some (UserCredential.incrementFailedAttempts.apply c₁) := by
    rw [World.account_exec rfl, hc]
    simp [Stmt.onCredential, Stmt.credentialUpdate, hid]
  exact congrArg (fun o => Except.ok (Option.map UserCredential.failedLoginAttempts o)) hcounted

/-- A wrong password is counted, locks the account at the maximum, and fails the login. -/
theorem run_loginVerify_counts {c₁ : UserCredential} (email : String)
    (ipAddress userAgent : Option String)
    (hv : env.verifyPassword c.passwordHash password = false) (hc : w.account c.id = some c₁) :
    (AuthService.loginVerify env c email password ipAddress userAgent).run (World.machine env) w =
      (.error (.unauthorized ErrorMessages.AUTH_INVALID_CREDENTIALS),
        afterWrongPassword env (World.exec env (.incrementFailedAttempts c.id) w).2 c.id email
          ipAddress userAgent (c₁.failedLoginAttempts + 1)) := by
  unfold AuthService.loginVerify
  simp only [bind_eq]
  rw [run_verifyPassword_bind, hv]
  simp only [Bool.false_eq_true, if_false]
  unfold AuthService.loginFailed UserCredentialRepository.incrementFailedAttempts
  simp only [bind_eq, bind_assoc]
  have hincr : ∀ {α : Type} (f : Option Nat → AuthProg α),
      ((query (.incrementFailedAttempts c.id) : AuthProg (Option Nat)).bind f).run
          (World.machine env) w =
        (f (some (c₁.failedLoginAttempts + 1))).run (World.machine env)
          (World.exec env (.incrementFailedAttempts c.id) w).2 := fun f =>
    run_perform_bind (S := sig) (World.machine env) (s := .incrementFailedAttempts c.id)
      (exec_incrementFailedAttempts env hc)
  rw [hincr]
  simp only [pure_eq, ret_bind]
  unfold AuthService.lockOnBruteForce afterWrongPassword
  by_cases hm : env.maxLoginAttempts ≤ c₁.failedLoginAttempts + 1
  · rw [if_pos hm, if_pos hm]
    rfl
  · rw [if_neg hm, if_neg hm]
    rfl

theorem lockState_afterWrongPassword {l : LockState} (email : String)
    (ipAddress userAgent : Option String) (hl : w.lockState u = some l) :
    (afterWrongPassword env (World.exec env (.incrementFailedAttempts u) w).2 u email ipAddress
      userAgent (l.failedLoginAttempts + 1)).lockState u = some (l.failed env w.now) := by
  have hcount : (World.exec env (.incrementFailedAttempts u) w).2.lockState u =
      some { l with failedLoginAttempts := l.failedLoginAttempts + 1 } :=
    lockState_update (g := fun l => { l with failedLoginAttempts := l.failedLoginAttempts + 1 })
      rfl rfl (fun c => rfl) hl
  unfold afterWrongPassword LockState.failed
  by_cases hm : env.maxLoginAttempts ≤ l.failedLoginAttempts + 1
  · rw [if_pos hm, if_pos hm]
    exact lockState_update (g := fun l => ⟨.locked, l.failedLoginAttempts,
      some (env.zone.setMinutesPlus w.now env.lockoutDurationMinutes)⟩) rfl rfl (fun c => rfl) hcount
  · rw [if_neg hm, if_neg hm]
    exact hcount

theorem run_loginVerify_wrong (email : String) (ipAddress userAgent : Option String)
    (hv : env.verifyPassword c.passwordHash password = false)
    (hl : w.lockState c.id = some l) :
    ∃ w', (AuthService.loginVerify env c email password ipAddress userAgent).run
        (World.machine env) w =
          (.error (.unauthorized ErrorMessages.AUTH_INVALID_CREDENTIALS), w') ∧
      w'.lockState c.id = some (l.failed env w.now) := by
  obtain ⟨c₁, hc₁, rfl⟩ := Option.map_eq_some_iff.mp hl
  exact ⟨_, run_loginVerify_counts email ipAddress userAgent hv hc₁,
    lockState_afterWrongPassword email ipAddress userAgent hl⟩

/-- A login answers for the account it has looked up. -/
theorem yields_loginVerify :
    (AuthService.loginVerify env c email password ipAddress userAgent).Yields
      fun a => a.userId = c.id := by
  unfold AuthService.loginVerify
  refine yields_bind fun valid => ?_
  cases valid with
  | true =>
    refine yields_bind fun _ => yields_bind fun _ => yields_bind fun accessToken => ?_
    refine yields_bind fun pair => yields_bind fun _ => yields_bind fun _ => ?_
    exact yields_bind fun _ => rfl
  | false =>
    exact yields_bind fun _ => yields_bind fun _ => yields_bind fun _ => yields_bind fun _ => trivial

/-- The lock state after a login with a right or a wrong password. -/
def LockState.afterLogin (env : Env) (now : Int) (valid : Bool) (l : LockState) : LockState :=
  match l.refusal now with
  | some _ => l
  | none =>
    let l' := if l.expired now then ⟨.active, 0, none⟩ else l
    if valid then { l' with failedLoginAttempts := 0 } else l'.failed env now

theorem lockState_login (hc : w.byEmail env email = some c) :
    (serve env (.login email password ipAddress userAgent) w).2.lockState c.id =
      some (c.lockState.afterLogin env w.now (env.verifyPassword c.passwordHash password)) := by
  have hl : w.lockState c.id = some c.lockState := by
    rw [World.lockState, World.account_of_byEmail hc]
    rfl
  unfold serve handle
  rw [run_bind_ret]
  unfold LockState.afterLogin
  cases hr : c.lockState.refusal w.now with
  | some e =>
    obtain ⟨logs, hrun⟩ := run_login_refused password ipAddress userAgent hc hr
    rw [hrun]
    exact hl
  | none =>
    rw [run_login_admitted hc hr]
    have hstart : (if c.lockState.expired w.now then
        (World.exec env (.unlockAccount c.id) w).2 else w).lockState c.id =
          some (if c.lockState.expired w.now then ⟨.active, 0, none⟩ else c.lockState) := by
      split
      · exact lockState_update (g := fun _ => ⟨.active, 0, none⟩) rfl rfl (fun c => rfl) hl
      · exact hl
    have hnow : (if c.lockState.expired w.now then
        (World.exec env (.unlockAccount c.id) w).2 else w).now = w.now := by
      split
      · exact World.exec_now env _ w
      · rfl
    cases hv : env.verifyPassword c.passwordHash password with
    | true => exact lockState_loginVerify_right hv hstart
    | false =>
      obtain ⟨w', hrun, hl'⟩ := run_loginVerify_wrong email ipAddress userAgent hv hstart
      rw [hrun, hl', hnow]
      rfl

/-- A successful login answers with the account that its email belongs to. -/
theorem login_userId {response : AuthResponse} (hc : w.byEmail env email = some c)
    (hr : c.lockState.refusal w.now = none)
    (hok : (serve env (.login email password ipAddress userAgent) w).1 = .ok (.auth response)) :
    response.userId = c.id := by
  unfold serve handle at hok
  rw [run_bind, run_login_admitted hc hr] at hok
  split at hok
  · rename_i a w' hrun
    cases hok
    exact of_run_ok yields_loginVerify hrun
  · cases hok

/-- A login on another account, or on none. -/
theorem lockState_login_other (hne : ∀ c, w.byEmail env email = some c → c.id ≠ u)
    (hl : w.lockState u = some l) :
    (serve env (.login email password ipAddress userAgent) w).2.lockState u = some l := by
  unfold serve handle
  rw [run_bind_ret]
  cases hc : w.byEmail env email with
  | none =>
    obtain ⟨logs, hrun⟩ := run_login_unknown password ipAddress userAgent hc
    rw [hrun]
    exact hl
  | some c =>
    have hid := hne c hc
    cases hr : c.lockState.refusal w.now with
    | some e =>
      obtain ⟨logs, hrun⟩ := run_login_refused password ipAddress userAgent hc hr
      rw [hrun]
      exact hl
    | none =>
      rw [run_login_admitted hc hr]
      refine lockState_run ((uses_loginVerify c email password ipAddress userAgent).mono
        fun s hs => ?_) ?_
      · cases s
        case lockAccount => exact decide_eq_false (hs.1.symm ▸ hid)
        case incrementFailedAttempts | resetFailedAttempts =>
          exact decide_eq_false (Eq.symm hs ▸ hid)
        all_goals first | rfl | cases hs
      · split
        · exact lockState_exec (decide_eq_false hid) hl
        · exact hl

end Login

/-! ## One action -/

theorem byEmail_lockState {email : String} {c : UserCredential}
    (hc : w.byEmail env email = some c) : w.lockState c.id = some c.lockState := by
  rw [World.lockState, World.account_of_byEmail hc]
  rfl

theorem lockState_of_byEmail {email : String} {c : UserCredential}
    (hc : w.byEmail env email = some c) (hl : w.lockState c.id = some l) : c.lockState = l :=
  Option.some.inj ((byEmail_lockState hc).symm.trans hl)

/-- What an action makes of the lock state `l` of account `u`, unless it deletes the account. -/
def LockState.after (env : Env) (u : Nat) (w : World) (l : LockState) : Action → LockState
  | .request (.login email password _ _) =>
    match w.byEmail env email with
    | none => l
    | some c =>
      if c.id = u then l.afterLogin env w.now (env.verifyPassword c.passwordHash password) else l
  | .request (.lockAccount id _ duration _) =>
    if id = u then ⟨.locked, l.failedLoginAttempts, lockUntil env duration w.now⟩ else l
  | .request (.unlockAccount id _) => if id = u then ⟨.active, 0, none⟩ else l
  | .request (.banUser id _ _) => if id = u then { l with status := .banned } else l
  | .request .unlockExpiredLockouts => if l.ranOut w.now then ⟨.active, 0, none⟩ else l
  | _ => l

/-- The action deletes account `u`. -/
def Action.deletes (u : Nat) : Action → Bool
  | .request (.deleteCredentials id) => id = u
  | _ => false

theorem lockState_act (env : Env) (a : Action) (hl : w.lockState u = some l) (hdel : a.deletes u = false) :
    (act env w a).lockState u = some (l.after env u w a) := by
  have hother : ∀ {r : Request}, r.concerns u = false → l.after env u w (.request r) = l →
      (act env w (.request r)).lockState u = some (l.after env u w (.request r)) := by
    intro r hr hafter
    rw [hafter]
    exact lockState_serve_other hr hl
  cases a with
  | pass n => exact hl
  | request r =>
    cases r with
    | login email password ip ua =>
      simp only [LockState.after]
      cases hbe : w.byEmail env email with
      | none => exact lockState_login_other (by rw [hbe]; simp) hl
      | some c =>
        by_cases hid : c.id = u
        · subst hid
          obtain rfl : c.lockState = l := lockState_of_byEmail hbe hl
          simp only [if_true]
          exact lockState_login hbe
        · simp only [if_neg hid]
          refine lockState_login_other ?_ hl
          intro c' hc'
          obtain rfl : c = c' := Option.some.inj (hbe.symm.trans hc')
          exact hid
    | lockAccount id reason duration admin =>
      by_cases hid : id = u
      · subst hid
        simp only [LockState.after, if_true]
        exact lockState_lockAccount hl
      · exact hother (decide_eq_false hid) (if_neg hid)
    | unlockAccount id admin =>
      by_cases hid : id = u
      · subst hid
        simp only [LockState.after, if_true]
        exact lockState_unlockAccount hl
      · exact hother (decide_eq_false hid) (if_neg hid)
    | banUser id reason admin =>
      by_cases hid : id = u
      · subst hid
        simp only [LockState.after, if_true]
        exact lockState_banUser hl
      · exact hother (decide_eq_false hid) (if_neg hid)
    | deleteCredentials id => exact hother hdel rfl
    | unlockExpiredLockouts => exact lockState_job env hl
    | _ => exact hother rfl rfl

end Auth
