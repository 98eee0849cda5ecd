import AuthService.Accounts
import AuthService.Resumption.Refusal

/-!
# AuthService.Ranges

Whole requests against columns with their ranges: the counter of failed logins is an `INTEGER`, and the
end of a lock is a `Date`.

* `World.inRange`, `World.ranged` — a value beyond its column's range is refused, and nothing changes.
* `serveRanged`, `runsRanged`     — requests and runs against such a database.
* `within_login`                  — a login stays in range, as long as the counter can be incremented
  and a lock placed now ends at a valid `Date`.
* `Action.fitted`, `actRanged_eq` — an action without a refusal is the action as it is in `runs`, and a
  lock of an administrator that is refused does nothing.
-/

namespace Auth

open Relational Resumption Prog

/-- The value that the statement computes fits its column. -/
def World.inRange (w : World) : Stmt → Bool
  | .incrementFailedAttempts id => (w.account id).all (·.failedLoginAttempts < maxInteger)
  | .lockAccount _ lockedUntil => lockedUntil.all (· ≤ maxDate)
  | _ => true

/-- The statements over a world, where PostgreSQL refuses what is out of range. -/
def World.ranged (env : Env) : Machine sig World :=
  (World.machine env).restrict World.inRange .dataException

def serveRanged (env : Env) (request : Request) (w : World) : Except Exn Response × World :=
  (handle env request).run (World.ranged env) w

def actRanged (env : Env) (w : World) : Action → World
  | .request request => (serveRanged env request w).2
  | .pass n => { w with now := w.now + n }

def runsRanged (env : Env) (w : World) (actions : List Action) : World :=
  actions.foldl (actRanged env) w

/-- A lock that an administrator places now, with an end that is no `Date`, is none. -/
def Action.fitted (env : Env) (now : Int) : Action → Action
  | .request (.lockAccount userId reason durationMinutes adminUserId) =>
    if (lockUntil env durationMinutes now).all (· ≤ maxDate) then
      .request (.lockAccount userId reason durationMinutes adminUserId)
    else .pass 0
  | a => a

variable {env : Env} {w : World} {u : Nat}

theorem exec_ranged (s : Stmt) (w : World) :
    (World.ranged env).exec s w =
      if w.inRange s then World.exec env s w else (.error .dataException, w) := rfl

/-! ## Requests that compute nothing -/

/-- The statements with a value that may be out of range. -/
def Stmt.computes : Stmt → Bool
  | .incrementFailedAttempts _ => true
  | .lockAccount _ _ => true
  | _ => false

theorem within_of_uses_plain {α : Type} {p : AuthProg α} (hp : p.Uses fun s : Stmt => s.computes = false)
    (w : World) : p.Within (World.machine env) World.inRange w := by
  refine within_of_uses hp (fun s w hs => ?_) w
  cases s <;> first | rfl | cases hs

theorem not_computes_of_tacit {s : Stmt} (h : s.tacit = true) : s.computes = false := by
  cases s <;> first | rfl | cases h

theorem inRange_increment {id : Nat} :
    w.inRange (.incrementFailedAttempts id) = true ↔
      ∀ c, w.account id = some c → c.failedLoginAttempts < maxInteger := by
  simp [World.inRange, Option.all_eq_true]

def Request.computes : Request → Bool
  | .login _ _ _ _ => true
  | .lockAccount _ _ _ _ => true
  | _ => false

theorem not_computes_of_footprint {r : Request} (hr : r.computes = false) {s : Stmt}
    (hs : r.footprint s) : s.computes = false := by
  cases s
  case incrementFailedAttempts | lockAccount =>
    cases r
    case login | lockAccount => cases hr
    case register => obtain ⟨a, ha⟩ := hs; cases ha
    case refreshToken => rcases hs with hs | ⟨t, hs⟩ <;> cases hs
    all_goals cases hs
  all_goals rfl

/-! ## Logins -/

section Login

variable {email password : String} {ipAddress userAgent : Option String} {c : UserCredential}

theorem within_loginVerify (email password : String) (ipAddress userAgent : Option String)
    (hcount : ∀ c', w.account c.id = some c' → c'.failedLoginAttempts < maxInteger)
    (hdate : env.zone.setMinutesPlus w.now env.lockoutDurationMinutes ≤ maxDate) :
    (AuthService.loginVerify env c email password ipAddress userAgent).Within (World.machine env)
      World.inRange w := by
  unfold AuthService.loginVerify
  refine within_perform_bind rfl fun valid _ => ?_
  cases valid with
  | true =>
    exact within_of_uses_plain (uses_loginSucceeded_of_tacit c email ipAddress userAgent
      (fun _ => not_computes_of_tacit) rfl (fun _ _ => rfl) rfl (fun _ _ => rfl) (fun _ _ => rfl)
      (fun _ _ _ => rfl) fun _ => rfl) _
  | false =>
    simp only [Bool.false_eq_true, if_false]
    unfold AuthService.loginFailed UserCredentialRepository.incrementFailedAttempts
    simp only [bind_eq, Prog.bind_assoc]
    refine within_perform_bind (inRange_increment.mpr hcount) fun attempts? _ => ?_
    cases attempts? with
    | none => trivial
    | some n =>
      simp only [pure_eq, ret_bind]
      refine within_bind (within_of_uses_plain (uses_publish rfl fun _ => rfl) _) fun _ w₁ h₁ => ?_
      refine within_bind ?_ fun _ w₂ _ => within_perform_bind rfl fun _ _ => trivial
      unfold AuthService.lockOnBruteForce
      split
      · refine within_perform_bind rfl fun now hnow => ?_
        have hclock : now = w.now := by
          have hsame := congrArg (fun r : Except Exn Unit × World => r.2.now) h₁
          rw [← Except.ok.inj hnow]
          exact hsame.symm.trans (run_now _ _)
        refine within_perform_bind (decide_eq_true (hclock ▸ hdate)) fun _ _ => ?_
        exact within_of_uses_plain (uses_bind (uses_publish rfl fun _ => rfl) fun _ =>
          uses_revokeAllUserTokens rfl fun _ => rfl) _
      · trivial

/-- A login increments a counter below its maximum, or one that it has reset itself. -/
theorem within_login (email password : String) (ipAddress userAgent : Option String)
    (hcount : ∀ u l, w.lockState u = some l → l.status = .active → l.failedLoginAttempts < maxInteger)
    (hdate : env.zone.setMinutesPlus w.now env.lockoutDurationMinutes ≤ maxDate) :
    (AuthService.login env email password ipAddress userAgent).Within (World.machine env)
      World.inRange w := by
  have hrefused : ∀ (entry : AuditLog) (e : Exn) (w : World),
      ((AuditLogRepository.create entry).bind fun _ => (.throw e : AuthProg AuthResponse)).Within
        (World.machine env) World.inRange w :=
    fun entry e w => within_perform_bind rfl fun _ _ => trivial
  unfold AuthService.login
  refine within_perform_bind rfl fun credential? hfound => ?_
  have hfound : w.byEmail env email = credential? := Except.ok.inj hfound
  cases credential? with
  | none => exact hrefused _ _ _
  | some c =>
    have hc := World.account_of_byEmail hfound
    cases hs : c.status with
    | active =>
      simp only [hs]
      refine within_loginVerify email password ipAddress userAgent (fun c' hc' => ?_) hdate
      obtain rfl : c = c' := Option.some.inj (hc.symm.trans hc')
      exact hcount c.id c.lockState (by rw [World.lockState, hc]; rfl) hs
    | banned => simp only [hs]; exact hrefused _ _ _
    | deleted => simp only [hs]; trivial
    | locked =>
      cases hl : c.lockedUntil with
      | none => simp only [hs, hl]; exact hrefused _ _ _
      | some lockedUntil =>
        simp only [hs, hl]
        refine within_perform_bind rfl fun now _ => ?_
        split
        · refine within_perform_bind rfl fun _ _ => ?_
          refine within_loginVerify email password ipAddress userAgent (fun c' hc' => ?_) hdate
          have hunlocked : (World.exec env (.unlockAccount c.id) w).2.account c.id =
              some (UserCredential.unlock.apply c) := by
            rw [World.account_exec rfl, hc]
            simp [Stmt.onCredential, Stmt.credentialUpdate]
          cases hunlocked.symm.trans hc'
          show 0 < maxInteger
          decide
        · exact hrefused _ _ _

theorem serveRanged_eq {r : Request} (h : (handle env r).Within (World.machine env) World.inRange w) :
    serveRanged env r w = serve env r w := run_restrict h

theorem serveRanged_login (email password : String) (ipAddress userAgent : Option String)
    (hcount : ∀ u l, w.lockState u = some l → l.status = .active → l.failedLoginAttempts < maxInteger)
    (hdate : env.zone.setMinutesPlus w.now env.lockoutDurationMinutes ≤ maxDate) :
    serveRanged env (.login email password ipAddress userAgent) w =
      serve env (.login email password ipAddress userAgent) w :=
  serveRanged_eq (within_bind (within_login email password ipAddress userAgent hcount hdate)
    fun _ _ _ => trivial)

end Login

/-! ## Administrators -/

section LockAccount

variable {reason : String} {d : Option Nat} {adminUserId : Option String}

theorem within_lockExpiry (d : Option Nat) (w : World) :
    (AccountService.lockExpiry env d).Within (World.machine env) World.inRange w := by
  cases d with
  | none => trivial
  | some n =>
    cases n with
    | zero => trivial
    | succ n => exact within_perform_bind rfl fun _ _ => trivial

theorem serveRanged_lockAccount (hfits : (lockUntil env d w.now).all (· ≤ maxDate) = true) :
    serveRanged env (.lockAccount u reason d adminUserId) w =
      serve env (.lockAccount u reason d adminUserId) w := by
  refine serveRanged_eq (within_bind ?_ fun _ _ _ => trivial)
  refine within_perform_bind rfl fun c? _ => ?_
  cases c? with
  | none => trivial
  | some c =>
    refine within_bind (within_lockExpiry d _) fun lockedUntil w₁ hrun => ?_
    have hexpiry := hrun.symm.trans (run_lockExpiry d w)
    cases hexpiry
    refine within_perform_bind hfits fun _ _ => ?_
    exact within_of_uses_plain (uses_bind (uses_revokeAllUserTokens rfl fun _ => rfl) fun _ =>
      uses_bind (uses_publish rfl fun _ => rfl) fun _ => (uses_perform _).mpr rfl) _

/-- The `UPDATE` is refused before anything has changed. -/
theorem serveRanged_lockAccount_refused (hdate : (lockUntil env d w.now).all (· ≤ maxDate) = false) :
    (serveRanged env (.lockAccount u reason d adminUserId) w).2 = w := by
  unfold serveRanged handle AccountService.lockAccount
  simp only [bind_eq]
  rw [run_bind_ret]
  have hfound : ∀ f : Option UserCredential → AuthProg Unit,
      ((UserCredentialRepository.findById u).bind f).run (World.ranged env) w =
        (f (w.account u)).run (World.ranged env) w := fun f =>
    run_perform_bind (S := sig) (World.ranged env) (s := .findCredentialById u) (a := w.account u) rfl
  rw [hfound]
  cases w.account u with
  | none => rfl
  | some c =>
    have hexpiry : (AccountService.lockExpiry env d).run (World.ranged env) w =
        (.ok (lockUntil env d w.now), w) :=
      (run_restrict (within_lockExpiry d w)).trans (run_lockExpiry d w)
    simp only
    rw [run_bind_ok _ hexpiry]
    exact congrArg Prod.snd (run_restrict_refused hdate)

end LockAccount

/-! ## Actions -/

/-- An action does what it does without ranges, but for a lock that is refused. -/
theorem actRanged_eq (a : Action)
    (hcount : ∀ u l, w.lockState u = some l → l.status = .active → l.failedLoginAttempts < maxInteger)
    (hdate : env.zone.setMinutesPlus w.now env.lockoutDurationMinutes ≤ maxDate) :
    actRanged env w a = act env w (a.fitted env w.now) := by
  cases a with
  | pass n => rfl
  | request r =>
    by_cases hr : r.computes = true
    · cases r
      case login email password ip ua => exact congrArg Prod.snd (serveRanged_login email password ip ua hcount hdate)
      case lockAccount id reason d admin =>
        cases hfits : (lockUntil env d w.now).all (· ≤ maxDate) with
        | true =>
          simp only [Action.fitted, hfits, if_true]
          exact congrArg Prod.snd (serveRanged_lockAccount hfits)
        | false =>
          simp only [Action.fitted, hfits, Bool.false_eq_true, if_false]
          refine (serveRanged_lockAccount_refused hfits).trans ?_
          simp [act]
      all_goals cases hr
    · have hsame : serveRanged env r w = serve env r w :=
        serveRanged_eq (within_of_uses_plain
          ((uses_handle r).mono fun _ hs => not_computes_of_footprint (by simpa using hr) hs) w)
      have hfitted : (Action.request r).fitted env w.now = .request r := by
        cases r <;> first | rfl | exact absurd rfl hr
      rw [hfitted]
      exact congrArg Prod.snd hsame

theorem actRanged_now (a : Action) : w.now ≤ (actRanged env w a).now := by
  cases a with
  | pass n =>
    show w.now ≤ w.now + n
    omega
  | request r =>
    have hsame : (serveRanged env r w).2.now = w.now := by
      refine run_invariant (I := fun v : World => v.now = w.now) (uses_handle r)
        (fun s v _ hv => ?_) rfl
      rw [exec_ranged]
      split
      · exact (World.exec_now env s v).trans hv
      · exact hv
    exact Int.le_of_eq hsame.symm

theorem runsRanged_now (as : List Action) : w.now ≤ (runsRanged env w as).now := by
  induction as generalizing w with
  | nil => exact Int.le_refl _
  | cons a as ih => exact Int.le_trans (actRanged_now a) ih

end Auth
