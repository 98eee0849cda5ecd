import AuthService.PasswordReset
import AuthService.Authentication

/-!
# AuthService.Enumeration

What an outsider learns about an email from `login` and `forgotPassword`, over any sequence of wrong
passwords, reset requests and waiting.

* `Attempt`, `Attempt.uniform` — one move of the outsider, and the answer to it where the email is
  unknown.
* `LockState.shut`             — the account is banned, or locked with a lock that has not run out:
  the two states that `login` answers with errors of their own.
* `responses_unregistered`     — an unknown email is answered uniformly throughout.
* `no_enumeration_iff`         — a registered one is answered the same exactly if no login of the
  sequence meets its account shut.
-/

namespace Auth

open Relational Resumption Prog

variable {env : Env} {w : World} {email : String} {c : UserCredential}

inductive Attempt where
  | login (password : String) (ipAddress userAgent : Option String)
  | forgotPassword (ipAddress : Option String)
  | wait (milliseconds : Nat)
  deriving DecidableEq

namespace Attempt

def on (email : String) : Attempt → Action
  | .login password ipAddress userAgent => .request (.login email password ipAddress userAgent)
  | .forgotPassword ipAddress => .request (.forgotPassword email ipAddress)
  | .wait n => .pass n

/-- The answer that gives nothing away. -/
def uniform : Attempt → List (Except Exn Response)
  | .login _ _ _ => [.error (.unauthorized ErrorMessages.AUTH_INVALID_CREDENTIALS)]
  | .forgotPassword _ => [.ok .done]
  | .wait _ => []

/-- The attempt does not use the password that `passwordHash` verifies. -/
def misses (env : Env) (passwordHash : String) : Attempt → Prop
  | .login password _ _ => env.verifyPassword passwordHash password = false
  | _ => True

end Attempt

/-- BANNED, or LOCKED with a lock that has not run out. -/
def LockState.shut (l : LockState) (now : Int) : Bool :=
  l.status = .banned || l.status = .locked && !l.lockedUntil.any (· ≤ now)

/-- The action is no login that meets the account of its email shut. -/
def MeetsOpen (env : Env) (w : World) : Action → Prop
  | .request (.login email _ _ _) =>
    ∀ c, w.byEmail env email = some c → c.lockState.shut w.now = false
  | _ => True

/-! ## The accounts that an attempt finds -/

theorem Attempt.footprint_quietOnAccounts {a : Attempt} {r : Request} (hr : a.on email = .request r)
    {s : Stmt} (hs : r.footprint s) : s.changesAccounts = false ∧ s.storesHash = false := by
  cases a with
  | wait n => cases hr
  | login password ip ua =>
    cases hr
    cases s
    case createCredential | deleteCredential | updatePassword =>
      obtain ⟨a, ha⟩ := hs
      cases ha
    all_goals exact ⟨rfl, rfl⟩
  | forgotPassword ip =>
    cases hr
    cases s
    case createCredential | deleteCredential | updatePassword => cases hs
    all_goals exact ⟨rfl, rfl⟩

/-- What every attempt keeps: the email finds the same account, with the same password, or none. -/
theorem act_attempt {I : Option UserCredential → Prop}
    (hI : ∀ s : Stmt, s.storesHash = false → ∀ c?, I c? → I (c?.map s.onCredential)) (a : Attempt)
    (h : I (w.byEmail env email)) : I ((act env w (a.on email)).byEmail env email) := by
  cases hr : a.on email with
  | pass n => exact h
  | request r =>
    refine serve_invariant (I := fun w => I (w.byEmail env email)) (fun s w hs hw => ?_) h
    obtain ⟨haccounts, hhash⟩ := Attempt.footprint_quietOnAccounts hr hs
    rw [World.byEmail_exec haccounts]
    exact hI s hhash _ hw

theorem unregistered_act (a : Attempt) (h : w.byEmail env email = none) :
    (act env w (a.on email)).byEmail env email = none :=
  act_attempt (I := fun c? => c? = none) (fun s _ c? hc => by rw [hc]; rfl) a h

theorem registered_act {passwordHash : String} (a : Attempt)
    (h : ∃ c, w.byEmail env email = some c ∧ c.passwordHash = passwordHash) :
    ∃ c, (act env w (a.on email)).byEmail env email = some c ∧ c.passwordHash = passwordHash := by
  refine act_attempt (I := fun c? => ∃ c, c? = some c ∧ c.passwordHash = passwordHash) ?_ a h
  rintro s hs c? ⟨c, rfl, hc⟩
  exact ⟨s.onCredential c, rfl, (onCredential_passwordHash hs c).trans hc⟩

/-! ## One attempt -/

theorem response_unregistered (a : Attempt) (h : w.byEmail env email = none) :
    (a.on email).response env w = a.uniform := by
  cases a with
  | wait n => rfl
  | forgotPassword ip =>
    have hserve := serve_forgotPassword_unknown ip h
    simp only [Attempt.on, Action.response, Attempt.uniform, hserve]
  | login password ip ua =>
    obtain ⟨logs, hrun⟩ := run_login_unknown password ip ua h
    have hserve : serve env (.login email password ip ua) w =
        (.error (.unauthorized ErrorMessages.AUTH_INVALID_CREDENTIALS), { w with auditLogs := logs }) :=
      run_bind_error _ hrun
    simp only [Attempt.on, Action.response, Attempt.uniform, hserve]

/-- A login with a wrong password fails with the refusal of the status checks, or as any other. -/
theorem serve_login_misses (password : String) (ipAddress userAgent : Option String)
    (hc : w.byEmail env email = some c) (hv : env.verifyPassword c.passwordHash password = false) :
    (serve env (.login email password ipAddress userAgent) w).1 =
      .error ((c.lockState.refusal w.now).getD
        (.unauthorized ErrorMessages.AUTH_INVALID_CREDENTIALS)) := by
  cases hr : c.lockState.refusal w.now with
  | some e =>
    obtain ⟨logs, hrun⟩ := run_login_refused password ipAddress userAgent hc hr
    rw [show serve env (.login email password ipAddress userAgent) w =
      (.error e, { w with auditLogs := logs }) from run_bind_error _ hrun]
    rfl
  | none =>
    have hl : w.lockState c.id = some c.lockState := byEmail_lockState hc
    have hstart : ∃ l, (if c.lockState.expired w.now then
        (World.exec env (.unlockAccount c.id) w).2 else w).lockState c.id = some l := by
      split
      · exact ⟨⟨.active, 0, none⟩, lockState_update (g := fun _ => ⟨.active, 0, none⟩) rfl rfl
          (fun _ => rfl) hl⟩
      · exact ⟨_, hl⟩
    obtain ⟨l, hl⟩ := hstart
    obtain ⟨w', hrun, -⟩ := run_loginVerify_wrong email ipAddress userAgent hv hl
    rw [show serve env (.login email password ipAddress userAgent) w =
      (.error (.unauthorized ErrorMessages.AUTH_INVALID_CREDENTIALS), w') from
        run_bind_error _ ((run_login_admitted hc hr).trans hrun)]
    rfl

/-- The status checks give an account away exactly if it is shut. -/
theorem refusal_uniform_iff (l : LockState) (now : Int) :
    (l.refusal now).getD (.unauthorized ErrorMessages.AUTH_INVALID_CREDENTIALS) =
      .unauthorized ErrorMessages.AUTH_INVALID_CREDENTIALS ↔ l.shut now = false := by
  unfold LockState.refusal LockState.shut
  cases hs : l.status with
  | active | banned | deleted => simp
  | locked =>
    cases hany : l.lockedUntil.any (· ≤ now) with
    | true => simp
    | false => simp

theorem response_registered_iff (hI : Integrity env w) (hc : w.byEmail env email = some c)
    {a : Attempt} (ha : a.misses env c.passwordHash) :
    (a.on email).response env w = a.uniform ↔ MeetsOpen env w (a.on email) := by
  cases a with
  | wait n => exact ⟨fun _ => trivial, fun _ => rfl⟩
  | forgotPassword ip =>
    obtain ⟨w', hserve, -⟩ := serve_forgotPassword ip hI hc
    refine ⟨fun _ => trivial, fun _ => ?_⟩
    simp only [Attempt.on, Action.response, Attempt.uniform, hserve]
  | login password ip ua =>
    have hopen : MeetsOpen env w ((Attempt.login password ip ua).on email) ↔
        c.lockState.shut w.now = false := by
      simp only [Attempt.on, MeetsOpen, hc, Option.some.injEq, forall_eq']
    rw [hopen, ← refusal_uniform_iff]
    simp only [Attempt.on, Action.response, Attempt.uniform, serve_login_misses password ip ua hc ha,
      List.cons.injEq, Except.error.injEq, and_true]

/-! ## Sequences -/

theorem responses_unregistered (attempts : List Attempt) (h : w.byEmail env email = none) :
    responses env w (attempts.map (·.on email)) = attempts.flatMap (·.uniform) := by
  induction attempts generalizing w with
  | nil => rfl
  | cons a as ih =>
    rw [List.map_cons, responses, List.flatMap_cons, response_unregistered a h,
      ih (unregistered_act a h)]

theorem responses_registered_iff (attempts : List Attempt) (hI : Integrity env w)
    (hc : w.byEmail env email = some c) (hmiss : ∀ a ∈ attempts, a.misses env c.passwordHash) :
    responses env w (attempts.map (·.on email)) = attempts.flatMap (·.uniform) ↔
      Along env (MeetsOpen env) w (attempts.map (·.on email)) := by
  induction attempts generalizing w c with
  | nil => exact ⟨fun _ => trivial, fun _ => rfl⟩
  | cons a as ih =>
    have ha := hmiss a List.mem_cons_self
    obtain ⟨c₁, hc₁, hhash⟩ := registered_act a ⟨c, hc, rfl⟩
    have hrest := ih ((keeping_integrity env).act (a.on email) hI) hc₁
      fun b hb => hhash ▸ hmiss b (List.mem_cons_of_mem _ hb)
    rw [List.map_cons, responses, List.flatMap_cons, Along, ← response_registered_iff hI hc ha,
      ← hrest]
    -- one attempt has as many answers in either run
    have hlength : ((a.on email).response env w).length = a.uniform.length := by
      cases a <;> rfl
    constructor
    · exact fun h => List.append_inj h hlength
    · rintro ⟨hfirst, hothers⟩
      rw [hfirst, hothers]

/-- The answers to a sequence that never uses the password tell a registered email from an unknown one
exactly if some login of the sequence meets the account banned, or locked before the lock has run
out. -/
theorem no_enumeration_iff (env : Env) {w w' : World} (hw : Reachable env w) {email : String}
    {c : UserCredential} (hc : w.byEmail env email = some c) (hc' : w'.byEmail env email = none)
    (attempts : List Attempt) (hmiss : ∀ a ∈ attempts, a.misses env c.passwordHash) :
    responses env w (attempts.map (·.on email)) = responses env w' (attempts.map (·.on email)) ↔
      Along env (MeetsOpen env) w (attempts.map (·.on email)) := by
  rw [responses_unregistered attempts hc']
  exact responses_registered_iff attempts hw.integrity hc hmiss

/-- The registered user's row. -/
def registeredRow : UserCredential := World.newCredential 1 "a@x" "$argon2p" ["USER"]

theorem no_enumeration_registered :
    responses Env.plain registered
        ([.forgotPassword none, .login "q" none none].map (Attempt.on "a@x")) =
      responses Env.plain (World.initial .empty 0 0)
        ([.forgotPassword none, .login "q" none none].map (Attempt.on "a@x")) := by
  refine (no_enumeration_iff Env.plain registered_reachable (c := registeredRow) rfl rfl _ ?_).mpr ?_
  · intro a ha
    simp only [List.mem_cons, List.not_mem_nil, or_false] at ha
    rcases ha with rfl | rfl
    · trivial
    · rfl
  · refine ⟨trivial, fun c hc => ?_, trivial⟩
    cases hc
    rfl

/-- The sixth wrong password meets the lock that the fifth brought about, and is told so. -/
theorem enumeration_by_lockout :
    registered.byEmail Env.plain "a@x" = some registeredRow ∧
    Env.plain.verifyPassword registeredRow.passwordHash "q" = false ∧
    (World.initial .empty 0 0).byEmail Env.plain "a@x" = none ∧
    responses Env.plain registered
        ((List.replicate 6 (Attempt.login "q" none none)).map (Attempt.on "a@x")) ≠
      responses Env.plain (World.initial .empty 0 0)
        ((List.replicate 6 (Attempt.login "q" none none)).map (Attempt.on "a@x")) :=
  ⟨rfl, rfl, rfl, by decide⟩

end Auth
