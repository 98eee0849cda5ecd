import AuthService.Effects
import AuthService.Resumption.Pool

/-!
# AuthService.Requests

Every route of the controllers but the health checks, and every scheduled job: served one at a time,
each without interruption, with time passing between two of them, or any number of them concurrently.

* `Request`, `handle` — a route or a job, and the program behind it.
* `serve`             — one request against a world: its response and the world after it.
* `Action`, `runs`    — requests and the passing of time, in any order; `Along` — a property of
  every action of a run, where it meets the world.
* `record`            — a history kept beside a run; `responses` — what the callers see of it.
* `Reachable`         — the worlds that a run from an empty database reaches.
* `serving`           — requests served concurrently, statement by statement.
-/

namespace Auth

open Relational Resumption Prog

inductive Request where
  | register (email password : String) (ipAddress userAgent : Option String)
  | login (email password : String) (ipAddress userAgent : Option String)
  | refreshToken (rawRefreshToken : Nat)
  | logout (accessToken : Jwt) (refreshToken : Nat) (ipAddress userAgent : Option String)
  | validateToken (token : Jwt)
  | introspect (token : Jwt)
  | forgotPassword (email : String) (ipAddress : Option String)
  | resetPassword (rawToken : Nat) (newPassword : String) (ipAddress : Option String)
  | lockAccount (userId : Nat) (reason : String) (durationMinutes : Option Nat)
      (adminUserId : Option String)
  | unlockAccount (userId : Nat) (adminUserId : Option String)
  | banUser (userId : Nat) (reason : String) (adminUserId : Option String)
  | deleteCredentials (userId : Nat)
  | assignRole (userId : Nat) (role assignedBy : String)
  | revokeRole (userId : Nat) (role revokedBy : String)
  | getUserRoles (userId : Nat)
  | getAllRoles
  | revokeToken (userId : Option Nat) (reason : Option String)
  | revokeAllTokens (userId : Nat) (reason : Option String)
  | revokeSession (sessionId : Nat)
  | getActiveSessions (userId : Nat)
  | unlockExpiredLockouts
  | cleanupRefreshTokens
  | cleanupPasswordResets
  deriving DecidableEq

inductive Response where
  | auth (response : AuthResponse)
  | validation (result : TokenValidationResult)
  | introspection (result : TokenIntrospectResponse)
  | userRoles (roles : List String)
  | roles (roles : List Role)
  | sessions (sessions : List SessionService.SessionInfo)
  | done
  deriving DecidableEq

section Serve

variable (env : Env)

def handle : Request → AuthProg Response
  | .register email password ipAddress userAgent =>
    (AuthService.register env email password ipAddress userAgent).bind fun a => .ret (.auth a)
  | .login email password ipAddress userAgent =>
    (AuthService.login env email password ipAddress userAgent).bind fun a => .ret (.auth a)
  | .refreshToken rawRefreshToken =>
    (AuthController.refreshToken env rawRefreshToken).bind fun a => .ret (.auth a)
  | .logout accessToken refreshToken ipAddress userAgent =>
    (AuthService.logout accessToken refreshToken ipAddress userAgent).bind fun _ => .ret .done
  | .validateToken token => (AuthService.validateToken env token).bind fun v => .ret (.validation v)
  | .introspect token => (TokenController.introspect env token).bind fun v => .ret (.introspection v)
  | .forgotPassword email ipAddress =>
    (AuthService.forgotPassword env email ipAddress).bind fun _ => .ret .done
  | .resetPassword rawToken newPassword ipAddress =>
    (AuthService.resetPassword rawToken newPassword ipAddress).bind fun _ => .ret .done
  | .lockAccount userId reason durationMinutes adminUserId =>
    (AccountService.lockAccount env userId reason durationMinutes adminUserId).bind fun _ =>
      .ret .done
  | .unlockAccount userId adminUserId =>
    (AccountService.unlockAccount userId adminUserId).bind fun _ => .ret .done
  | .banUser userId reason adminUserId =>
    (AccountService.banUser userId reason adminUserId).bind fun _ => .ret .done
  | .deleteCredentials userId => (AccountService.deleteCredentials userId).bind fun _ => .ret .done
  | .assignRole userId role assignedBy =>
    (RoleService.assignRole userId role assignedBy).bind fun _ => .ret .done
  | .revokeRole userId role revokedBy =>
    (RoleService.revokeRole userId role revokedBy).bind fun _ => .ret .done
  | .getUserRoles userId => (RoleService.getUserRoles userId).bind fun r => .ret (.userRoles r)
  | .getAllRoles => RoleService.getAllRoles.bind fun r => .ret (.roles r)
  | .revokeToken userId reason => (AuthController.revokeToken userId reason).bind fun _ => .ret .done
  | .revokeAllTokens userId reason =>
    (AuthController.revokeAllTokens userId reason).bind fun _ => .ret .done
  | .revokeSession sessionId =>
    (SessionService.revokeSession sessionId "user_revoked").bind fun _ => .ret .done
  | .getActiveSessions userId =>
    (SessionService.getActiveSessions userId).bind fun s => .ret (.sessions s)
  | .unlockExpiredLockouts => UnlockExpiredLockoutsJob.handleUnlock.bind fun _ => .ret .done
  | .cleanupRefreshTokens => ExpiredRefreshTokenCleanupJob.handleCleanup.bind fun _ => .ret .done
  | .cleanupPasswordResets => ExpiredPasswordResetCleanupJob.handleCleanup.bind fun _ => .ret .done

def serve (request : Request) (w : World) : Except Exn Response × World :=
  (handle env request).run (World.machine env) w

inductive Action where
  | request (request : Request)
  | pass (milliseconds : Nat)
  deriving DecidableEq

def act (w : World) : Action → World
  | .request request => (serve env request w).2
  | .pass n => { w with now := w.now + n }

def runs (w : World) (actions : List Action) : World := actions.foldl (act env) w

/-- A world that some run from an empty database reaches. -/
def Reachable (w : World) : Prop :=
  ∃ roles supply now actions, w = runs env (World.initial roles supply now) actions

end Serve

variable {env : Env}

@[simp] theorem runs_nil (w : World) : runs env w [] = w := rfl

@[simp] theorem runs_cons (w : World) (a : Action) (as : List Action) :
    runs env w (a :: as) = runs env (act env w a) as := rfl

theorem runs_append (w : World) (as bs : List Action) :
    runs env w (as ++ bs) = runs env (runs env w as) bs := List.foldl_append

/-- What each action of a run keeps, the run keeps. -/
theorem runs_invariant {I : World → Prop} {P : Action → Prop}
    (hstep : ∀ w a, I w → P a → I (act env w a)) {as : List Action} (hP : ∀ a ∈ as, P a)
    {w : World} (h : I w) : I (runs env w as) := by
  induction as generalizing w with
  | nil => exact h
  | cons a as ih =>
    obtain ⟨ha, hP⟩ := List.forall_mem_cons.mp hP
    exact ih hP (hstep w a h ha)

/-- Bookkeeping beside a run: `f` sees every action, in the world that the action meets. -/
def record {H : Type} (env : Env) (f : World → Action → H → H) : World → H → List Action → H
  | _, h, [] => h
  | w, h, a :: as => record env f (act env w a) (f w a h) as

/-- What each action keeps of the world and its record, the run keeps. -/
theorem record_invariant {H : Type} {f : World → Action → H → H} {I : World → H → Prop}
    (hstep : ∀ w h a, I w h → I (act env w a) (f w a h)) {w : World} {h : H} (hI : I w h)
    (as : List Action) : I (runs env w as) (record env f w h as) := by
  induction as generalizing w h with
  | nil => exact hI
  | cons a as ih => exact ih (hstep w h a hI)

/-- The response to an action; time passing has none. -/
def Action.response (env : Env) (w : World) : Action → List (Except Exn Response)
  | .request r => [(serve env r w).1]
  | .pass _ => []

/-- The responses of a run, in order. -/
def responses (env : Env) : World → List Action → List (Except Exn Response)
  | _, [] => []
  | w, a :: as => a.response env w ++ responses env (act env w a) as

/-- `P` holds of every action of a run, in the world that the action meets. -/
def Along (env : Env) (P : World → Action → Prop) : World → List Action → Prop
  | _, [] => True
  | w, a :: as => P w a ∧ Along env P (act env w a) as

theorem Reachable.after {w : World} (h : Reachable env w) (as : List Action) :
    Reachable env (runs env w as) := by
  obtain ⟨roles, supply, now, actions, rfl⟩ := h
  exact ⟨roles, supply, now, actions ++ as, (runs_append _ _ _).symm⟩

theorem Reachable.invariant {I : World → Prop} (h0 : ∀ roles supply now,
    I (World.initial roles supply now)) (hstep : ∀ w a, I w → I (act env w a)) {w : World}
    (h : Reachable env w) : I w := by
  obtain ⟨roles, supply, now, actions, rfl⟩ := h
  exact runs_invariant (P := fun _ => True) (fun w a hw _ => hstep w a hw) (fun _ _ => trivial)
    (h0 roles supply now)

/-- The requests `req`, one in each thread, served concurrently from `w` on. -/
def serving {ι : Type} (env : Env) (req : ι → Request) (w : World) :
    Pool sig World ι fun _ => Response :=
  .start w fun i => handle env (req i)

/-- One user has registered: account 1, access token 2, raw refresh token 3 in row 4. -/
def registered : World :=
  runs Env.plain (World.initial .empty 0 0) [.request (.register "a@x" "p" none none)]

theorem registered_reachable : Reachable Env.plain registered := ⟨_, _, _, _, rfl⟩

/-- The registered user's session. -/
def registeredSession : RefreshToken :=
  ⟨4, 1, ⟨3⟩, 0, 604800000, false, none, none, some "|", none, none, none, none⟩

/-- A database with the role `ADMIN`. -/
def adminRole : Table Role :=
  ⟨[⟨100, "ADMIN", none, none⟩], List.nodup_singleton _, List.nodup_singleton _⟩

end Auth
