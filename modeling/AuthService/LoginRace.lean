import AuthService.Login

/-!
# AuthService.LoginRace

A login beside an operation that is meant to end all sessions of the account: a ban, a lock or a
password reset. All three write the account row first and revoke the refresh tokens afterwards.

* `Lockdown`, `LockdownPhase` — the three operations, and where one stands: `wrote` after the write
  of the account row, `swept` after the bulk revocation.
* `RaceInv`                   — after the sweep the login has nothing left to insert, and the row it
  has inserted is revoked.
* `login_not_outliving_lockdown` — the login read first, the sweep runs while it is not in flight:
  no session issued by it is active. `login_outlives_ban` is the run the code admits instead.
-/

namespace Auth

open Relational Resumption Prog

inductive Lockdown where
  | ban (reason : String) (adminUserId : Option String)
  | lock (reason : String) (durationMinutes : Option Nat) (adminUserId : Option String)
  | reset (rawToken : Nat) (newPassword : String) (ipAddress : Option String)

namespace Lockdown

def prog (env : Env) (u : Nat) : Lockdown → AuthProg Unit
  | .ban reason adminUserId => AccountService.banUser u reason adminUserId
  | .lock reason durationMinutes adminUserId =>
    AccountService.lockAccount env u reason durationMinutes adminUserId
  | .reset rawToken newPassword ipAddress =>
    AuthService.resetPassword rawToken newPassword ipAddress

/-- The reset token an operation presents. -/
def presents : Lockdown → TokenHash → Prop
  | .reset rawToken _ _, h => h = hashToken rawToken
  | _, _ => False

end Lockdown

/-- How far a `Lockdown` of account `v` has come. -/
inductive LockdownPhase where
  | aimless
  | aimed (v : Nat)
  | wrote (v : Nat)
  | swept (v : Nat)
  deriving DecidableEq

namespace LockdownPhase

/-- The write of the account row that starts the lockdown. -/
def isWrite : Stmt → Bool
  | .updateStatus _ _ => true
  | .lockAccount _ _ => true
  | .updatePassword _ _ _ => true
  | _ => false

def next : LockdownPhase → (s : Stmt) → Except Exn s.Reply → LockdownPhase
  | .aimless, .findResetTokenByHash _, .ok (some t) => .aimed t.userId
  | .wrote v, .revokeAllByUserId _ _ _, _ => .swept v
  | .aimed v, s, _ => if isWrite s then .wrote v else .aimed v
  | φ, _, _ => φ

def allowed (d : Lockdown) : LockdownPhase → Stmt → Prop
  | .aimless, .findResetTokenByHash h => d.presents h
  | .aimed v, .findCredentialById id => id = v
  | .aimed _, .newDate => True
  | .aimed _, .hashPassword _ => True
  | .aimed v, .updateStatus id status => id = v ∧ status = .banned
  | .aimed v, .lockAccount id _ => id = v
  | .aimed v, .updatePassword id _ _ => id = v
  | .wrote _, .newDate => True
  | .wrote _, .markAsUsed _ _ => True
  | .wrote v, .deleteResetTokensByUserId id => id = v
  | .wrote v, .revokeAllByUserId id _ _ => id = v
  | .swept _, .newDate => True
  | .swept _, .publish _ => True
  | .swept _, .createAuditLog _ => True
  | _, _ => False

/-- A lockdown that returns has revoked the refresh tokens. -/
def final : LockdownPhase → Except Exn Unit → Prop
  | .swept _, _ => True
  | _, .ok _ => False
  | _, .error _ => True

def monitor (d : Lockdown) : Monitor sig LockdownPhase := ⟨next, allowed d⟩

def phase₀ (u : Nat) : Lockdown → LockdownPhase
  | .reset _ _ _ => .aimless
  | _ => .aimed u

variable {env : Env} {d : Lockdown} {u : Nat}

theorem final_error (φ : LockdownPhase) (e : Exn) : final φ (.error e) := by
  cases φ <;> trivial

/-- The bulk revocation, an event and an audit row end each lockdown. -/
theorem conforms_sweep {reason : String} {event : Int → DomainEvent} {entry : AuditLog} :
    (monitor d).Conforms final (.wrote u)
      ((TokenService.revokeAllUserTokens u reason).bind fun _ =>
        (newDate.bind fun timestamp => EventService.safePublish (event timestamp)).bind fun _ =>
          AuditLogRepository.create entry) := by
  unfold TokenService.revokeAllUserTokens RefreshTokenRepository.revokeAllByUserId
  simp only [bind_eq, bind_assoc]
  refine Monitor.conforms_perform_bind trivial (fun revokedAt => ?_) fun e => final_error _ _
  refine Monitor.conforms_perform_bind rfl (fun _ => ?_) fun e => final_error _ _
  show (monitor d).Conforms final (.swept u) _
  simp only [pure_eq, ret_bind]
  refine Monitor.conforms_perform_bind trivial (fun timestamp => ?_) fun e => final_error _ _
  refine Monitor.conforms_bind (Monitor.conforms_tryCatch (Monitor.conforms_perform trivial
    fun r => ?_))
  have hlast : (monitor d).Conforms final (.swept u) (AuditLogRepository.create entry) :=
    Monitor.conforms_perform trivial fun _ => trivial
  cases r with
  | ok a => exact hlast
  | error e => exact hlast

theorem conforms_banUser (reason : String) (adminUserId : Option String) :
    (monitor d).Conforms final (.aimed u) (AccountService.banUser u reason adminUserId) := by
  unfold AccountService.banUser
  refine Monitor.conforms_perform_bind rfl (fun user? => ?_) fun e => final_error _ _
  cases user? with
  | none => exact final_error _ _
  | some user =>
    refine Monitor.conforms_perform_bind ⟨rfl, rfl⟩ (fun _ => ?_) fun e => final_error _ _
    exact conforms_sweep

theorem conforms_lockAccount (reason : String) (durationMinutes : Option Nat)
    (adminUserId : Option String) :
    (monitor d).Conforms final (.aimed u)
      (AccountService.lockAccount env u reason durationMinutes adminUserId) := by
  unfold AccountService.lockAccount
  refine Monitor.conforms_perform_bind rfl (fun user? => ?_) fun e => final_error _ _
  cases user? with
  | none => exact final_error _ _
  | some user =>
    have hrest : ∀ lockedUntil, (monitor d).Conforms final (.aimed u)
        ((UserCredentialRepository.lockAccount u lockedUntil).bind fun _ =>
          (TokenService.revokeAllUserTokens u ("account_locked:" ++ reason)).bind fun _ =>
            (EventService.publishAccountLocked u reason lockedUntil).bind fun _ =>
              AuditLogRepository.create
                { eventType := "ACCOUNT_LOCKED", userId := some u, email := none,
                  ipAddress := none, userAgent := none, outcome := .success,
                  metadata := some [("reason", .text reason),
                    ("lockedUntil", lockedUntil.elim (.text "indefinite") .instant),
                    ("adminUserId", adminUserId.elim .null .text)] }) := by
      intro lockedUntil
      refine Monitor.conforms_perform_bind rfl (fun _ => ?_) fun e => final_error _ _
      exact conforms_sweep
    show (monitor d).Conforms final (.aimed u) (Prog.bind (AccountService.lockExpiry env _) _)
    unfold AccountService.lockExpiry
    split
    · exact hrest none
    · exact hrest none
    · simp only [bind_eq, bind_assoc, pure_eq, ret_bind]
      exact Monitor.conforms_perform_bind trivial (fun now => hrest _) fun e => final_error _ _

theorem conforms_resetPassword (rawToken : Nat) (newPassword : String)
    (ipAddress : Option String) :
    (monitor (.reset rawToken newPassword ipAddress)).Conforms final .aimless
      (AuthService.resetPassword rawToken newPassword ipAddress) := by
  unfold AuthService.resetPassword
  refine Monitor.conforms_perform_bind rfl (fun resetToken? => ?_) fun e => final_error _ _
  cases resetToken? with
  | none => exact final_error _ _
  | some t =>
    show (monitor (.reset rawToken newPassword ipAddress)).Conforms final (.aimed t.userId) _
    simp only
    split
    · exact final_error _ _
    · refine Monitor.conforms_perform_bind trivial (fun now => ?_) fun e => final_error _ _
      show (monitor (.reset rawToken newPassword ipAddress)).Conforms final (.aimed t.userId) _
      split
      · exact final_error _ _
      · unfold AuthService.redeem CredentialService.updatePassword
          UserCredentialRepository.updatePassword PasswordResetTokenRepository.markAsUsed
        simp only [bind_eq, bind_assoc]
        refine Monitor.conforms_perform_bind trivial (fun hash => ?_) fun e => final_error _ _
        refine Monitor.conforms_perform_bind trivial (fun at' => ?_) fun e => final_error _ _
        refine Monitor.conforms_perform_bind rfl (fun _ => ?_) fun e => final_error _ _
        refine Monitor.conforms_perform_bind trivial (fun at' => ?_) fun e => final_error _ _
        refine Monitor.conforms_perform_bind trivial (fun _ => ?_) fun e => final_error _ _
        refine Monitor.conforms_perform_bind rfl (fun _ => ?_) fun e => final_error _ _
        exact conforms_sweep

theorem conforms_lockdown :
    (monitor d).Conforms final (phase₀ u d) (d.prog env u) := by
  cases d with
  | ban reason adminUserId => exact conforms_banUser reason adminUserId
  | lock reason durationMinutes adminUserId =>
    exact conforms_lockAccount reason durationMinutes adminUserId
  | reset rawToken newPassword ipAddress =>
    exact conforms_resetPassword rawToken newPassword ipAddress

/-! ## What a lockdown's statements leave alone -/

theorem not_deletes_of_allowed {ψ : LockdownPhase} {s : Stmt} (ha : allowed d ψ s) :
    s.deletesRefreshTokens = false := by
  cases s
  case deleteExpiredAndRevoked | deleteCredential => cases ψ <;> exact ha.elim
  all_goals rfl

theorem not_createResetToken_of_allowed {ψ : LockdownPhase} {s : Stmt} (ha : allowed d ψ s)
    (userId : Nat) (tokenHash : TokenHash) (expiresAt : Int) :
    s ≠ .createPasswordResetToken userId tokenHash expiresAt := by
  rintro rfl
  cases ψ <;> exact ha.elim

/-- The account an operation has found out to be its target. -/
def target : LockdownPhase → Option Nat
  | .aimless => none
  | .aimed v => some v
  | .wrote v => some v
  | .swept v => some v

def hasWritten : LockdownPhase → Bool
  | .wrote _ => true
  | .swept _ => true
  | _ => false

def hasSwept : LockdownPhase → Bool
  | .swept _ => true
  | _ => false

theorem target_next {ψ : LockdownPhase} {s : Stmt} {w : World} {reply : Except Exn s.Reply}
    {v : Nat} (ha : allowed d ψ s) (hr : (World.exec env s w).1 = reply)
    (h : (next ψ s reply).target = some v) :
    ψ.target = some v ∨
      ∃ t ∈ w.passwordResetTokens.rows, d.presents t.tokenHash ∧ t.userId = v := by
  revert h
  fun_cases next ψ s reply
  all_goals intro h
  case case1 hash t =>
    cases h
    obtain ⟨hmem, hhash⟩ :=
      Table.find?_mem (Except.ok.inj hr : w.passwordResetTokens.find? _ = some t)
    simp only [decide_eq_true_eq] at hhash
    exact .inr ⟨t, hmem, hhash ▸ ha, rfl⟩
  all_goals exact .inl h

theorem hasWritten_next {ψ : LockdownPhase} {s : Stmt} {reply : Except Exn s.Reply}
    (h : (next ψ s reply).hasWritten = true) : ψ.hasWritten = true ∨ isWrite s = true := by
  revert h
  fun_cases next ψ s reply
  all_goals intro h
  case case3 v hw => exact .inr hw
  all_goals exact .inl h

theorem hasSwept_next {ψ : LockdownPhase} {s : Stmt} {reply : Except Exn s.Reply}
    (ha : allowed d ψ s) (h : (next ψ s reply).hasSwept = true) :
    ψ.hasSwept = true ∨
      ∃ v reason revokedAt, ψ = .wrote v ∧ s = .revokeAllByUserId v reason revokedAt := by
  revert h
  fun_cases next ψ s reply
  all_goals intro h
  case case2 =>
    rename_i v userId reason revokedAt reply
    have hid : userId = v := ha
    exact .inr ⟨v, reason, revokedAt, rfl, by rw [hid]⟩
  all_goals exact .inl h

end LockdownPhase

/-! ## The race -/

/-- A login between a row read in time and the insert of its refresh token: it has the right
password and no check left to fail. -/
def LoginPhase.inFlight (env : Env) (password : String) (u : Nat) : LoginPhase → Bool
  | .timed c => c.id = u && env.verifyPassword c.passwordHash password
  | .unlocking c => c.id = u && env.verifyPassword c.passwordHash password
  | .checking c => c.id = u && env.verifyPassword c.passwordHash password
  | .verified c => c.id = u
  | _ => false

theorem LoginPhase.inFlight_next {env : Env} {email password : String} {u : Nat} {w : World}
    {φ : LoginPhase} {s : Stmt} {reply : Except Exn s.Reply}
    (ha : allowed env email password φ s) (hr : (World.exec env s w).1 = reply)
    (hstart : φ ≠ .start) (h : φ.inFlight env password u = false) :
    (next φ s reply).inFlight env password u = false := by
  fun_cases next φ s reply
  case case6 =>
    rename_i c storedHash given
    obtain ⟨rfl, rfl⟩ := ha
    have hvalid : env.verifyPassword c.passwordHash given = true := Except.ok.inj hr
    simpa [inFlight, hvalid] using h
  all_goals first | exact h | rfl | exact absurd rfl hstart

theorem LoginPhase.next_ne_start {φ : LoginPhase} {s : Stmt} {reply : Except Exn s.Reply}
    (h : φ ≠ .start) : next φ s reply ≠ .start := by
  fun_cases next φ s reply
  case case2 => exact absurd rfl h
  all_goals first | exact h | simp

inductive Racer where
  | login
  | lockdown
  deriving DecidableEq

abbrev RaceRet : Racer → Type
  | .login => AuthResponse
  | .lockdown => Unit

abbrev RacePool : Type := Pool sig World Racer RaceRet

def race (env : Env) (w : World) (email password : String) (ipAddress userAgent : Option String)
    (u : Nat) (d : Lockdown) : RacePool :=
  Pool.start w fun
    | .login => AuthService.login env email password ipAddress userAgent
    | .lockdown => d.prog env u

namespace RacePool

abbrev Phase : Racer → Type
  | .login => LoginPhase
  | .lockdown => LockdownPhase

section Phases

variable (env : Env) (email password : String) (u : Nat) (d : Lockdown)

def monitors : (i : Racer) → Monitor sig (Phase i)
  | .login => LoginPhase.monitor env email password
  | .lockdown => LockdownPhase.monitor d

def phase₀ : (i : Racer) → Phase i
  | .login => .start
  | .lockdown => LockdownPhase.phase₀ u d

def final : (i : Racer) → Phase i → Except Exn (RaceRet i) → Prop
  | .login => LoginPhase.final
  | .lockdown => LockdownPhase.final

def login (q : RacePool) : LoginPhase :=
  q.phase (monitors env email password d) (phase₀ u d) .login

def lockdown (q : RacePool) : LockdownPhase :=
  q.phase (monitors env email password d) (phase₀ u d) .lockdown

/-- The lockdown writes the account row only after the login has read it. -/
def ReadsFirst (q : RacePool) : Label Racer → Prop
  | .run .lockdown => (q.next? .lockdown).any LockdownPhase.isWrite = true →
      login env email password u d q ≠ .start
  | _ => True

def isSweep : Stmt → Bool
  | .revokeAllByUserId _ _ _ => true
  | _ => false

/-- The lockdown does not execute its bulk `UPDATE` while the login is in flight. -/
def SweepsLate (q : RacePool) : Label Racer → Prop
  | .run .lockdown => (q.next? .lockdown).any isSweep = true →
      (login env email password u d q).inFlight env password u = false
  | _ => True

instance (q : RacePool) : (l : Label Racer) → Decidable (ReadsFirst env email password u d q l)
  | .run .lockdown => inferInstanceAs (Decidable (_ → _))
  | .run .login => .isTrue trivial
  | .tick _ => .isTrue trivial

instance (q : RacePool) : (l : Label Racer) → Decidable (SweepsLate env email password u d q l)
  | .run .lockdown => inferInstanceAs (Decidable (_ → _))
  | .run .login => .isTrue trivial
  | .tick _ => .isTrue trivial

structure RaceInv (q : RacePool) : Prop where
  aim : ∀ v, (lockdown env email password u d q).target = some v → v = u
  resets : ∀ t ∈ q.world.passwordResetTokens.rows, d.presents t.tokenHash → t.userId = u
  late : (lockdown env email password u d q).hasWritten = true →
    login env email password u d q ≠ .start
  landed : (lockdown env email password u d q).hasSwept = true →
    (login env email password u d q).inFlight env password u = false
  stored : ∀ c row, login env email password u d q = .issued c row →
    ∃ t ∈ q.world.refreshTokens.rows, t.id = row.id ∧ t.userId = c.id ∧
      ((lockdown env email password u d q).hasSwept = true → c.id = u → t.revoked = true)

end Phases

variable {env : Env} {email password : String} {u : Nat} {d : Lockdown} {q : RacePool} {s : Stmt}

theorem hasWritten_of_hasSwept {ψ : LockdownPhase} (h : ψ.hasSwept = true) :
    ψ.hasWritten = true := by
  cases ψ <;> first | rfl | cases h

theorem resets_exec {w : World}
    (hs : ∀ userId tokenHash expiresAt, s ≠ .createPasswordResetToken userId tokenHash expiresAt)
    (h : ∀ t ∈ w.passwordResetTokens.rows, d.presents t.tokenHash → t.userId = u) :
    ∀ t ∈ (World.exec env s w).2.passwordResetTokens.rows, d.presents t.tokenHash →
      t.userId = u := by
  intro t ht hp
  rcases World.exec_resetTokens ht with ⟨t₀, hmem, ⟨-, huser, hhash, -⟩, -⟩ | ⟨a, b, c, hs', -⟩
  · rw [huser]
    exact h t₀ hmem (hhash ▸ hp)
  · exact absurd hs' (hs a b c)

/-- A step of the login: after the sweep it has nothing in flight and stores nothing new. -/
theorem raceInv_login (hI : RaceInv env email password u d q)
    {k : Except Exn s.Reply → AuthProg AuthResponse} (hp : q.prog .login = .call s k)
    (ha : LoginPhase.allowed env email password (login env email password u d q) s) :
    RaceInv env email password u d (q.step (World.machine env) (.run .login)) := by
  have hself : login env email password u d (q.step (World.machine env) (.run .login)) =
      (login env email password u d q).next s (World.exec env s q.world).1 :=
    phase_step_self (m := monitors env email password d) hp
  have hother : lockdown env email password u d (q.step (World.machine env) (.run .login)) =
      lockdown env email password u d q := phase_step_other (by simp)
  have hworld := Pool.world_step (M := World.machine env) hp
  refine ⟨fun v hv => ?_, fun t ht hpres => ?_, fun hw => ?_, fun hs => ?_,
    fun c row hc => ?_⟩
  · rw [hother] at hv
    exact hI.aim v hv
  · rw [hworld] at ht
    exact resets_exec (LoginPhase.not_createResetToken_of_allowed ha) hI.resets t ht hpres
  · rw [hother] at hw
    rw [hself]
    exact LoginPhase.next_ne_start (hI.late hw)
  · rw [hother] at hs
    rw [hself]
    exact LoginPhase.inFlight_next ha rfl (hI.late (hasWritten_of_hasSwept hs)) (hI.landed hs)
  · rw [hself] at hc
    rw [hother, hworld]
    rcases LoginPhase.issued_next ha rfl hc with h | ⟨hver, hmem, huser⟩
    · obtain ⟨t, ht, hid, hu, hrev⟩ := hI.stored c row h
      obtain ⟨t', ht', hev⟩ := World.exec_evolves env
        (LoginPhase.not_deletes_of_allowed ha).1 ht
      exact ⟨t', ht', hev.id_eq.trans hid, hev.userId_eq.trans hu,
        fun hs hcu => hev.revoked (hrev hs hcu)⟩
    · refine ⟨row, hmem, rfl, huser, fun hs hcu => ?_⟩
      have hland := hI.landed hs
      simp [hver, LoginPhase.inFlight, hcu] at hland

/-- A step of the lockdown: the sweep meets a login that is not in flight. -/
theorem raceInv_lockdown (hI : RaceInv env email password u d q)
    (hread : ReadsFirst env email password u d q (.run .lockdown))
    (hlate : SweepsLate env email password u d q (.run .lockdown))
    {k : Except Exn s.Reply → AuthProg Unit} (hp : q.prog .lockdown = .call s k)
    (ha : LockdownPhase.allowed d (lockdown env email password u d q) s) :
    RaceInv env email password u d (q.step (World.machine env) (.run .lockdown)) := by
  have hself : lockdown env email password u d (q.step (World.machine env) (.run .lockdown)) =
      (lockdown env email password u d q).next s (World.exec env s q.world).1 :=
    phase_step_self (m := monitors env email password d) hp
  have hother : login env email password u d (q.step (World.machine env) (.run .lockdown)) =
      login env email password u d q := phase_step_other (by simp)
  have hworld := Pool.world_step (M := World.machine env) hp
  have hnext := Pool.next?_of_call hp
  refine ⟨fun v hv => ?_, fun t ht hpres => ?_, fun hw => ?_, fun hs => ?_,
    fun c row hc => ?_⟩
  · rw [hself] at hv
    rcases LockdownPhase.target_next ha rfl hv with h | ⟨t, hmem, hpres, rfl⟩
    · exact hI.aim v h
    · exact hI.resets t hmem hpres
  · rw [hworld] at ht
    exact resets_exec (LockdownPhase.not_createResetToken_of_allowed ha) hI.resets t ht hpres
  · rw [hself] at hw
    rw [hother]
    rcases LockdownPhase.hasWritten_next hw with h | h
    · exact hI.late h
    · exact hread (by rw [hnext]; exact h)
  · rw [hself] at hs
    rw [hother]
    rcases LockdownPhase.hasSwept_next ha hs with h | ⟨v, reason, revokedAt, -, rfl⟩
    · exact hI.landed h
    · exact hlate (by rw [hnext]; rfl)
  · rw [hother] at hc
    rw [hself, hworld]
    obtain ⟨t, ht, hid, hu, hrev⟩ := hI.stored c row hc
    obtain ⟨t', ht', hev⟩ := World.exec_evolves env
      (LockdownPhase.not_deletes_of_allowed ha) ht
    refine ⟨t', ht', hev.id_eq.trans hid, hev.userId_eq.trans hu, fun hs hcu => ?_⟩
    rcases LockdownPhase.hasSwept_next ha hs with h | ⟨v, reason, revokedAt, hψ, rfl⟩
    · exact hev.revoked (hrev h hcu)
    · have hv : v = u := hI.aim v (by rw [hψ]; rfl)
      exact World.exec_revokeAllByUserId ht' (by rw [hev.userId_eq, hu, hcu, hv])

theorem raceInv_tick (hI : RaceInv env email password u d q) (n : Nat) :
    RaceInv env email password u d (q.step (World.machine env) (.tick n)) :=
  ⟨hI.aim, hI.resets, hI.late, hI.landed, hI.stored⟩

variable {w : World} {ipAddress userAgent : Option String}

theorem raceInv_start
    (hreset : ∀ t ∈ w.passwordResetTokens.rows, d.presents t.tokenHash → t.userId = u) :
    RaceInv env email password u d (race env w email password ipAddress userAgent u d) := by
  have hphase : lockdown env email password u d
      (race env w email password ipAddress userAgent u d) = LockdownPhase.phase₀ u d := rfl
  refine ⟨fun v hv => ?_, hreset, fun hw => ?_, fun hs => ?_, fun c row hc => by cases hc⟩
  · rw [hphase] at hv
    cases d <;> first | exact (Option.some.inj hv).symm | cases hv
  · rw [hphase] at hw
    cases d <;> cases hw
  · rw [hphase] at hs
    cases d <;> cases hs

theorem conforms_race (i : Racer) :
    (monitors env email password d i).Conforms (final i)
      ((race env w email password ipAddress userAgent u d).phase (monitors env email password d)
        (phase₀ u d) i)
      ((race env w email password ipAddress userAgent u d).prog i) := by
  cases i with
  | login => exact LoginPhase.conforms_login ipAddress userAgent
  | lockdown => exact LockdownPhase.conforms_lockdown

/-- The refresh token the login has inserted. -/
def issuedRow (env : Env) (email password : String) (u : Nat) (d : Lockdown) (q : RacePool) :
    Option RefreshToken :=
  match login env email password u d q with
  | .issued _ row => some row
  | _ => none

end RacePool

open RacePool in
/-- When the sweep does not run while the login is in flight, no session of the account outlives
the lockdown through that login. -/
theorem login_not_outliving_lockdown {env : Env} {w : World} {email password : String}
    {ipAddress userAgent : Option String} {u : Nat} {d : Lockdown} {q : RacePool}
    (hreset : ∀ t ∈ w.passwordResetTokens.rows, d.presents t.tokenHash → t.userId = u)
    (hr : Reach (World.machine env)
      (fun q l => ReadsFirst env email password u d q l ∧ SweepsLate env email password u d q l)
      (race env w email password ipAddress userAgent u d) q)
    (hdone : q.result? .lockdown = some (.ok ())) {row t : RefreshToken}
    (hrow : issuedRow env email password u d q = some row)
    (ht : t ∈ q.world.refreshTokens.rows) (hid : t.id = row.id) (hu : t.userId = u) :
    t.active q.world.now = false := by
  have hI : RaceInv env email password u d q := by
    refine hr.invariant_of_conforms conforms_race (raceInv_start hreset)
      (fun q n hI _ => raceInv_tick hI n) fun q i s k hI hC hp ha => ?_
    cases i with
    | login => exact raceInv_login hI hp ha
    | lockdown => exact raceInv_lockdown hI hC.1 hC.2 hp ha
  have hswept : (lockdown env email password u d q).hasSwept = true := by
    have hfin : LockdownPhase.final (lockdown env email password u d q) (.ok ()) :=
      final_of_result (m := monitors env email password d) (F := final) hr
        (conforms_race .lockdown) hdone
    revert hfin
    cases lockdown env email password u d q with
    | swept v => exact fun _ => rfl
    | _ => exact fun h => h.elim
  unfold issuedRow at hrow
  split at hrow
  · rename_i c row' hphase
    cases hrow
    obtain ⟨t', ht', hid', hu', hrev⟩ := hI.stored c row hphase
    have hsame : t = t' := Table.eq_of_key ht ht' (hid.trans hid'.symm)
    have hcu : c.id = u := by rw [← hu', ← hsame, hu]
    exact RefreshToken.not_active_of_revoked (hsame ▸ hrev hswept hcu)
  · cases hrow

/-! ### The sweep before the insert -/

/-- The registered user logs in while an administrator bans the account. -/
def loginAndBan : RacePool :=
  race Env.plain registered "a@x" "p" none none 1 (.ban "fraud" none)

def banInsideLogin : List (Label Racer) :=
  [.run .login] ++ List.replicate 7 (.run .lockdown) ++ List.replicate 15 (.run .login)

def sessionAfterBan : RefreshToken :=
  { id := 7, userId := 1, tokenHash := ⟨6⟩, issuedAt := 0, expiresAt := 604800000, revoked := false,
    revokedAt := none, revocationReason := none, deviceFingerprint := some "|",
    ipAddress := none, userAgent := none, lastUsedAt := none, replacedByTokenId := none }

theorem login_outlives_ban :
    ¬ ∀ (w : World), Reachable Env.plain w → ∀ (email password : String) (u : Nat) (d : Lockdown)
        (q : RacePool),
      (∀ t ∈ w.passwordResetTokens.rows, d.presents t.tokenHash → t.userId = u) →
      Reach (World.machine Env.plain) (RacePool.ReadsFirst Env.plain email password u d)
        (race Env.plain w email password none none u d) q →
      q.result? .lockdown = some (.ok ()) → (q.result? .login).isSome = true →
      ∀ row t, RacePool.issuedRow Env.plain email password u d q = some row →
        t ∈ q.world.refreshTokens.rows → t.id = row.id → t.userId = u →
        t.active q.world.now = false := by
  intro h
  have hr : Reach (World.machine Env.plain)
      (RacePool.ReadsFirst Env.plain "a@x" "p" 1 (.ban "fraud" none)) loginAndBan
      (loginAndBan.runs (World.machine Env.plain) banInsideLogin) :=
    Reach.of_checked (by decide +kernel)
  have hinactive := h registered registered_reachable "a@x" "p" 1 (.ban "fraud" none) _
    (fun _ _ hp => hp.elim) hr (by rfl) (by rfl) sessionAfterBan sessionAfterBan (by rfl)
    (by decide +kernel) rfl rfl
  cases hinactive

def banAfterLogin : RacePool :=
  loginAndBan.runs (World.machine Env.plain)
    (List.replicate 16 (.run .login) ++ List.replicate 7 (.run .lockdown))

theorem login_not_outliving_later_ban :
    banAfterLogin.result? .lockdown = some (.ok ()) ∧
      ({ sessionAfterBan with
          revoked := true, revokedAt := some 0,
          revocationReason := some "account_banned:fraud" } : RefreshToken).active
        banAfterLogin.world.now = false := by
  have hr : Reach (World.machine Env.plain)
      (fun q l => RacePool.ReadsFirst Env.plain "a@x" "p" 1 (.ban "fraud" none) q l ∧
        RacePool.SweepsLate Env.plain "a@x" "p" 1 (.ban "fraud" none) q l) loginAndBan
      banAfterLogin := Reach.of_checked (by decide +kernel)
  have hreset : ∀ t ∈ registered.passwordResetTokens.rows,
      (Lockdown.ban "fraud" none).presents t.tokenHash → t.userId = 1 := fun _ _ hp => hp.elim
  have hrow : RacePool.issuedRow Env.plain "a@x" "p" 1 (.ban "fraud" none) banAfterLogin =
      some sessionAfterBan := by rfl
  exact ⟨by rfl, login_not_outliving_lockdown hreset hr (by rfl) hrow (by decide +kernel) rfl rfl⟩

end Auth
