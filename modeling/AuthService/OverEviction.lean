import AuthService.BruteForce
import AuthService.Dating
import AuthService.MaxSessions
import AuthService.SessionCap

/-!
# AuthService.OverEviction

Any number of successful logins of one user beside each other, and the sessions that they leave.

* `LoginStage`       — a login that succeeds for the user inserts a session, once; one that fails or
  belongs to another user is `lost`.
* `NoneExpires`      — no session of the user expires, and none is inserted that has expired.
* `CountsAlone`      — the steps that do no harm: a login that counts more than the maximum does so
  while no other login has evictions left.
* `logins_keep_sessions` — in runs of such steps the logins leave as many sessions as the maximum
  allows. `logins_over_evict` is a run of two logins that leaves too few.
-/

namespace Auth

open Relational Resumption Prog

/-! ## Logins that succeed -/

inductive LoginStage where
  | before
  | ours
  | lost
  deriving DecidableEq

namespace LoginStage

def next (u : Nat) : LoginStage → (s : Stmt) → Except Exn s.Reply → LoginStage
  | .lost, _, _ => .lost
  | σ, .publish _, _ => σ
  | _, _, .error _ => .lost
  | .before, .createRefreshToken data, .ok _ => if data.userId = u then .ours else .lost
  | .before, .incrementFailedAttempts _, .ok _ => .lost
  | σ, _, .ok _ => σ

def allowed : LoginStage → Stmt → Prop
  | .lost, _ => True
  | .before, .createRefreshToken _ => True
  | .ours, .revokeToken _ _ _ => True
  | _, s => s.writesRefreshTokens = false

def monitor (u : Nat) : Monitor sig LoginStage := ⟨next u, allowed⟩

/-- A login that returns for the user has inserted its session. -/
def final (u : Nat) (σ : LoginStage) (r : Except Exn AuthResponse) : Prop :=
  ∀ a, r = .ok a → a.userId = u → σ = .ours

/-- Statements that leave a login that succeeds where it stands. -/
def keeps (s : Stmt) : Bool :=
  match s with
  | .incrementFailedAttempts _ => false
  | s => !s.writesRefreshTokens

variable {u : Nat} {σ : LoginStage} {env : Env}

theorem final_error (σ : LoginStage) (e : Exn) : final u σ (.error e) := fun _ h => nomatch h

theorem allowed_of_keeps {s : Stmt} (hs : keeps s = true) (σ : LoginStage) : allowed σ s := by
  cases s
  case incrementFailedAttempts => cases hs
  case createRefreshToken | revokeToken | revokeAllByUserId | setReplacedBy | updateLastUsed
      | deleteExpiredAndRevoked | deleteCredential => cases hs
  all_goals cases σ <;> first | rfl | trivial

theorem next_of_keeps {s : Stmt} (hs : keeps s = true) (σ : LoginStage) (a : s.Reply) :
    next u σ s (.ok a) = σ := by
  cases s
  case incrementFailedAttempts => cases hs
  case createRefreshToken | revokeToken | revokeAllByUserId | setReplacedBy | updateLastUsed
      | deleteExpiredAndRevoked | deleteCredential => cases hs
  all_goals cases σ <;> rfl

/-- A statement that leaves the stage, then the rest. -/
theorem conforms_keeps_bind {s : Stmt} {f : s.Reply → AuthProg AuthResponse}
    (hs : keeps s = true) (hf : ∀ a, (monitor u).Conforms (final u) σ (f a)) :
    (monitor u).Conforms (final u) σ ((query s).bind f) := by
  refine Monitor.conforms_perform_bind (allowed_of_keeps hs σ) (fun a => ?_)
    fun e => final_error _ e
  show (monitor u).Conforms (final u) (next u σ s (.ok a)) (f a)
  rw [next_of_keeps hs]
  exact hf a

/-- A login that is lost does not return for the user. -/
theorem conforms_lost {p : AuthProg AuthResponse} (hp : p.Yields fun a => a.userId ≠ u) :
    (monitor u).Conforms (final u) .lost p := by
  induction p with
  | ret a =>
    intro b hb hu
    cases hb
    exact absurd hu hp
  | throw e => exact final_error _ e
  | call s k ih => exact ⟨trivial, fun r => ih r (hp r)⟩

theorem conforms_publish {event : Int → DomainEvent} {f : Unit → AuthProg AuthResponse}
    (hf : ∀ a, (monitor u).Conforms (final u) .ours (f a)) :
    (monitor u).Conforms (final u) .ours
      ((newDate.bind fun timestamp => EventService.safePublish (event timestamp)).bind f) := by
  rw [Prog.bind_assoc]
  refine conforms_keeps_bind rfl fun timestamp => ?_
  refine Monitor.conforms_bind (Monitor.conforms_tryCatch ?_)
  refine Monitor.conforms_perform rfl fun r => ?_
  cases r with
  | ok a => exact hf a
  | error e => exact hf ()

theorem conforms_evictOldest {v : Nat} {p : AuthProg AuthResponse}
    (hp : (monitor u).Conforms (final u) .ours p) :
    (monitor u).Conforms (final u) .ours ((SessionService.evictOldest v).bind fun _ => p) := by
  unfold SessionService.evictOldest RefreshTokenRepository.findOldestActiveByUserId
  simp only [bind_eq, Prog.bind_assoc]
  refine conforms_keeps_bind rfl fun now => ?_
  refine conforms_keeps_bind rfl fun oldest? => ?_
  cases oldest? with
  | none => exact hp
  | some t =>
    unfold RefreshTokenRepository.revokeToken
    simp only [bind_eq, Prog.bind_assoc]
    refine conforms_keeps_bind rfl fun revokedAt => ?_
    exact Monitor.conforms_perform_bind trivial (fun _ => hp) fun e => final_error _ e

theorem conforms_enforceMaxSessions {v : Nat} {f : Unit → AuthProg AuthResponse}
    (hf : (monitor u).Conforms (final u) .ours (f ())) :
    (monitor u).Conforms (final u) .ours ((SessionService.enforceMaxSessions env v).bind f) := by
  have hloop : ∀ n, (monitor u).Conforms (final u) .ours
      ((repeatN (SessionService.evictOldest v) n).bind f) := by
    intro n
    induction n with
    | zero => exact hf
    | succ n ih =>
      rw [repeatN, Prog.bind_assoc]
      exact conforms_evictOldest ih
  unfold SessionService.enforceMaxSessions RefreshTokenRepository.countActiveByUserId
  simp only [bind_eq, Prog.bind_assoc]
  refine conforms_keeps_bind rfl fun now => ?_
  refine conforms_keeps_bind rfl fun activeCount => ?_
  split
  · exact hf
  · exact hloop _

theorem conforms_loginSucceeded (c : UserCredential) (email : String)
    (ipAddress userAgent : Option String) :
    (monitor u).Conforms (final u) .before
      (AuthService.loginSucceeded env c email ipAddress userAgent) := by
  unfold AuthService.loginSucceeded UserCredentialRepository.resetFailedAttempts
    UserCredentialRepository.updateLastLogin TokenService.generateAccessToken
    TokenService.generateRefreshToken RefreshTokenRepository.create
  simp only [bind_eq, Prog.bind_assoc, pure_eq, ret_bind]
  refine conforms_keeps_bind rfl fun _ => ?_
  refine conforms_keeps_bind rfl fun _ => ?_
  refine conforms_keeps_bind rfl fun _ => ?_
  refine conforms_keeps_bind rfl fun accessToken => ?_
  refine conforms_keeps_bind rfl fun rawToken => ?_
  refine conforms_keeps_bind rfl fun now => ?_
  refine conforms_keeps_bind rfl fun issuedAt => ?_
  refine Monitor.conforms_perform_bind trivial (fun row => ?_) fun e => final_error _ e
  show (monitor u).Conforms (final u) (if c.id = u then .ours else .lost) _
  by_cases hu : c.id = u
  · rw [if_pos hu]
    refine conforms_enforceMaxSessions (conforms_publish fun _ => ?_)
    exact conforms_keeps_bind rfl fun _ _ _ _ => rfl
  · rw [if_neg hu]
    exact conforms_lost (yields_bind fun _ => yields_bind fun _ => yields_bind fun _ => hu)

variable (env) in
theorem yields_loginFailed (c : UserCredential) (email : String)
    (ipAddress userAgent : Option String) (P : AuthResponse → Prop) :
    (AuthService.loginFailed env c email ipAddress userAgent).Yields P := by
  unfold AuthService.loginFailed
  exact yields_bind fun _ => yields_bind fun _ => yields_bind fun _ => yields_bind fun _ => trivial

theorem conforms_loginVerify (c : UserCredential) (email password : String)
    (ipAddress userAgent : Option String) :
    (monitor u).Conforms (final u) .before
      (AuthService.loginVerify env c email password ipAddress userAgent) := by
  unfold AuthService.loginVerify CredentialService.verifyPassword
  simp only [bind_eq]
  refine conforms_keeps_bind rfl fun valid => ?_
  split
  · exact conforms_loginSucceeded c email ipAddress userAgent
  · have hyields :=
      yields_loginFailed env c email ipAddress userAgent fun a => a.userId ≠ u
    unfold AuthService.loginFailed UserCredentialRepository.incrementFailedAttempts at hyields ⊢
    simp only [bind_eq, Prog.bind_assoc] at hyields ⊢
    refine Monitor.conforms_perform_bind rfl (fun n? => ?_) fun e => final_error _ e
    exact conforms_lost (hyields (.ok n?))

theorem conforms_login (email password : String) (ipAddress userAgent : Option String) :
    (monitor u).Conforms (final u) .before
      (AuthService.login env email password ipAddress userAgent) := by
  refine login_induction (fun s f hs hf => conforms_keeps_bind ?_ hf)
    (fun _ e => conforms_keeps_bind rfl fun _ => final_error _ e) (fun e => final_error _ e)
    fun c => conforms_loginVerify c email password ipAddress userAgent
  cases s <;> first | rfl | cases hs

/-- A login that is not lost by a statement was not lost before. -/
theorem stays {s : Stmt} {reply : Except Exn s.Reply} (h : next u σ s reply ≠ .lost) :
    σ ≠ .lost := by
  rintro rfl
  exact h rfl

/-- The insert of a login that succeeds. -/
theorem next_create {data : NewRefreshToken} {reply : Except Exn RefreshToken}
    (h : next u .before (.createRefreshToken data) reply ≠ .lost) :
    data.userId = u ∧ (∃ row, reply = .ok row) ∧
      next u .before (.createRefreshToken data) reply = .ours := by
  cases reply with
  | error e => exact absurd rfl h
  | ok row =>
    by_cases hu : data.userId = u
    · exact ⟨hu, ⟨row, rfl⟩, if_pos hu⟩
    · exact absurd (if_neg hu) h

theorem next_before {s : Stmt} {reply : Except Exn s.Reply} (hs : s.writesRefreshTokens = false)
    (h : next u .before s reply ≠ .lost) : next u .before s reply = .before := by
  cases reply with
  | error e => cases s <;> first | rfl | exact absurd rfl h
  | ok a =>
    cases s
    case createRefreshToken => cases hs
    case incrementFailedAttempts => exact absurd rfl h
    all_goals rfl

theorem next_ours {s : Stmt} {reply : Except Exn s.Reply} (h : next u .ours s reply ≠ .lost) :
    next u .ours s reply = .ours := by
  cases reply with
  | error e => cases s <;> first | rfl | exact absurd rfl h
  | ok a => cases s <;> rfl

end LoginStage

/-! ## Sessions, counted exactly -/

namespace World

variable {env : Env} {w : World} {u : Nat}

theorem sessions_unwritten (env : Env) {s : Stmt} (hs : s.writesRefreshTokens = false) (w : World)
    (u : Nat) (at' : Int) (doomed : Option Nat) :
    (exec env s w).2.sessions u at' doomed = w.sessions u at' doomed := by
  unfold sessions
  rw [exec_refreshTokens env s w hs]

theorem sessions_insert {data : NewRefreshToken} {row : RefreshToken} {at' : Int}
    (hok : (exec env (.createRefreshToken data) w).1 = .ok row) (hu : data.userId = u)
    (hlive : at' < data.expiresAt) :
    (exec env (.createRefreshToken data) w).2.sessions u at' none = w.sessions u at' none + 1 := by
  rcases exec_createRefreshToken env w data with ⟨e, he⟩ | ⟨table, he, hrows, -⟩
  · rw [he] at hok
    cases hok
  · rw [he]
    have hnew : (newRefreshToken w.supply data).sessionOf u at' none = true := by
      simp [RefreshToken.sessionOf, RefreshToken.active, newRefreshToken, hu, hlive]
    show table.rows.countP _ = _
    rw [hrows, List.countP_append, List.countP_singleton, hnew]
    rfl

/-- A `revokeToken` takes one session away at most. -/
theorem sessions_revokeToken (env : Env) (w : World) (u : Nat) (at' : Int) (id : Nat)
    (reason : String) (revokedAt : Int) :
    w.sessions u at' none ≤
      (exec env (.revokeToken id reason revokedAt) w).2.sessions u at' none + 1 := by
  have hrest : (exec env (.revokeToken id reason revokedAt) w).2.sessions u at' none =
      w.refreshTokens.count fun t => t.sessionOf u at' none && decide (t.id ≠ id) := by
    refine Table.count_updateWhere ?_
    intro a _
    by_cases hid : a.id = id
    · simp [Table.patchIf, hid, RefreshToken.sessionOf, not_active_revoke]
    · simp [Table.patchIf, hid]
  rw [hrest]
  by_cases hex : ∃ t ∈ w.refreshTokens.rows, t.id = id ∧ t.sessionOf u at' none = true
  · obtain ⟨t, ht, rfl, hs⟩ := hex
    exact Nat.le_of_eq (Table.count_without_eq ht hs).symm
  · refine Nat.le_succ_of_le (Table.count_mono fun t ht hs => ?_)
    rw [Bool.and_eq_true, decide_eq_true_eq]
    exact ⟨hs, fun hid => hex ⟨t, ht, hid, hs⟩⟩

end World

namespace EvictionPhase

/-- The evictions that a login has left. -/
def pending : EvictionPhase → Nat
  | .evicting _ left => left
  | .seeking _ left => left + 1
  | .selected _ left _ => left + 1
  | _ => 0

variable {env : Env} {u : Nat} {w : World} {s : Stmt} {φ : EvictionPhase}

/-- What a statement of a login that has inserted its session, and goes on, does to the sessions and
to the evictions left. -/
inductive Evicts (env : Env) (u : Nat) (w : World) (φ : EvictionPhase) (s : Stmt) : Prop where
  | counts (at' : Int) (hs : s = .countActiveByUserId u at') (hφ : φ = .counting at')
    (hnext : (next env u φ s (World.exec env s w).1).pending =
      w.sessions u at' none - env.maxSessions)
  | revokes (id : Nat) (reason : String) (revokedAt : Int)
    (hs : s = .revokeToken id reason revokedAt)
    (hnext : (next env u φ s (World.exec env s w).1).pending + 1 = φ.pending)
  | passes (hs : s.writesRefreshTokens = false)
    (hnext : (next env u φ s (World.exec env s w).1).pending ≤ φ.pending)

theorem evicts (env : Env) (w : World) (ha : allowed u φ s) (hφ : φ ≠ .idle) :
    Evicts env u w φ s := by
  cases φ with
  | idle => exact absurd rfl hφ
  | inserted =>
    cases s
    case newDate => exact .passes rfl (Nat.le_refl _)
    all_goals exact ha.elim
  | counting c =>
    cases s
    case countActiveByUserId id now =>
      obtain ⟨rfl, rfl⟩ := ha
      refine .counts now rfl rfl ?_
      show (w.refreshTokens.select fun t => t.userId = id && t.active now).length -
        env.maxSessions = _
      rw [World.select_active_eq]
    all_goals exact ha.elim
  | evicting c left =>
    cases left with
    | zero =>
      cases s
      case newDate | publish | createAuditLog => exact .passes rfl (Nat.le_refl _)
      all_goals exact ha.elim
    | succ left =>
      cases s
      case newDate => exact .passes rfl (Nat.le_refl _)
      all_goals exact ha.elim
  | seeking c left =>
    cases s
    case findOldestActiveByUserId id now =>
      refine .passes rfl ?_
      cases hpick : env.oldest.pick
          (w.refreshTokens.select fun t => t.userId = id && t.active now) with
      | none =>
        simp only [World.exec, hpick, next]
        exact Nat.le_succ left
      | some t =>
        simp only [World.exec, hpick, next]
        exact Nat.le_refl _
    all_goals exact ha.elim
  | selected c left t =>
    cases s
    case newDate => exact .passes rfl (Nat.le_refl _)
    case revokeToken id reason revokedAt => exact .revokes id reason revokedAt rfl rfl
    all_goals exact ha.elim

variable (env) in
/-- Only a failure takes a login back to where it is idle. -/
theorem next_ne_idle (ha : allowed u φ s) (hφ : φ ≠ .idle) {reply : Except Exn s.Reply}
    (hstays : LoginStage.next u .ours s reply ≠ .lost) : next env u φ s reply ≠ .idle := by
  cases reply with
  | error e =>
    cases s
    case publish event =>
      cases φ with
      | idle => exact absurd rfl hφ
      | evicting c left =>
        cases left with
        | zero => exact nofun
        | succ left => exact ha.elim
      | _ => exact ha.elim
    all_goals exact absurd rfl hstays
  | ok a =>
    cases φ with
    | idle => exact absurd rfl hφ
    | inserted => cases s <;> exact nofun
    | counting c => cases s <;> exact nofun
    | evicting c left => cases left <;> cases s <;> exact nofun
    | seeking c left =>
      cases s
      case findOldestActiveByUserId id now => cases a <;> exact nofun
      all_goals exact nofun
    | selected c left t => cases s <;> exact nofun

end EvictionPhase

/-! ## Logins beside each other -/

namespace Stmt

/-- The instant for which the statement counts the sessions of `u`. -/
def countsAt (u : Nat) : Stmt → Option Int
  | .countActiveByUserId userId now => if userId = u then some now else none
  | _ => none

end Stmt

section Concurrent

variable {ι : Type} [DecidableEq ι] {env : Env} {u : Nat}

namespace LoginPool

def stage (u : Nat) (q : LoginPool ι) (i : ι) : LoginStage :=
  q.phase (fun _ => LoginStage.monitor u) (fun _ => .before) i

def eviction (env : Env) (u : Nat) (q : LoginPool ι) (i : ι) : EvictionPhase :=
  q.phase (fun _ => EvictionPhase.monitor env u) (fun _ => .idle) i

/-- Login `i` has succeeded, for the user `u`. -/
def succeeded (u : Nat) (q : LoginPool ι) (i : ι) : Bool :=
  match q.result? i with
  | some (.ok a) => a.userId = u
  | _ => false

/-- No session of the user expires while time passes, and none that is inserted has expired. -/
def NoneExpires (u : Nat) (q : LoginPool ι) : Label ι → Prop
  | .tick n => ∀ t ∈ q.world.refreshTokens.rows, t.sessionOf u q.world.now none = true →
      t.active (q.world.now + n) = true
  | .run i => ∀ data ∈ (q.next? i).bind Stmt.inserts, data.userId = u → q.world.now < data.expiresAt

/-- A login that counts more sessions than the maximum is the only one with evictions to do. -/
def CountsAlone (env : Env) (u : Nat) (q : LoginPool ι) : Label ι → Prop
  | .tick _ => True
  | .run i => ∀ at' ∈ (q.next? i).bind (Stmt.countsAt u),
      q.world.sessions u at' none ≤ env.maxSessions ∨
        ∀ j, j ≠ i → (eviction env u q j).pending = 0

instance (u : Nat) (q : LoginPool ι) : (l : Label ι) → Decidable (NoneExpires u q l)
  | .tick _ => inferInstanceAs (Decidable (∀ t ∈ q.world.refreshTokens.rows, _ = true → _ = true))
  | .run _ => inferInstanceAs (Decidable (∀ data ∈ (_ : Option NewRefreshToken), _ = u → _ < _))

instance [Fintype ι] (u : Nat) (q : LoginPool ι) : (l : Label ι) → Decidable (CountsAlone env u q l)
  | .tick _ => .isTrue trivial
  | .run _ => inferInstanceAs (Decidable (∀ at' ∈ (_ : Option Int), _ ∨ ∀ _, _ ≠ _ → _ = 0))

/-- The sessions there were at the start and those inserted, up to the maximum, are there. The login
with evictions left has room for them. -/
structure Enough [Fintype ι] (env : Env) (u a : Nat) (q : LoginPool ι) : Prop where
  idle : ∀ i, stage u q i = .before → eviction env u q i = .idle
  issued : ∀ i, stage u q i = .ours → eviction env u q i ≠ .idle
  steady : ∀ i c, (eviction env u q i).clock = some c → ∀ t ∈ q.world.refreshTokens.rows,
    t.sessionOf u c none = true → t.sessionOf u q.world.now none = true
  room : ∀ i, 0 < (eviction env u q i).pending →
    env.maxSessions + (eviction env u q i).pending ≤ q.world.sessions u q.world.now none
  alone : ∀ i j, 0 < (eviction env u q i).pending → 0 < (eviction env u q j).pending → i = j
  enough : min env.maxSessions (a + tally fun i => decide (stage u q i = .ours)) ≤
    q.world.sessions u q.world.now none

variable {q : LoginPool ι}

omit [DecidableEq ι] in
theorem result_of_succeeded {i : ι} (h : succeeded u q i = true) :
    ∃ a, q.result? i = some (.ok a) ∧ a.userId = u := by
  unfold succeeded at h
  split at h
  · rename_i a hres
    exact ⟨a, hres, of_decide_eq_true h⟩
  · cases h

theorem stage_self {i : ι} {s : Stmt} {k : Except Exn s.Reply → AuthProg AuthResponse}
    (hp : q.prog i = .call s k) :
    stage u (q.step (World.machine env) (.run i)) i =
      (stage u q i).next u s (World.exec env s q.world).1 :=
  phase_step_self (m := fun _ => LoginStage.monitor u) hp

theorem stage_other {i j : ι} (h : j ≠ i) :
    stage u (q.step (World.machine env) (.run i)) j = stage u q j := phase_step_other h

theorem eviction_self {i : ι} {s : Stmt} {k : Except Exn s.Reply → AuthProg AuthResponse}
    (hp : q.prog i = .call s k) :
    eviction env u (q.step (World.machine env) (.run i)) i =
      (eviction env u q i).next env u s (World.exec env s q.world).1 :=
  phase_step_self (m := fun _ => EvictionPhase.monitor env u) hp

theorem eviction_other {i j : ι} (h : j ≠ i) :
    eviction env u (q.step (World.machine env) (.run i)) j = eviction env u q j :=
  phase_step_other h

/-- What is a session at a clock reading is one now, after the step as before it. -/
theorem steady_step [Fintype ι] {a : Nat} (hI : Enough env u a q) {i : ι}
    (hlive : NoneExpires u q (.run i)) {s : Stmt} {k : Except Exn s.Reply → AuthProg AuthResponse}
    (hp : q.prog i = .call s k) (j : ι) (c : Int)
    (hc : (eviction env u (q.step (World.machine env) (.run i)) j).clock = some c)
    (t : RefreshToken) (ht : t ∈ (q.step (World.machine env) (.run i)).world.refreshTokens.rows)
    (hs : t.sessionOf u c none = true) :
    t.sessionOf u (q.step (World.machine env) (.run i)).world.now none = true := by
  rw [Pool.world_step hp] at ht ⊢
  have hnow : (World.exec env s q.world).2.now = q.world.now := World.exec_now env s q.world
  have hclock : (eviction env u q j).clock = some c ∨ c = q.world.now := by
    by_cases hj : j = i
    · subst hj
      rw [eviction_self hp] at hc
      exact EvictionPhase.clock_next rfl hc
    · rw [eviction_other hj] at hc
      exact .inl hc
  show t.sessionOf u (World.exec env s q.world).2.now none = true
  rw [hnow]
  rcases hclock with hc | rfl
  · rcases World.exec_origin ht with ⟨t₀, ht₀, hev⟩ | ⟨data, rfl, rfl⟩
    · have hbefore := hI.steady j c hc t₀ ht₀ (World.sessionOf_evolves hev hs)
      simp only [RefreshToken.sessionOf, RefreshToken.active, Bool.and_eq_true, Bool.not_eq_true',
        decide_eq_true_eq] at hs hbefore ⊢
      rw [hev.expiresAt_eq]
      exact ⟨⟨hs.1.1, hs.1.2.1, hbefore.1.2.2⟩, hs.2⟩
    · simp only [RefreshToken.sessionOf, RefreshToken.active, Bool.and_eq_true, Bool.not_eq_true',
        decide_eq_true_eq] at hs ⊢
      have hexp := hlive data (by rw [Pool.next?_of_call hp]; rfl) hs.1.1
      exact ⟨⟨hs.1.1, hs.1.2.1, hexp⟩, hs.2⟩
  · exact hs

variable [Fintype ι] {a : Nat} {i : ι} {s : Stmt} {k : Except Exn s.Reply → AuthProg AuthResponse}

/-- What a step of thread `i` owes to the others: their evictions left keep their room. -/
theorem enough_of_step (hI : Enough env u a q) (hlive : NoneExpires u q (.run i))
    (hp : q.prog i = .call s k) {σ : LoginStage} {φ : EvictionPhase} {n : Nat}
    (hσ : (stage u q i).next u s (World.exec env s q.world).1 = σ)
    (hφ : (eviction env u q i).next env u s (World.exec env s q.world).1 = φ)
    (hn : (World.exec env s q.world).2.sessions u q.world.now none = n)
    (hidle : σ = .before → φ = .idle) (hissued : σ = .ours → φ ≠ .idle)
    (hroom : 0 < φ.pending → env.maxSessions + φ.pending ≤ n)
    (hothers : ∀ j, j ≠ i → 0 < (eviction env u q j).pending →
      φ.pending = 0 ∧ q.world.sessions u q.world.now none ≤ n)
    (henough : min env.maxSessions (a + (tally fun i => decide (stage u q i = .ours)) +
      (decide (σ = .ours)).toNat - (decide (stage u q i = .ours)).toNat) ≤ n) :
    Enough env u a (q.step (World.machine env) (.run i)) := by
  have hσ' : stage u (q.step (World.machine env) (.run i)) i = σ := (stage_self hp).trans hσ
  have hφ' : eviction env u (q.step (World.machine env) (.run i)) i = φ :=
    (eviction_self hp).trans hφ
  have hn' : (q.step (World.machine env) (.run i)).world.sessions u
      (q.step (World.machine env) (.run i)).world.now none = n := by
    rw [Pool.world_step hp]
    show (World.exec env s q.world).2.sessions u (World.exec env s q.world).2.now none = n
    rw [World.exec_now]
    exact hn
  refine ⟨?_, ?_, steady_step hI hlive hp, ?_, ?_, ?_⟩
  · intro j hj
    by_cases hji : j = i
    · subst hji
      rw [hφ']
      exact hidle (hσ'.symm.trans hj)
    · rw [eviction_other hji]
      exact hI.idle j ((stage_other hji).symm.trans hj)
  · intro j hj
    by_cases hji : j = i
    · subst hji
      rw [hφ']
      exact hissued (hσ'.symm.trans hj)
    · rw [eviction_other hji]
      exact hI.issued j ((stage_other hji).symm.trans hj)
  · intro j hj
    rw [hn']
    by_cases hji : j = i
    · subst hji
      rw [hφ'] at hj ⊢
      exact hroom hj
    · rw [eviction_other hji] at hj ⊢
      exact Nat.le_trans (hI.room j hj) (hothers j hji hj).2
  · refine unique_step (i := i) hI.alone (fun j hji hj => ?_) fun hi => ?_
    · rw [eviction_other hji] at hj
      exact hj
    · rw [hφ'] at hi
      by_cases hpending : 0 < (eviction env u q i).pending
      · exact .inl hpending
      · refine .inr fun j hj => ?_
        by_cases hji : j = i
        · subst hji
          exact hpending hj
        · have hzero := (hothers j hji hj).1
          omega
  · rw [hn']
    have htally := tally_step (fun j => decide (stage u q j = .ours))
      (fun j => decide (stage u (q.step (World.machine env) (.run i)) j = .ours)) (i := i)
      fun j hji => by rw [stage_other hji]
    rw [hσ'] at htally
    refine Nat.le_trans (Nat.le_of_eq ?_) henough
    congr 1
    omega

/-- A step of a login that has not inserted its session yet. -/
theorem enough_before (hI : Enough env u a q) (hlive : NoneExpires u q (.run i))
    (hp : q.prog i = .call s k) (hσ : stage u q i = .before) (haσ : LoginStage.allowed .before s)
    (hstays : LoginStage.before.next u s (World.exec env s q.world).1 ≠ .lost) :
    Enough env u a (q.step (World.machine env) (.run i)) := by
  have henough := hI.enough
  have hφ := hI.idle i hσ
  by_cases hs : s.writesRefreshTokens = true
  · cases s
    case createRefreshToken data =>
      obtain ⟨hu, ⟨row, hok⟩, hnext⟩ := LoginStage.next_create hstays
      rw [← hσ] at hnext
      have hn := World.sessions_insert hok hu (hlive data (by rw [Pool.next?_of_call hp]; rfl) hu)
      have hφ' : (eviction env u q i).next env u (.createRefreshToken data)
          (World.exec env (.createRefreshToken data) q.world).1 = .inserted := by
        rw [hφ, hok]
        exact if_pos hu
      refine enough_of_step hI hlive hp hnext hφ' hn nofun (fun _ => nofun)
        (fun h => absurd h (Nat.lt_irrefl 0)) (fun j _ _ => ⟨rfl, Nat.le_succ _⟩) ?_
      simp only [hσ, decide_true, Bool.toNat_true, reduceCtorEq, decide_false, Bool.toNat_false]
      omega
    all_goals exact nomatch hs.symm.trans haσ
  · have hs : s.writesRefreshTokens = false := by simpa using hs
    have hnext := LoginStage.next_before hs hstays
    rw [← hσ] at hnext
    have hinsert : s.insertsFor u = false := by cases s <;> first | rfl | cases hs
    have hφ' : (eviction env u q i).next env u s (World.exec env s q.world).1 = .idle := by
      rw [hφ]
      exact EvictionPhase.next_idle hinsert _
    refine enough_of_step hI hlive hp (hnext.trans hσ) hφ'
      (World.sessions_unwritten env hs q.world u _ _) (fun _ => rfl) nofun
      (fun h => absurd h (Nat.lt_irrefl 0)) (fun j _ _ => ⟨rfl, Nat.le_refl _⟩) ?_
    simp only [hσ, reduceCtorEq, decide_false, Bool.toNat_false]
    omega

/-- A step of a login that has: it counts, revokes a session or goes on. -/
theorem enough_ours (hI : Enough env u a q) (hlive : NoneExpires u q (.run i))
    (hcount : CountsAlone env u q (.run i)) (hp : q.prog i = .call s k) (hσ : stage u q i = .ours)
    (haφ : EvictionPhase.allowed u (eviction env u q i) s)
    (hstays : LoginStage.ours.next u s (World.exec env s q.world).1 ≠ .lost) :
    Enough env u a (q.step (World.machine env) (.run i)) := by
  have henough := hI.enough
  have hφ := hI.issued i hσ
  have hnext := LoginStage.next_ours hstays
  rw [← hσ] at hnext
  have hidle := EvictionPhase.next_ne_idle env haφ hφ hstays
  cases EvictionPhase.evicts env q.world haφ hφ with
  | counts at' hs hcounting hpending =>
    have hs' : s.writesRefreshTokens = false := by rw [hs]; rfl
    have hsteady : q.world.sessions u at' none ≤ q.world.sessions u q.world.now none :=
      Table.count_mono (hI.steady i at' (by rw [hcounting]; rfl))
    have hcalm := hcount at' (by rw [Pool.next?_of_call hp, hs]; exact if_pos rfl)
    refine enough_of_step hI hlive hp (hnext.trans hσ) rfl
      (World.sessions_unwritten env hs' q.world u _ _) nofun (fun _ => hidle) ?_ ?_ ?_
    · omega
    · intro j hji hj
      rcases hcalm with hle | hnone
      · exact ⟨by omega, Nat.le_refl _⟩
      · have hzero := hnone j hji
        omega
    · simp only [hσ, decide_true, Bool.toNat_true]
      omega
  | revokes id reason revokedAt hs hpending =>
    subst hs
    have hlower := World.sessions_revokeToken env q.world u q.world.now id reason revokedAt
    have hpos : 0 < (eviction env u q i).pending := by omega
    have hroom := hI.room i hpos
    refine enough_of_step hI hlive hp (hnext.trans hσ) rfl rfl nofun (fun _ => hidle) ?_ ?_ ?_
    · omega
    · intro j hji hj
      exact absurd (hI.alone j i hj hpos) hji
    · omega
  | passes hs hpending =>
    refine enough_of_step hI hlive hp (hnext.trans hσ) rfl
      (World.sessions_unwritten env hs q.world u _ _) nofun (fun _ => hidle) ?_ ?_ ?_
    · intro hpos
      have hroom := hI.room i (by omega)
      omega
    · intro j hji hj
      refine ⟨?_, Nat.le_refl _⟩
      by_contra hpos
      exact hji (hI.alone j i hj (by omega))
    · simp only [hσ, decide_true, Bool.toNat_true]
      omega

/-- A step of a login that goes on. -/
theorem enough_step (hI : Enough env u a q) (hlive : NoneExpires u q (.run i))
    (hcount : CountsAlone env u q (.run i)) (hp : q.prog i = .call s k)
    (haσ : LoginStage.allowed (stage u q i) s)
    (haφ : EvictionPhase.allowed u (eviction env u q i) s)
    (hstays : (stage u q i).next u s (World.exec env s q.world).1 ≠ .lost) :
    Enough env u a (q.step (World.machine env) (.run i)) := by
  cases hσ : stage u q i with
  | lost => exact absurd hσ (LoginStage.stays hstays)
  | before =>
    rw [hσ] at hstays haσ
    exact enough_before hI hlive hp hσ haσ hstays
  | ours =>
    rw [hσ] at hstays
    exact enough_ours hI hlive hcount hp hσ haφ hstays

theorem enough_tick (hI : Enough env u a q) {n : Nat} (hlive : NoneExpires u q (.tick n)) :
    Enough env u a (q.step (World.machine env) (.tick n)) := by
  have hstays : ∀ t ∈ q.world.refreshTokens.rows, t.sessionOf u q.world.now none = true →
      t.sessionOf u (q.world.now + n) none = true := by
    intro t ht hs
    have hactive := hlive t ht hs
    simp only [RefreshToken.sessionOf, Bool.and_eq_true] at hs ⊢
    exact ⟨⟨hs.1.1, hactive⟩, hs.2⟩
  have hmore : q.world.sessions u q.world.now none ≤
      (q.step (World.machine env) (.tick n)).world.sessions u
        (q.step (World.machine env) (.tick n)).world.now none := Table.count_mono hstays
  refine ⟨hI.idle, hI.issued, ?_, ?_, hI.alone, Nat.le_trans hI.enough hmore⟩
  · intro j c hc t ht hs
    exact hstays t ht (hI.steady j c hc t ht hs)
  · intro j hj
    exact Nat.le_trans (hI.room j hj) hmore

variable {w : World} {email password : ι → String} {ipAddress userAgent : ι → Option String}

theorem enough_start :
    Enough env u (w.sessions u w.now none) (logins env w email password ipAddress userAgent) := by
  have hnone : (tally fun i => decide
      (stage u (logins env w email password ipAddress userAgent) i = .ours)) = 0 :=
    tally_eq_zero fun _ => rfl
  refine ⟨fun _ _ => rfl, nofun, nofun, ?_, ?_, ?_⟩
  · exact fun i h => absurd h (Nat.lt_irrefl 0)
  · exact fun i j h => absurd h (Nat.lt_irrefl 0)
  · rw [hnone]
    exact Nat.min_le_right _ _

omit [Fintype ι] in
theorem conforms_stage (i : ι) :
    (LoginStage.monitor u).Conforms (LoginStage.final u)
      (stage u (logins env w email password ipAddress userAgent) i)
      ((logins env w email password ipAddress userAgent).prog i) :=
  LoginStage.conforms_login _ _ _ _

omit [Fintype ι] in
theorem conforms_eviction (i : ι) :
    (EvictionPhase.monitor env u).Conforms EvictionPhase.final
      (eviction env u (logins env w email password ipAddress userAgent) i)
      ((logins env w email password ipAddress userAgent).prog i) :=
  EvictionPhase.conforms_login _ _ _ _

/-- As long as no login is lost. -/
theorem enough_reach (hr : Reach (World.machine env)
      (fun q l => NoneExpires u q l ∧ CountsAlone env u q l)
      (logins env w email password ipAddress userAgent) q) :
    (∃ i, stage u q i = .lost) ∨ Enough env u (w.sessions u w.now none) q := by
  refine hr.invariant_steps (M := World.machine env)
    (I := fun q => (∃ i, stage u q i = .lost) ∨ Enough env u (w.sessions u w.now none) q)
    (.inr enough_start) ?_ ?_
  · rintro q n - (hlost | hI) hC
    · exact .inl hlost
    · exact .inr (enough_tick hI hC.1)
  · rintro q i s k hq hI hC hp
    by_cases hstays : (stage u q i).next u s (World.exec env s q.world).1 = .lost
    · exact .inl ⟨i, (stage_self hp).trans hstays⟩
    · rcases hI with ⟨j, hj⟩ | hI
      · by_cases hji : j = i
        · subst hji
          exact absurd hj (LoginStage.stays hstays)
        · exact .inl ⟨j, (stage_other hji).trans hj⟩
      · have hstage : (LoginStage.monitor u).Conforms (LoginStage.final u)
            (q.phase (fun _ => LoginStage.monitor u) (fun _ => .before) i) (q.prog i) :=
          conforms_reach (m := fun _ => LoginStage.monitor u) (F := fun _ => LoginStage.final u) hq
            (conforms_stage i)
        have heviction : (EvictionPhase.monitor env u).Conforms EvictionPhase.final
            (q.phase (fun _ => EvictionPhase.monitor env u) (fun _ => .idle) i) (q.prog i) :=
          conforms_reach (m := fun _ => EvictionPhase.monitor env u)
            (F := fun _ => EvictionPhase.final) hq (conforms_eviction i)
        rw [hp] at hstage heviction
        exact .inr (enough_step hI hC.1 hC.2 hp hstage.1 heviction.1 hstays)

end LoginPool

open LoginPool in
/-- Logins of one user that all succeed, none of which counts too many sessions while another still
has evictions to do, leave the user as many sessions as the maximum allows. -/
theorem logins_keep_sessions [Fintype ι] {w : World} {email password : ι → String}
    {ipAddress userAgent : ι → Option String} {q : LoginPool ι}
    (hr : Reach (World.machine env) (fun q l => NoneExpires u q l ∧ CountsAlone env u q l)
      (logins env w email password ipAddress userAgent) q)
    (hdone : ∀ i, succeeded u q i = true) :
    min env.maxSessions
        ((w.refreshTokens.select fun t => t.userId = u && t.active w.now).length + Fintype.card ι) ≤
      (q.world.refreshTokens.select fun t => t.userId = u && t.active q.world.now).length := by
  rw [World.select_active_eq, World.select_active_eq]
  have hours : ∀ i, stage u q i = .ours := by
    intro i
    obtain ⟨a, hres, hu⟩ := result_of_succeeded (hdone i)
    exact final_of_result (m := fun _ => LoginStage.monitor u) (F := fun _ => LoginStage.final u) hr
      (conforms_stage i) hres a rfl hu
  rcases enough_reach hr with ⟨i, hlost⟩ | hI
  · exact nomatch (hours i).symm.trans hlost
  · have hall : (tally fun i => decide (stage u q i = .ours)) = Fintype.card ι :=
      tally_eq_card fun i => decide_eq_true (hours i)
    rw [← hall]
    exact hI.enough

/-! ### Two counts before the first eviction -/

/-- The user with five sessions logs in twice at the same time. -/
def twoLogins : LoginPool (Fin 2) :=
  logins Env.plain fiveSessions (fun _ => "a@x") (fun _ => "p") (fun _ => none) fun _ => none

/-- Each login counts before the other evicts. -/
def bothCount : List (Label (Fin 2)) :=
  (List.finRange 2 ++ List.finRange 2).flatMap fun i => List.replicate 12 (.run i)

theorem logins_over_evict :
    ¬ ∀ (w : World), Reachable Env.plain w → ∀ (u : Nat) (email password : Fin 2 → String)
        (q : LoginPool (Fin 2)),
      Reach (World.machine Env.plain) (LoginPool.NoneExpires u)
        (logins Env.plain w email password (fun _ => none) fun _ => none) q →
      (∀ i, LoginPool.succeeded u q i = true) →
      min Env.plain.maxSessions
          ((w.refreshTokens.select fun t => t.userId = u && t.active w.now).length +
            Fintype.card (Fin 2)) ≤
        (q.world.refreshTokens.select fun t => t.userId = u && t.active q.world.now).length := by
  intro h
  have hr : Reach (World.machine Env.plain) (LoginPool.NoneExpires 1) twoLogins
      (twoLogins.runs (World.machine Env.plain) bothCount) := Reach.of_checked (by decide +kernel)
  have hkept := h fiveSessions (registered_reachable.after _) 1 _ _ _ hr (by decide +kernel)
  revert hkept
  decide +kernel

/-- The second login inserts its session, and counts only when the first has finished. -/
def countAfter : List (Label (Fin 2)) :=
  List.replicate 11 (.run (Fin.last 1)) ++
    (List.finRange 2).flatMap fun i => List.replicate 24 (.run i)

def countedAfter : LoginPool (Fin 2) := twoLogins.runs (World.machine Env.plain) countAfter

theorem logins_keep_sessions_in_turn :
    min Env.plain.maxSessions ((fiveSessions.refreshTokens.select fun t =>
        t.userId = 1 && t.active fiveSessions.now).length + Fintype.card (Fin 2)) ≤
      (countedAfter.world.refreshTokens.select fun t =>
        t.userId = 1 && t.active countedAfter.world.now).length := by
  have hr : Reach (World.machine Env.plain)
      (fun q l => LoginPool.NoneExpires 1 q l ∧ LoginPool.CountsAlone Env.plain 1 q l) twoLogins
      countedAfter := Reach.of_checked (by decide +kernel)
  exact logins_keep_sessions hr (by decide +kernel)

end Concurrent
end Auth
