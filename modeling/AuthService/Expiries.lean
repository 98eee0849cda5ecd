import AuthService.Calendar.LocalTime
import AuthService.Dating
import AuthService.Http
import Mathlib.Tactic.Choose

/-!
# AuthService.Expiries

The expiries in minutes, of locks and of password resets, on a host with any time zone.

* `TimeZone.Keeps`        — the zone is the one of an offset function, by ECMAScript's rules.
* `setMinutesPlus_eq_iff` — when `setMinutes(getMinutes() + n)` is `n` minutes later.
* `Request.minutes`       — after how many minutes the lock or the reset token of a request expires.
* `expiry_of_trace`       — every expiry that a request writes is that many minutes, by the local
  clock, after the instant of the request.
* `expiry_exact_iff`      — the instants and the zones in which it is exact, and a valid date.
-/

namespace Auth

open Relational Resumption Prog LocalTime

variable {env : Env} {offset : Int → Int}

/-! ## Minutes by the local clock -/

/-- The host's zone has this offset from UTC. -/
structure TimeZone.Keeps (z : TimeZone) (offset : Int → Int) : Prop where
  localTime : ∀ t, z.localTime t = reading offset t
  utc : ∀ l, Instant offset l (z.utc l)

theorem TimeZone.setMinutesPlus_eq_iff {z : TimeZone} (hz : z.Keeps offset) (date : Int)
    (minutes : Nat) :
    z.setMinutesPlus date minutes = date + minutes * 60000 ↔
      Returns offset (offset date) (date + minutes * 60000) := by
  have hutc := hz.utc (z.localTime date + minutes * 60000)
  have hlocal : z.localTime date + minutes * 60000 = date + minutes * 60000 + offset date := by
    rw [hz.localTime]
    unfold reading
    omega
  refine instant_shifted ?_
  rw [← hlocal]
  exact hutc

/-- On a host without transitions, such as one in UTC. -/
theorem TimeZone.setMinutesPlus_of_fixed {z : TimeZone} (hz : z.Keeps offset) {c : Int}
    (hc : ∀ t, offset t = c) (date : Int) (minutes : Nat) :
    z.setMinutesPlus date minutes = date + minutes * 60000 := by
  refine (TimeZone.setMinutesPlus_eq_iff hz date minutes).mpr ?_
  rw [hc date]
  exact returns_of_fixed hc _

/-- Every bounded offset has a zone. -/
theorem exists_keeps {bound : Int} (hb : ∀ t, -bound ≤ offset t ∧ offset t ≤ bound) :
    ∃ z : TimeZone, z.Keeps offset := by
  choose utc hutc using exists_instant hb
  exact ⟨⟨reading offset, utc⟩, fun _ => rfl, hutc⟩

/-- `TimeClip`: a time value that a `Date` can hold. -/
def validDate (t : Int) : Prop := -maxDate ≤ t ∧ t ≤ maxDate

instance (t : Int) : Decidable (validDate t) := inferInstanceAs (Decidable (_ ∧ _))

/-! ## The expiries that requests write -/

/-- The expiry of the lock or the reset token that the statement writes. -/
def Stmt.expiry? : Stmt → Option Int
  | .lockAccount _ lockedUntil => lockedUntil
  | .createPasswordResetToken _ _ expiresAt => some expiresAt
  | _ => none

/-- The minutes after which the lock or the reset token of a request expires. -/
def Request.minutes (env : Env) : Request → Option Nat
  | .lockAccount _ _ durationMinutes _ => durationMinutes
  | .login _ _ _ _ => some env.lockoutDurationMinutes
  | .forgotPassword _ _ => some env.passwordResetExpiryMinutes
  | _ => none

/-- An expiry is `n` minutes after some reading of the clock. -/
def expiring (env : Env) (n : Nat) : Monitor sig (List Int) where
  next := Readings.next
  allowed φ s := ∀ t, s.expiry? = some t → ∃ now ∈ φ, t = env.zone.setMinutesPlus now n

variable {n : Nat} {α β : Type}

theorem expiring_allowed {s : Stmt} (hs : s.expiry? = none) (φ : List Int) :
    (expiring env n).allowed φ s := by
  intro t ht
  rw [hs] at ht
  cases ht

theorem expires_of_uses {p : AuthProg α} (hp : p.Uses fun s : Stmt => s.expiry? = none) :
    (expiring env n).Tracks p :=
  Monitor.tracks_of_uses hp fun φ _ hs => expiring_allowed hs φ

theorem expires_perform_bind {s : Stmt} {f : s.Reply → AuthProg α} (hs : s.expiry? = none)
    (hf : ∀ a, (expiring env n).Tracks (f a)) : (expiring env n).Tracks ((query s).bind f) :=
  Monitor.tracks_perform_bind (expiring_allowed hs) hf

/-- `lockExpiry` returns `n` minutes after the clock that it reads. -/
theorem expires_lockExpiry (φ : List Int) :
    (expiring env n).Conforms
      (fun φ r => ∀ t, r = .ok (some t) → ∃ now ∈ φ, t = env.zone.setMinutesPlus now n) φ
      (AccountService.lockExpiry env (some n)) := by
  cases n with
  | zero =>
    intro t ht
    cases ht
  | succ n =>
    refine Monitor.conforms_perform_bind (expiring_allowed rfl φ) (fun now => ?_)
      fun _ t ht => by cases ht
    intro t ht
    cases ht
    exact ⟨now, List.mem_cons_self, rfl⟩

theorem expires_lockAccount (userId : Nat) (reason : String) (adminUserId : Option String) :
    (expiring env n).Tracks
      (AccountService.lockAccount env userId reason (some n) adminUserId) := by
  unfold AccountService.lockAccount
  refine expires_perform_bind rfl fun user? φ => ?_
  cases user? with
  | none => trivial
  | some c =>
    refine Monitor.conforms_bind ((expires_lockExpiry φ).mono fun φ' r hr => ?_)
    cases r with
    | error e => trivial
    | ok lockedUntil =>
      refine Monitor.conforms_perform_bind ?_ (fun _ => expires_of_uses ?_ _) fun _ => trivial
      · intro t ht
        exact hr t (congrArg Except.ok ht)
      · refine uses_bind (uses_revokeAllUserTokens rfl fun _ => rfl) fun _ => ?_
        exact uses_bind (uses_publish rfl fun _ => rfl) fun _ => (uses_perform _).mpr rfl

theorem expires_lockOnBruteForce (c : UserCredential) (failedAttempts : Nat) :
    (expiring env env.lockoutDurationMinutes).Tracks
      (AuthService.lockOnBruteForce env c failedAttempts) := by
  intro φ
  unfold AuthService.lockOnBruteForce
  split
  · refine Monitor.conforms_perform_bind (expiring_allowed rfl φ) (fun now => ?_) fun _ => trivial
    refine Monitor.conforms_perform_bind ?_ (fun _ => expires_of_uses ?_ _) fun _ => trivial
    · intro t ht
      cases ht
      exact ⟨now, List.mem_cons_self, rfl⟩
    · refine uses_bind (uses_publish rfl fun _ => rfl) fun _ => ?_
      exact uses_revokeAllUserTokens rfl fun _ => rfl
  · trivial

theorem expires_loginVerify (c : UserCredential) (email password : String)
    (ipAddress userAgent : Option String) :
    (expiring env env.lockoutDurationMinutes).Tracks
      (AuthService.loginVerify env c email password ipAddress userAgent) := by
  have hnone : ∀ {s : Stmt}, s.tacit = true → s.expiry? = none := by
    intro s hs
    cases s <;> first | rfl | cases hs
  unfold AuthService.loginVerify
  refine expires_perform_bind rfl fun valid => ?_
  split
  · refine expires_of_uses (uses_loginSucceeded_of_tacit c email ipAddress userAgent
      (fun _ => hnone) rfl (fun _ _ => rfl) rfl (fun _ _ => rfl) (fun _ _ => rfl) (fun _ _ _ => rfl)
      fun _ => rfl)
  · unfold AuthService.loginFailed
    refine Monitor.tracks_bind ?_ fun failedAttempts => ?_
    · refine expires_perform_bind rfl fun attempts? => ?_
      cases attempts? <;> exact expires_of_uses trivial
    · refine Monitor.tracks_bind (expires_of_uses (uses_publish rfl fun _ => rfl)) fun _ => ?_
      exact Monitor.tracks_bind (expires_lockOnBruteForce c failedAttempts) fun _ =>
        expires_perform_bind rfl fun _ => expires_of_uses trivial

theorem expires_login (email password : String) (ipAddress userAgent : Option String) :
    (expiring env env.lockoutDurationMinutes).Tracks
      (AuthService.login env email password ipAddress userAgent) := by
  refine login_induction (fun s f hs hf => expires_perform_bind ?_ hf)
    (fun _ _ => expires_perform_bind rfl fun _ => expires_of_uses trivial)
    (fun _ => expires_of_uses trivial)
    fun c => expires_loginVerify c email password ipAddress userAgent
  cases s <;> first | rfl | cases hs

theorem expires_forgotPassword (email : String) (ipAddress : Option String) :
    (expiring env env.passwordResetExpiryMinutes).Tracks
      (AuthService.forgotPassword env email ipAddress) := by
  unfold AuthService.forgotPassword
  refine expires_perform_bind rfl fun user? => ?_
  cases user? with
  | none => exact expires_of_uses trivial
  | some user =>
    refine expires_perform_bind rfl fun rawToken φ => ?_
    refine Monitor.conforms_perform_bind (expiring_allowed rfl φ) (fun now => ?_) fun _ => trivial
    refine Monitor.conforms_perform_bind (expiring_allowed rfl _) (fun _ => ?_) fun _ => trivial
    refine Monitor.conforms_perform_bind ?_ (fun _ => expires_of_uses ?_ _) fun _ => trivial
    · intro t ht
      cases ht
      exact ⟨now, List.mem_cons_self, rfl⟩
    · exact uses_bind (uses_publish rfl fun _ => rfl) fun _ => (uses_perform _).mpr rfl

theorem expires_handle {r : Request} (hn : r.minutes env = some n) :
    (expiring env n).Tracks (handle env r) := by
  cases r
  case lockAccount =>
    obtain rfl : _ = some n := hn
    exact Monitor.tracks_bind (expires_lockAccount _ _ _) fun _ => expires_of_uses trivial
  case login =>
    cases hn
    exact Monitor.tracks_bind (expires_login _ _ _ _) fun _ => expires_of_uses trivial
  case forgotPassword =>
    cases hn
    exact Monitor.tracks_bind (expires_forgotPassword _ _) fun _ => expires_of_uses trivial
  all_goals cases hn

/-- What a request served at one instant has read of the clock. -/
theorem readings_now {φ : List Int} {s : Stmt} {w : World} (h : ∀ now ∈ φ, now = w.now) :
    ∀ now ∈ Readings.next φ s (World.exec env s w).1, now = (World.exec env s w).2.now := by
  rw [World.exec_now]
  cases s
  case newDate =>
    intro now hnow
    rcases List.mem_cons.mp hnow with rfl | hnow
    · rfl
    · exact h now hnow
  all_goals exact h

theorem expiry_of_trace {r : Request} (hn : r.minutes env = some n) {w : World} {s : Stmt}
    (hs : s ∈ (handle env r).trace (World.machine env) w) {t : Int} (ht : s.expiry? = some t) :
    t = env.zone.setMinutesPlus w.now n := by
  have hstep : ∀ (φ : List Int) (s : Stmt) (v : World), (v.now = w.now ∧ ∀ now ∈ φ, now = v.now) →
      (expiring env n).allowed φ s →
      ((World.exec env s v).2.now = w.now ∧
        ∀ now ∈ Readings.next φ s (World.exec env s v).1, now = (World.exec env s v).2.now) :=
    fun φ s v h _ => ⟨(World.exec_now env s v).trans h.1, readings_now h.2⟩
  obtain ⟨φ, v, ⟨hv, hnow⟩, ha⟩ := (expires_handle hn []).trace (M := World.machine env)
    (J := fun φ v => v.now = w.now ∧ ∀ now ∈ φ, now = v.now) hstep ⟨rfl, by simp⟩ s hs
  obtain ⟨now, hmem, rfl⟩ := ha t ht
  rw [hnow now hmem, hv]

/-- The expiry that a request writes is exact, and a date, iff that instant is one and its reading,
by the offset at the request, leads back to it. -/
theorem expiry_exact_iff (hz : env.zone.Keeps offset) {r : Request} (hn : r.minutes env = some n)
    {w : World} {s : Stmt} (hs : s ∈ (handle env r).trace (World.machine env) w) {t : Int}
    (ht : s.expiry? = some t) :
    (t = w.now + n * 60000 ∧ validDate t) ↔
      validDate (w.now + n * 60000) ∧ Returns offset (offset w.now) (w.now + n * 60000) := by
  rw [← TimeZone.setMinutesPlus_eq_iff hz, ← expiry_of_trace hn hs ht]
  constructor
  · rintro ⟨rfl, hvalid⟩
    exact ⟨hvalid, rfl⟩
  · rintro ⟨hvalid, rfl⟩
    exact ⟨rfl, hvalid⟩

/-! ## The end of summer time -/

def TimeZone.ofTransition (z : Transition) : TimeZone := ⟨reading z.offset, z.instant⟩

theorem keeps_ofTransition (z : Transition) : (TimeZone.ofTransition z).Keeps z.offset :=
  ⟨fun _ => rfl, z.instant_spec⟩

/-- Central Europe on 27 October 2024: at 01:00 UTC the clocks go back from 3 to 2 o'clock. -/
def autumn : Transition := ⟨1729990800000, 7200000, 3600000⟩

/-- A host in central Europe. -/
def Env.autumn : Env := { Env.plain with zone := .ofTransition Auth.autumn }

/-- The user 1 is locked for a quarter of an hour. -/
def quarterLock : Request := .lockAccount 1 "fraud" (some 15) none

/-- After the repeated hour the quarter is exact. -/
theorem expiry_exact_winter :
    let w : World := { registered with now := 1729998000000 }
    .lockAccount 1 (some 1729998900000) ∈ (handle Env.autumn quarterLock).trace (World.machine Env.autumn) w ∧
      (1729998900000 : Int) = w.now + (15 : Nat) * 60000 ∧ validDate 1729998900000 := by
  intro w
  have hmem : .lockAccount 1 (some 1729998900000) ∈
      (handle Env.autumn quarterLock).trace (World.machine Env.autumn) w := .tail _ (.tail _ (.head _))
  have hiff := @expiry_exact_iff Env.autumn autumn.offset 15 (keeps_ofTransition autumn) quarterLock rfl w
    (.lockAccount 1 (some 1729998900000)) hmem 1729998900000 rfl
  have hreturns : Returns autumn.offset (autumn.offset w.now) (w.now + (15 : Nat) * 60000) := by
    refine .first (by decide) fun t ht hread => ?_
    change t + (if t < 1729990800000 then 7200000 else 3600000) = 1730002500000 at hread
    change t < 1729998900000 at ht
    omega
  exact ⟨hmem, hiff.mpr ⟨by decide, hreturns⟩⟩

/-- Ten minutes into the repeated hour the lock of a quarter of an hour expires 45 minutes ago. -/
theorem expiry_not_exact :
    ¬ ∀ (env : Env) (offset : Int → Int) (r : Request) (n : Nat) (w : World) (s : Stmt) (t : Int),
        env.zone.Keeps offset → r.minutes env = some n →
        s ∈ (handle env r).trace (World.machine env) w → s.expiry? = some t →
          t = w.now + n * 60000 ∧ validDate t := by
  intro h
  have hover := h Env.autumn autumn.offset quarterLock 15 { registered with now := 1729991400000 }
    (.lockAccount 1 (some 1729988700000)) 1729988700000 (keeps_ofTransition autumn) rfl
    (.tail _ (.tail _ (.head _))) rfl
  exact absurd hover.1 (by decide)

end Auth
