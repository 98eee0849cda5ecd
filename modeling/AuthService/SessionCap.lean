import AuthService.Eviction
import AuthService.Rotation

/-!
# AuthService.SessionCap

Any number of logins and refreshes beside each other, and the number of sessions of one user. A login
inserts, counts and evicts; a rotation revokes and inserts, and counts nothing.

* `RotationPhase.owes`, `SessionPool.owed` — the rotations between their `revokeToken` and their
  insert: sessions that no count sees.
* `SessionPool.KeepsCap` — the steps that do no harm: no count and no search misses a session that is
  owed, and no rotation revokes a row that is not active or that a login is about to evict.
* `CapInv`               — sessions and owed sessions are within the maximum, or one login covers them.
* `session_cap`          — in runs of such steps, when the logins have finished the user has at most
  `maxSessions` active tokens. `session_cap_exceeded` is a run that ends with one too many.
-/

namespace Auth

open Relational Resumption Prog

namespace RotationPhase

/-- A session of `u` that is revoked, and its successor not inserted yet. -/
def owes (u : Nat) : RotationPhase → Bool
  | .rotated t => t.userId = u
  | _ => false

/-- The session of `u` that the statement revokes in order to replace it. -/
def rotates (u : Nat) : RotationPhase → Stmt → Option Nat
  | .live t, .revokeToken id _ _ => if t.userId = u then some id else none
  | _, _ => none

variable {r u : Nat} {φ : RotationPhase} {s : Stmt}

theorem rotates_some (env : Env) (w : World) {id : Nat} (h : φ.rotates u s = some id) (ha : allowed r φ s) :
    ∃ revokedAt, s = .revokeToken id "rotated" revokedAt ∧ φ.owes u = false ∧
      (next φ s (World.exec env s w).1).owes u = true := by
  revert h
  fun_cases rotates u φ s
  all_goals intro h
  case case1 t _ reason revokedAt hu =>
    cases h
    obtain ⟨-, rfl⟩ := ha
    exact ⟨revokedAt, rfl, rfl, decide_eq_true hu⟩
  all_goals cases h

theorem owes_next (h : φ.rotates u s = none) {reply : Except Exn s.Reply}
    (hnext : (next φ s reply).owes u = true) : φ.owes u = true := by
  revert hnext
  fun_cases next φ s reply
  all_goals intro hnext
  case case6 t id reason revokedAt a =>
    have hu : t.userId = u := of_decide_eq_true hnext
    simp [rotates, hu] at h
  all_goals first | exact hnext | cases hnext

/-- Any other statement pays a session that is owed, or adds none. -/
theorem sessions_owed_le (env : Env) (w : World) (ha : allowed r φ s) (h : φ.rotates u s = none) (c : Int)
    (doomed : Option Nat) :
    (World.exec env s w).2.sessions u c doomed + ((next φ s (World.exec env s w).1).owes u).toNat ≤
      w.sessions u c doomed + (φ.owes u).toNat := by
  by_cases hs : s.insertsFor u = true
  · cases s
    case createRefreshToken data =>
      have hle := World.sessions_insert_le env w data u c doomed
      cases φ with
      | rotated t =>
        have hdata : data.userId = t.userId := ha
        have howes : owes u (.rotated t) = true := by
          rw [owes, ← hdata]
          exact hs
        have hpaid : (next (.rotated t) (.createRefreshToken data)
            (World.exec env (.createRefreshToken data) w).1).owes u = false := by
          rcases World.exec_createRefreshToken env w data with ⟨e, he⟩ | ⟨table, he, -, -⟩ <;>
            rw [he] <;> rfl
        rw [howes, hpaid]
        exact hle
      | _ => exact ha.elim
    all_goals cases hs
  · have hle := World.sessions_exec_le env w (by simpa using hs) c doomed
    refine Nat.add_le_add hle (Bool.toNat_le_toNat ?_)
    exact fun h' => owes_next h h'

end RotationPhase

section Cap

variable {ι κ : Type} [DecidableEq ι] [DecidableEq κ] {env : Env} {u : Nat} {raw : κ → Nat}

/-- Thread `inl j` is a login, thread `inr k` a refresh. -/
abbrev SessionRet : ι ⊕ κ → Type
  | .inl _ => AuthResponse
  | .inr _ => RefreshResult

abbrev SessionPool (ι κ : Type) : Type := Pool sig World (ι ⊕ κ) SessionRet

structure LoginCall where
  email : String
  password : String
  ipAddress : Option String
  userAgent : Option String

/-- Any number of logins and of refreshes about to start. -/
def sessionCalls (env : Env) (w : World) (logins : ι → LoginCall) (raw : κ → Nat)
    (ipAddress userAgent : κ → Option String) : SessionPool ι κ :=
  Pool.start w fun
    | .inl j => AuthService.login env (logins j).email (logins j).password (logins j).ipAddress
        (logins j).userAgent
    | .inr k => TokenService.refreshTokens env (raw k) (ipAddress k) (userAgent k)

namespace SessionPool

abbrev Phase : ι ⊕ κ → Type
  | .inl _ => EvictionPhase
  | .inr _ => RotationPhase

def monitors (env : Env) (u : Nat) (raw : κ → Nat) : (i : ι ⊕ κ) → Monitor sig (Phase i)
  | .inl _ => EvictionPhase.monitor env u
  | .inr k => RotationPhase.monitor (raw k)

def phase₀ : (i : ι ⊕ κ) → Phase i
  | .inl _ => .idle
  | .inr _ => .start

def final : (i : ι ⊕ κ) → Phase i → Except Exn (SessionRet i) → Prop
  | .inl _ => EvictionPhase.final
  | .inr _ => RotationPhase.final

def eviction (env : Env) (u : Nat) (raw : κ → Nat) (q : SessionPool ι κ) (j : ι) : EvictionPhase :=
  q.phase (monitors env u raw) phase₀ (.inl j)

def rotation (env : Env) (u : Nat) (raw : κ → Nat) (q : SessionPool ι κ) (k : κ) : RotationPhase :=
  q.phase (monitors env u raw) phase₀ (.inr k)

variable {q : SessionPool ι κ}

theorem eviction_self {j : ι} {s : Stmt} {k : Except Exn s.Reply → AuthProg AuthResponse}
    (hp : q.prog (.inl j) = .call s k) :
    eviction env u raw (q.step (World.machine env) (.run (.inl j))) j =
      (eviction env u raw q j).next env u s (World.exec env s q.world).1 :=
  phase_step_self (m := monitors env u raw) hp

theorem eviction_other {j : ι} {i : ι ⊕ κ} (h : .inl j ≠ i) :
    eviction env u raw (q.step (World.machine env) (.run i)) j = eviction env u raw q j :=
  phase_step_other h

theorem rotation_self {k : κ} {s : Stmt} {f : Except Exn s.Reply → AuthProg RefreshResult}
    (hp : q.prog (.inr k) = .call s f) :
    rotation env u raw (q.step (World.machine env) (.run (.inr k))) k =
      (rotation env u raw q k).next s (World.exec env s q.world).1 :=
  phase_step_self (m := monitors env u raw) hp

theorem rotation_other {k : κ} {i : ι ⊕ κ} (h : .inr k ≠ i) :
    rotation env u raw (q.step (World.machine env) (.run i)) k = rotation env u raw q k :=
  phase_step_other h

variable [Fintype κ]

/-- The sessions that rotations have revoked and will insert again. -/
def owed (env : Env) (u : Nat) (raw : κ → Nat) (q : SessionPool ι κ) : Nat :=
  tally fun k => (rotation env u raw q k).owes u

/-- The sessions there are and those that are owed. -/
def demand (env : Env) (u : Nat) (raw : κ → Nat) (q : SessionPool ι κ) : Nat :=
  q.world.sessions u q.world.now none + owed env u raw q

/-- Another login has inserted its session and is still to count. -/
def Recounted (env : Env) (u : Nat) (raw : κ → Nat) (q : SessionPool ι κ) (i : ι ⊕ κ) : Prop :=
  ∃ j, .inl j ≠ i ∧ (eviction env u raw q j).uncounted = true

/-- The session `id` is active, and no login is about to evict it. -/
def Spare (env : Env) (u : Nat) (raw : κ → Nat) (q : SessionPool ι κ) (id : Nat) : Prop :=
  (∃ t ∈ q.world.refreshTokens.rows, t.id = id ∧ t.sessionOf u q.world.now none = true) ∧
    ∀ j, (eviction env u raw q j).doomed ≠ some id

/-- A count or a search that misses a session, and a rotation of a row that is revoked, expired or
about to be evicted, are harmless only where there is room or another login is still to count. -/
def KeepsCap (env : Env) (u : Nat) (raw : κ → Nat) (q : SessionPool ι κ) : Label (ι ⊕ κ) → Prop
  | .tick _ => True
  | .run (.inl j) => (eviction env u raw q j).misses u q.world (owed env u raw q) = true →
      demand env u raw q ≤ env.maxSessions ∨ Recounted env u raw q (.inl j)
  | .run (.inr k) => ∀ id ∈ (q.next? (.inr k)).bind ((rotation env u raw q k).rotates u),
      Spare env u raw q id ∨ demand env u raw q < env.maxSessions ∨ Recounted env u raw q (.inr k)

instance [Fintype ι] (q : SessionPool ι κ) (i : ι ⊕ κ) : Decidable (Recounted env u raw q i) :=
  inferInstanceAs (Decidable (∃ _, _ ≠ _ ∧ _ = true))

instance [Fintype ι] (q : SessionPool ι κ) (id : Nat) : Decidable (Spare env u raw q id) :=
  inferInstanceAs (Decidable ((∃ t ∈ q.world.refreshTokens.rows, _ = _ ∧ _ = true) ∧ ∀ _, _ ≠ _))

instance [Fintype ι] (q : SessionPool ι κ) :
    (l : Label (ι ⊕ κ)) → Decidable (KeepsCap env u raw q l)
  | .tick _ => .isTrue trivial
  | .run (.inl _) => inferInstanceAs (Decidable (_ = true → _ ∨ _))
  | .run (.inr _) => inferInstanceAs (Decidable (∀ id ∈ (_ : Option Nat), _ ∨ _ ∨ _))

/-- All sessions, also those owed, are within the maximum, or one login will see to it. -/
structure CapInv (env : Env) (u : Nat) (raw : κ → Nat) (q : SessionPool ι κ) : Prop where
  clock : ∀ j c, (eviction env u raw q j).clock = some c → c ≤ q.world.now
  covered : demand env u raw q ≤ env.maxSessions ∨
    ∃ j, (eviction env u raw q j).Covers env u q.world (owed env u raw q)

theorem owed_login (j : ι) :
    owed env u raw (q.step (World.machine env) (.run (.inl j))) = owed env u raw q := by
  unfold owed
  simp only [rotation_other (i := .inl j) (by simp)]

theorem capInv_start {w : World} {logins : ι → LoginCall} {ipAddress userAgent : κ → Option String}
    (h0 : w.sessions u w.now none ≤ env.maxSessions) :
    CapInv env u raw (sessionCalls env w logins raw ipAddress userAgent) := by
  refine ⟨fun j c h => (by cases h), .inl ?_⟩
  have howed : owed env u raw (sessionCalls env w logins raw ipAddress userAgent) = 0 :=
    tally_eq_zero fun k => rfl
  unfold demand
  rw [howed]
  exact h0

theorem capInv_tick (hI : CapInv env u raw q) (n : Nat) :
    CapInv env u raw (q.step (World.machine env) (.tick n)) := by
  have hnow : q.world.now ≤ (q.step (World.machine env) (.tick n)).world.now := by
    show q.world.now ≤ q.world.now + n
    omega
  refine ⟨fun j c h => Int.le_trans (hI.clock j c h) hnow, hI.covered.imp_left fun h => ?_⟩
  exact Nat.le_trans (Nat.add_le_add_right (World.sessions_later hnow) _) h

/-- A login still to count covers whatever happens. -/
theorem covered_of_recounted {i : ι ⊕ κ} (h : Recounted env u raw q i) :
    ∃ j, (eviction env u raw (q.step (World.machine env) (.run i)) j).Covers env u
      (q.step (World.machine env) (.run i)).world
      (owed env u raw (q.step (World.machine env) (.run i))) := by
  obtain ⟨j, hj, huncounted⟩ := h
  refine ⟨j, ?_⟩
  rw [eviction_other hj]
  exact EvictionPhase.covers_of_uncounted huncounted

theorem clock_login (hI : CapInv env u raw q) {j : ι} {s : Stmt}
    {k : Except Exn s.Reply → AuthProg AuthResponse} (hp : q.prog (.inl j) = .call s k) (l : ι)
    (c : Int) (h : (eviction env u raw (q.step (World.machine env) (.run (.inl j))) l).clock = some c) :
    c ≤ (q.step (World.machine env) (.run (.inl j))).world.now := by
  rw [Pool.world_step hp]
  show c ≤ (World.exec env s q.world).2.now
  rw [World.exec_now]
  by_cases hl : l = j
  · subst hl
    rw [eviction_self hp] at h
    rcases EvictionPhase.clock_next rfl h with h | rfl
    · exact hI.clock l c h
    · exact Int.le_refl _
  · rw [eviction_other (by simpa using hl)] at h
    exact hI.clock l c h

/-- A login's step: its own evictions cover the sessions, or the step takes none away from those of
another. -/
theorem capInv_login (hI : CapInv env u raw q) {j : ι} (hC : KeepsCap env u raw q (.run (.inl j)))
    {s : Stmt} {k : Except Exn s.Reply → AuthProg AuthResponse} (hp : q.prog (.inl j) = .call s k)
    (ha : EvictionPhase.allowed u (eviction env u raw q j) s) :
    CapInv env u raw (q.step (World.machine env) (.run (.inl j))) := by
  refine ⟨clock_login hI hp, ?_⟩
  have hself : eviction env u raw (q.step (World.machine env) (.run (.inl j))) j =
      (eviction env u raw q j).next env u s (World.exec env s q.world).1 := eviction_self hp
  have hworld : (q.step (World.machine env) (.run (.inl j))).world = (World.exec env s q.world).2 :=
    Pool.world_step hp
  rcases EvictionPhase.inserted_or_le env q.world ha with hnext | hle
  · refine .inr ⟨j, ?_⟩
    rw [hself, hnext]
    trivial
  have hroom : demand env u raw q ≤ env.maxSessions →
      demand env u raw (q.step (World.machine env) (.run (.inl j))) ≤ env.maxSessions := by
    intro h
    unfold demand
    rw [owed_login, hworld, World.exec_now]
    exact Nat.le_trans (Nat.add_le_add_right (hle _ _) _) h
  rcases hI.covered with hdemand | ⟨l, hl⟩
  · exact .inl (hroom hdemand)
  by_cases hlj : l = j
  · subst hlj
    cases hm : (eviction env u raw q l).misses u q.world (owed env u raw q) with
    | true =>
      rcases hC hm with hdemand | hrec
      · exact .inl (hroom hdemand)
      · exact .inr (covered_of_recounted hrec)
    | false =>
      refine .inr ⟨l, ?_⟩
      rw [hself, hworld, owed_login]
      exact EvictionPhase.covers_next ha (hI.clock l) hm hl
  · refine .inr ⟨l, ?_⟩
    rw [eviction_other (by simpa using hlj), hworld, owed_login]
    exact hl.mono fun c _ => Nat.add_le_add_right (hle _ _) _

/-- A refresh step that adds nothing to what is there and what is owed, for the user and for every
login, leaves the sessions covered. -/
theorem covered_refresh (hI : CapInv env u raw q) {k : κ} {s : Stmt}
    {f : Except Exn s.Reply → AuthProg RefreshResult} (hp : q.prog (.inr k) = .call s f)
    (spares : Option Nat → Prop) (hnone : spares none)
    (hdoomed : ∀ j, spares (eviction env u raw q j).doomed)
    (hle : ∀ c ≤ q.world.now, ∀ doomed, spares doomed →
      (World.exec env s q.world).2.sessions u c doomed +
          owed env u raw (q.step (World.machine env) (.run (.inr k))) ≤
        q.world.sessions u c doomed + owed env u raw q) :
    demand env u raw (q.step (World.machine env) (.run (.inr k))) ≤ env.maxSessions ∨
      ∃ j, (eviction env u raw (q.step (World.machine env) (.run (.inr k))) j).Covers env u
        (q.step (World.machine env) (.run (.inr k))).world
        (owed env u raw (q.step (World.machine env) (.run (.inr k)))) := by
  have hworld : (q.step (World.machine env) (.run (.inr k))).world = (World.exec env s q.world).2 :=
    Pool.world_step hp
  rcases hI.covered with hdemand | ⟨j, hj⟩
  · left
    unfold demand
    rw [hworld, World.exec_now]
    exact Nat.le_trans (hle _ (Int.le_refl _) none hnone) hdemand
  · refine .inr ⟨j, ?_⟩
    rw [eviction_other (by simp), hworld]
    exact hj.mono fun c hc => hle c (hI.clock j c hc) _ (hdoomed j)

/-- A rotation takes a session away and owes it; every other statement of a refresh adds none. -/
theorem capInv_refresh (hI : CapInv env u raw q) {k : κ}
    (hC : KeepsCap env u raw q (.run (.inr k))) {s : Stmt}
    {f : Except Exn s.Reply → AuthProg RefreshResult} (hp : q.prog (.inr k) = .call s f)
    (ha : RotationPhase.allowed (raw k) (rotation env u raw q k) s) :
    CapInv env u raw (q.step (World.machine env) (.run (.inr k))) := by
  have hworld : (q.step (World.machine env) (.run (.inr k))).world = (World.exec env s q.world).2 :=
    Pool.world_step hp
  have htally : owed env u raw (q.step (World.machine env) (.run (.inr k))) +
      ((rotation env u raw q k).owes u).toNat = owed env u raw q +
        (((rotation env u raw q k).next s (World.exec env s q.world).1).owes u).toNat := by
    have hself : rotation env u raw (q.step (World.machine env) (.run (.inr k))) k =
        (rotation env u raw q k).next s (World.exec env s q.world).1 := rotation_self hp
    rw [← hself]
    exact tally_step (fun k => (rotation env u raw q k).owes u) _ fun l hl => by
      rw [rotation_other (by simpa using hl)]
  refine ⟨fun j c h => ?_, ?_⟩
  · rw [eviction_other (by simp)] at h
    rw [hworld]
    show c ≤ (World.exec env s q.world).2.now
    rw [World.exec_now]
    exact hI.clock j c h
  cases hrot : (rotation env u raw q k).rotates u s with
  | none =>
    refine covered_refresh hI hp (fun _ => True) trivial (fun _ => trivial)
      fun c _ doomed _ => ?_
    have hle := RotationPhase.sessions_owed_le env q.world ha hrot c doomed
    omega
  | some id =>
    obtain ⟨revokedAt, rfl, howes, howes'⟩ :=
      RotationPhase.rotates_some env q.world hrot ha
    rw [howes, howes'] at htally
    have hmem : id ∈ (q.next? (.inr k)).bind ((rotation env u raw q k).rotates u) := by
      rw [Pool.next?_of_call hp]
      exact hrot
    rcases hC id hmem with ⟨⟨t, ht, rfl, hsession⟩, hspare⟩ | hroom | hrec
    · refine covered_refresh hI hp (fun doomed => doomed ≠ some t.id) (by simp) hspare
        fun c hc doomed hd => ?_
      have hsession' : t.sessionOf u c doomed = true := by
        have h := World.sessionOf_earlier hc hsession
        simp only [RefreshToken.sessionOf, Bool.and_eq_true, decide_eq_true_eq] at h ⊢
        exact ⟨h.1, hd⟩
      have hrevoked := World.sessions_revoke env ht hsession' "rotated" revokedAt
      simp only [Bool.toNat_false, Bool.toNat_true] at htally
      omega
    · left
      have hle := World.sessions_exec_le env q.world (u := u) (s := .revokeToken id "rotated" revokedAt)
        rfl q.world.now none
      unfold demand at hroom ⊢
      rw [hworld, World.exec_now]
      simp only [Bool.toNat_false, Bool.toNat_true] at htally
      omega
    · exact .inr (covered_of_recounted hrec)

variable {w : World} {logins : ι → LoginCall} {ipAddress userAgent : κ → Option String}

omit [Fintype κ] in
theorem conforms_start (i : ι ⊕ κ) :
    (monitors env u raw i).Conforms (final i)
      ((sessionCalls env w logins raw ipAddress userAgent).phase (monitors env u raw) phase₀ i)
      ((sessionCalls env w logins raw ipAddress userAgent).prog i) := by
  cases i with
  | inl j => exact EvictionPhase.conforms_login _ _ _ _
  | inr k => exact RotationPhase.conforms_refreshTokens (ipAddress k) (userAgent k)

theorem capInv_reach (h0 : w.sessions u w.now none ≤ env.maxSessions)
    (hr : Reach (World.machine env) (KeepsCap env u raw)
      (sessionCalls env w logins raw ipAddress userAgent) q) : CapInv env u raw q := by
  have hconf : ∀ i, (monitors env u raw i).Conforms (final i)
      ((sessionCalls env w logins raw ipAddress userAgent).phase (monitors env u raw) phase₀ i)
      ((sessionCalls env w logins raw ipAddress userAgent).prog i) := conforms_start
  refine hr.invariant_of_conforms hconf (capInv_start h0)
    (fun q n hI _ => capInv_tick hI n) fun q i s k hI hC hp ha => ?_
  cases i with
  | inl j => exact capInv_login hI hC hp ha
  | inr k => exact capInv_refresh hI hC hp ha

/-- A login that has finished has no eviction left, so what it covers is within the maximum. -/
theorem sessions_le_of_done (h0 : w.sessions u w.now none ≤ env.maxSessions)
    (hr : Reach (World.machine env) (KeepsCap env u raw)
      (sessionCalls env w logins raw ipAddress userAgent) q)
    (hdone : ∀ j, (q.result? (.inl j)).isSome = true) :
    q.world.sessions u q.world.now none ≤ env.maxSessions := by
  have hI := capInv_reach h0 hr
  have hsettled : ∀ j, (eviction env u raw q j).settled := by
    intro j
    obtain ⟨r, hres⟩ := Option.isSome_iff_exists.mp (hdone j)
    exact final_of_result (m := monitors env u raw) (F := final) hr (conforms_start (.inl j)) hres
  rcases hI.covered with hdemand | ⟨j, hj⟩
  · exact Nat.le_trans (Nat.le_add_right _ _) hdemand
  · have hs := hsettled j
    have hclock := hI.clock j
    revert hs hclock hj
    cases eviction env u raw q j with
    | idle => exact fun h => h.elim
    | evicting c left =>
      cases left with
      | zero =>
        intro hcover _ hclock
        have hcover : q.world.sessions u c none + owed env u raw q ≤ env.maxSessions + 0 := hcover
        have hlater : q.world.sessions u q.world.now none ≤ q.world.sessions u c none :=
          World.sessions_later (hclock c rfl)
        omega
      | succ left => exact fun _ h => h.elim
    | _ => exact fun _ h => h.elim

/-- Where nothing is owed, no count misses a session, and a search that finds none has found that
there is none. -/
theorem keepsCap_login (hI : CapInv env u raw q) (hnone : owed env u raw q = 0) (j : ι) :
    KeepsCap env u raw q (.run (.inl j)) := by
  intro hm
  left
  have hclock := hI.clock j
  rw [demand, hnone]
  rw [hnone] at hm
  revert hm hclock
  cases eviction env u raw q j with
  | counting c => exact fun hm => (by simp [EvictionPhase.misses] at hm)
  | seeking c left =>
    intro hm hclock
    have hzero : q.world.sessions u c none = 0 := of_decide_eq_true hm
    have hlater : q.world.sessions u q.world.now none ≤ q.world.sessions u c none :=
      World.sessions_later (hclock c rfl)
    omega
  | _ => exact fun hm => (by cases hm)

end SessionPool

/-- Where no step misses a session or replaces one that is gone, the user has at most `maxSessions`
active tokens once the logins have finished. -/
theorem session_cap [Fintype κ] {w : World} {logins : ι → LoginCall}
    {ipAddress userAgent : κ → Option String} {q : SessionPool ι κ}
    (hr : Reach (World.machine env) (SessionPool.KeepsCap env u raw)
      (sessionCalls env w logins raw ipAddress userAgent) q)
    (h0 : (w.refreshTokens.select fun t => t.userId = u && t.active w.now).length ≤ env.maxSessions)
    (hdone : ∀ j, (q.result? (.inl j)).isSome = true) :
    (q.world.refreshTokens.select fun t => t.userId = u && t.active q.world.now).length ≤
      env.maxSessions := by
  rw [World.select_active_eq] at h0 ⊢
  exact SessionPool.sessions_le_of_done h0 hr hdone

/-- Logins alone keep the maximum, in every order of their steps. -/
theorem logins_keep_cap {w : World} {logins : ι → LoginCall} {raw : Empty → Nat}
    {ipAddress userAgent : Empty → Option String} {q : SessionPool ι Empty}
    (hr : Reach (World.machine env) (fun _ _ => True)
      (sessionCalls env w logins raw ipAddress userAgent) q)
    (h0 : w.sessions u w.now none ≤ env.maxSessions)
    (hdone : ∀ j, (q.result? (.inl j)).isSome = true) :
    q.world.sessions u q.world.now none ≤ env.maxSessions := by
  have hkeeps : Reach (World.machine env) (SessionPool.KeepsCap env u raw)
      (sessionCalls env w logins raw ipAddress userAgent) q := by
    clear hdone
    induction hr with
    | refl => exact .refl
    | step l _ _ ih =>
      refine .step l ih ?_
      match l with
      | .tick n => trivial
      | .run (.inr k) => exact k.elim
      | .run (.inl j) =>
        exact SessionPool.keepsCap_login (SessionPool.capInv_reach h0 ih)
          (tally_eq_zero fun k => k.elim) j
  exact SessionPool.sessions_le_of_done h0 hkeeps hdone

/-! ### A count between `revokeToken` and the insert -/

/-- The registered user has logged in four times more: raw tokens 3, 6, 9, 12 and 15. -/
def fiveSessions : World :=
  runs Env.plain registered (List.replicate 4 (.request (.login "a@x" "p" none none)))

/-- A login of the user beside a refresh. -/
def loginAndRefresh (raw : Nat) : SessionPool Unit Unit :=
  sessionCalls Env.plain fiveSessions (fun _ => ⟨"a@x", "p", none, none⟩) (fun _ => raw)
    (fun _ => none) fun _ => none

/-- The refresh revokes its row, the login runs from its start to its end, the refresh goes on. -/
def countBetween : List (Label (Unit ⊕ Unit)) :=
  List.replicate 4 (.run (.inr ())) ++ List.replicate 19 (.run (.inl ())) ++
    List.replicate 7 (.run (.inr ()))

theorem session_cap_exceeded :
    ¬ ∀ (w : World), Reachable Env.plain w → ∀ (u : Nat) (logins : Unit → LoginCall)
        (raw : Unit → Nat) (schedule : List (Label (Unit ⊕ Unit))),
      (w.refreshTokens.select fun t => t.userId = u && t.active w.now).length ≤
        Env.plain.maxSessions →
      let q := (sessionCalls Env.plain w logins raw (fun _ => none) fun _ => none).runs
        (World.machine Env.plain) schedule
      (∀ i, (q.result? i).isSome = true) →
      (q.world.refreshTokens.select fun t => t.userId = u && t.active q.world.now).length ≤
        Env.plain.maxSessions := by
  intro h
  have hfive : Reachable Env.plain fiveSessions := registered_reachable.after _
  have hcap := h fiveSessions hfive 1 (fun _ => ⟨"a@x", "p", none, none⟩) (fun _ => 3) countBetween
    (by decide +kernel) fun i => match i with
      | .inl () => by decide +kernel
      | .inr () => by decide +kernel
  revert hcap
  decide +kernel

/-- The refresh of the newest session rotates between the login's insert and its count. -/
def rotationBeforeCount : SessionPool Unit Unit :=
  (loginAndRefresh 15).runs (World.machine Env.plain)
    (List.replicate 3 (.run (.inr ())) ++ List.replicate 10 (.run (.inl ())) ++
      List.replicate 8 (.run (.inr ())) ++ List.replicate 9 (.run (.inl ())))

theorem session_cap_rotation_before_count :
    rotationBeforeCount.result? (.inr ()) = some (.ok ⟨20, 900, 1⟩) ∧
      (rotationBeforeCount.world.refreshTokens.select
        fun t => t.userId = 1 && t.active rotationBeforeCount.world.now).length ≤
          Env.plain.maxSessions := by
  have hr : Reach (World.machine Env.plain) (SessionPool.KeepsCap Env.plain 1 fun _ => 15)
      (loginAndRefresh 15) rotationBeforeCount := Reach.of_checked (by decide +kernel)
  exact ⟨by decide +kernel, session_cap hr (by decide +kernel) (by decide +kernel)⟩

end Cap
end Auth
