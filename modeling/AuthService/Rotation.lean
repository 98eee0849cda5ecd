import AuthService.Requests
import AuthService.Resumption.Pool
import Mathlib.Data.Fintype.Basic

/-!
# AuthService.Rotation

Concurrent `TokenService.refreshTokens` calls. `RotationPhase` says where a call stands, read off
the statements it has executed: lookup, expiry check, `revokeToken`, insert, link.

* `conforms_refreshTokens`   — a call moves through the phases in this order only.
* `refreshTokens_single_use` — calls on one token, as long as no rotating `UPDATE` hits a revoked
  row: at most one returns a new pair.
* `revokeAllUserTokens_barrier` — one bulk revocation among calls on tokens of its user, as long as
  it runs while no call stands between its lookup and its insert: nothing of the user stays active.

Neither condition is enforced: the lookup takes no lock and the `UPDATE` has no `revoked = false`,
and both failing runs are given below.
-/

namespace Auth

open Relational Resumption Prog

/-- How far a `refreshTokens` call has come. -/
inductive RotationPhase where
  | start
  | reuse (existing : RefreshToken)
  | found (existing : RefreshToken)
  | live (existing : RefreshToken)
  | rotated (existing : RefreshToken)
  | issued (existing new : RefreshToken)
  | failed
  deriving DecidableEq

namespace RotationPhase

def next : RotationPhase → (s : Stmt) → Except Exn s.Reply → RotationPhase
  | .start, .findRefreshTokenByHash _, .ok none => .failed
  | .start, .findRefreshTokenByHash _, .ok (some t) => if t.revoked then .reuse t else .found t
  | .found t, .newDate, .ok now => if t.expiresAt < now then .failed else .live t
  | .live t, .revokeToken _ _ _, .ok _ => .rotated t
  | .rotated t, .createRefreshToken _, .ok new => .issued t new
  | φ, _, .ok _ => φ
  | _, _, .error _ => .failed

def allowed (r : Nat) : RotationPhase → Stmt → Prop
  | .start, .findRefreshTokenByHash h => h = hashToken r
  | .reuse t, .revokeAllByUserId u reason _ => u = t.userId ∧ reason = "token_reuse_detected"
  | .live t, .revokeToken id reason _ => id = t.id ∧ reason = "rotated"
  | .rotated t, .createRefreshToken data => data.userId = t.userId
  | .issued t new, .setReplacedBy id newId => id = t.id ∧ newId = new.id
  | .issued _ new, .updateLastUsed id _ => id = new.id
  | .reuse _, .newDate => True
  | .found _, .newDate => True
  | .live _, .newDate => True
  | .rotated _, .newDate => True
  | .issued _ _, .newDate => True
  | .rotated _, .uuidv4 => True
  | _, _ => False

/-- A new pair is returned only where a successor has been inserted. -/
def final : RotationPhase → Except Exn RefreshResult → Prop
  | .issued _ _, _ => True
  | _, .ok _ => False
  | _, .error _ => True

def monitor (r : Nat) : Monitor sig RotationPhase := ⟨next, allowed r⟩

variable {env : Env} {r : Nat}

theorem final_error (φ : RotationPhase) (e : Exn) : final φ (.error e) := by
  cases φ <;> trivial

theorem conforms_rotate (t : RefreshToken) (ipAddress userAgent : Option String) :
    (monitor r).Conforms final (.live t) (TokenService.rotate env t ipAddress userAgent) := by
  unfold TokenService.rotate RefreshTokenRepository.revokeToken
  simp only [bind_eq, bind_assoc]
  refine Monitor.conforms_perform_bind trivial (fun revokedAt => ?_) fun e => final_error _ _
  refine Monitor.conforms_perform_bind ⟨rfl, rfl⟩ (fun _ => ?_) fun e => final_error _ _
  show (monitor r).Conforms final (.rotated t) _
  unfold TokenService.generateRefreshToken RefreshTokenRepository.create
  simp only [bind_eq, bind_assoc]
  refine Monitor.conforms_perform_bind trivial (fun rawToken => ?_) fun e => final_error _ _
  refine Monitor.conforms_perform_bind trivial (fun now => ?_) fun e => final_error _ _
  refine Monitor.conforms_perform_bind trivial (fun issuedAt => ?_) fun e => final_error _ _
  refine Monitor.conforms_perform_bind rfl (fun new => ?_) fun e => final_error _ _
  show (monitor r).Conforms final (.issued t new) _
  unfold RefreshTokenRepository.setReplacedBy RefreshTokenRepository.updateLastUsed
  simp only [bind_eq, bind_assoc]
  refine Monitor.conforms_perform_bind ⟨rfl, rfl⟩ (fun _ => ?_) fun e => final_error _ _
  refine Monitor.conforms_perform_bind trivial (fun lastUsedAt => ?_) fun e => final_error _ _
  refine Monitor.conforms_perform_bind rfl (fun _ => ?_) fun e => final_error _ _
  exact trivial

theorem conforms_refreshTokens (ipAddress userAgent : Option String) :
    (monitor r).Conforms final .start
      (TokenService.refreshTokens env r ipAddress userAgent) := by
  unfold TokenService.refreshTokens
  refine Monitor.conforms_perform_bind rfl (fun existing? => ?_) fun e => final_error _ _
  cases existing? with
  | none => exact trivial
  | some t =>
    by_cases ht : t.revoked = true
    · simp only [monitor, next, ht, if_true]
      unfold TokenService.revokeAllUserTokens RefreshTokenRepository.revokeAllByUserId
      simp only [bind_eq, bind_assoc]
      refine Monitor.conforms_perform_bind trivial (fun revokedAt => ?_) fun e => final_error _ _
      refine Monitor.conforms_perform_bind ⟨rfl, rfl⟩ (fun _ => ?_) fun e => final_error _ _
      exact trivial
    · simp only [monitor, next, ht, if_false, Bool.false_eq_true]
      refine Monitor.conforms_perform_bind trivial (fun now => ?_) fun e => final_error _ _
      by_cases hexp : t.expiresAt < now
      · simp only [hexp, if_true]
        exact final_error _ _
      · simp only [next, hexp, if_false]
        exact conforms_rotate t ipAddress userAgent

/-- The row an accepted call works on. -/
def held : RotationPhase → Option RefreshToken
  | .found t => some t
  | .live t => some t
  | .rotated t => some t
  | .issued t _ => some t
  | _ => none

/-- The row a call has revoked in order to replace it. -/
def spent : RotationPhase → Option RefreshToken
  | .rotated t => some t
  | .issued t _ => some t
  | _ => none

theorem held_of_spent {φ : RotationPhase} {t : RefreshToken} (h : φ.spent = some t) :
    φ.held = some t := by
  cases φ <;> first | exact h | cases h

theorem not_deletes_of_allowed {φ : RotationPhase} {s : Stmt} (ha : allowed r φ s) :
    s.deletesRefreshTokens = false := by
  cases s
  case deleteExpiredAndRevoked | deleteCredential => cases φ <;> exact ha.elim
  all_goals rfl

/-- A call comes to work on a row only by finding it, unrevoked, under the hash it presents. -/
theorem held_next {w : World} {φ : RotationPhase} {s : Stmt} {reply : Except Exn s.Reply}
    {t : RefreshToken} (ha : allowed r φ s) (hr : (World.exec env s w).1 = reply)
    (h : (next φ s reply).held = some t) :
    φ.held = some t ∨
      φ = .start ∧ next φ s reply = .found t ∧ t ∈ w.refreshTokens.rows ∧
        t.tokenHash = hashToken r ∧ t.revoked = false := by
  revert h
  fun_cases next φ s reply
  all_goals intro h
  case case3 tokenHash t₀ hrev =>
    cases h
    have hfind : w.refreshTokens.find? (fun t => t.tokenHash = tokenHash) = some t :=
      Except.ok.inj hr
    obtain ⟨hmem, hhash⟩ := Table.find?_mem hfind
    refine .inr ⟨rfl, rfl, hmem, ?_, by simpa using hrev⟩
    rw [← show tokenHash = hashToken r from ha]
    simpa using hhash
  all_goals first | exact .inl h | cases h

/-- A call spends the row it works on only by the `revokeToken` on it. -/
theorem spent_next {φ : RotationPhase} {s : Stmt} {reply : Except Exn s.Reply} {t : RefreshToken}
    (ha : allowed r φ s) (h : (next φ s reply).spent = some t) :
    φ.spent = some t ∨
      φ = .live t ∧ ∃ revokedAt, s = .revokeToken t.id "rotated" revokedAt := by
  revert h
  fun_cases next φ s reply
  all_goals intro h
  case case6 t₀ id reason revokedAt a =>
    cases h
    obtain ⟨rfl, rfl⟩ := ha
    exact .inr ⟨rfl, revokedAt, rfl⟩
  all_goals first | exact .inl h | cases h

end RotationPhase

/-! ## Calls that present the same token -/

section SingleUse

variable {ι : Type} [DecidableEq ι] {env : Env} {r : Nat}

abbrev RefreshPool (ι : Type) : Type := Pool sig World ι fun _ => RefreshResult

/-- Any number of `refreshTokens(r)` calls about to start. -/
def refreshCalls (env : Env) (r : Nat) (w : World) (ipAddress userAgent : ι → Option String) :
    RefreshPool ι :=
  Pool.start w fun i => TokenService.refreshTokens env r (ipAddress i) (userAgent i)

namespace RefreshPool

def rotation (r : Nat) (q : RefreshPool ι) (i : ι) : RotationPhase :=
  q.phase (fun _ => RotationPhase.monitor r) (fun _ => .start) i

/-- A rotating `UPDATE` of `s` would hit a row that is still unrevoked. -/
def hitsLiveRow (w : World) : Stmt → Bool
  | .revokeToken id "rotated" _ => w.refreshTokens.rows.all fun t => t.id ≠ id || !t.revoked
  | _ => true

/-- No call executes its rotating `UPDATE` on a row that is revoked already. -/
def RevokesLiveRow (q : RefreshPool ι) : Label ι → Prop
  | .tick _ => True
  | .run i => (q.next? i).all (hitsLiveRow q.world) = true

instance (q : RefreshPool ι) : (l : Label ι) → Decidable (RevokesLiveRow q l)
  | .tick _ => .isTrue trivial
  | .run _ => inferInstanceAs (Decidable (_ = true))

/-- All calls work on one row, and at most one of them has spent it. -/
structure SingleUse (r : Nat) (q : RefreshPool ι) : Prop where
  held : ∀ i t, (q.rotation r i).held = some t →
    ∃ t' ∈ q.world.refreshTokens.rows, t'.id = t.id ∧ t'.tokenHash = hashToken r ∧
      ((q.rotation r i).spent = some t → t'.revoked = true)
  unique : ∀ i j t u, (q.rotation r i).spent = some t → (q.rotation r j).spent = some u → i = j

variable {q : RefreshPool ι} {i j : ι} {s : Stmt}
  {k : Except Exn s.Reply → AuthProg RefreshResult}

theorem rotation_self (hp : q.prog i = .call s k) :
    rotation r (q.step (World.machine env) (.run i)) i =
      (rotation r q i).next s (World.exec env s q.world).1 :=
  phase_step_self hp

theorem rotation_other (hij : j ≠ i) :
    rotation r (q.step (World.machine env) (.run i)) j = rotation r q j :=
  phase_step_other hij

theorem singleUse_start (w : World) (ipAddress userAgent : ι → Option String) :
    SingleUse r (refreshCalls env r w ipAddress userAgent) :=
  ⟨fun _ _ h => (by cases h), fun _ _ _ _ h => (by cases h)⟩

theorem singleUse_tick (hI : SingleUse r q) (n : Nat) :
    SingleUse r (q.step (World.machine env) (.tick n)) := ⟨hI.held, hI.unique⟩

/-- The row a call works on after any call's step. -/
theorem held_step (hI : SingleUse r q) (hp : q.prog i = .call s k)
    (ha : RotationPhase.allowed r (rotation r q i) s) {t : RefreshToken}
    (h : (rotation r (q.step (World.machine env) (.run i)) j).held = some t) :
    ∃ t' ∈ q.world.refreshTokens.rows, t'.id = t.id ∧ t'.tokenHash = hashToken r ∧
      ((rotation r q j).spent = some t → t'.revoked = true) := by
  by_cases hij : j = i
  · subst hij
    rw [rotation_self hp] at h
    rcases RotationPhase.held_next ha rfl h with h | ⟨hstart, -, hmem, hhash, -⟩
    · exact hI.held j t h
    · exact ⟨t, hmem, rfl, hhash, fun hs => by rw [hstart] at hs; cases hs⟩
  · rw [rotation_other hij] at h
    exact hI.held j t h

theorem singleUse_step (hI : SingleUse r q) (hC : RevokesLiveRow q (.run i))
    (hp : q.prog i = .call s k) (ha : RotationPhase.allowed r (rotation r q i) s) :
    SingleUse r (q.step (World.machine env) (.run i)) := by
  have hdel := RotationPhase.not_deletes_of_allowed ha
  -- a call that spends its row at this step finds it unrevoked, so no other call has spent it
  have hfirst : ∀ t, (rotation r (q.step (World.machine env) (.run i)) i).spent = some t →
      (rotation r q i).spent = some t ∨
        (∃ revokedAt, s = .revokeToken t.id "rotated" revokedAt) ∧
          ∀ j u, (rotation r q j).spent ≠ some u := by
    intro t ht
    rw [rotation_self hp] at ht
    rcases RotationPhase.spent_next ha ht with h | ⟨hlive, revokedAt, rfl⟩
    · exact .inl h
    · refine .inr ⟨⟨revokedAt, rfl⟩, fun j u hu => ?_⟩
      obtain ⟨ti, hti, hidi, hhashi, -⟩ := hI.held i t (by rw [hlive]; rfl)
      obtain ⟨tj, htj, -, hhashj, hrev⟩ := hI.held j u (RotationPhase.held_of_spent hu)
      have hsame : tj = ti := Table.eq_of_uniq htj hti (hhashj.trans hhashi.symm)
      have hall : hitsLiveRow q.world (.revokeToken t.id "rotated" revokedAt) = true := by
        have hC' : (q.next? i).all (hitsLiveRow q.world) = true := hC
        rwa [Pool.next?_of_call hp] at hC'
      have hlive := List.all_eq_true.mp hall ti hti
      rw [← hsame] at hidi hlive
      simp [hidi, hrev hu] at hlive
  refine ⟨fun j t hj => ?_, fun j l t u hj hl => ?_⟩
  · obtain ⟨t₁, hmem, hid, hhash, hrev⟩ := held_step hI hp ha hj
    rw [Pool.world_step hp]
    obtain ⟨t₂, hmem₂, hev⟩ := World.exec_evolves env hdel hmem
    refine ⟨t₂, hmem₂, hev.id_eq.trans hid, hev.tokenHash_eq.trans hhash, fun hs => ?_⟩
    by_cases hij : j = i
    · subst hij
      rcases hfirst t hs with h | ⟨⟨revokedAt, rfl⟩, -⟩
      · exact hev.revoked (hrev h)
      · exact World.exec_revokeToken hmem₂ (hev.id_eq.trans hid)
    · rw [rotation_other hij] at hs
      exact hev.revoked (hrev hs)
  · have hone : ∀ j l, (∃ t, (rotation r (q.step (World.machine env) (.run i)) j).spent = some t) →
        (∃ t, (rotation r (q.step (World.machine env) (.run i)) l).spent = some t) → j = l := by
      refine unique_step (i := i) (P := fun j => ∃ t, (rotation r q j).spent = some t) ?_
        (fun j hj h => ?_) fun h => ?_
      · rintro j l ⟨t, hj⟩ ⟨u, hl⟩
        exact hI.unique j l t u hj hl
      · rwa [rotation_other hj] at h
      · obtain ⟨t, ht⟩ := h
        refine (hfirst t ht).imp (fun h => ⟨t, h⟩) ?_
        rintro ⟨-, hnone⟩ j ⟨u, hu⟩
        exact hnone j u hu
    exact hone j l ⟨t, hj⟩ ⟨u, hl⟩

end RefreshPool

open RefreshPool in
/-- As long as every rotating `UPDATE` hits a live row, one token buys one new pair. -/
theorem refreshTokens_single_use {w : World} {ipAddress userAgent : ι → Option String}
    {q : RefreshPool ι}
    (hr : Reach (World.machine env) RevokesLiveRow (refreshCalls env r w ipAddress userAgent) q)
    {i j : ι} {a b : RefreshResult} (hi : q.result? i = some (.ok a))
    (hj : q.result? j = some (.ok b)) : i = j := by
  have hconf : ∀ i, (RotationPhase.monitor r).Conforms RotationPhase.final
      (rotation r (refreshCalls env r w ipAddress userAgent) i)
      ((refreshCalls env r w ipAddress userAgent).prog i) :=
    fun i => RotationPhase.conforms_refreshTokens (ipAddress i) (userAgent i)
  have hI : SingleUse r q :=
    hr.invariant_of_conforms hconf (singleUse_start w ipAddress userAgent)
      (fun q n hI _ => singleUse_tick hI n) fun q i s k hI hC hp ha => singleUse_step hI hC hp ha
  have hspent : ∀ i a, q.result? i = some (.ok a) → ∃ t, (rotation r q i).spent = some t := by
    intro i a hi
    have hfin : RotationPhase.final (rotation r q i) (.ok a) :=
      final_of_result (m := fun _ => RotationPhase.monitor r)
        (F := fun _ => RotationPhase.final) hr (hconf i) hi
    revert hfin
    cases rotation r q i with
    | issued t new => exact fun _ => ⟨t, rfl⟩
    | _ => exact fun h => h.elim
  obtain ⟨t, ht⟩ := hspent i a hi
  obtain ⟨u, hu⟩ := hspent j b hj
  exact hI.unique i j t u ht hu

/-! ### Both lookups before the first `UPDATE` -/

/-- Both calls look the token up, then the first runs to its end, then the second. -/
def lookupsFirst : List (Label Bool) :=
  [.run false, .run true] ++ List.replicate 10 (.run false) ++ List.replicate 10 (.run true)

def doubleUse : RefreshPool Bool :=
  (refreshCalls Env.plain 3 registered (fun _ => none) fun _ => none).runs
    (World.machine Env.plain) lookupsFirst

theorem refreshTokens_not_single_use :
    ¬ ∀ (w : World), Reachable Env.plain w → ∀ (r : Nat) (schedule : List (Label Bool))
        (i j : Bool) (a b : RefreshResult),
      ((refreshCalls Env.plain r w (fun _ => none) fun _ => none).runs (World.machine Env.plain)
        schedule).result? i = some (.ok a) →
      ((refreshCalls Env.plain r w (fun _ => none) fun _ => none).runs (World.machine Env.plain)
        schedule).result? j = some (.ok b) → i = j := by
  intro h
  have hfalse : doubleUse.result? false = some (.ok ⟨5, 900, 1⟩) := by rfl
  have htrue : doubleUse.result? true = some (.ok ⟨7, 900, 1⟩) := by rfl
  cases h registered registered_reachable 3 lookupsFirst false true _ _ hfalse htrue

/-- One call after the other: the second finds the row revoked. -/
def oneAfterTheOther : List (Label Bool) :=
  List.replicate 11 (.run false) ++ List.replicate 3 (.run true)

def sequentialUse : RefreshPool Bool :=
  (refreshCalls Env.plain 3 registered (fun _ => none) fun _ => none).runs
    (World.machine Env.plain) oneAfterTheOther

theorem refreshTokens_single_use_sequential :
    sequentialUse.result? true = some (.error (.error ErrorMessages.AUTH_TOKEN_REUSE_DETECTED)) ∧
      sequentialUse.result? false = some (.ok ⟨5, 900, 1⟩) ∧ false = false := by
  have hr : Reach (World.machine Env.plain) RefreshPool.RevokesLiveRow
      (refreshCalls Env.plain 3 registered (fun _ => none) fun _ => none) sequentialUse :=
    Reach.of_checked (by decide +kernel)
  have hok : sequentialUse.result? false = some (.ok ⟨5, 900, 1⟩) := by rfl
  exact ⟨by rfl, hok, refreshTokens_single_use hr hok hok⟩

end SingleUse

/-! ## One bulk revocation among the calls -/

section Barrier

variable {ι : Type} [DecidableEq ι] {env : Env} {u : Nat} {raw : ι → Nat}

/-- Thread `none` is the bulk revocation, thread `some i` a refresh call. -/
abbrev BarrierRet : Option ι → Type
  | none => Unit
  | some _ => RefreshResult

abbrev BarrierPool (ι : Type) : Type := Pool sig World (Option ι) BarrierRet

def barrierCalls (env : Env) (u : Nat) (reason : String) (w : World) (raw : ι → Nat)
    (ipAddress userAgent : ι → Option String) : BarrierPool ι :=
  Pool.start w fun
    | none => TokenService.revokeAllUserTokens u reason
    | some i => TokenService.refreshTokens env (raw i) (ipAddress i) (userAgent i)

def isBulk : Stmt → Bool
  | .revokeAllByUserId _ _ _ => true
  | _ => false

/-- Has the bulk `UPDATE` been executed? -/
def bulkMonitor (u : Nat) : Monitor sig Bool where
  next done s _ := done || isBulk s
  allowed done s := done = false ∧ (s = .newDate ∨ ∃ reason at', s = .revokeAllByUserId u reason at')

theorem conforms_revokeAllUserTokens (reason : String) :
    (bulkMonitor u).Conforms (fun done r => ∀ a, r = .ok a → done = true) false
      (TokenService.revokeAllUserTokens u reason) := by
  unfold TokenService.revokeAllUserTokens RefreshTokenRepository.revokeAllByUserId
  simp only [bind_eq, bind_assoc]
  refine Monitor.conforms_perform_bind ⟨rfl, .inl rfl⟩ (fun revokedAt => ?_) fun e a h => by cases h
  refine Monitor.conforms_perform_bind ⟨rfl, .inr ⟨reason, revokedAt, rfl⟩⟩ (fun n => ?_)
    fun e a h => by cases h
  exact fun a _ => rfl

namespace BarrierPool

abbrev Phase : Option ι → Type
  | none => Bool
  | some _ => RotationPhase

def monitors (u : Nat) (raw : ι → Nat) : (i : Option ι) → Monitor sig (Phase i)
  | none => bulkMonitor u
  | some i => RotationPhase.monitor (raw i)

def phase₀ : (i : Option ι) → Phase i
  | none => false
  | some _ => .start

/-- The bulk revocation returns only after its `UPDATE`. -/
def final : (i : Option ι) → Phase i → Except Exn (BarrierRet i) → Prop
  | none => fun done r => ∀ a, r = .ok a → done = true
  | some _ => RotationPhase.final

def bulkDone (u : Nat) (raw : ι → Nat) (q : BarrierPool ι) : Bool :=
  q.phase (monitors u raw) phase₀ none

def rotation (u : Nat) (raw : ι → Nat) (q : BarrierPool ι) (i : ι) : RotationPhase :=
  q.phase (monitors u raw) phase₀ (some i)

end BarrierPool

/-- A call that has found a live token of `u` and not yet inserted its successor. -/
def RotationPhase.inFlight (u : Nat) (now : Int) : RotationPhase → Bool
  | .found t => t.userId = u && !decide (t.expiresAt < now)
  | .live t => t.userId = u
  | .rotated t => t.userId = u
  | _ => false

/-- Where every row of `u` is revoked, no step takes a call into flight. -/
theorem RotationPhase.inFlight_next {r : Nat} {w : World} {φ : RotationPhase} {s : Stmt}
    {reply : Except Exn s.Reply} (ha : allowed r φ s) (hr : (World.exec env s w).1 = reply)
    (h : φ.inFlight u w.now = false)
    (hrev : ∀ t ∈ w.refreshTokens.rows, t.userId = u → t.revoked = true) :
    (next φ s reply).inFlight u w.now = false := by
  fun_cases next φ s reply
  case case3 tokenHash t ht =>
    obtain ⟨hmem, -⟩ := Table.find?_mem (Except.ok.inj hr : w.refreshTokens.find? _ = some t)
    by_cases hu : t.userId = u
    · exact absurd (hrev t hmem hu) ht
    · simp [inFlight, hu]
  case case5 t now hexp =>
    have hnow : w.now = now := Except.ok.inj hr
    simpa [inFlight, hnow, hexp] using h
  all_goals first | exact h | rfl

namespace BarrierPool

/-- The bulk `UPDATE` is not executed while a call is in flight. -/
def NoneInFlight (u : Nat) (raw : ι → Nat) (q : BarrierPool ι) : Label (Option ι) → Prop
  | .run none => (q.next? none).any isBulk = true →
      ∀ i, (rotation u raw q i).inFlight u q.world.now = false
  | _ => True

instance [Fintype ι] (q : BarrierPool ι) :
    (l : Label (Option ι)) → Decidable (NoneInFlight u raw q l)
  | .run none => inferInstanceAs (Decidable (_ → _))
  | .run (some _) => .isTrue trivial
  | .tick _ => .isTrue trivial

structure Barrier (u : Nat) (raw : ι → Nat) (q : BarrierPool ι) : Prop where
  revoked : bulkDone u raw q = true →
    ∀ t ∈ q.world.refreshTokens.rows, t.userId = u → t.revoked = true
  landed : bulkDone u raw q = true → ∀ i, (rotation u raw q i).inFlight u q.world.now = false

variable {q : BarrierPool ι}

theorem barrier_start (reason : String) (w : World) (ipAddress userAgent : ι → Option String) :
    Barrier u raw (barrierCalls env u reason w raw ipAddress userAgent) :=
  ⟨fun h => (by cases h), fun h => (by cases h)⟩

theorem barrier_tick (hI : Barrier u raw q) (n : Nat) :
    Barrier u raw (q.step (World.machine env) (.tick n)) := by
  refine ⟨hI.revoked, fun hd i => ?_⟩
  have hi := hI.landed hd i
  show (rotation u raw q i).inFlight u (q.world.now + n) = false
  cases hφ : rotation u raw q i with
  | found t =>
    simp only [hφ, RotationPhase.inFlight, Bool.and_eq_false_iff, Bool.not_eq_false',
      decide_eq_true_eq] at hi ⊢
    rcases hi with hi | hi
    · exact .inl hi
    · exact .inr (by omega)
  | _ => rw [hφ] at hi; exact hi

/-- The bulk `UPDATE` revokes every row there is, and no call is about to add one. -/
theorem barrier_bulk (hC : NoneInFlight u raw q (.run none)) {s : Stmt}
    {k : Except Exn s.Reply → AuthProg Unit} (hp : q.prog none = .call s k)
    (ha : (bulkMonitor u).allowed (bulkDone u raw q) s) :
    Barrier u raw (q.step (World.machine env) (.run none)) := by
  have hbulk : bulkDone u raw (q.step (World.machine env) (.run none)) =
      (bulkDone u raw q || isBulk s) := phase_step_self (m := monitors u raw) hp
  have hrot : ∀ i, rotation u raw (q.step (World.machine env) (.run none)) i = rotation u raw q i :=
    fun i => phase_step_other (by simp)
  obtain ⟨hpending, rfl | ⟨reason, revokedAt, rfl⟩⟩ := ha
  · have hstill : bulkDone u raw (q.step (World.machine env) (.run none)) = false := by
      rw [hbulk, hpending]; rfl
    refine ⟨fun h => ?_, fun h => ?_⟩
    · rw [hstill] at h; cases h
    · rw [hstill] at h; cases h
  · refine ⟨fun _ t ht hu => ?_, fun _ i => ?_⟩
    · rw [Pool.world_step hp] at ht
      have ht' : t ∈ (World.exec env (.revokeAllByUserId u reason revokedAt)
        q.world).2.refreshTokens.rows := ht
      exact World.exec_revokeAllByUserId ht' hu
    · rw [hrot, Pool.world_step hp]
      exact hC (by rw [Pool.next?_of_call hp]; rfl) i

/-- A refresh call after the bulk `UPDATE` inserts nothing for `u` and finds nothing live of `u`. -/
theorem barrier_rotation (hI : Barrier u raw q) {i : ι} {s : Stmt}
    {k : Except Exn s.Reply → AuthProg RefreshResult} (hp : q.prog (some i) = .call s k)
    (ha : RotationPhase.allowed (raw i) (rotation u raw q i) s) :
    Barrier u raw (q.step (World.machine env) (.run (some i))) := by
  have hself : rotation u raw (q.step (World.machine env) (.run (some i))) i =
      (rotation u raw q i).next s (World.exec env s q.world).1 :=
    phase_step_self (m := monitors u raw) hp
  have hother : ∀ j, j ≠ i →
      rotation u raw (q.step (World.machine env) (.run (some i))) j = rotation u raw q j :=
    fun j hj => phase_step_other (by simpa using hj)
  have hbulk : bulkDone u raw (q.step (World.machine env) (.run (some i))) = bulkDone u raw q :=
    phase_step_other (by simp)
  refine ⟨fun hd t ht hu => ?_, fun hd j => ?_⟩
  · rw [hbulk] at hd
    rw [Pool.world_step hp] at ht
    rcases World.exec_origin ht with ⟨t₀, hmem, hev⟩ | ⟨data, rfl, rfl⟩
    · exact hev.revoked (hI.revoked hd t₀ hmem (hev.userId_eq.symm.trans hu))
    · -- an insert: the call is past its `revokeToken`, hence in flight
      have hi := hI.landed hd i
      cases hφ : rotation u raw q i with
      | rotated t₁ =>
        rw [hφ] at ha hi
        have hdata : data.userId = t₁.userId := ha
        have hu₁ : t₁.userId = u := hdata.symm.trans hu
        simp [RotationPhase.inFlight, hu₁] at hi
      | _ => rw [hφ] at ha; exact ha.elim
  · rw [hbulk] at hd
    have hnow : (q.step (World.machine env) (.run (some i))).world.now = q.world.now := by
      rw [Pool.world_step hp]; exact World.exec_now env s q.world
    rw [hnow]
    by_cases hj : j = i
    · subst hj
      rw [hself]
      refine RotationPhase.inFlight_next ha rfl (hI.landed hd j) fun t ht hu => ?_
      exact hI.revoked hd t ht hu
    · rw [hother j hj]
      exact hI.landed hd j

variable {reason : String} {w : World} {ipAddress userAgent : ι → Option String}

theorem conforms_start (i : Option ι) :
    (monitors u raw i).Conforms (final i)
      ((barrierCalls env u reason w raw ipAddress userAgent).phase (monitors u raw) phase₀ i)
      ((barrierCalls env u reason w raw ipAddress userAgent).prog i) := by
  cases i with
  | none => exact conforms_revokeAllUserTokens reason
  | some i => exact RotationPhase.conforms_refreshTokens (ipAddress i) (userAgent i)

theorem barrier_reach (hr : Reach (World.machine env) (NoneInFlight u raw)
    (barrierCalls env u reason w raw ipAddress userAgent) q) : Barrier u raw q := by
  refine hr.invariant_of_conforms conforms_start (barrier_start reason w ipAddress userAgent)
    (fun q n hI _ => barrier_tick hI n) fun q i s k hI hC hp ha => ?_
  cases i with
  | none => exact barrier_bulk hC hp ha
  | some i => exact barrier_rotation hI hp ha

end BarrierPool

open BarrierPool in
/-- With no rotation in flight when the bulk `UPDATE` runs, the user keeps no active token. -/
theorem revokeAllUserTokens_barrier {reason : String} {w : World}
    {ipAddress userAgent : ι → Option String} {q : BarrierPool ι}
    (hr : Reach (World.machine env) (NoneInFlight u raw)
      (barrierCalls env u reason w raw ipAddress userAgent) q)
    (hdone : q.result? none = some (.ok ())) {t : RefreshToken}
    (ht : t ∈ q.world.refreshTokens.rows) (hu : t.userId = u) : t.active q.world.now = false := by
  have hbulk : bulkDone u raw q = true :=
    final_of_result (m := monitors u raw) (F := final) hr (conforms_start none) hdone () rfl
  exact RefreshToken.not_active_of_revoked ((barrier_reach hr).revoked hbulk t ht hu)

/-! ### The bulk `UPDATE` between `revokeToken` and the insert -/

/-- A ban's bulk revocation beside one call on the registered user's token. -/
def banAndRefresh : BarrierPool Unit :=
  barrierCalls Env.plain 1 "account_banned:fraud" registered (fun _ => 3) (fun _ => none)
    fun _ => none

def insertAfterBulk : List (Label (Option Unit)) :=
  List.replicate 4 (.run (some ())) ++ List.replicate 2 (.run none) ++
    List.replicate 7 (.run (some ()))

/-- What the row of raw token 3 and its successor look like in the end. -/
def rotatedOut : RefreshToken :=
  { id := 4, userId := 1, tokenHash := ⟨3⟩, issuedAt := 0, expiresAt := 604800000, revoked := true,
    revokedAt := some 0, revocationReason := some "rotated", deviceFingerprint := some "|",
    ipAddress := none, userAgent := none, lastUsedAt := none, replacedByTokenId := some 6 }

def survivor : RefreshToken :=
  { id := 6, userId := 1, tokenHash := ⟨5⟩, issuedAt := 0, expiresAt := 604800000, revoked := false,
    revokedAt := none, revocationReason := none, deviceFingerprint := some "|",
    ipAddress := none, userAgent := none, lastUsedAt := some 0, replacedByTokenId := none }

theorem revokeAllUserTokens_not_barrier :
    ¬ ∀ (w : World), Reachable Env.plain w → ∀ (u : Nat) (reason : String) (raw : Unit → Nat)
        (schedule : List (Label (Option Unit))) (q : BarrierPool Unit),
      q = (barrierCalls Env.plain u reason w raw (fun _ => none) fun _ => none).runs
        (World.machine Env.plain) schedule →
      (∀ i, (q.result? i).isSome = true) →
      ∀ t ∈ w.refreshTokens.rows, t.userId = u → ∀ t₁ t', t₁.id = t.id →
        Relation.TransGen (RefreshToken.ReplacedBy q.world.refreshTokens) t₁ t' →
        t'.active q.world.now = false := by
  intro h
  have hrows : (banAndRefresh.runs (World.machine Env.plain) insertAfterBulk).world.refreshTokens.rows
      = [rotatedOut, survivor] := by rfl
  have hlink : RefreshToken.ReplacedBy
      (banAndRefresh.runs (World.machine Env.plain) insertAfterBulk).world.refreshTokens
      rotatedOut survivor := ⟨by simp [hrows], by simp [hrows], rfl⟩
  obtain ⟨t, ht, hid, hu⟩ : ∃ t ∈ registered.refreshTokens.rows, t.id = 4 ∧ t.userId = 1 :=
    ⟨_, List.mem_singleton.mpr rfl, rfl, rfl⟩
  have hdone : ∀ i, ((banAndRefresh.runs (World.machine Env.plain) insertAfterBulk).result?
      i).isSome = true := by
    intro i
    cases i <;> rfl
  have hinactive := h registered registered_reachable 1 "account_banned:fraud" (fun _ => 3)
    insertAfterBulk _ rfl hdone t ht hu rotatedOut survivor hid.symm (.single hlink)
  cases hinactive

def refreshThenBan : BarrierPool Unit :=
  banAndRefresh.runs (World.machine Env.plain)
    (List.replicate 11 (.run (some ())) ++ List.replicate 2 (.run none))

theorem revokeAllUserTokens_barrier_sequential :
    refreshThenBan.result? none = some (.ok ()) ∧
      ({ survivor with
          revoked := true, revokedAt := some 0,
          revocationReason := some "account_banned:fraud" } : RefreshToken).active
        refreshThenBan.world.now = false := by
  have hr : Reach (World.machine Env.plain) (BarrierPool.NoneInFlight 1 fun _ => 3) banAndRefresh
      refreshThenBan := Reach.of_checked (by decide +kernel)
  exact ⟨by rfl, revokeAllUserTokens_barrier hr (by rfl) (by decide +kernel) (by rfl)⟩

end Barrier
end Auth
