import AuthService.Footprint
import AuthService.Resumption.Pool
import Mathlib.Data.Fintype.Basic

/-!
# AuthService.ResetRace

Concurrent `AuthService.resetPassword` calls that present the same raw token. `RedemptionPhase` says
where a call stands: lookup, `updatePassword`, `markAsUsed`, and the deletions after it.

* `conforms_resetPassword`      — a call moves through the phases in this order only.
* `SingleRedemption`            — the invariant: one row, and at most one call that has spent it.
* `resetPassword_single_use`    — at most one call changes the password or succeeds, as long as each
  `updatePassword` runs while the row is unused and no other call is about to mark it.

The code does not enforce that condition: `used` is read in the lookup, a password hash earlier.
`resetPassword_not_single_use` is a failing run.
-/

namespace Auth

open Relational Resumption Prog

/-- How far a `resetPassword` call has come with the row it has found. -/
inductive RedemptionPhase where
  | start
  | found (t : PasswordResetToken)
  | updated (t : PasswordResetToken)
  | consumed (t : PasswordResetToken)
  | refused
  deriving DecidableEq

namespace RedemptionPhase

def next : RedemptionPhase → (s : Stmt) → Except Exn s.Reply → RedemptionPhase
  | .start, .findResetTokenByHash _, .ok none => .refused
  | .start, .findResetTokenByHash _, .ok (some t) => if t.used then .refused else .found t
  | .found t, .updatePassword _ _ _, _ => .updated t
  | .updated t, .markAsUsed _ _, _ => .consumed t
  | φ, _, _ => φ

def allowed (r : Nat) : RedemptionPhase → Stmt → Prop
  | .start, .findResetTokenByHash h => h = hashToken r
  | .found _, .newDate => True
  | .found _, .hashPassword _ => True
  | .found t, .updatePassword id _ _ => id = t.userId
  | .updated _, .newDate => True
  | .updated t, .markAsUsed id _ => id = t.id
  | .consumed t, .deleteResetTokensByUserId id => id = t.userId
  | .consumed t, .revokeAllByUserId id reason _ => id = t.userId ∧ reason = "password_reset"
  | .consumed _, .newDate => True
  | .consumed _, .publish _ => True
  | .consumed _, .createAuditLog _ => True
  | _, _ => False

/-- The row is used up before a call returns. -/
def final : RedemptionPhase → Except Exn Unit → Prop
  | .consumed _, _ => True
  | _, .ok _ => False
  | _, .error _ => True

def monitor (r : Nat) : Monitor sig RedemptionPhase := ⟨next, allowed r⟩

variable {env : Env} {r : Nat}

theorem final_error (φ : RedemptionPhase) (e : Exn) : final φ (.error e) := by
  cases φ <;> trivial

theorem conforms_redeem (t : PasswordResetToken) (newPassword : String)
    (ipAddress : Option String) :
    (monitor r).Conforms final (.found t) (AuthService.redeem t newPassword ipAddress) := by
  unfold AuthService.redeem CredentialService.updatePassword
    UserCredentialRepository.updatePassword PasswordResetTokenRepository.markAsUsed
  simp only [bind_eq, bind_assoc]
  refine Monitor.conforms_perform_bind trivial (fun hash => ?_) fun e => final_error _ _
  refine Monitor.conforms_perform_bind trivial (fun passwordChangedAt => ?_) fun e => final_error _ _
  refine Monitor.conforms_perform_bind rfl (fun _ => ?_) fun e => final_error _ _
  show (monitor r).Conforms final (.updated t) _
  refine Monitor.conforms_perform_bind trivial (fun usedAt => ?_) fun e => final_error _ _
  refine Monitor.conforms_perform_bind rfl (fun _ => ?_) fun e => final_error _ _
  show (monitor r).Conforms final (.consumed t) _
  -- whatever comes after `markAsUsed` leaves the phase at `consumed`
  refine Monitor.conforms_of_uses (A := allowed r (.consumed t)) ?_ (fun s hs => hs)
    (fun s reply _ => rfl) fun _ => trivial
  refine uses_perform_bind rfl fun _ => ?_
  refine uses_bind (uses_revokeAllUserTokens trivial fun _ => ⟨rfl, rfl⟩) fun _ => ?_
  exact uses_bind (uses_publish trivial fun _ => trivial) fun _ => (uses_perform _).mpr trivial

theorem conforms_resetPassword (newPassword : String) (ipAddress : Option String) :
    (monitor r).Conforms final .start (AuthService.resetPassword r newPassword ipAddress) := by
  unfold AuthService.resetPassword
  refine Monitor.conforms_perform_bind rfl (fun resetToken? => ?_) fun e => final_error _ _
  cases resetToken? with
  | none => exact final_error _ _
  | some t =>
    by_cases ht : t.used = true
    · simp only [ht, if_true]
      exact final_error _ _
    · simp only [monitor, next, ht, if_false, Bool.false_eq_true]
      refine Monitor.conforms_perform_bind trivial (fun now => ?_) fun e => final_error _ _
      by_cases hexp : t.expiresAt < now
      · simp only [hexp, if_true]
        exact final_error _ _
      · simp only [next, hexp, if_false]
        exact conforms_redeem t newPassword ipAddress

/-- The row an accepted call works on. -/
def held : RedemptionPhase → Option PasswordResetToken
  | .found t => some t
  | .updated t => some t
  | .consumed t => some t
  | _ => none

/-- Has the call changed the password? -/
def spent : RedemptionPhase → Bool
  | .updated _ => true
  | .consumed _ => true
  | _ => false

/-- Between `updatePassword` and `markAsUsed`. -/
def marking : RedemptionPhase → Bool
  | .updated _ => true
  | _ => false

theorem consumed_of_spent {φ : RedemptionPhase} (h : φ.spent = true) (hm : φ.marking = false) :
    ∃ t, φ = .consumed t := by
  cases φ with
  | consumed t => exact ⟨t, rfl⟩
  | updated t => cases hm
  | _ => cases h

theorem not_createResetToken_of_allowed {φ : RedemptionPhase} {s : Stmt} (ha : allowed r φ s)
    (userId : Nat) (tokenHash : TokenHash) (expiresAt : Int) :
    s ≠ .createPasswordResetToken userId tokenHash expiresAt := by
  rintro rfl
  cases φ <;> exact ha.elim

/-- A call comes to work on a row only by finding it under the hash it presents. -/
theorem held_next {w : World} {φ : RedemptionPhase} {s : Stmt} {reply : Except Exn s.Reply}
    {t : PasswordResetToken} (ha : allowed r φ s) (hr : (World.exec env s w).1 = reply)
    (h : (next φ s reply).held = some t) :
    φ.held = some t ∨ t ∈ w.passwordResetTokens.rows ∧ t.tokenHash = hashToken r := by
  revert h
  fun_cases next φ s reply
  all_goals intro h
  case case3 tokenHash t₀ hused =>
    cases h
    obtain ⟨hmem, hhash⟩ :=
      Table.find?_mem (Except.ok.inj hr : w.passwordResetTokens.find? _ = some t)
    simp only [decide_eq_true_eq] at hhash
    exact .inr ⟨hmem, hhash.trans ha⟩
  all_goals exact .inl h

theorem spent_next {φ : RedemptionPhase} {s : Stmt} {reply : Except Exn s.Reply}
    (h : (next φ s reply).spent = true) :
    φ.spent = true ∨ ∃ t, φ = .found t ∧ ∃ id hash at', s = .updatePassword id hash at' := by
  revert h
  fun_cases next φ s reply
  all_goals intro h
  case case4 t id hash at' _ => exact .inr ⟨t, rfl, id, hash, at', rfl⟩
  all_goals exact .inl h

theorem spent_mono {φ : RedemptionPhase} {s : Stmt} {reply : Except Exn s.Reply}
    (h : φ.spent = true) : (next φ s reply).spent = true := by
  fun_cases next φ s reply
  all_goals first | exact h | rfl

theorem spent_updatePassword {φ : RedemptionPhase} {id : Nat} {hash : String} {at' : Int}
    {reply : Except Exn Unit} (ha : allowed r φ (.updatePassword id hash at')) :
    (next φ (.updatePassword id hash at') reply).spent = true := by
  cases φ <;> first | rfl | exact ha.elim

/-- A call comes to `consumed` only by `markAsUsed` on the row it holds. -/
theorem consumed_next {φ : RedemptionPhase} {s : Stmt} {reply : Except Exn s.Reply}
    {t : PasswordResetToken} (ha : allowed r φ s) (h : next φ s reply = .consumed t) :
    φ = .consumed t ∨ φ.held = some t ∧ ∃ usedAt, s = .markAsUsed t.id usedAt := by
  revert h
  fun_cases next φ s reply
  all_goals intro h
  case case5 t₀ id usedAt _ =>
    cases h
    obtain rfl : id = t.id := ha
    exact .inr ⟨rfl, usedAt, rfl⟩
  all_goals first | exact .inl h | cases h

end RedemptionPhase

/-! ## Any number of calls -/

section SingleUse

variable {ι : Type} [DecidableEq ι] {env : Env} {r : Nat}

abbrev ResetPool (ι : Type) : Type := Pool sig World ι fun _ => Unit

/-- Any number of `resetPassword(r)` calls about to start. -/
def resetCalls (r : Nat) (w : World) (newPassword : ι → String) (ipAddress : ι → Option String) :
    ResetPool ι :=
  Pool.start w fun i => AuthService.resetPassword r (newPassword i) (ipAddress i)

namespace ResetPool

def redemption (r : Nat) (q : ResetPool ι) (i : ι) : RedemptionPhase :=
  q.phase (fun _ => RedemptionPhase.monitor r) (fun _ => .start) i

def isUpdatePassword : Stmt → Bool
  | .updatePassword _ _ _ => true
  | _ => false

/-- Has call `i` executed an `updatePassword`? -/
def changesPassword (q : ResetPool ι) (i : ι) : Bool :=
  q.log.any fun e => e.thread = i && isUpdatePassword e.stmt

/-- A call about to change the password finds the row still there and unused, and no other call
between its own `updatePassword` and its `markAsUsed`. -/
def RedeemsUnusedRow (r : Nat) (q : ResetPool ι) : Label ι → Prop
  | .tick _ => True
  | .run i => (q.next? i).any isUpdatePassword = true →
      (∃ t ∈ q.world.passwordResetTokens.rows, t.tokenHash = hashToken r ∧ t.used = false) ∧
        ∀ j, (redemption r q j).marking = false

instance [Fintype ι] (q : ResetPool ι) : (l : Label ι) → Decidable (RedeemsUnusedRow r q l)
  | .tick _ => .isTrue trivial
  | .run i => inferInstanceAs (Decidable ((q.next? i).any isUpdatePassword = true → _ ∧ _))

/-- All calls hold one row; at most one has changed the password, and the row it has consumed is
used or gone. -/
structure SingleRedemption (r : Nat) (q : ResetPool ι) : Prop where
  held : ∀ i t, (redemption r q i).held = some t →
    ∀ t' ∈ q.world.passwordResetTokens.rows, t'.tokenHash = hashToken r → t'.id = t.id
  consumed : ∀ i t, redemption r q i = .consumed t →
    ∀ t' ∈ q.world.passwordResetTokens.rows, t'.tokenHash = hashToken r → t'.used = true
  unique : ∀ i j, (redemption r q i).spent = true → (redemption r q j).spent = true → i = j
  logged : ∀ e ∈ q.log, isUpdatePassword e.stmt = true → (redemption r q e.thread).spent = true

variable {q : ResetPool ι} {i j : ι} {s : Stmt} {k : Except Exn s.Reply → AuthProg Unit}

theorem redemption_self (hp : q.prog i = .call s k) :
    redemption r (q.step (World.machine env) (.run i)) i =
      (redemption r q i).next s (World.exec env s q.world).1 :=
  phase_step_self hp

theorem redemption_other (hij : j ≠ i) :
    redemption r (q.step (World.machine env) (.run i)) j = redemption r q j :=
  phase_step_other hij

theorem singleRedemption_start (w : World) (newPassword : ι → String)
    (ipAddress : ι → Option String) :
    SingleRedemption r (resetCalls r w newPassword ipAddress) :=
  ⟨fun _ _ h => (by cases h), fun _ _ h => (by cases h), fun _ _ h => (by cases h),
    fun _ h => (by cases h)⟩

theorem singleRedemption_tick (hI : SingleRedemption r q) (n : Nat) :
    SingleRedemption r (q.step (World.machine env) (.tick n)) :=
  ⟨hI.held, hI.consumed, hI.unique, hI.logged⟩

/-- A call that changes the password is the first to do so. -/
theorem first_to_spend (hI : SingleRedemption r q) (hC : RedeemsUnusedRow r q (.run i))
    (hp : q.prog i = .call s k) (hs : isUpdatePassword s = true) (j : ι) :
    (redemption r q j).spent = false := by
  have hany : (q.next? i).any isUpdatePassword = true := by rw [Pool.next?_of_call hp]; exact hs
  obtain ⟨⟨t, ht, hhash, hused⟩, hnone⟩ := hC hany
  by_contra hspent
  obtain ⟨u, hu⟩ := RedemptionPhase.consumed_of_spent (Bool.not_eq_false _ ▸ hspent) (hnone j)
  rw [hI.consumed j u hu t ht hhash] at hused
  cases hused

/-- No call inserts a row: every row after a step was there before. -/
theorem resetRow_source (ha : RedemptionPhase.allowed r (redemption r q i) s)
    {t' : PasswordResetToken} (ht' : t' ∈ (World.exec env s q.world).2.passwordResetTokens.rows) :
    ∃ t ∈ q.world.passwordResetTokens.rows, World.SameReset t t' := by
  rcases World.exec_resetTokens ht' with ⟨t, ht, hsame, -⟩ | ⟨u, h, e, hs, -⟩
  · exact ⟨t, ht, hsame⟩
  · exact absurd hs (RedemptionPhase.not_createResetToken_of_allowed ha u h e)

theorem held_step (hI : SingleRedemption r q) (hp : q.prog i = .call s k)
    (ha : RedemptionPhase.allowed r (redemption r q i) s) {t t' : PasswordResetToken}
    (hj : (redemption r (q.step (World.machine env) (.run i)) j).held = some t)
    (ht' : t' ∈ (World.exec env s q.world).2.passwordResetTokens.rows)
    (hhash : t'.tokenHash = hashToken r) : t'.id = t.id := by
  obtain ⟨t₀, ht₀, hid, -, hhash₀, -⟩ := resetRow_source ha ht'
  rw [hid]
  by_cases hji : j = i
  · subst hji
    rw [redemption_self hp] at hj
    rcases RedemptionPhase.held_next ha rfl hj with hj | ⟨hmem, hh⟩
    · exact hI.held j t hj t₀ ht₀ (hhash₀ ▸ hhash)
    · rw [Table.eq_of_uniq ht₀ hmem (hhash₀.symm.trans (hhash.trans hh.symm))]
  · rw [redemption_other hji] at hj
    exact hI.held j t hj t₀ ht₀ (hhash₀ ▸ hhash)

/-- The call that comes to `consumed` marks the one row all calls hold. -/
theorem consumed_step (hI : SingleRedemption r q) (hp : q.prog i = .call s k)
    (ha : RedemptionPhase.allowed r (redemption r q i) s) {t t' : PasswordResetToken}
    (hj : redemption r (q.step (World.machine env) (.run i)) j = .consumed t)
    (ht' : t' ∈ (World.exec env s q.world).2.passwordResetTokens.rows)
    (hhash : t'.tokenHash = hashToken r) : t'.used = true := by
  have hbefore : redemption r q j = .consumed t → t'.used = true := by
    intro hj
    obtain ⟨t₀, ht₀, -, -, hhash₀, -, hused⟩ := resetRow_source ha ht'
    exact hused (hI.consumed j t hj t₀ ht₀ (hhash₀ ▸ hhash))
  by_cases hji : j = i
  · subst hji
    rw [redemption_self hp] at hj
    rcases RedemptionPhase.consumed_next ha hj with hj | ⟨hheld, usedAt, rfl⟩
    · exact hbefore hj
    · obtain ⟨t₀, ht₀, rfl⟩ := Table.mem_updateWhere.mp ht'
      have hhash₀ : t₀.tokenHash = hashToken r := by
        revert hhash
        unfold Table.patchIf
        split <;> exact id
      have hid : decide (t₀.id = t.id) = true := decide_eq_true (hI.held j t hheld t₀ ht₀ hhash₀)
      rw [Table.patchIf, if_pos hid]
      rfl
  · rw [redemption_other hji] at hj
    exact hbefore hj

theorem logged_step (hI : SingleRedemption r q) (hp : q.prog i = .call s k)
    (ha : RedemptionPhase.allowed r (redemption r q i) s) {e : Event sig ι}
    (he : e ∈ (q.step (World.machine env) (.run i)).log) (hs : isUpdatePassword e.stmt = true) :
    (redemption r (q.step (World.machine env) (.run i)) e.thread).spent = true := by
  rw [Pool.step_call hp] at he
  rcases List.mem_cons.mp he with rfl | he
  · rw [redemption_self hp]
    cases s with
    | updatePassword id hash at' => exact RedemptionPhase.spent_updatePassword ha
    | _ => cases hs
  · by_cases hei : e.thread = i
    · rw [hei, redemption_self hp]
      exact RedemptionPhase.spent_mono (hei ▸ hI.logged e he hs)
    · rw [redemption_other hei]
      exact hI.logged e he hs

theorem singleRedemption_step (hI : SingleRedemption r q) (hC : RedeemsUnusedRow r q (.run i))
    (hp : q.prog i = .call s k) (ha : RedemptionPhase.allowed r (redemption r q i) s) :
    SingleRedemption r (q.step (World.machine env) (.run i)) := by
  have hworld : (q.step (World.machine env) (.run i)).world = (World.exec env s q.world).2 :=
    Pool.world_step hp
  refine ⟨fun j t hj t' ht' => ?_, fun j t hj t' ht' => ?_, ?_, fun e he => logged_step hI hp ha he⟩
  · exact held_step hI hp ha hj (hworld ▸ ht')
  · exact consumed_step hI hp ha hj (hworld ▸ ht')
  · refine unique_step (i := i) hI.unique (fun j hj h => ?_) fun h => ?_
    · rwa [redemption_other hj] at h
    · rw [redemption_self hp] at h
      refine (RedemptionPhase.spent_next h).imp_right ?_
      rintro ⟨t, -, id, hash, at', rfl⟩ j hj
      rw [first_to_spend hI hC hp rfl j] at hj
      cases hj

end ResetPool

open ResetPool in
/-- As long as each `updatePassword` finds the row unused and nobody about to mark it, one token
changes the password once. -/
theorem resetPassword_single_use {w : World} {newPassword : ι → String}
    {ipAddress : ι → Option String} {q : ResetPool ι}
    (hr : Reach (World.machine env) (RedeemsUnusedRow r) (resetCalls r w newPassword ipAddress) q)
    {i j : ι} (hi : changesPassword q i = true ∨ q.result? i = some (.ok ()))
    (hj : changesPassword q j = true ∨ q.result? j = some (.ok ())) : i = j := by
  have hconf : ∀ i, (RedemptionPhase.monitor r).Conforms RedemptionPhase.final
      (redemption r (resetCalls r w newPassword ipAddress) i)
      ((resetCalls r w newPassword ipAddress).prog i) :=
    fun i => RedemptionPhase.conforms_resetPassword (newPassword i) (ipAddress i)
  have hI : SingleRedemption r q :=
    hr.invariant_of_conforms hconf (singleRedemption_start w newPassword ipAddress)
      (fun q n hI _ => singleRedemption_tick hI n)
      fun q i s k hI hC hp ha => singleRedemption_step hI hC hp ha
  have hspent : ∀ i, changesPassword q i = true ∨ q.result? i = some (.ok ()) →
      (redemption r q i).spent = true := by
    rintro i (hi | hi)
    · obtain ⟨e, he, hs⟩ := List.any_eq_true.mp hi
      simp only [Bool.and_eq_true, decide_eq_true_eq] at hs
      exact hs.1 ▸ hI.logged e he hs.2
    · have hfin : RedemptionPhase.final (redemption r q i) (.ok ()) :=
        final_of_result (m := fun _ => RedemptionPhase.monitor r)
          (F := fun _ => RedemptionPhase.final) hr (hconf i) hi
      revert hfin
      cases redemption r q i with
      | consumed t => exact fun _ => rfl
      | _ => exact fun h => h.elim
  exact hI.unique i j (hspent i hi) (hspent j hj)

/-! ### Both lookups before the first `updatePassword` -/

/-- The registered user has asked for a reset: raw token 5. -/
def resetSent : World := runs Env.plain registered [.request (.forgotPassword "a@x" none)]

def twoResets : ResetPool Bool :=
  resetCalls 5 resetSent (fun i => if i then "second" else "first") fun _ => none

/-- Both calls look the row up, then the first runs to its end, then the second. -/
def bothLookUp : List (Label Bool) :=
  [.run false, .run true] ++ List.replicate 13 (.run false) ++ List.replicate 13 (.run true)

theorem resetPassword_not_single_use :
    ¬ ∀ (w : World), Reachable Env.plain w → ∀ (r : Nat) (newPassword : Bool → String)
        (schedule : List (Label Bool)) (i j : Bool),
      let q := (resetCalls r w newPassword fun _ => none).runs (World.machine Env.plain) schedule
      ResetPool.changesPassword q i = true ∧ q.result? i = some (.ok ()) →
      ResetPool.changesPassword q j = true ∧ q.result? j = some (.ok ()) → i = j := by
  intro h
  have hsent : Reachable Env.plain resetSent := registered_reachable.after _
  have hboth := h resetSent hsent 5 (fun i => if i then "second" else "first") bothLookUp false true
  cases hboth ⟨by rfl, by rfl⟩ ⟨by rfl, by rfl⟩

/-- One call after the other: the second finds no row any more. -/
def oneResetAfterTheOther : ResetPool Bool :=
  twoResets.runs (World.machine Env.plain)
    (List.replicate 14 (.run false) ++ List.replicate 2 (.run true))

theorem resetPassword_single_use_sequential :
    oneResetAfterTheOther.result? true =
        some (.error (.badRequest ErrorMessages.AUTH_PASSWORD_RESET_INVALID)) ∧
      oneResetAfterTheOther.result? false = some (.ok ()) ∧
      ∀ i, ResetPool.changesPassword oneResetAfterTheOther i = true ∨
        oneResetAfterTheOther.result? i = some (.ok ()) → i = false := by
  have hr : Reach (World.machine Env.plain) (ResetPool.RedeemsUnusedRow 5) twoResets
      oneResetAfterTheOther := Reach.of_checked (by decide +kernel)
  have hok : oneResetAfterTheOther.result? false = some (.ok ()) := by rfl
  exact ⟨by rfl, hok, fun i hi => resetPassword_single_use hr hi (.inr hok)⟩

end SingleUse
end Auth
