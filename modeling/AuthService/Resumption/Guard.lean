import AuthService.Resumption.Pool
import AuthService.Resumption.Refusal

/-!
# Resumption.Guard

Programs that end well as long as each of their statements meets a guard in the world that it finds.

* `Prog.Guarded m M G P` — as long as every statement meets the guard `G`, the program ends as `P`
  says. A guard may look at the phase that the monitor `m` has reached.
* `guarded_of_raises`    — where the guard keeps statements from failing outside `E`, a program that
  raises exceptions in `E` only is guarded whatever the phase.
* `Reach.guarded`        — the rule for any interleaving whose steps meet the guard.
-/

namespace Resumption

variable {S : Sig} {σ α β Φ : Type}

namespace Prog

def Guarded (m : Monitor S Φ) (M : Machine S σ) (G : Φ → σ → S.Stmt → Prop)
    (P : Φ → Except S.Err α → Prop) : Φ → Prog S α → Prop
  | φ, .ret a => P φ (.ok a)
  | φ, .throw e => P φ (.error e)
  | φ, .call s k => ∀ w, G φ w s → Guarded m M G P (m.next φ s (M.exec s w).1) (k (M.exec s w).1)

variable {m : Monitor S Φ} {M : Machine S σ} {G : Φ → σ → S.Stmt → Prop} {φ : Φ}

theorem guarded_bind {p : Prog S α} {f : α → Prog S β} {P : Φ → Except S.Err β → Prop}
    (hp : p.Guarded m M G (fun φ r => match r with
      | .ok a => (f a).Guarded m M G P φ
      | .error e => P φ (.error e)) φ) : (p.bind f).Guarded m M G P φ := by
  induction p generalizing φ with
  | ret a => exact hp
  | throw e => exact hp
  | call s k ih => exact fun w hw => ih _ (hp w hw)

theorem guarded_perform {s : S.Stmt} {P : Φ → Except S.Err (S.Reply s) → Prop}
    (h : ∀ w, G φ w s → P (m.next φ s (M.exec s w).1) (M.exec s w).1) :
    (perform s).Guarded m M G P φ := by
  intro w hw
  have hreply := h w hw
  cases hexec : (M.exec s w).1 with
  | ok a => rw [hexec] at hreply; exact hreply
  | error e => rw [hexec] at hreply; exact hreply

/-- One statement, then the rest. -/
theorem guarded_perform_bind {s : S.Stmt} {f : S.Reply s → Prog S β}
    {P : Φ → Except S.Err β → Prop}
    (hok : ∀ w a, G φ w s → (M.exec s w).1 = .ok a → (f a).Guarded m M G P (m.next φ s (.ok a)))
    (herr : ∀ w e, G φ w s → (M.exec s w).1 = .error e → P (m.next φ s (.error e)) (.error e)) :
    ((perform s).bind f).Guarded m M G P φ := by
  refine guarded_bind (guarded_perform fun w hw => ?_)
  cases hexec : (M.exec s w).1 with
  | ok a => exact hok w a hw hexec
  | error e => exact herr w e hw hexec

/-- The exceptions of a guarded program are in `E`, in whatever phase it ends. -/
def Answers (E : S.Err → Prop) (_ : Φ) (r : Except S.Err α) : Prop :=
  ∀ e, r = .error e → E e

variable {E : S.Err → Prop}

/-- A program that raises exceptions in `E` only, where the guard keeps statements from failing in any
other way. -/
theorem guarded_of_raises {p : Prog S α} (hp : p.Raises E)
    (hG : ∀ φ w s e, G φ w s → (M.exec s w).1 = .error e → E e) (φ : Φ) :
    p.Guarded m M G (Answers E) φ := by
  induction p generalizing φ with
  | ret a => exact fun e he => by cases he
  | throw e => exact fun e' he => by cases he; exact hp
  | call s k ih =>
    intro w hw
    refine ih _ ?_ _
    cases hexec : (M.exec s w).1 with
    | ok a => exact hp.1 a
    | error e => exact hp.2 e (hG φ w s e hw hexec)

/-- Sequencing, where the rest is guarded from every phase. -/
theorem guarded_seq {p : Prog S α} {f : α → Prog S β} (hp : p.Guarded m M G (Answers E) φ)
    (hf : ∀ φ a, (f a).Guarded m M G (Answers E) φ) :
    (p.bind f).Guarded m M G (Answers E) φ := by
  induction p generalizing φ with
  | ret a => exact hf φ a
  | throw e => exact fun e' he => by cases he; exact hp e rfl
  | call s k ih => exact fun w hw => ih _ (hp w hw)

end Prog

/-- The monitor that reads the statements and does not look at their refusals. -/
def Monitor.refusable (m : Monitor S Φ) : Monitor S.refusable Φ where
  next φ s r := m.next φ s.1 r
  allowed φ s := m.allowed φ s.1

theorem Monitor.conforms_submit {m : Monitor S Φ} {refuse : S.Stmt → Option S.Err}
    {final : Φ → Except S.Err α → Prop} {p : Prog S α} {φ : Φ} (h : m.Conforms final φ p) :
    m.refusable.Conforms final φ (p.submit refuse) := by
  induction p generalizing φ with
  | ret a => exact h
  | throw e => exact h
  | call s k ih => exact ⟨h.1, fun r => ih r (h.2 r)⟩

/-- A guard that no refused statement meets: the refusals do not matter. -/
theorem Prog.guarded_submit {m : Monitor S Φ} {M : Machine S σ} {G : Φ → σ → S.Stmt → Prop}
    {refuse : S.Stmt → Option S.Err} {P : Φ → Except S.Err α → Prop} {p : Prog S α} {φ : Φ}
    (hp : p.Guarded m M G P φ) :
    (p.submit refuse).Guarded m.refusable M.refusable
      (fun φ w s => s.2 = none ∧ G φ w s.1) P φ := by
  induction p generalizing φ with
  | ret a => exact hp
  | throw e => exact hp
  | call s k ih =>
    rintro w ⟨hs, hw⟩
    have hexec : M.refusable.exec (s, refuse s) w = M.exec s w := exec_spared hs w
    rw [hexec]
    exact ih _ (hp w hw)

/-! ## Interleavings -/

variable {ι : Type} [DecidableEq ι] {Ret : ι → Type} {Ψ : ι → Type} {m : ∀ i, Monitor S (Ψ i)}
  {ψ₀ : ∀ i, Ψ i} {M : Machine S σ} {C : Pool S σ ι Ret → Label ι → Prop} {p q : Pool S σ ι Ret}

/-- A thread all of whose steps meet the guard goes on to be guarded, at the phase it has reached. -/
theorem Reach.guarded {i : ι} {G : Ψ i → σ → S.Stmt → Prop} {P : Ψ i → Except S.Err (Ret i) → Prop}
    (hr : Reach M C p q)
    (hC : ∀ q s, C q (.run i) → q.next? i = some s → G (q.phase m ψ₀ i) q.world s)
    (h0 : (p.prog i).Guarded (m i) M G P (p.phase m ψ₀ i)) :
    (q.prog i).Guarded (m i) M G P (q.phase m ψ₀ i) := by
  refine hr.invariant_steps (I := fun q => (q.prog i).Guarded (m i) M G P (q.phase m ψ₀ i)) h0
    (fun q n _ ih _ => ih) fun q j s k _ ih hc hp => ?_
  by_cases hij : i = j
  · subst hij
    have hguard := hC q s hc (Pool.next?_of_call hp)
    rw [hp] at ih
    rw [phase_step_self hp, Pool.step_call hp]
    simpa using ih q.world hguard
  · rw [phase_step_other hij, Pool.step_call hp]
    simpa [Function.update_of_ne hij] using ih

variable (ψ₀) in
/-- What such a thread ends with. -/
theorem Reach.guarded_result {i : ι} {G : Ψ i → σ → S.Stmt → Prop}
    {P : Ψ i → Except S.Err (Ret i) → Prop} {r : Except S.Err (Ret i)} (hr : Reach M C p q)
    (hC : ∀ q s, C q (.run i) → q.next? i = some s → G (q.phase m ψ₀ i) q.world s)
    (h0 : (p.prog i).Guarded (m i) M G P (p.phase m ψ₀ i)) (hres : q.result? i = some r) :
    P (q.phase m ψ₀ i) r := by
  have hq := hr.guarded hC h0
  unfold Pool.result? at hres
  cases hp : q.prog i with
  | ret a => rw [hp] at hres hq; cases hres; exact hq
  | throw e => rw [hp] at hres hq; cases hres; exact hq
  | call s k => rw [hp] at hres; cases hres

end Resumption
