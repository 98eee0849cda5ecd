import Mathlib.Logic.Basic

/-!
# Resumption.Prog

Programs that suspend at every statement they issue to an outside world, over an arbitrary
statement signature `Sig`:

* `Prog S α`     — a tree of statements; a continuation receives the reply or the failure.
* `Prog.bind`    — sequencing; an exception skips the rest. `Prog.tryCatch` resumes after one.
* `Machine S σ`  — what one statement does to a world `σ`, and what `n` units of time do to it.
* `Prog.run`     — a whole program executed without interruption; `Prog.trace` — the statements it issues.
* `Prog.Uses`    — every statement a program can ever issue satisfies a predicate; `Prog.Yields` and
  `Prog.Raises` say so of the values it can return and of the exceptions it can end with.
* `Prog.Keeps`   — an uninterrupted run of the program keeps a property of the world;
  `Prog.Completes` — as long as its statements succeed, it returns.

`run_invariant` is the rule for uninterrupted runs: a property of the world kept by each statement
a program uses is kept by the program.
-/

namespace Resumption

structure Sig where
  Stmt : Type
  Reply : Stmt → Type
  Err : Type

inductive Prog (S : Sig) (α : Type) : Type where
  | ret (a : α)
  | throw (e : S.Err)
  | call (s : S.Stmt) (k : Except S.Err (S.Reply s) → Prog S α)

/-- The statements of a signature interpreted over a world. -/
structure Machine (S : Sig) (σ : Type) where
  exec : (s : S.Stmt) → σ → Except S.Err (S.Reply s) × σ
  tick : Nat → σ → σ

namespace Prog

variable {S : Sig} {α β : Type}

def bind : Prog S α → (α → Prog S β) → Prog S β
  | .ret a, f => f a
  | .throw e, _ => .throw e
  | .call s k, f => .call s fun r => (k r).bind f

instance : Monad (Prog S) where
  pure := .ret
  bind := .bind

/-- `try p catch h`. -/
def tryCatch : Prog S α → (S.Err → Prog S α) → Prog S α
  | .ret a, _ => .ret a
  | .throw e, h => h e
  | .call s k, h => .call s fun r => (k r).tryCatch h

/-- One awaited statement: a failure is rethrown to the caller. -/
def perform (s : S.Stmt) : Prog S (S.Reply s) :=
  .call s fun
    | .ok a => .ret a
    | .error e => .throw e

/-- `for (const x of xs) { await body(x); }` -/
def forEach {γ : Type} (body : γ → Prog S Unit) : List γ → Prog S Unit
  | [] => .ret ()
  | x :: xs => (body x).bind fun _ => forEach body xs

/-- `for (let i = 0; i < n; i++) { await body; }` -/
def repeatN (body : Prog S Unit) : Nat → Prog S Unit
  | 0 => .ret ()
  | n + 1 => body.bind fun _ => repeatN body n

@[simp] theorem pure_eq (a : α) : (pure a : Prog S α) = .ret a := rfl

@[simp] theorem bind_eq (p : Prog S α) (f : α → Prog S β) : (p >>= f) = p.bind f := rfl

@[simp] theorem ret_bind (a : α) (f : α → Prog S β) : (Prog.ret a).bind f = f a := rfl

@[simp] theorem throw_bind (e : S.Err) (f : α → Prog S β) : (Prog.throw e).bind f = .throw e := rfl

theorem bind_assoc {γ : Type} (p : Prog S α) (f : α → Prog S β) (g : β → Prog S γ) :
    (p.bind f).bind g = p.bind fun a => (f a).bind g := by
  induction p with
  | ret a => rfl
  | throw e => rfl
  | call s k ih => simp only [bind, ih]

/-! ## Uninterrupted execution -/

section Run

variable {σ : Type} (M : Machine S σ)

def run : Prog S α → σ → Except S.Err α × σ
  | .ret a, w => (.ok a, w)
  | .throw e, w => (.error e, w)
  | .call s k, w => (k (M.exec s w).1).run (M.exec s w).2

@[simp] theorem run_ret (a : α) (w : σ) : (Prog.ret a : Prog S α).run M w = (.ok a, w) := rfl

@[simp] theorem run_throw (e : S.Err) (w : σ) :
    (Prog.throw e : Prog S α).run M w = (.error e, w) := rfl

theorem run_bind (p : Prog S α) (f : α → Prog S β) (w : σ) :
    (p.bind f).run M w =
      match p.run M w with
      | (.ok a, w') => (f a).run M w'
      | (.error e, w') => (.error e, w') := by
  induction p generalizing w with
  | ret a => rfl
  | throw e => rfl
  | call s k ih => exact ih _ _

theorem run_bind_ok {p : Prog S α} {f : α → Prog S β} {w w' : σ} {a : α}
    (h : p.run M w = (.ok a, w')) : (p.bind f).run M w = (f a).run M w' := by
  rw [run_bind, h]

theorem run_bind_error {p : Prog S α} {f : α → Prog S β} {w w' : σ} {e : S.Err}
    (h : p.run M w = (.error e, w')) : (p.bind f).run M w = (.error e, w') := by
  rw [run_bind, h]

theorem run_bind_congr {p q : Prog S α} (f : α → Prog S β) {w w' : σ} (h : p.run M w = q.run M w') :
    (p.bind f).run M w = (q.bind f).run M w' := by
  rw [run_bind, run_bind, h]

/-- A pure step at the end leaves the world alone. -/
theorem run_bind_ret (p : Prog S α) (g : α → β) (w : σ) :
    ((p.bind fun a => .ret (g a)).run M w).2 = (p.run M w).2 := by
  rw [run_bind]
  rcases p.run M w with ⟨r, w'⟩
  cases r <;> rfl

@[simp] theorem run_perform (s : S.Stmt) (w : σ) : (perform s).run M w = M.exec s w := by
  unfold perform
  rw [run]
  rcases M.exec s w with ⟨r, w'⟩
  cases r <;> rfl

/-- One statement that succeeds, then the rest. -/
theorem run_perform_bind {s : S.Stmt} {f : S.Reply s → Prog S β} {w : σ} {a : S.Reply s}
    (h : (M.exec s w).1 = .ok a) :
    ((perform s).bind f).run M w = (f a).run M (M.exec s w).2 := by
  rw [run_bind, run_perform]
  rcases hx : M.exec s w with ⟨r, w'⟩
  rw [hx] at h
  subst h
  rfl

theorem run_tryCatch (p : Prog S α) (h : S.Err → Prog S α) (w : σ) :
    (p.tryCatch h).run M w =
      match p.run M w with
      | (.ok a, w') => (.ok a, w')
      | (.error e, w') => (h e).run M w' := by
  induction p generalizing w with
  | ret a => rfl
  | throw e => rfl
  | call s k ih => exact ih _ _

/-- What every `try p catch { log }` ends with. -/
theorem run_tryCatch_ret (p : Prog S Unit) (w : σ) :
    ((p.tryCatch fun _ => .ret ()).run M w).1 = .ok () := by
  rw [run_tryCatch]
  rcases p.run M w with ⟨r, w'⟩
  cases r <;> rfl

end Run

/-! ## The statements a program can issue -/

/-- Every statement `p` issues, whatever the replies, satisfies `A`. -/
def Uses (A : S.Stmt → Prop) : Prog S α → Prop
  | .ret _ => True
  | .throw _ => True
  | .call s k => A s ∧ ∀ r, (k r).Uses A

variable {A : S.Stmt → Prop}

@[simp] theorem uses_ret (a : α) : (Prog.ret a : Prog S α).Uses A := trivial

@[simp] theorem uses_throw (e : S.Err) : (Prog.throw e : Prog S α).Uses A := trivial

@[simp] theorem uses_perform (s : S.Stmt) : (perform s).Uses A ↔ A s := by
  constructor
  · exact fun h => h.1
  · refine fun h => ⟨h, fun r => ?_⟩
    cases r <;> trivial

theorem uses_bind {p : Prog S α} {f : α → Prog S β} (hp : p.Uses A) (hf : ∀ a, (f a).Uses A) :
    (p.bind f).Uses A := by
  induction p with
  | ret a => exact hf a
  | throw e => trivial
  | call s k ih => exact ⟨hp.1, fun r => ih r (hp.2 r)⟩

/-- One statement, then the rest. -/
theorem uses_perform_bind {s : S.Stmt} {f : S.Reply s → Prog S β} (hs : A s)
    (hf : ∀ a, (f a).Uses A) : ((perform s).bind f).Uses A :=
  uses_bind ((uses_perform s).mpr hs) hf

theorem uses_tryCatch {p : Prog S α} {h : S.Err → Prog S α} (hp : p.Uses A)
    (hh : ∀ e, (h e).Uses A) : (p.tryCatch h).Uses A := by
  induction p with
  | ret a => trivial
  | throw e => exact hh e
  | call s k ih => exact ⟨hp.1, fun r => ih r (hp.2 r)⟩

theorem uses_forEach {γ : Type} {body : γ → Prog S Unit} {xs : List γ}
    (h : ∀ x ∈ xs, (body x).Uses A) : (forEach body xs).Uses A := by
  induction xs with
  | nil => trivial
  | cons x xs ih =>
    exact uses_bind (h x (by simp)) fun _ => ih fun y hy => h y (by simp [hy])

theorem uses_repeatN {body : Prog S Unit} {n : Nat} (h : body.Uses A) :
    (repeatN body n).Uses A := by
  induction n with
  | zero => trivial
  | succ n ih => exact uses_bind h fun _ => ih

theorem Uses.mono {B : S.Stmt → Prop} {p : Prog S α} (h : p.Uses A) (hab : ∀ s, A s → B s) :
    p.Uses B := by
  induction p with
  | ret a => trivial
  | throw e => trivial
  | call s k ih => exact ⟨hab s h.1, fun r => ih r (h.2 r)⟩

theorem Uses.and {B : S.Stmt → Prop} {p : Prog S α} (h : p.Uses A) (h' : p.Uses B) :
    p.Uses fun s => A s ∧ B s := by
  induction p with
  | ret a => trivial
  | throw e => trivial
  | call s k ih => exact ⟨⟨h.1, h'.1⟩, fun r => ih r (h.2 r) (h'.2 r)⟩

/-- A property kept by every statement a program uses is kept by the whole run. -/
theorem run_invariant {σ : Type} {M : Machine S σ} {I : σ → Prop} {p : Prog S α}
    (hp : p.Uses A) (hI : ∀ s w, A s → I w → I (M.exec s w).2) {w : σ} (h : I w) :
    I (p.run M w).2 := by
  induction p generalizing w with
  | ret a => exact h
  | throw e => exact h
  | call s k ih => exact ih _ (hp.2 _) (hI s w hp.1 h)

/-- An uninterrupted run of `p` keeps `I`. -/
def Keeps {σ : Type} (M : Machine S σ) (I : σ → Prop) (p : Prog S α) : Prop :=
  ∀ w, I w → I (p.run M w).2

section Keeps

variable {σ : Type} {M : Machine S σ} {I : σ → Prop}

theorem keeps_ret (a : α) : (Prog.ret a : Prog S α).Keeps M I := fun _ h => h

theorem keeps_throw (e : S.Err) : (Prog.throw e : Prog S α).Keeps M I := fun _ h => h

/-- A property that holds after the first program, whatever its result, and is kept by the rest. -/
theorem run_bind_keeps {p : Prog S α} {f : α → Prog S β} {w : σ} (h : I (p.run M w).2)
    (hf : ∀ a, (f a).Keeps M I) : I ((p.bind f).run M w).2 := by
  rw [run_bind]
  rcases hrun : p.run M w with ⟨r, w'⟩
  rw [hrun] at h
  cases r with
  | ok a => exact hf a w' h
  | error e => exact h

theorem keeps_bind {p : Prog S α} {f : α → Prog S β} (hp : p.Keeps M I)
    (hf : ∀ a, (f a).Keeps M I) : (p.bind f).Keeps M I := fun w h =>
  run_bind_keeps (hp w h) hf

theorem keeps_repeatN {body : Prog S Unit} (h : body.Keeps M I) (n : Nat) :
    (repeatN body n).Keeps M I := by
  induction n with
  | zero => exact keeps_ret ()
  | succ n ih => exact keeps_bind h fun _ => ih

theorem keeps_of_uses {p : Prog S α} (hp : p.Uses A)
    (hI : ∀ s w, A s → I w → I (M.exec s w).2) : p.Keeps M I := fun _ h =>
  run_invariant hp hI h

end Keeps

/-- The statements that an uninterrupted run issues, in order. -/
def trace {σ : Type} (M : Machine S σ) : Prog S α → σ → List S.Stmt
  | .ret _, _ => []
  | .throw _, _ => []
  | .call s k, w => s :: (k (M.exec s w).1).trace M (M.exec s w).2

theorem Uses.trace {σ : Type} (M : Machine S σ) {p : Prog S α} (hp : p.Uses A) (w : σ) :
    ∀ s ∈ p.trace M w, A s := by
  induction p generalizing w with
  | ret a => simp [Prog.trace]
  | throw e => simp [Prog.trace]
  | call s k ih =>
    intro s' hs'
    rcases List.mem_cons.mp hs' with rfl | hs'
    · exact hp.1
    · exact ih _ (hp.2 _) _ s' hs'

/-! ## The values a program can return -/

/-- Every value `p` returns, whatever the replies, satisfies `P`. -/
def Yields (P : α → Prop) : Prog S α → Prop
  | .ret a => P a
  | .throw _ => True
  | .call _ k => ∀ r, (k r).Yields P

theorem yields_bind {P : β → Prop} {p : Prog S α} {f : α → Prog S β} (h : ∀ a, (f a).Yields P) :
    (p.bind f).Yields P := by
  induction p with
  | ret a => exact h a
  | throw e => trivial
  | call s k ih => exact fun r => ih r

theorem of_run_ok {σ : Type} {M : Machine S σ} {P : α → Prop} {p : Prog S α} (hp : p.Yields P)
    {w w' : σ} {a : α} (h : p.run M w = (.ok a, w')) : P a := by
  induction p generalizing w with
  | ret b => cases h; exact hp
  | throw e => cases h
  | call s k ih => exact ih _ (hp _) h

/-! ## Programs that cannot fail -/

/-- `p` returns a value whatever the replies, and issues statements in `A` only, as long as none of
them fails. -/
def Completes (A : S.Stmt → Prop) : Prog S α → Prop
  | .ret _ => True
  | .throw _ => False
  | .call s k => A s ∧ ∀ a, (k (.ok a)).Completes A

theorem completes_perform_bind {s : S.Stmt} {f : S.Reply s → Prog S β} (hs : A s)
    (hf : ∀ a, (f a).Completes A) : ((perform s).bind f).Completes A := ⟨hs, hf⟩

theorem completes_bind {p : Prog S α} {f : α → Prog S β} (hp : p.Completes A)
    (hf : ∀ a, (f a).Completes A) : (p.bind f).Completes A := by
  induction p with
  | ret a => exact hf a
  | throw e => exact hp.elim
  | call s k ih => exact ⟨hp.1, fun a => ih _ (hp.2 a)⟩

theorem completes_repeatN {body : Prog S Unit} {n : Nat} (h : body.Completes A) :
    (repeatN body n).Completes A := by
  induction n with
  | zero => trivial
  | succ n ih => exact completes_bind h fun _ => ih

theorem Completes.run {σ : Type} {M : Machine S σ} {p : Prog S α} (hp : p.Completes A)
    (hA : ∀ s w, A s → ∃ a, (M.exec s w).1 = .ok a) (w : σ) : ∃ a w', p.run M w = (.ok a, w') := by
  induction p generalizing w with
  | ret a => exact ⟨a, w, rfl⟩
  | throw e => exact hp.elim
  | call s k ih =>
    obtain ⟨a, ha⟩ := hA s w hp.1
    obtain ⟨b, w', hrun⟩ := ih (.ok a) (hp.2 a) (M.exec s w).2
    refine ⟨b, w', ?_⟩
    rw [Prog.run, ha]
    exact hrun

/-! ## The exceptions a program can end with -/

/-- `p` ends only with exceptions in `E`, as long as the statements fail only with such. -/
def Raises (E : S.Err → Prop) : Prog S α → Prop
  | .ret _ => True
  | .throw e => E e
  | .call _ k => (∀ a, (k (.ok a)).Raises E) ∧ ∀ e, E e → (k (.error e)).Raises E

variable {E : S.Err → Prop}

theorem raises_ret (a : α) : (Prog.ret a : Prog S α).Raises E := trivial

theorem raises_perform (s : S.Stmt) : (perform s).Raises E := ⟨fun _ => trivial, fun _ he => he⟩

theorem raises_bind {p : Prog S α} {f : α → Prog S β} (hp : p.Raises E)
    (hf : ∀ a, (f a).Raises E) : (p.bind f).Raises E := by
  induction p with
  | ret a => exact hf a
  | throw e => exact hp
  | call s k ih => exact ⟨fun a => ih _ (hp.1 a), fun e he => ih _ (hp.2 e he)⟩

theorem raises_perform_bind {s : S.Stmt} {f : S.Reply s → Prog S β} (hf : ∀ a, (f a).Raises E) :
    ((perform s).bind f).Raises E := raises_bind (raises_perform s) hf

theorem raises_repeatN {body : Prog S Unit} {n : Nat} (h : body.Raises E) : (repeatN body n).Raises E := by
  induction n with
  | zero => trivial
  | succ n ih => exact raises_bind h fun _ => ih

theorem raises_tryCatch {p : Prog S α} {h : S.Err → Prog S α} (hp : p.Raises E)
    (hh : ∀ e, (h e).Raises E) : (p.tryCatch h).Raises E := by
  induction p with
  | ret a => trivial
  | throw e => exact hh e
  | call s k ih => exact ⟨fun a => ih _ (hp.1 a), fun e he => ih _ (hp.2 e he)⟩

theorem of_run_error {σ : Type} {M : Machine S σ} {p : Prog S α} (hp : p.Raises E)
    (hM : ∀ s w e, (M.exec s w).1 = .error e → E e) {w w' : σ} {e : S.Err}
    (h : p.run M w = (.error e, w')) : E e := by
  induction p generalizing w with
  | ret a => cases h
  | throw e' => cases h; exact hp
  | call s k ih =>
    refine ih _ ?_ h
    cases hx : (M.exec s w).1 with
    | ok a => exact hp.1 a
    | error e' => exact hp.2 e' (hM s w e' hx)

end Prog
end Resumption
