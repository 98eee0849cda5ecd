import Mathlib.Logic.Basic

/-!
# Transition.Run

Runs of a deterministic labelled system `step : σ → α → σ`, labels chosen by the environment.

* `run step s as`      — the state after the labels `as`.
* `Always step I s as` — `I` holds at every point of the run, its two ends included.
* `Along step C s as`  — every label of the run meets `C` in the state it is applied to.

`always_of_along` is the invariant rule: an invariant kept by the labels that meet `C` holds all along
a run whose labels meet it.
-/

namespace Transition

variable {σ α : Type} (step : σ → α → σ)

def run (s : σ) (as : List α) : σ := as.foldl step s

def Always (I : σ → Prop) : σ → List α → Prop
  | s, [] => I s
  | s, a :: as => I s ∧ Always I (step s a) as

def Along (C : σ → α → Prop) : σ → List α → Prop
  | _, [] => True
  | s, a :: as => C s a ∧ Along C (step s a) as

instance decidableAlong (C : σ → α → Prop) [∀ s a, Decidable (C s a)] :
    (s : σ) → (as : List α) → Decidable (Along step C s as)
  | _, [] => .isTrue trivial
  | s, a :: as =>
    have := decidableAlong C (step s a) as
    inferInstanceAs (Decidable (C s a ∧ Along step C (step s a) as))

variable {step} {I J : σ → Prop} {C : σ → α → Prop} {s : σ} {as : List α}

theorem Always.mono (h : Always step I s as) (hIJ : ∀ s, I s → J s) : Always step J s as := by
  induction as generalizing s with
  | nil => exact hIJ _ h
  | cons a as ih => exact ⟨hIJ _ h.1, ih h.2⟩

theorem Always.start (h : Always step I s as) : I s := by
  cases as with
  | nil => exact h
  | cons a as => exact h.1

theorem Always.final (h : Always step I s as) : I (run step s as) := by
  induction as generalizing s with
  | nil => exact h
  | cons a as ih => exact ih h.2

theorem along_congr {D : σ → α → Prop} (h : ∀ s a, C s a ↔ D s a) :
    Along step C s as ↔ Along step D s as := by
  induction as generalizing s with
  | nil => exact Iff.rfl
  | cons a as ih => exact and_congr (h s a) ih

theorem always_of_along (hstep : ∀ s a, I s → C s a → I (step s a)) (h : I s)
    (hC : Along step C s as) : Always step I s as := by
  induction as generalizing s with
  | nil => exact h
  | cons a as ih => exact ⟨h, ih (hstep s a h hC.1) hC.2⟩

theorem always_of_invariant (hstep : ∀ s a, I s → I (step s a)) (h : I s) :
    Always step I s as := by
  induction as generalizing s with
  | nil => exact h
  | cons a as ih => exact ⟨h, ih (hstep s a h)⟩

/-- Where a step that misses `C` always ends outside `I`, a run inside `I` meets `C` all along. -/
theorem along_of_always (hstep : ∀ s a, I (step s a) → C s a) (h : Always step I s as) :
    Along step C s as := by
  induction as generalizing s with
  | nil => trivial
  | cons a as ih => exact ⟨hstep s a h.2.start, ih h.2⟩

end Transition
