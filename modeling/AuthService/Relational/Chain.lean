import Mathlib.Logic.Relation

/-!
# Relational.Chain

A functional relation `r`: every element has at most one successor. Its families, the classes of
the equivalence it generates, are chains that run together:

* `join_of_eqvGen` — two elements of a family have a common descendant.
* `reaches_last`   — every element of a family reaches each last one; `last_unique` — there is at
  most one.
* `acyclic_of_lt`  — a measure that grows along `r` excludes cycles.
-/

namespace Relational

open Relation

variable {α : Type*} {r : α → α → Prop} {a b : α}

theorem join_of_eqvGen (hfun : ∀ a b c, r a b → r a c → b = c) (h : EqvGen r a b) :
    Join (ReflTransGen r) a b := by
  have heqv : Equivalence (Join (ReflTransGen r)) := equivalence_join_reflTransGen
    fun a b c hab hac => ⟨c, by rw [hfun a b c hab hac], .refl⟩
  induction h with
  | rel x y hxy => exact ⟨y, .single hxy, .refl⟩
  | refl x => exact heqv.refl x
  | symm x y _ ih => exact heqv.symm ih
  | trans x y z _ _ ihxy ihyz => exact heqv.trans ihxy ihyz

theorem eq_of_last (hlast : ∀ c, ¬ r b c) (h : ReflTransGen r b a) : a = b := by
  rcases ReflTransGen.cases_head h with rfl | ⟨c, hstep, -⟩
  · rfl
  · exact absurd hstep (hlast c)

theorem reaches_last (hfun : ∀ a b c, r a b → r a c → b = c) (hlast : ∀ c, ¬ r b c)
    (h : EqvGen r a b) : ReflTransGen r a b := by
  obtain ⟨c, hac, hbc⟩ := join_of_eqvGen hfun h
  rwa [eq_of_last hlast hbc] at hac

theorem last_unique (hfun : ∀ a b c, r a b → r a c → b = c) (ha : ∀ c, ¬ r a c)
    (hb : ∀ c, ¬ r b c) (h : EqvGen r a b) : a = b :=
  (eq_of_last ha (reaches_last hfun hb h)).symm

theorem acyclic_of_lt (f : α → Nat) (h : ∀ a b, r a b → f a < f b) (a : α) :
    ¬ TransGen r a a := by
  have hlt : ∀ b, TransGen r a b → f a < f b := by
    intro b hab
    induction hab with
    | single hstep => exact h _ _ hstep
    | tail _ hstep ih => exact Nat.lt_trans ih (h _ _ hstep)
  exact fun hcycle => Nat.lt_irrefl _ (hlt a hcycle)

end Relational
