import AuthService.Resumption.Prog

/-!
# Resumption.Simulation

Two uninterrupted runs side by side, from worlds that a relation `R` connects.

* `Prog.Simulates M R p p'` — from related worlds `p` and `p'` give the same result and leave related
  worlds.
* `Machine.Relates R s`     — so does the single statement `s`.

The rules follow the formers of `Prog`. `simulates_of_uses` covers programs all of whose statements
relate; `simulates_lookup` covers a first statement that only reads, and whose two replies may differ.
-/

namespace Resumption

variable {S : Sig} {σ α β : Type} {M : Machine S σ} {R : σ → σ → Prop}

def Machine.Relates (M : Machine S σ) (R : σ → σ → Prop) (s : S.Stmt) : Prop :=
  ∀ w w', R w w' → (M.exec s w).1 = (M.exec s w').1 ∧ R (M.exec s w).2 (M.exec s w').2

namespace Prog

def Simulates (M : Machine S σ) (R : σ → σ → Prop) (p p' : Prog S α) : Prop :=
  ∀ w w', R w w' → (p.run M w).1 = (p'.run M w').1 ∧ R (p.run M w).2 (p'.run M w').2

theorem simulates_ret (a : α) : (Prog.ret a : Prog S α).Simulates M R (.ret a) :=
  fun _ _ h => ⟨rfl, h⟩

theorem simulates_throw (e : S.Err) : (Prog.throw e : Prog S α).Simulates M R (.throw e) :=
  fun _ _ h => ⟨rfl, h⟩

/-- A first program that does the same in two given worlds, and rests that do in all related ones. -/
theorem run_bind_simulates {p p' : Prog S α} {f f' : α → Prog S β} {w w' : σ}
    (hp : (p.run M w).1 = (p'.run M w').1 ∧ R (p.run M w).2 (p'.run M w').2)
    (hf : ∀ a, (f a).Simulates M R (f' a)) :
    ((p.bind f).run M w).1 = ((p'.bind f').run M w').1 ∧
      R ((p.bind f).run M w).2 ((p'.bind f').run M w').2 := by
  obtain ⟨hres, hrel⟩ := hp
  rw [run_bind, run_bind]
  rcases hrun : p.run M w with ⟨r, v⟩
  rcases hrun' : p'.run M w' with ⟨r', v'⟩
  rw [hrun, hrun'] at hres hrel
  obtain rfl : r = r' := hres
  cases r with
  | ok a => exact hf a v v' hrel
  | error e => exact ⟨rfl, hrel⟩

theorem simulates_bind {p p' : Prog S α} {f f' : α → Prog S β} (hp : p.Simulates M R p')
    (hf : ∀ a, (f a).Simulates M R (f' a)) : (p.bind f).Simulates M R (p'.bind f') := fun w w' h =>
  run_bind_simulates (hp w w' h) hf

/-- A first statement that only reads, with replies `a` and `a'` that may differ. -/
theorem simulates_lookup {s : S.Stmt} {f f' : S.Reply s → Prog S β}
    (h : ∀ w w', R w w' → ∃ a a', M.exec s w = (.ok a, w) ∧ M.exec s w' = (.ok a', w') ∧
      (f a).Simulates M R (f' a')) :
    ((perform s).bind f).Simulates M R ((perform s).bind f') := by
  intro w w' hR
  obtain ⟨a, a', hexec, hexec', hrest⟩ := h w w' hR
  rw [run_bind_ok M ((run_perform M s w).trans hexec),
    run_bind_ok M ((run_perform M s w').trans hexec')]
  exact hrest w w' hR

theorem simulates_of_uses {A : S.Stmt → Prop} {p : Prog S α} (hp : p.Uses A)
    (hA : ∀ s, A s → M.Relates R s) : p.Simulates M R p := by
  induction p with
  | ret a => exact simulates_ret a
  | throw e => exact simulates_throw e
  | call s k ih =>
    intro w w' h
    obtain ⟨hres, hrel⟩ := hA s hp.1 w w' h
    simp only [run, hres]
    exact ih _ (hp.2 _) _ _ hrel

end Prog
end Resumption
