import AuthService.Resumption.Pool
import AuthService.Transition.Run

/-!
# Resumption.Unwinding

A schedule, and what is left of it without the threads outside a group.

* `Pool.echo`  — a step of the run in the remainder: a thread of the group runs there too, after
  `carry` has brought over the surroundings that the step met in the run.
* `Pool.alone` — the whole remainder of a schedule.
* `Unwinding R` — the conditions under which the two stay related: the steps of the others keep `R`,
  and those of the group are answered alike and keep it.
* `Unwinding.alone` — then every thread of the group does in the remainder what it does in the run.
-/

namespace Resumption

variable {S : Sig} {σ ι : Type} {Ret : ι → Type} [DecidableEq ι]

def Pool.echo (M : Machine S σ) (carry : σ → σ → σ) (mine : ι → Bool) (q q' : Pool S σ ι Ret) :
    Label ι → Pool S σ ι Ret
  | .tick _ => q'
  | .run i =>
    if mine i && (q'.next? i).isSome then
      ({ q' with world := carry q.world q'.world } : Pool S σ ι Ret).step M (.run i)
    else q'

/-- The remainder of a schedule: `q` is where the run is, `q'` where its remainder is. -/
def Pool.alone (M : Machine S σ) (carry : σ → σ → σ) (mine : ι → Bool) :
    Pool S σ ι Ret → Pool S σ ι Ret → List (Label ι) → Pool S σ ι Ret
  | _, q', [] => q'
  | q, q', l :: ls => alone M carry mine (q.step M l) (q.echo M carry mine q' l) ls

/-- Where the remainder goes on from a world `v`, `R` relates it to the run. -/
structure Unwinding (M : Machine S σ) (carry : σ → σ → σ) (mine : ι → Bool)
    (C : Pool S σ ι Ret → Label ι → Prop) (p : Pool S σ ι Ret) (R : Pool S σ ι Ret → σ → Prop) :
    Prop where
  tick : ∀ q v n, Reach M C p q → R q v → R (q.step M (.tick n)) v
  ignores : ∀ q v i s k, Reach M C p q → R q v → C q (.run i) → mine i = false →
    q.prog i = .call s k → R (q.step M (.run i)) v
  answers : ∀ q v i s k, Reach M C p q → R q v → C q (.run i) → mine i = true →
    q.prog i = .call s k → (M.exec s q.world).1 = (M.exec s (carry q.world v)).1
  agrees : ∀ q v i s k, Reach M C p q → R q v → C q (.run i) → mine i = true →
    q.prog i = .call s k → R (q.step M (.run i)) (M.exec s (carry q.world v)).2

variable {M : Machine S σ} {carry : σ → σ → σ} {mine : ι → Bool}
  {C : Pool S σ ι Ret → Label ι → Prop} {p q q' : Pool S σ ι Ret}
  {R : Pool S σ ι Ret → σ → Prop}

/-- The threads of the group stand alike, and the worlds are related. -/
structure Pool.Alike (mine : ι → Bool) (R : Pool S σ ι Ret → σ → Prop) (q q' : Pool S σ ι Ret) :
    Prop where
  prog : ∀ i, mine i = true → q'.prog i = q.prog i
  world : R q q'.world

theorem Unwinding.echo (hU : Unwinding M carry mine C p R) (hr : Reach M C p q)
    (h : Pool.Alike mine R q q') {l : Label ι} (hC : C q l) :
    Pool.Alike mine R (q.step M l) (q.echo M carry mine q' l) := by
  cases l with
  | tick n => exact ⟨h.prog, hU.tick q q'.world n hr h.world⟩
  | run i =>
    cases hp : q.prog i with
    | ret a | throw e =>
      have hecho : q.echo M carry mine q' (.run i) = q' := by
        cases hmine : mine i with
        | false => simp [Pool.echo, hmine]
        | true => simp [Pool.echo, Pool.next?, h.prog i hmine, hp]
      rw [Pool.step_finished (by simp [Pool.next?, hp]), hecho]
      exact h
    | call s k =>
      cases hmine : mine i with
      | false =>
        have hecho : q.echo M carry mine q' (.run i) = q' := by simp [Pool.echo, hmine]
        rw [hecho]
        refine ⟨fun j hj => ?_, hU.ignores q q'.world i s k hr h.world hC hmine hp⟩
        have hji : j ≠ i := by
          rintro rfl
          simp [hmine] at hj
        simp [Pool.step_call hp, h.prog j hj, Function.update_of_ne hji]
      | true =>
        have hcall : ({ q' with world := carry q.world q'.world } : Pool S σ ι Ret).prog i =
            .call s k := (h.prog i hmine).trans hp
        have hecho : q.echo M carry mine q' (.run i) =
            ({ q' with world := carry q.world q'.world } : Pool S σ ι Ret).step M (.run i) := by
          simp [Pool.echo, hmine, Pool.next?_of_call (p := q') hcall]
        have hanswers := hU.answers q q'.world i s k hr h.world hC hmine hp
        have hagrees := hU.agrees q q'.world i s k hr h.world hC hmine hp
        rw [hecho]
        refine ⟨fun j hj => ?_, ?_⟩
        · rw [Pool.step_call hp, Pool.step_call hcall]
          by_cases hji : j = i
          · subst hji
            simp [hanswers]
          · simp [Function.update_of_ne hji, h.prog j hj]
        · rw [Pool.world_step hcall]
          exact hagrees

/-- The threads of the group do in the remainder what they do in the run. -/
theorem Unwinding.alone (hU : Unwinding M carry mine C p R) (hr : Reach M C p q)
    (h : Pool.Alike mine R q q') {ls : List (Label ι)}
    (hC : Transition.Along (fun q l => q.step M l) C q ls) :
    Pool.Alike mine R (q.runs M ls) (q.alone M carry mine q' ls) := by
  induction ls generalizing q q' with
  | nil => exact h
  | cons l ls ih => exact ih (.step l hr hC.1) (hU.echo hr h hC.1) hC.2

end Resumption
