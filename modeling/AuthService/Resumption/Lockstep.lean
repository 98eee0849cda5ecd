import AuthService.Resumption.History

/-!
# Resumption.Lockstep

Two pools under one schedule, each on a machine of its own; some threads stand still in the second.

* `Prog.advance`      — a scheduling step, as one thread sees it.
* `Label.moves still` — the steps that the second pool takes, too.
* `Pool.Meets C`      — every step of a schedule meets the condition `C`.
* `Pool.Abreast R T`  — the worlds are related by `R`, and the threads that move by `T`, which may let
  one pool's thread fall a step behind the other's.
* `Lockstep`          — what keeps two pools abreast, step by step; `Lockstep.runs` — then every
  schedule that meets `C` in the first pool does.
-/

namespace Resumption

variable {S : Sig} {σ α ι : Type} {Ret : ι → Type}

/-- The rest of the program, and the world, after one scheduling step. -/
def Prog.advance (M : Machine S σ) : Prog S α → σ → Prog S α × σ
  | .ret a, w => (.ret a, w)
  | .throw e, w => (.throw e, w)
  | .call s k, w => (k (M.exec s w).1, (M.exec s w).2)

def Label.moves (still : ι → Bool) : Label ι → Bool
  | .run i => !still i
  | .tick _ => true

variable [DecidableEq ι]

theorem Pool.step_advance (M : Machine S σ) (q : Pool S σ ι Ret) (i : ι) :
    (q.step M (.run i)).world = ((q.prog i).advance M q.world).2 ∧
      (q.step M (.run i)).prog = Function.update q.prog i ((q.prog i).advance M q.world).1 := by
  cases hp : q.prog i with
  | ret a =>
    rw [Pool.step_finished (by simp [Pool.next?, hp])]
    exact ⟨rfl, by simp [Prog.advance, ← hp]⟩
  | throw e =>
    rw [Pool.step_finished (by simp [Pool.next?, hp])]
    exact ⟨rfl, by simp [Prog.advance, ← hp]⟩
  | call s k =>
    rw [Pool.step_call hp]
    exact ⟨rfl, rfl⟩

theorem Pool.prog_step_other {M : Machine S σ} {q : Pool S σ ι Ret} {i j : ι} (hij : j ≠ i) :
    (q.step M (.run i)).prog j = q.prog j := by
  rw [(Pool.step_advance M q i).2, Function.update_of_ne hij]

theorem Pool.prog_step_self (M : Machine S σ) (q : Pool S σ ι Ret) (i : ι) :
    (q.step M (.run i)).prog i = ((q.prog i).advance M q.world).1 := by
  rw [(Pool.step_advance M q i).2, Function.update_self]

def Pool.Meets (M : Machine S σ) (C : Pool S σ ι Ret → Label ι → Prop) :
    Pool S σ ι Ret → List (Label ι) → Prop
  | _, [] => True
  | q, l :: ls => C q l ∧ Meets M C (q.step M l) ls

theorem Pool.meets_true (M : Machine S σ) (q : Pool S σ ι Ret) (ls : List (Label ι)) :
    Pool.Meets M (fun _ _ => True) q ls := by
  induction ls generalizing q with
  | nil => trivial
  | cons l ls ih => exact ⟨trivial, ih _⟩

theorem Pool.reach_of_meets {M : Machine S σ} {C : Pool S σ ι Ret → Label ι → Prop}
    {q : Pool S σ ι Ret} {ls : List (Label ι)} (h : Pool.Meets M C q ls) :
    Reach M C q (q.runs M ls) := by
  induction ls generalizing q with
  | nil => exact .refl
  | cons l ls ih => exact (Reach.single h.1).trans (ih h.2)

/-- What holds of every exchange of a run holds at each of its steps. -/
theorem Pool.meets_history {M : Machine S σ} {P : ι → Exchange S → Prop} {q : Pool S σ ι Ret} {ls : List (Label ι)}
    (h : ∀ i, ∀ x ∈ (q.runs M ls).history i, P i x) :
    Pool.Meets M (fun q l => ∀ i, ∀ x ∈ (q.step M l).history i, P i x) q ls := by
  induction ls generalizing q with
  | nil => trivial
  | cons l ls ih =>
    exact ⟨fun i x hx => h i x (Pool.history_runs_subset (q.step M l) ls i hx), ih h⟩

structure Pool.Abreast (still : ι → Bool) (R : σ → σ → Prop)
    (T : ∀ i, σ → Prog S (Ret i) → Prog S (Ret i) → Prop) (q q' : Pool S σ ι Ret) : Prop where
  world : R q.world q'.world
  prog : ∀ i, still i = false → T i q.world (q.prog i) (q'.prog i)

/-- The conditions, on pools `q` and `q'` that `p` and `p'` reach. -/
structure Lockstep (M M' : Machine S σ) (C : Pool S σ ι Ret → Label ι → Prop)
    (p p' : Pool S σ ι Ret) (still : ι → Bool) (R : σ → σ → Prop)
    (T : ∀ i, σ → Prog S (Ret i) → Prog S (Ret i) → Prop) : Prop where
  tick : ∀ n w w', R w w' → R (M.tick n w) (M'.tick n w')
  waits : ∀ i n w a a', T i w a a' → T i (M.tick n w) a a'
  keeps : ∀ i s w a a', T i w a a' → T i (M.exec s w).2 a a'
  idles : ∀ q q' i s k, Reach M C p q → Reach M' (fun _ _ => True) p' q' → C q (.run i) →
    still i = true → q.prog i = .call s k → R q.world q'.world → R (M.exec s q.world).2 q'.world
  moves : ∀ q q' i, Reach M C p q → Reach M' (fun _ _ => True) p' q' → C q (.run i) →
    still i = false → R q.world q'.world → T i q.world (q.prog i) (q'.prog i) →
    R ((q.prog i).advance M q.world).2 ((q'.prog i).advance M' q'.world).2 ∧
      T i ((q.prog i).advance M q.world).2 ((q.prog i).advance M q.world).1
        ((q'.prog i).advance M' q'.world).1

variable {M M' : Machine S σ} {C : Pool S σ ι Ret → Label ι → Prop} {p p' q q' : Pool S σ ι Ret}
  {still : ι → Bool} {R : σ → σ → Prop} {T : ∀ i, σ → Prog S (Ret i) → Prog S (Ret i) → Prop}

/-- What a thread's relation keeps while any thread takes its step. -/
theorem Lockstep.keeps_step (hL : Lockstep M M' C p p' still R T) {i j : ι}
    {a a' : Prog S (Ret j)} (h : T j q.world a a') : T j (q.step M (.run i)).world a a' := by
  rw [(Pool.step_advance M q i).1]
  cases hp : q.prog i with
  | ret b => exact h
  | throw e => exact h
  | call s k => exact hL.keeps j s q.world a a' h

/-- A thread that stands still in the second pool takes its step in the first. -/
theorem Lockstep.step_still (hL : Lockstep M M' C p p' still R T) (hq : Reach M C p q)
    (hq' : Reach M' (fun _ _ => True) p' q') {i : ι} (hc : C q (.run i)) (hi : still i = true)
    (h : Pool.Abreast still R T q q') : Pool.Abreast still R T (q.step M (.run i)) q' := by
  constructor
  · rw [(Pool.step_advance M q i).1]
    cases hp : q.prog i with
    | ret a => exact h.world
    | throw e => exact h.world
    | call s k => exact hL.idles q q' i s k hq hq' hc hi hp h.world
  · intro j hj
    have hne : j ≠ i := by
      rintro rfl
      rw [hi] at hj
      cases hj
    rw [Pool.prog_step_other hne]
    exact hL.keeps_step (h.prog j hj)

/-- A thread that moves takes its step in both pools. -/
theorem Lockstep.step_moves (hL : Lockstep M M' C p p' still R T) (hq : Reach M C p q)
    (hq' : Reach M' (fun _ _ => True) p' q') {i : ι} (hc : C q (.run i)) (hi : still i = false)
    (h : Pool.Abreast still R T q q') :
    Pool.Abreast still R T (q.step M (.run i)) (q'.step M' (.run i)) := by
  obtain ⟨hworld, hprog⟩ := hL.moves q q' i hq hq' hc hi h.world (h.prog i hi)
  constructor
  · rw [(Pool.step_advance M q i).1, (Pool.step_advance M' q' i).1]
    exact hworld
  · intro j hj
    by_cases hji : j = i
    · subst hji
      rw [(Pool.step_advance M q j).1, Pool.prog_step_self, Pool.prog_step_self]
      exact hprog
    · rw [Pool.prog_step_other hji, Pool.prog_step_other hji]
      exact hL.keeps_step (h.prog j hj)

theorem Lockstep.runs (hL : Lockstep M M' C p p' still R T) (hq : Reach M C p q)
    (hq' : Reach M' (fun _ _ => True) p' q') (h : Pool.Abreast still R T q q')
    {ls : List (Label ι)} (hls : Pool.Meets M C q ls) :
    Pool.Abreast still R T (q.runs M ls) (q'.runs M' (ls.filter (Label.moves still))) := by
  induction ls generalizing q q' with
  | nil => exact h
  | cons l ls ih =>
    obtain ⟨hc, hls⟩ := hls
    cases l with
    | tick n =>
      refine ih (.step (.tick n) hq hc) (.step (.tick n) hq' trivial) ?_ hls
      exact ⟨hL.tick n _ _ h.world, fun i hi => hL.waits i n _ _ _ (h.prog i hi)⟩
    | run i =>
      cases hi : still i with
      | true =>
        have hfilter : (Label.run i :: ls).filter (Label.moves still) =
            ls.filter (Label.moves still) := by simp [Label.moves, hi]
        rw [hfilter]
        exact ih (.step (.run i) hq hc) hq' (hL.step_still hq hq' hc hi h) hls
      | false =>
        have hfilter : (Label.run i :: ls).filter (Label.moves still) =
            .run i :: ls.filter (Label.moves still) := by simp [Label.moves, hi]
        rw [hfilter]
        exact ih (.step (.run i) hq hc) (.step (.run i) hq' trivial)
          (hL.step_moves hq hq' hc hi h) hls

end Resumption
