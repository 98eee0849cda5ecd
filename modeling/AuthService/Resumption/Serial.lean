import AuthService.Resumption.Pool

/-!
# Resumption.Serial

Programs run concurrently that amount to the same programs run one after another, as far as a view of
the world goes.

* `Settles v effect S` — every step keeps the view `v`, or it is the one step in which its thread takes
  effect, all at once; `S` says which threads have.
* `Reach.serial`       — the rule: the view in a reached state is what the effects of the settled
  threads make of the first one, in the order in which the threads settled.
* `foldl_run`          — the same effects, when each program is run as a whole.
-/

namespace Resumption

variable {S : Sig} {σ ι V : Type} [DecidableEq ι] {Ret : ι → Type} {M : Machine S σ}
  {C : Pool S σ ι Ret → Label ι → Prop} {p q : Pool S σ ι Ret}

/-- One scheduling step, from `q` to `q'`, of thread `i`. -/
structure Settles (v : σ → V) (effect : ι → V → V) (settled : Pool S σ ι Ret → ι → Prop) (i : ι)
    (q q' : Pool S σ ι Ret) : Prop where
  others : ∀ j, j ≠ i → (settled q' j ↔ settled q j)
  self : (settled q' i ↔ settled q i) ∧ v q'.world = v q.world ∨
    ¬ settled q i ∧ settled q' i ∧ v q'.world = effect i (v q.world)

variable {v : σ → V} {effect : ι → V → V} {settled : Pool S σ ι Ret → ι → Prop}

/-- The settled threads, each once and in order, account for the view. -/
def Serial (v : σ → V) (effect : ι → V → V) (settled : Pool S σ ι Ret → ι → Prop)
    (p q : Pool S σ ι Ret) (order : List ι) : Prop :=
  order.Nodup ∧ (∀ i, i ∈ order ↔ settled q i) ∧
    v q.world = order.foldl (fun a i => effect i a) (v p.world)

/-- A thread that settles comes last. -/
theorem serial_step {i : ι} {q' : Pool S σ ι Ret} {order : List ι}
    (h : Serial v effect settled p q order) (hstep : Settles v effect settled i q q') :
    ∃ order, Serial v effect settled p q' order := by
  obtain ⟨hnodup, hmem, hview⟩ := h
  rcases hstep.self with ⟨hsame, hv⟩ | ⟨hnew, hsettled, hv⟩
  · refine ⟨order, hnodup, ?_, hv.trans hview⟩
    intro j
    by_cases hj : j = i
    · subst hj
      rw [hmem, hsame]
    · rw [hmem, hstep.others j hj]
  · refine ⟨order ++ [i], ?_, ?_, ?_⟩
    · have hi : i ∉ order := by
        rw [hmem]
        exact hnew
      refine List.nodup_append.mpr ⟨hnodup, List.nodup_singleton i, ?_⟩
      intro a ha b hb hab
      rw [List.mem_singleton.mp hb] at hab
      exact hi (hab ▸ ha)
    · intro j
      by_cases hj : j = i
      · subst hj
        simp [hsettled]
      · simp [hj, hmem, hstep.others j hj]
    · rw [hv, hview, List.foldl_append]
      rfl

/-- Where every step settles its thread or nothing, the reached states are serial. -/
theorem Reach.serial (hr : Reach M C p q) (h0 : ∀ i, ¬ settled p i)
    (htick : ∀ q n, (∀ i, settled (q.step M (.tick n)) i ↔ settled q i) ∧
      v (q.step M (.tick n)).world = v q.world)
    (hrun : ∀ q i s k, Reach M C p q → C q (.run i) → q.prog i = .call s k →
      Settles v effect settled i q (q.step M (.run i))) :
    ∃ order, Serial v effect settled p q order := by
  refine hr.invariant_steps (I := fun q => ∃ order, Serial v effect settled p q order) ?_ ?_ ?_
  · exact ⟨[], List.nodup_nil, fun i => by simp [h0 i], rfl⟩
  · rintro q n - ⟨order, hnodup, hmem, hview⟩ -
    obtain ⟨hsame, hv⟩ := htick q n
    exact ⟨order, hnodup, fun i => (hmem i).trans (hsame i).symm, hv.trans hview⟩
  · rintro q i s k hq ⟨order, h⟩ hc hp
    exact serial_step h (hrun q i s k hq hc hp)

omit [DecidableEq ι] in
/-- Programs run as a whole, one after another. -/
theorem foldl_run {prog : ∀ i, Prog S (Ret i)}
    (hrun : ∀ i w, v ((prog i).run M w).2 = effect i (v w)) (order : List ι) (w : σ) :
    v (order.foldl (fun w i => ((prog i).run M w).2) w) =
      order.foldl (fun a i => effect i a) (v w) := by
  induction order generalizing w with
  | nil => rfl
  | cons i order ih =>
    simp only [List.foldl_cons]
    rw [ih, hrun]

end Resumption
