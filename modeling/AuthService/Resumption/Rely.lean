import AuthService.Resumption.Pool

/-!
# Resumption.Rely

One thread among any others, as long as the world keeps to a property `I`.

* `Prog.Ensures M I P` — whatever worlds in `I` its statements meet, the program ends as `P` says.
* `Reach.ensures`      — the rule: where `I` holds in every state on the way, a thread that ensures `P`
  goes on to do so, and ends as `P` says.

The rules for the formers of `Prog` replace each statement by the replies that a world in `I` can give.
-/

namespace Resumption

variable {S : Sig} {σ α β : Type} {M : Machine S σ} {I : σ → Prop}

namespace Prog

def Ensures (M : Machine S σ) (I : σ → Prop) (P : Except S.Err α → Prop) : Prog S α → Prop
  | .ret a => P (.ok a)
  | .throw e => P (.error e)
  | .call s k => ∀ w, I w → (k (M.exec s w).1).Ensures M I P

variable {P Q : Except S.Err α → Prop} {p : Prog S α}

theorem Ensures.mono (h : p.Ensures M I P) (hPQ : ∀ r, P r → Q r) : p.Ensures M I Q := by
  induction p with
  | ret a => exact hPQ _ h
  | throw e => exact hPQ _ h
  | call s k ih => exact fun w hw => ih _ (h w hw)

theorem ensures_bind {f : α → Prog S β} {P : Except S.Err β → Prop}
    (hp : p.Ensures M I fun r => match r with
      | .ok a => (f a).Ensures M I P
      | .error e => P (.error e)) : (p.bind f).Ensures M I P := by
  induction p with
  | ret a => exact hp
  | throw e => exact hp
  | call s k ih => exact fun w hw => ih _ (hp w hw)

theorem ensures_tryCatch {h : S.Err → Prog S α}
    (hp : p.Ensures M I fun r => match r with
      | .ok a => P (.ok a)
      | .error e => (h e).Ensures M I P) : (p.tryCatch h).Ensures M I P := by
  induction p with
  | ret a => exact hp
  | throw e => exact hp
  | call s k ih => exact fun w hw => ih _ (hp w hw)

theorem ensures_perform {s : S.Stmt} {P : Except S.Err (S.Reply s) → Prop}
    (h : ∀ w, I w → P (M.exec s w).1) : (perform s).Ensures M I P := by
  intro w hw
  have hreply := h w hw
  cases hexec : (M.exec s w).1 with
  | ok a => rw [hexec] at hreply; exact hreply
  | error e => rw [hexec] at hreply; exact hreply

/-- One statement, then the rest. -/
theorem ensures_perform_bind {s : S.Stmt} {f : S.Reply s → Prog S β} {P : Except S.Err β → Prop}
    (hok : ∀ w a, I w → (M.exec s w).1 = .ok a → (f a).Ensures M I P)
    (herr : ∀ w e, I w → (M.exec s w).1 = .error e → P (.error e)) :
    ((perform s).bind f).Ensures M I P :=
  ensures_bind (ensures_perform fun w hw => by
    cases hexec : (M.exec s w).1 with
    | ok a => exact hok w a hw hexec
    | error e => exact herr w e hw hexec)

end Prog

variable {ι : Type} [DecidableEq ι] {Ret : ι → Type} {C : Pool S σ ι Ret → Label ι → Prop}
  {p q : Pool S σ ι Ret}

theorem Reach.log_mono (hr : Reach M C p q) {e : Event S ι} (he : e ∈ p.log) : e ∈ q.log := by
  refine hr.invariant_steps (I := fun q => e ∈ q.log) he (fun q n _ ih _ => ih)
    fun q i s k _ ih _ hp => ?_
  rw [Pool.step_call hp]
  exact List.mem_cons_of_mem _ ih

/-- A thread that ensures `P` under `I`, while all others keep the world in `I`. -/
theorem Reach.ensures {i : ι} {P : Except S.Err (Ret i) → Prop} (hr : Reach M C p q)
    (hI : ∀ q', Reach M C p q' → Reach M C q' q → I q'.world) (h0 : (p.prog i).Ensures M I P) :
    (q.prog i).Ensures M I P := by
  induction hr with
  | refl => exact h0
  | @step q l hr hc ih =>
    have hq := ih fun q' h₁ h₂ => hI q' h₁ (h₂.trans (.single hc))
    cases l with
    | tick n => exact hq
    | run j =>
      cases hp : q.prog j with
      | ret a => rw [Pool.step_finished (by simp [Pool.next?, hp])]; exact hq
      | throw e => rw [Pool.step_finished (by simp [Pool.next?, hp])]; exact hq
      | call s k =>
        rw [Pool.step_call hp]
        by_cases hij : i = j
        · subst hij
          rw [hp] at hq
          simpa using hq q.world (hI q hr (.single hc))
        · simpa [Function.update_of_ne hij] using hq

/-- What such a thread ends with. -/
theorem Reach.ensures_result {i : ι} {P : Except S.Err (Ret i) → Prop} {r : Except S.Err (Ret i)}
    (hr : Reach M C p q) (hI : ∀ q', Reach M C p q' → Reach M C q' q → I q'.world)
    (h0 : (p.prog i).Ensures M I P) (hres : q.result? i = some r) : P r := by
  have hq := hr.ensures hI h0
  unfold Pool.result? at hres
  cases hp : q.prog i with
  | ret a => rw [hp] at hres hq; cases hres; exact hq
  | throw e => rw [hp] at hres hq; cases hres; exact hq
  | call s k => rw [hp] at hres; cases hres

end Resumption
