import AuthService.Resumption.Pool
import AuthService.Resumption.Refusal

/-!
# Resumption.Correspondence

Two programs that differ in some data they pass on, and never look into.

* `Pairing S`        — which statements correspond, and how their replies then do.
* `Replies B`        — both statements succeed with replies related by `B`, or fail with one error.
* `Prog.Corresponds` — the programs issue corresponding statements, for all replies that correspond.
* `Machine.Respects` — in related worlds, corresponding statements have corresponding replies and
  leave related worlds.
* `Pool.Corresponds` — two pools of corresponding programs in related worlds; a schedule keeps them so
  (`corresponds_runs`).
-/

namespace Resumption

variable {S : Sig} {σ α α' β β' γ γ' ι : Type}

inductive Replies {ε : Type} (B : α → β → Prop) : Except ε α → Except ε β → Prop where
  | ok {a : α} {b : β} (h : B a b) : Replies B (.ok a) (.ok b)
  | error (e : ε) : Replies B (.error e) (.error e)

theorem Replies.of_eq {ε : Type} {r r' : Except ε α} (h : r = r') : Replies Eq r r' := by
  subst h
  cases r with
  | ok a => exact .ok rfl
  | error e => exact .error e

theorem Replies.eq {ε : Type} {r r' : Except ε α} (h : Replies Eq r r') : r = r' := by
  cases h with
  | ok h => rw [h]
  | error e => rfl

abbrev Pairing (S : Sig) : Type := (s s' : S.Stmt) → (S.Reply s → S.Reply s' → Prop) → Prop

namespace Prog

inductive Corresponds (V : Pairing S) (A : α → β → Prop) : Prog S α → Prog S β → Prop where
  | ret {a : α} {b : β} (h : A a b) : Corresponds V A (.ret a) (.ret b)
  | throw (e : S.Err) : Corresponds V A (.throw e) (.throw e)
  | call {s s' : S.Stmt} {B : S.Reply s → S.Reply s' → Prop}
      {k : Except S.Err (S.Reply s) → Prog S α} {k' : Except S.Err (S.Reply s') → Prog S β}
      (hs : V s s' B) (hk : ∀ r r', Replies B r r' → Corresponds V A (k r) (k' r')) :
      Corresponds V A (.call s k) (.call s' k')

variable {V : Pairing S} {A : α → α' → Prop} {B : β → β' → Prop}

theorem corresponds_of_uses {P : S.Stmt → Prop} {p : Prog S α} (hp : p.Uses P)
    (hP : ∀ s, P s → V s s Eq) : Corresponds V Eq p p := by
  induction p with
  | ret a => exact .ret rfl
  | throw e => exact .throw e
  | call s k ih =>
    refine .call (hP s hp.1) fun r r' h => ?_
    rw [h.eq]
    exact ih r' (hp.2 r')

theorem corresponds_bind {p : Prog S α} {p' : Prog S α'} {f : α → Prog S β} {f' : α' → Prog S β'}
    (hp : Corresponds V A p p') (hf : ∀ a a', A a a' → Corresponds V B (f a) (f' a')) :
    Corresponds V B (p.bind f) (p'.bind f') := by
  induction hp with
  | ret h => exact hf _ _ h
  | throw e => exact .throw e
  | call hs _ ih => exact .call hs fun r r' h => ih r r' h

/-- Two statements that correspond, then two rests. -/
theorem corresponds_perform_bind {s s' : S.Stmt} {Q : S.Reply s → S.Reply s' → Prop}
    {f : S.Reply s → Prog S β} {f' : S.Reply s' → Prog S β'} (hs : V s s' Q)
    (hf : ∀ a a', Q a a' → Corresponds V B (f a) (f' a')) :
    Corresponds V B ((perform s).bind f) ((perform s').bind f') := by
  refine .call hs fun r r' h => ?_
  cases h with
  | ok h => exact hf _ _ h
  | error e => exact .throw e

theorem corresponds_perform {s s' : S.Stmt} {Q : S.Reply s → S.Reply s' → Prop} (hs : V s s' Q) :
    Corresponds V Q (perform s) (perform s') := by
  refine .call hs fun r r' h => ?_
  cases h with
  | ok h => exact .ret h
  | error e => exact .throw e

theorem corresponds_tryCatch {p : Prog S α} {p' : Prog S α'} {h : S.Err → Prog S α}
    {h' : S.Err → Prog S α'} (hp : Corresponds V A p p')
    (hh : ∀ e, Corresponds V A (h e) (h' e)) : Corresponds V A (p.tryCatch h) (p'.tryCatch h') := by
  induction hp with
  | ret hA => exact .ret hA
  | throw e => exact hh e
  | call hs _ ih => exact .call hs fun r r' hr => ih r r' hr

theorem corresponds_forEach {C : γ → γ' → Prop} {body : γ → Prog S Unit} {body' : γ' → Prog S Unit}
    {xs : List γ} {ys : List γ'} (h : List.Forall₂ C xs ys)
    (hbody : ∀ x y, C x y → Corresponds V Eq (body x) (body' y)) :
    Corresponds V Eq (forEach body xs) (forEach body' ys) := by
  induction h with
  | nil => exact .ret rfl
  | cons hxy _ ih => exact corresponds_bind (hbody _ _ hxy) fun _ _ _ => ih

end Prog

/-! ## Worlds -/

def Machine.Respects (M : Machine S σ) (V : Pairing S) (R : σ → σ → Prop) : Prop :=
  ∀ s s' B w w', V s s' B → R w w' →
    Replies B (M.exec s w).1 (M.exec s' w').1 ∧ R (M.exec s w).2 (M.exec s' w').2

/-- Corresponding statements that are refused alike. -/
def Pairing.refusable (V : Pairing S) : Pairing S.refusable := fun s s' B => s.2 = s'.2 ∧ V s.1 s'.1 B

theorem respects_refusable {M : Machine S σ} {V : Pairing S} {R : σ → σ → Prop}
    (h : M.Respects V R) : M.refusable.Respects V.refusable R := by
  rintro ⟨s, refused⟩ ⟨s', refused'⟩ B w w' ⟨hrefused, hs⟩ hR
  obtain rfl : refused = refused' := hrefused
  cases refused with
  | none => exact h s s' B w w' hs hR
  | some e => exact ⟨.error e, hR⟩

theorem Prog.corresponds_submit {V : Pairing S} {A : α → α' → Prop} {p : Prog S α} {p' : Prog S α'}
    {refuse refuse' : S.Stmt → Option S.Err} (hp : Corresponds V A p p')
    (h : ∀ s s' B, V s s' B → refuse s = refuse' s') :
    Corresponds V.refusable A (p.submit refuse) (p'.submit refuse') := by
  induction hp with
  | ret hA => exact .ret hA
  | throw e => exact Corresponds.throw (S := S.refusable) e
  | call hs _ ih => exact .call ⟨h _ _ _ hs, hs⟩ fun r r' hr => ih r r' hr

/-! ## Pools -/

variable {Ret : ι → Type}

structure Pool.Corresponds (V : Pairing S) (R : σ → σ → Prop) (q q' : Pool S σ ι Ret) : Prop where
  world : R q.world q'.world
  prog : ∀ i, Prog.Corresponds V Eq (q.prog i) (q'.prog i)

variable [DecidableEq ι] {V : Pairing S} {R : σ → σ → Prop} {M : Machine S σ} {q q' : Pool S σ ι Ret}

theorem Pool.corresponds_step (hM : M.Respects V R)
    (htick : ∀ n w w', R w w' → R (M.tick n w) (M.tick n w')) (h : Pool.Corresponds V R q q')
    (l : Label ι) : Pool.Corresponds V R (q.step M l) (q'.step M l) := by
  cases l with
  | tick n => exact ⟨htick n _ _ h.world, h.prog⟩
  | run i =>
    have hprog := h.prog i
    generalize hp : q.prog i = p at hprog
    generalize hp' : q'.prog i = p' at hprog
    cases hprog with
    | ret hA =>
      rw [Pool.step_finished (by simp [Pool.next?, hp]), Pool.step_finished (by simp [Pool.next?, hp'])]
      exact h
    | throw e =>
      rw [Pool.step_finished (by simp [Pool.next?, hp]), Pool.step_finished (by simp [Pool.next?, hp'])]
      exact h
    | call hs hk =>
      obtain ⟨hreplies, hworld⟩ := hM _ _ _ _ _ hs h.world
      rw [Pool.step_call hp, Pool.step_call hp']
      refine ⟨hworld, fun j => ?_⟩
      by_cases hji : j = i
      · subst hji
        simpa using hk _ _ hreplies
      · simpa [Function.update_of_ne hji] using h.prog j

theorem Pool.corresponds_runs (hM : M.Respects V R)
    (htick : ∀ n w w', R w w' → R (M.tick n w) (M.tick n w')) (h : Pool.Corresponds V R q q')
    (ls : List (Label ι)) : Pool.Corresponds V R (q.runs M ls) (q'.runs M ls) := by
  induction ls generalizing q q' with
  | nil => exact h
  | cons l ls ih => exact ih (Pool.corresponds_step hM htick h l)

omit [DecidableEq ι] in
/-- Corresponding threads end alike. -/
theorem Pool.Corresponds.result (h : Pool.Corresponds V R q q') (i : ι) : q'.result? i = q.result? i := by
  have hprog := h.prog i
  unfold Pool.result?
  generalize q.prog i = p at hprog
  generalize q'.prog i = p' at hprog
  cases hprog with
  | ret hA => rw [hA]
  | throw e => rfl
  | call hs hk => rfl

end Resumption
