import AuthService.Resumption.Prog

/-!
# Resumption.Refusal

Statements that the outside world may refuse before it looks at its state, because of what the issuer
has put into them.

* `Sig.refusable`, `Machine.refusable` — a statement together with its refusal, if any; a refused one
  is answered with the refusal and changes nothing.
* `Prog.submit refuse` — a program whose statements are refused as `refuse` says.
* `run_submit`         — a run none of whose statements is refused is a run of the program itself.
* `Prog.Closes A`      — after a statement in `A` the program has ended; where only such statements
  are refused, the refusal costs one statement (`run_submit_closing`).
* `Machine.restrict`   — a machine that refuses what is out of range in the state it is in;
  `Prog.Within` — a run that stays in range, and is a run of the machine itself (`run_restrict`).
-/

namespace Resumption

abbrev Sig.refusable (S : Sig) : Sig := ⟨S.Stmt × Option S.Err, fun s => S.Reply s.1, S.Err⟩

variable {S : Sig} {σ α β : Type}

def Machine.refusable (M : Machine S σ) : Machine S.refusable σ where
  exec s w :=
    match s.2 with
    | none => M.exec s.1 w
    | some e => (.error e, w)
  tick := M.tick

namespace Prog

variable {M : Machine S σ} {refuse : S.Stmt → Option S.Err}

def submit (refuse : S.Stmt → Option S.Err) : Prog S α → Prog S.refusable α
  | .ret a => .ret a
  | .throw e => .throw e
  | .call s k => .call (s, refuse s) fun r => (k r).submit refuse

@[simp] theorem submit_ret (a : α) : (Prog.ret a : Prog S α).submit refuse = .ret a := rfl

@[simp] theorem submit_throw (e : S.Err) : (Prog.throw e : Prog S α).submit refuse = .throw e := rfl

theorem uses_submit {A : S.Stmt → Prop} {p : Prog S α} (hp : p.Uses A) :
    (p.submit refuse).Uses fun s : S.Stmt × Option S.Err => A s.1 := by
  induction p with
  | ret a => trivial
  | throw e => trivial
  | call s k ih => exact ⟨hp.1, fun r => ih r (hp.2 r)⟩

theorem exec_spared {s : S.Stmt} (h : refuse s = none) (w : σ) :
    M.refusable.exec (s, refuse s) w = M.exec s w := by
  simp only [Machine.refusable, h]

theorem exec_refused {s : S.Stmt} {e : S.Err} (h : refuse s = some e) (w : σ) :
    M.refusable.exec (s, refuse s) w = (.error e, w) := by
  simp only [Machine.refusable, h]

/-- A run none of whose statements is refused. -/
theorem run_submit {p : Prog S α} {w : σ} (h : ∀ s ∈ p.trace M w, refuse s = none) :
    (p.submit refuse).run M.refusable w = p.run M w := by
  induction p generalizing w with
  | ret a => rfl
  | throw e => rfl
  | call s k ih =>
    obtain ⟨hs, hrest⟩ := List.forall_mem_cons.mp h
    simp only [submit, run, exec_spared hs]
    exact ih _ hrest

/-- What each statement that is not refused keeps, the run keeps. -/
theorem run_submit_invariant {A : S.Stmt → Prop} {I : σ → Prop} {p : Prog S α} (hp : p.Uses A)
    (hI : ∀ s w, A s → refuse s = none → I w → I (M.exec s w).2) {w : σ} (h : I w) :
    I ((p.submit refuse).run M.refusable w).2 := by
  induction p generalizing w with
  | ret a => exact h
  | throw e => exact h
  | call s k ih =>
    simp only [submit, run]
    cases hs : refuse s with
    | none =>
      rw [← hs, exec_spared hs]
      exact ih _ (hp.2 _) (hI s w hp.1 hs h)
    | some e =>
      rw [← hs, exec_refused hs]
      exact ih _ (hp.2 _) h

/-- The exceptions of a run: those of the program, of its statements and of the refusals. -/
theorem of_run_submit_error {E : S.Err → Prop} {p : Prog S α} (hp : p.Raises E)
    (hM : ∀ s w e, (M.exec s w).1 = .error e → E e) (hrefuse : ∀ s e, refuse s = some e → E e)
    {w w' : σ} {e : S.Err} (h : (p.submit refuse).run M.refusable w = (.error e, w')) : E e := by
  induction p generalizing w with
  | ret a => cases h
  | throw e' => cases h; exact hp
  | call s k ih =>
    simp only [submit, run] at h
    refine ih _ ?_ h
    cases hs : refuse s with
    | some e' =>
      rw [← hs, exec_refused hs]
      exact hp.2 e' (hrefuse s e' hs)
    | none =>
      rw [← hs, exec_spared hs]
      cases hx : (M.exec s w).1 with
      | ok a => exact hp.1 a
      | error e' => exact hp.2 e' (hM s w e' hx)

/-! ## Refusals at the end -/

/-- The program has no statement left. -/
def Ended : Prog S α → Prop
  | .ret _ => True
  | .throw _ => True
  | .call _ _ => False

/-- After a statement in `A`, whatever the reply, the program has ended. -/
def Closes (A : S.Stmt → Prop) : Prog S α → Prop
  | .ret _ => True
  | .throw _ => True
  | .call s k => (A s → ∀ r, (k r).Ended) ∧ ∀ r, (k r).Closes A

variable {A : S.Stmt → Prop}

theorem Ended.run {p : Prog S α} (h : p.Ended) (w : σ) : (p.run M w).2 = w := by
  cases p with
  | ret a => rfl
  | throw e => rfl
  | call s k => exact h.elim

theorem Ended.closes {p : Prog S α} (h : p.Ended) : p.Closes A := by
  cases p with
  | ret a => trivial
  | throw e => trivial
  | call s k => exact h.elim

theorem Ended.submit {p : Prog S α} (h : p.Ended) : (p.submit refuse).Ended := by
  cases p with
  | ret a => trivial
  | throw e => trivial
  | call s k => exact h.elim

/-- A program without a statement in `A`, then one that ends after such a statement. -/
theorem closes_bind {p : Prog S α} {f : α → Prog S β} (hp : p.Uses fun s => ¬ A s)
    (hf : ∀ a, (f a).Closes A) : (p.bind f).Closes A := by
  induction p with
  | ret a => exact hf a
  | throw e => trivial
  | call s k ih => exact ⟨fun hs => absurd hs hp.1, fun r => ih r (hp.2 r)⟩

theorem closes_perform_bind {s : S.Stmt} {f : S.Reply s → Prog S β} (hs : ¬ A s)
    (hf : ∀ a, (f a).Closes A) : ((perform s).bind f).Closes A :=
  closes_bind ((uses_perform (A := fun s => ¬ A s) s).mpr hs) hf

/-- The last statement, then the result. -/
theorem closes_last {s : S.Stmt} {f : S.Reply s → Prog S β} (hf : ∀ a, (f a).Ended) :
    ((perform s).bind f).Closes A := by
  constructor
  · intro _ r
    cases r with
    | ok a => exact hf a
    | error e => trivial
  · intro r
    cases r with
    | ok a => exact (hf a).closes
    | error e => trivial

/-- A pure step at the end. -/
theorem closes_map {p : Prog S α} (hp : p.Closes A) (g : α → β) :
    (p.bind fun a => .ret (g a)).Closes A := by
  induction p with
  | ret a => trivial
  | throw e => trivial
  | call s k ih =>
    refine ⟨fun hs r => ?_, fun r => ih r (hp.2 r)⟩
    have hend := hp.1 hs r
    show ((k r).bind fun a => Prog.ret (g a)).Ended
    cases hk : k r with
    | ret a => trivial
    | throw e => trivial
    | call s' k' => rw [hk] at hend; exact hend.elim

/-- Where statements in `A` only are refused: the same world, or the world before the last statement. -/
theorem run_submit_closing {p : Prog S α} (hp : p.Closes A) (hA : ∀ s, refuse s ≠ none → A s)
    (w : σ) :
    (p.run M w).2 = ((p.submit refuse).run M.refusable w).2 ∨
      ∃ s, A s ∧ (p.run M w).2 = (M.exec s ((p.submit refuse).run M.refusable w).2).2 := by
  induction p generalizing w with
  | ret a => exact .inl rfl
  | throw e => exact .inl rfl
  | call s k ih =>
    simp only [submit, run]
    cases hs : refuse s with
    | none =>
      rw [← hs, exec_spared hs]
      exact ih _ (hp.2 _) _
    | some e =>
      have hAs : A s := hA s (by rw [hs]; simp)
      rw [← hs, exec_refused hs]
      refine .inr ⟨s, hAs, ?_⟩
      exact ((hp.1 hAs _).run _).trans (congrArg (fun w => (M.exec s w).2) ((hp.1 hAs _).submit.run w).symm)

end Prog

/-! ## Ranges -/

/-- A statement that is not `ok` in the state it meets fails with `e` and changes nothing. -/
def Machine.restrict (M : Machine S σ) (ok : σ → S.Stmt → Bool) (e : S.Err) : Machine S σ where
  exec s w := if ok w s then M.exec s w else (.error e, w)
  tick := M.tick

namespace Prog

variable {M : Machine S σ} {ok : σ → S.Stmt → Bool} {e : S.Err}

/-- Every statement of the run is `ok` in the state it meets. -/
def Within (M : Machine S σ) (ok : σ → S.Stmt → Bool) : Prog S α → σ → Prop
  | .ret _, _ => True
  | .throw _, _ => True
  | .call s k, w => ok w s = true ∧ (k (M.exec s w).1).Within M ok (M.exec s w).2

theorem run_restrict {p : Prog S α} {w : σ} (h : p.Within M ok w) :
    p.run (M.restrict ok e) w = p.run M w := by
  induction p generalizing w with
  | ret a => rfl
  | throw e => rfl
  | call s k ih =>
    obtain ⟨hs, hrest⟩ := h
    have hexec : (M.restrict ok e).exec s w = M.exec s w := if_pos hs
    simp only [run, hexec]
    exact ih _ hrest

/-- A statement out of range, and no rest. -/
theorem run_restrict_refused {s : S.Stmt} {f : S.Reply s → Prog S β} {w : σ} (hs : ok w s = false) :
    ((perform s).bind f).run (M.restrict ok e) w = (.error e, w) := by
  refine run_bind_error _ ((run_perform _ s w).trans (if_neg ?_))
  simp [hs]

theorem within_of_uses {A : S.Stmt → Prop} {p : Prog S α} (hp : p.Uses A)
    (h : ∀ s w, A s → ok w s = true) (w : σ) : p.Within M ok w := by
  induction p generalizing w with
  | ret a => trivial
  | throw e => trivial
  | call s k ih => exact ⟨h s w hp.1, ih _ (hp.2 _) _⟩

/-- The rest of a run is left where its first part has led. -/
theorem within_bind {p : Prog S α} {f : α → Prog S β} {w : σ} (hp : p.Within M ok w)
    (hf : ∀ a w', p.run M w = (.ok a, w') → (f a).Within M ok w') : (p.bind f).Within M ok w := by
  induction p generalizing w with
  | ret a => exact hf a w rfl
  | throw e => trivial
  | call s k ih => exact ⟨hp.1, ih _ hp.2 hf⟩

theorem within_perform_bind {s : S.Stmt} {f : S.Reply s → Prog S β} {w : σ} (hs : ok w s = true)
    (hf : ∀ a, (M.exec s w).1 = .ok a → (f a).Within M ok (M.exec s w).2) :
    ((perform s).bind f).Within M ok w := by
  refine ⟨hs, ?_⟩
  cases hx : (M.exec s w).1 with
  | ok a => exact hf a hx
  | error e => trivial

end Prog
end Resumption
