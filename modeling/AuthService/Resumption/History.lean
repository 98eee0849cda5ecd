import AuthService.Resumption.Guard

/-!
# Resumption.History

What a thread has seen when it issues a statement.

* `Exchange`         — a statement and the reply to it; `history` — those of one thread, read off the
  log, newest first.
* `Prog.Justified J h` — the program goes on from the history `h`, and every statement it can issue is
  justified, as `J` says, by the exchanges before it.
* `Reach.justified`  — the rule: in any interleaving, what a thread issues is justified by its history.
* `Reach.justified_log` — where more history justifies no less, every statement of the log is justified.

`justified_submit` carries a program's justification over to the program whose statements may be
refused. There `Pool.seen` is the history without the refusals.
-/

namespace Resumption

variable {S : Sig} {σ ι α β : Type}

structure Exchange (S : Sig) where
  stmt : S.Stmt
  reply : Except S.Err (S.Reply stmt)

theorem Exchange.eq_executed {M : Machine S σ} {w : σ} {s s' : S.Stmt} {a : S.Reply s'}
    (h : (⟨s', .ok a⟩ : Exchange S) = ⟨s, (M.exec s w).1⟩) : s = s' ∧ (M.exec s' w).1 = .ok a := by
  obtain ⟨rfl, hreply⟩ := Exchange.mk.inj h
  exact ⟨rfl, (eq_of_heq hreply).symm⟩

/-- The monitor that remembers every exchange. -/
def ledger (J : List (Exchange S) → S.Stmt → Prop) : Monitor S (List (Exchange S)) where
  next h s r := ⟨s, r⟩ :: h
  allowed := J

namespace Prog

def Justified (J : List (Exchange S) → S.Stmt → Prop) (h : List (Exchange S)) (p : Prog S α) : Prop :=
  (ledger J).Conforms (fun _ _ => True) h p

variable {J : List (Exchange S) → S.Stmt → Prop} {h : List (Exchange S)}

theorem Justified.mono {J' : List (Exchange S) → S.Stmt → Prop} {p : Prog S α}
    (hp : p.Justified J h) (hJ : ∀ h s, J h s → J' h s) : p.Justified J' h := by
  induction p generalizing h with
  | ret a => trivial
  | throw e => trivial
  | call s k ih => exact ⟨hJ h s hp.1, fun r => ih r (hp.2 r)⟩

/-- A justification that rules statements out. -/
theorem uses_of_justified {p : Prog S α} (hp : p.Justified J h) :
    p.Uses fun s => ∃ h, J h s := by
  induction p generalizing h with
  | ret a => trivial
  | throw e => trivial
  | call s k ih => exact ⟨⟨h, hp.1⟩, fun r => ih r (hp.2 r)⟩

theorem justified_ret (a : α) : (Prog.ret a : Prog S α).Justified J h := trivial

theorem justified_throw (e : S.Err) : (Prog.throw e : Prog S α).Justified J h := trivial

/-- A program whose statements any longer history justifies. -/
theorem justified_of_uses {A : S.Stmt → Prop} {p : Prog S α} (hp : p.Uses A)
    (hA : ∀ h', h ⊆ h' → ∀ s, A s → J h' s) : p.Justified J h := by
  induction p generalizing h with
  | ret a => trivial
  | throw e => trivial
  | call s k ih =>
    refine ⟨hA h (fun x hx => hx) s hp.1, fun r => ih r (hp.2 r) fun h' hsub s' hs' => ?_⟩
    exact hA h' (fun x hx => hsub (List.mem_cons_of_mem _ hx)) s' hs'

/-- A program, then a rest that any longer history justifies. -/
theorem justified_yields_bind {P : α → Prop} {p : Prog S α} {f : α → Prog S β}
    (hp : p.Justified J h) (hy : p.Yields P)
    (hf : ∀ h', h ⊆ h' → ∀ a, P a → (f a).Justified J h') : (p.bind f).Justified J h := by
  induction p generalizing h with
  | ret a => exact hf h (fun x hx => hx) a hy
  | throw e => trivial
  | call s k ih =>
    refine ⟨hp.1, fun r => ih r (hp.2 r) (hy r) fun h' hsub a => ?_⟩
    exact hf h' (fun x hx => hsub (List.mem_cons_of_mem _ hx)) a

theorem yields_true (p : Prog S α) : p.Yields fun _ => True := by
  induction p with
  | ret a => trivial
  | throw e => trivial
  | call s k ih => exact fun r => ih r

/-- The same, where the rest takes any value. -/
theorem justified_bind {p : Prog S α} {f : α → Prog S β} (hp : p.Justified J h)
    (hf : ∀ h', h ⊆ h' → ∀ a, (f a).Justified J h') : (p.bind f).Justified J h :=
  justified_yields_bind hp (yields_true p) fun h' hsub a _ => hf h' hsub a

theorem justified_uses_bind {A : S.Stmt → Prop} {P : α → Prop} {p : Prog S α} {f : α → Prog S β}
    (hp : p.Uses A) (hy : p.Yields P) (hA : ∀ h', h ⊆ h' → ∀ s, A s → J h' s)
    (hf : ∀ h', h ⊆ h' → ∀ a, P a → (f a).Justified J h') : (p.bind f).Justified J h :=
  justified_yields_bind (justified_of_uses hp hA) hy hf

theorem justified_repeatN {p : Prog S Unit} (hp : ∀ h', h ⊆ h' → p.Justified J h') (n : Nat) :
    (repeatN p n).Justified J h := by
  induction n generalizing h with
  | zero => exact justified_ret ()
  | succ n ih =>
    refine justified_bind (hp h fun x hx => hx) fun h' hsub _ => ih fun h'' hsub' => ?_
    exact hp h'' fun x hx => hsub' (hsub hx)

theorem justified_of_forall (p : Prog S α) (hJ : ∀ h s, J h s) : p.Justified J h := by
  induction p generalizing h with
  | ret a => trivial
  | throw e => trivial
  | call s k ih => exact ⟨hJ h s, fun r => ih r⟩

theorem justified_perform {s : S.Stmt} (hs : J h s) : (perform s).Justified J h :=
  Monitor.conforms_perform hs fun _ => trivial

/-- One statement, then the rest. -/
theorem justified_perform_bind {s : S.Stmt} {f : S.Reply s → Prog S β} (hs : J h s)
    (hf : ∀ a, (f a).Justified J (⟨s, .ok a⟩ :: h)) : ((perform s).bind f).Justified J h :=
  Monitor.conforms_perform_bind hs hf fun _ => trivial

/-- The phase of a monitor after a history. -/
def phaseAfter {Φ : Type} (m : Monitor S Φ) (φ₀ : Φ) (h : List (Exchange S)) : Φ :=
  h.foldr (fun x φ => m.next φ x.stmt x.reply) φ₀

/-- A program that conforms to a monitor is justified by the phase that its history leads to. -/
theorem justified_of_conforms {Φ : Type} {m : Monitor S Φ} {φ₀ : Φ}
    {final : Φ → Except S.Err α → Prop} {p : Prog S α}
    (hp : m.Conforms final (phaseAfter m φ₀ h) p) :
    p.Justified (fun h s => m.allowed (phaseAfter m φ₀ h) s) h := by
  induction p generalizing h with
  | ret a => trivial
  | throw e => trivial
  | call s k ih => exact ⟨hp.1, fun r => ih r (h := ⟨s, r⟩ :: h) (hp.2 r)⟩

/-- A pure step at the end. -/
theorem justified_map {p : Prog S α} (hp : p.Justified J h) (g : α → β) :
    (p.bind fun a => .ret (g a)).Justified J h := by
  induction p generalizing h with
  | ret a => trivial
  | throw e => trivial
  | call s k ih => exact ⟨hp.1, fun r => ih r (hp.2 r)⟩

end Prog

/-! ## Histories of a run -/

section History

variable [DecidableEq ι] {Ret : ι → Type}

def history (log : List (Event S ι)) (i : ι) : List (Exchange S) :=
  phaseOf (fun _ => ledger fun _ _ => True) (fun _ => []) log i

def Pool.history (q : Pool S σ ι Ret) (i : ι) : List (Exchange S) := Resumption.history q.log i

@[simp] theorem history_nil (i : ι) : history ([] : List (Event S ι)) i = [] := rfl

theorem history_cons (e : Event S ι) (log : List (Event S ι)) (i : ι) :
    history (e :: log) i =
      if e.thread = i then ⟨e.stmt, e.reply⟩ :: history log i else history log i := rfl

variable {M : Machine S σ} {C : Pool S σ ι Ret → Label ι → Prop} {p q : Pool S σ ι Ret}
  {J : ι → List (Exchange S) → S.Stmt → Prop}

theorem Pool.history_step {i : ι} {s : S.Stmt} {k : Except S.Err (S.Reply s) → Prog S (Ret i)}
    (hp : q.prog i = .call s k) (j : ι) :
    (q.step M (.run i)).history j =
      if i = j then ⟨s, (M.exec s q.world).1⟩ :: q.history j else q.history j := by
  rw [Pool.step_call hp]
  exact history_cons _ _ j

theorem Pool.history_step_mono {i : ι} {s : S.Stmt} {k : Except S.Err (S.Reply s) → Prog S (Ret i)}
    (hp : q.prog i = .call s k) (j : ι) : q.history j ⊆ (q.step M (.run i)).history j := by
  intro x hx
  rw [Pool.history_step hp]
  split
  · exact List.mem_cons_of_mem _ hx
  · exact hx

theorem Pool.history_step_subset (q : Pool S σ ι Ret) (l : Label ι) (j : ι) :
    q.history j ⊆ (q.step M l).history j := by
  cases l with
  | tick n => exact fun x hx => hx
  | run i =>
    cases hp : q.prog i with
    | ret a => rw [Pool.step_finished (by simp [Pool.next?, hp])]; exact fun x hx => hx
    | throw e => rw [Pool.step_finished (by simp [Pool.next?, hp])]; exact fun x hx => hx
    | call s k => exact Pool.history_step_mono hp j

theorem Pool.history_runs_subset (q : Pool S σ ι Ret) (ls : List (Label ι)) (j : ι) :
    q.history j ⊆ (q.runs M ls).history j := by
  induction ls generalizing q with
  | nil => exact fun x hx => hx
  | cons l ls ih => exact fun x hx => ih (q.step M l) (Pool.history_step_subset q l j hx)

/-- What a thread issues next is justified by what it has seen. -/
theorem Reach.justified {i : ι} {s : S.Stmt} {k : Except S.Err (S.Reply s) → Prog S (Ret i)}
    (hr : Reach M C p q) (h0 : (p.prog i).Justified (J i) (p.history i))
    (hp : q.prog i = .call s k) : J i (q.history i) s := by
  have hfirst : (ledger (J i)).Conforms (fun _ _ => True)
      (p.phase (fun i => ledger (J i)) (fun _ => []) i) (p.prog i) := h0
  have hconf : (ledger (J i)).Conforms (fun _ _ => True) (q.history i) (q.prog i) :=
    conforms_reach (m := fun i => ledger (J i)) (F := fun _ _ _ => True) hr hfirst
  rw [hp] at hconf
  exact hconf.1

/-- Every statement of a thread's history is justified by the history, where more history justifies no
less. -/
theorem Reach.justified_log {i : ι} (hr : Reach M C p q) (hstart : p.log = [])
    (h0 : (p.prog i).Justified (J i) [])
    (hmono : ∀ h h' s, h ⊆ h' → J i h s → J i h' s) :
    ∀ x ∈ q.history i, J i (q.history i) x.stmt := by
  have hfirst : (p.prog i).Justified (J i) (p.history i) := by
    unfold Pool.history
    rw [hstart]
    exact h0
  refine hr.invariant_steps (I := fun q => ∀ x ∈ q.history i, J i (q.history i) x.stmt) ?_
    (fun q n _ ih _ => ih) fun q j s k hq ih _ hp => ?_
  · intro x hx
    unfold Pool.history at hx
    rw [hstart] at hx
    simp at hx
  · intro x hx
    have hsub : q.history i ⊆ (q.step M (.run j)).history i := Pool.history_step_mono hp i
    rw [Pool.history_step hp] at hx
    split at hx
    · rename_i hji
      subst hji
      rcases List.mem_cons.mp hx with rfl | hx
      · exact hmono _ _ _ hsub (hq.justified hfirst hp)
      · exact hmono _ _ _ hsub (ih x hx)
    · exact hmono _ _ _ hsub (ih x hx)

end History

/-! ## Refusals -/

/-- The exchange without the refusal that its statement came with. -/
def Exchange.unrefused (x : Exchange S.refusable) : Exchange S := ⟨x.stmt.1, x.reply⟩

theorem Prog.justified_submit {J : List (Exchange S) → S.Stmt → Prop}
    {refuse : S.Stmt → Option S.Err} {p : Prog S α} {h : List (Exchange S.refusable)}
    (hp : p.Justified J (h.map Exchange.unrefused)) :
    (p.submit refuse).Justified (fun h s => J (h.map Exchange.unrefused) s.1) h := by
  induction p generalizing h with
  | ret a => trivial
  | throw e => trivial
  | call s k ih => exact ⟨hp.1, fun r => ih r (hp.2 r)⟩

section Seen

variable [DecidableEq ι] {Ret : ι → Type} {M : Machine S.refusable σ}
  {C : Pool S.refusable σ ι Ret → Label ι → Prop} {p q : Pool S.refusable σ ι Ret} {i : ι}
  {s : S.refusable.Stmt} {k : Except S.Err (S.refusable.Reply s) → Prog S.refusable (Ret i)}

/-- A thread's history without the refusals. -/
def Pool.seen (q : Pool S.refusable σ ι Ret) (i : ι) : List (Exchange S) :=
  (q.history i).map Exchange.unrefused

theorem Pool.seen_step (hp : q.prog i = .call s k) (j : ι) :
    (q.step M (.run i)).seen j =
      if i = j then ⟨s.1, (M.exec s q.world).1⟩ :: q.seen j else q.seen j := by
  unfold Pool.seen
  rw [Pool.history_step hp]
  split <;> rfl

theorem Pool.seen_step_mono (hp : q.prog i = .call s k) (j : ι) :
    q.seen j ⊆ (q.step M (.run i)).seen j := by
  intro x hx
  rw [Pool.seen_step hp]
  split
  · exact List.mem_cons_of_mem _ hx
  · exact hx

/-- A new exchange is that of the statement executed; its reply is the world's, or a refusal. -/
theorem Pool.mem_seen_step {M : Machine S σ} (hp : q.prog i = .call s k) {j : ι} {x : Exchange S}
    (hx : x ∈ (q.step M.refusable (.run i)).seen j) :
    x ∈ q.seen j ∨
      x.stmt = s.1 ∧ (x.reply = (M.exec x.stmt q.world).1 ∨ ∃ e, x.reply = .error e) := by
  rw [Pool.seen_step hp] at hx
  split at hx
  · rcases List.mem_cons.mp hx with rfl | hx
    · obtain ⟨s, refused⟩ := s
      cases refused with
      | none => exact .inr ⟨rfl, .inl rfl⟩
      | some e => exact .inr ⟨rfl, .inr ⟨e, rfl⟩⟩
    · exact .inl hx
  · exact .inl hx

/-- A new exchange with a reply is that of the statement executed, which was not refused. -/
theorem Pool.mem_seen_step_ok {M : Machine S σ} (hp : q.prog i = .call s k) {j : ι} {s' : S.Stmt}
    {a : S.Reply s'} (hx : ⟨s', .ok a⟩ ∈ (q.step M.refusable (.run i)).seen j) :
    ⟨s', .ok a⟩ ∈ q.seen j ∨
      i = j ∧ s = (s', none) ∧ (M.exec s' q.world).1 = .ok a ∧
        (q.step M.refusable (.run i)).world = (M.exec s' q.world).2 := by
  rw [Pool.seen_step hp] at hx
  split at hx
  · rename_i hij
    rcases List.mem_cons.mp hx with hx | hx
    · rw [Pool.world_step hp]
      obtain ⟨s, refused⟩ := s
      simp only [Exchange.mk.injEq] at hx
      obtain ⟨rfl, hreply⟩ := hx
      have hreply := eq_of_heq hreply
      cases refused with
      | none => exact .inr ⟨hij, rfl, hreply.symm, rfl⟩
      | some e => cases hreply
    · exact .inl hx
  · exact .inl hx

/-- What a thread issues next is justified by what it has seen, where a start without a log is. -/
theorem Reach.justified_seen {J : ι → List (Exchange S) → S.Stmt → Prop} (hr : Reach M C p q)
    (hstart : p.log = [])
    (h0 : ∀ i, (p.prog i).Justified (fun h s => J i (h.map Exchange.unrefused) s.1) [])
    (hp : q.prog i = .call s k) : J i (q.seen i) s.1 := by
  refine hr.justified (J := fun i h s => J i (h.map Exchange.unrefused) s.1) ?_ hp
  unfold Pool.history
  rw [hstart]
  exact h0 i

/-- So is every statement that a thread has issued, where more history justifies no less. -/
theorem Reach.justified_seen_log {J : ι → List (Exchange S) → S.Stmt → Prop} (hr : Reach M C p q)
    (hstart : p.log = [])
    (h0 : ∀ i, (p.prog i).Justified (fun h s => J i (h.map Exchange.unrefused) s.1) [])
    (hmono : ∀ i h h' s, h ⊆ h' → J i h s → J i h' s) (i : ι) :
    ∀ x ∈ q.seen i, J i (q.seen i) x.stmt := by
  intro x hx
  obtain ⟨x', hx', rfl⟩ := List.mem_map.mp hx
  exact hr.justified_log (J := fun i h s => J i (h.map Exchange.unrefused) s.1) hstart (h0 i)
    (fun h h' s hsub => hmono i _ _ s.1 (List.map_subset _ hsub)) x' hx'

end Seen

end Resumption
