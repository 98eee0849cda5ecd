import AuthService.Resumption.Prog
import Mathlib.Algebra.Order.BigOperators.Group.Finset
import Mathlib.Data.Fintype.Basic
import Mathlib.Logic.Function.Basic

/-!
# Resumption.Pool

Any number of programs run concurrently against one shared world. A step executes one statement of
one thread, atomically, and appends it to the log; time may pass between any two steps.

* `Pool`, `Pool.step`, `Pool.runs` — threads, one scheduling step, a schedule executed.
* `Reach C`    — the states reached by steps that all meet the condition `C`; `of_checked` finds out
  by computation that a schedule is such a run.
* `Monitor`    — an automaton reading the statements of one thread and their replies. A program
  `Conforms` to it when in each phase it issues allowed statements only and ends as it should; it
  `Tracks` it when it conforms from every phase.
* `Pool.phase` — the phase a thread's monitor has reached, computed from the log.

`conforms_reach`: a thread that conforms at the start conforms in every reached state at the phase
reached. With `Reach.invariant` this turns a claim about all interleavings into one case for each
phase and statement, and no proof looks at a program after its conformance is proved.
-/

namespace Resumption

structure Event (S : Sig) (ι : Type) where
  thread : ι
  stmt : S.Stmt
  reply : Except S.Err (S.Reply stmt)

/-- A shared world, the rest of each thread's program, and the log, newest statement first. -/
structure Pool (S : Sig) (σ ι : Type) (Ret : ι → Type) where
  world : σ
  prog : ∀ i, Prog S (Ret i)
  log : List (Event S ι)

inductive Label (ι : Type) where
  | run (i : ι)
  | tick (n : Nat)

variable {S : Sig} {σ ι : Type} {Ret : ι → Type} [DecidableEq ι]

namespace Pool

def start (w : σ) (prog : ∀ i, Prog S (Ret i)) : Pool S σ ι Ret := ⟨w, prog, []⟩

/-- A finished thread has no step left: scheduling it changes nothing. -/
def step (M : Machine S σ) (p : Pool S σ ι Ret) : Label ι → Pool S σ ι Ret
  | .tick n => { p with world := M.tick n p.world }
  | .run i =>
    match p.prog i with
    | .ret _ => p
    | .throw _ => p
    | .call s k =>
      { world := (M.exec s p.world).2
        prog := Function.update p.prog i (k (M.exec s p.world).1)
        log := ⟨i, s, (M.exec s p.world).1⟩ :: p.log }

def runs (M : Machine S σ) (p : Pool S σ ι Ret) (ls : List (Label ι)) : Pool S σ ι Ret :=
  ls.foldl (step M) p

/-- The statement thread `i` issues next. -/
def next? (p : Pool S σ ι Ret) (i : ι) : Option S.Stmt :=
  match p.prog i with
  | .call s _ => some s
  | _ => none

/-- What thread `i` returned or threw, once it has finished. -/
def result? (p : Pool S σ ι Ret) (i : ι) : Option (Except S.Err (Ret i)) :=
  match p.prog i with
  | .ret a => some (.ok a)
  | .throw e => some (.error e)
  | .call _ _ => none

variable {M : Machine S σ} {p : Pool S σ ι Ret}

theorem step_call {i : ι} {s : S.Stmt} {k : Except S.Err (S.Reply s) → Prog S (Ret i)}
    (h : p.prog i = .call s k) :
    p.step M (.run i) =
      { world := (M.exec s p.world).2
        prog := Function.update p.prog i (k (M.exec s p.world).1)
        log := ⟨i, s, (M.exec s p.world).1⟩ :: p.log } := by
  simp only [step, h]

theorem world_step {i : ι} {s : S.Stmt} {k : Except S.Err (S.Reply s) → Prog S (Ret i)}
    (h : p.prog i = .call s k) : (p.step M (.run i)).world = (M.exec s p.world).2 := by
  rw [step_call h]

@[simp] theorem world_tick (n : Nat) : (p.step M (.tick n)).world = M.tick n p.world := rfl

theorem step_finished {i : ι} (h : p.next? i = none) : p.step M (.run i) = p := by
  unfold next? at h
  cases hp : p.prog i with
  | ret a => simp only [step, hp]
  | throw e => simp only [step, hp]
  | call s k => rw [hp] at h; cases h

omit [DecidableEq ι] in
theorem next?_of_call {i : ι} {s : S.Stmt} {k : Except S.Err (S.Reply s) → Prog S (Ret i)}
    (h : p.prog i = .call s k) : p.next? i = some s := by
  simp only [next?, h]

end Pool

/-! ## Reachable states -/

/-- States reached from `p` by steps each of which meets `C` in the state before it. -/
inductive Reach (M : Machine S σ) (C : Pool S σ ι Ret → Label ι → Prop) (p : Pool S σ ι Ret) :
    Pool S σ ι Ret → Prop where
  | refl : Reach M C p p
  | step {q : Pool S σ ι Ret} (l : Label ι) : Reach M C p q → C q l → Reach M C p (q.step M l)

namespace Reach

variable {M : Machine S σ} {C : Pool S σ ι Ret → Label ι → Prop} {p q : Pool S σ ι Ret}

theorem single {l : Label ι} (h : C p l) : Reach M C p (p.step M l) := .step l .refl h

theorem trans {r : Pool S σ ι Ret} (h₁ : Reach M C p q) (h₂ : Reach M C q r) : Reach M C p r := by
  induction h₂ with
  | refl => exact h₁
  | step l _ hc ih => exact .step l ih hc

/-- Does every step of the schedule `ls` from `p` meet `C`? -/
def checked (M : Machine S σ) (C : Pool S σ ι Ret → Label ι → Prop) [∀ q l, Decidable (C q l)] :
    Pool S σ ι Ret → List (Label ι) → Bool
  | _, [] => true
  | p, l :: ls => decide (C p l) && checked M C (p.step M l) ls

theorem of_checked [∀ q l, Decidable (C q l)] {ls : List (Label ι)}
    (h : checked M C p ls = true) : Reach M C p (p.runs M ls) := by
  induction ls generalizing p with
  | nil => exact .refl
  | cons l ls ih =>
    simp only [checked, Bool.and_eq_true, decide_eq_true_eq] at h
    exact (single h.1).trans (ih h.2)

theorem invariant {I : Pool S σ ι Ret → Prop} (h0 : I p)
    (hstep : ∀ q l, Reach M C p q → I q → C q l → I (q.step M l)) (h : Reach M C p q) : I q := by
  induction h with
  | refl => exact h0
  | step l hr hc ih => exact hstep _ l hr ih hc

/-- Time passing keeps `I`, and so does every statement that some thread issues. -/
theorem invariant_steps {I : Pool S σ ι Ret → Prop} (h0 : I p)
    (htick : ∀ q n, Reach M C p q → I q → C q (.tick n) → I (q.step M (.tick n)))
    (hrun : ∀ q i s k, Reach M C p q → I q → C q (.run i) → q.prog i = .call s k →
      I (q.step M (.run i)))
    (hr : Reach M C p q) : I q := by
  refine hr.invariant h0 fun q l hq ih hc => ?_
  cases l with
  | tick n => exact htick q n hq ih hc
  | run i =>
    cases hp : q.prog i with
    | ret a => rw [Pool.step_finished (by simp [Pool.next?, hp])]; exact ih
    | throw e => rw [Pool.step_finished (by simp [Pool.next?, hp])]; exact ih
    | call s k => exact hrun q i s k hq ih hc hp

end Reach

/-- A thread goes on to issue statements in `A` only. -/
theorem Reach.uses {M : Machine S σ} {C : Pool S σ ι Ret → Label ι → Prop} {p q : Pool S σ ι Ret}
    {i : ι} {A : S.Stmt → Prop} (hr : Reach M C p q) (h0 : (p.prog i).Uses A) :
    (q.prog i).Uses A := by
  refine hr.invariant_steps (I := fun q => (q.prog i).Uses A) h0 (fun q n _ ih _ => ih)
    fun q j s k _ ih _ hp => ?_
  rw [Pool.step_call hp]
  by_cases hij : i = j
  · subst hij
    rw [hp] at ih
    simpa using ih.2 (M.exec s q.world).1
  · simpa [Function.update_of_ne hij] using ih

/-! ## Monitors -/

structure Monitor (S : Sig) (Φ : Type) where
  next : Φ → (s : S.Stmt) → Except S.Err (S.Reply s) → Φ
  allowed : Φ → S.Stmt → Prop

namespace Monitor

variable {Φ α β : Type} (m : Monitor S Φ)

/-- From phase `φ` on, `p` issues allowed statements only, and ends in a phase that `final` admits
for its result. -/
def Conforms (final : Φ → Except S.Err α → Prop) : Φ → Prog S α → Prop
  | φ, .ret a => final φ (.ok a)
  | φ, .throw e => final φ (.error e)
  | φ, .call s k => m.allowed φ s ∧ ∀ r, Conforms final (m.next φ s r) (k r)

variable {m} {final : Φ → Except S.Err α → Prop} {φ : Φ}

theorem Conforms.mono {final' : Φ → Except S.Err α → Prop} {p : Prog S α}
    (h : m.Conforms final φ p) (hf : ∀ φ r, final φ r → final' φ r) : m.Conforms final' φ p := by
  induction p generalizing φ with
  | ret a => exact hf _ _ h
  | throw e => exact hf _ _ h
  | call s k ih => exact ⟨h.1, fun r => ih r (h.2 r)⟩

theorem conforms_perform {s : S.Stmt} {final : Φ → Except S.Err (S.Reply s) → Prop}
    (ha : m.allowed φ s) (hf : ∀ r, final (m.next φ s r) r) :
    m.Conforms final φ (Prog.perform s) := by
  refine ⟨ha, fun r => ?_⟩
  cases r with
  | ok a => exact hf (.ok a)
  | error e => exact hf (.error e)

/-- The statements of a program, besides, satisfy a predicate whatever the phase. -/
def restrict (m : Monitor S Φ) (A : S.Stmt → Prop) : Monitor S Φ :=
  ⟨m.next, fun φ s => m.allowed φ s ∧ A s⟩

theorem Conforms.restrict {A : S.Stmt → Prop} {p : Prog S α} (h : m.Conforms final φ p)
    (hp : p.Uses A) : (m.restrict A).Conforms final φ p := by
  induction p generalizing φ with
  | ret a => exact h
  | throw e => exact h
  | call s k ih => exact ⟨⟨h.1, hp.1⟩, fun r => ih r (h.2 r) (hp.2 r)⟩

/-- An uninterrupted run ends in a phase that `final` admits, with whatever each allowed statement
keeps of the phase and the world. -/
theorem Conforms.run {σ : Type} {M : Machine S σ} {J : Φ → σ → Prop} {p : Prog S α}
    (h : m.Conforms final φ p)
    (hstep : ∀ φ s w, J φ w → m.allowed φ s → J (m.next φ s (M.exec s w).1) (M.exec s w).2) {w : σ}
    (hJ : J φ w) : ∃ φ', final φ' (p.run M w).1 ∧ J φ' (p.run M w).2 := by
  induction p generalizing φ w with
  | ret a => exact ⟨φ, h, hJ⟩
  | throw e => exact ⟨φ, h, hJ⟩
  | call s k ih => exact ih _ (h.2 _) (hstep φ s w hJ h.1)

/-- The statements of an uninterrupted run are allowed, each in a phase that goes with the world it
is issued in. -/
theorem Conforms.trace {σ : Type} {M : Machine S σ} {J : Φ → σ → Prop} {p : Prog S α}
    (h : m.Conforms final φ p)
    (hstep : ∀ φ s w, J φ w → m.allowed φ s → J (m.next φ s (M.exec s w).1) (M.exec s w).2) {w : σ}
    (hJ : J φ w) : ∀ s ∈ p.trace M w, ∃ φ' w', J φ' w' ∧ m.allowed φ' s := by
  induction p generalizing φ w with
  | ret a => simp [Prog.trace]
  | throw e => simp [Prog.trace]
  | call s k ih =>
    intro s' hs'
    rcases List.mem_cons.mp hs' with rfl | hs'
    · exact ⟨φ, w, hJ, h.1⟩
    · exact ih _ (h.2 _) (hstep φ s w hJ h.1) s' hs'

/-- Sequencing: the first program ends in phases from which the rest conforms. -/
theorem conforms_bind {f : α → Prog S β} {final : Φ → Except S.Err β → Prop} {p : Prog S α}
    (h : m.Conforms
      (fun φ r => match r with
        | .ok a => m.Conforms final φ (f a)
        | .error e => final φ (.error e)) φ p) :
    m.Conforms final φ (p.bind f) := by
  induction p generalizing φ with
  | ret a => exact h
  | throw e => exact h
  | call s k ih => exact ⟨h.1, fun r => ih r (h.2 r)⟩

/-- One statement, then the rest. -/
theorem conforms_perform_bind {s : S.Stmt} {f : S.Reply s → Prog S β}
    {final : Φ → Except S.Err β → Prop} (ha : m.allowed φ s)
    (hok : ∀ a, m.Conforms final (m.next φ s (.ok a)) (f a))
    (herr : ∀ e, final (m.next φ s (.error e)) (.error e)) :
    m.Conforms final φ ((Prog.perform s).bind f) :=
  conforms_bind (conforms_perform ha fun r => match r with
    | .ok a => hok a
    | .error e => herr e)

theorem conforms_tryCatch {h : S.Err → Prog S α} {p : Prog S α}
    (hp : m.Conforms
      (fun φ r => match r with
        | .ok a => final φ (.ok a)
        | .error e => m.Conforms final φ (h e)) φ p) :
    m.Conforms final φ (p.tryCatch h) := by
  induction p generalizing φ with
  | ret a => exact hp
  | throw e => exact hp
  | call s k ih => exact ⟨hp.1, fun r => ih r (hp.2 r)⟩

/-- A program whose every statement is allowed in `φ` and leaves the phase at `φ`. -/
theorem conforms_of_uses {A : S.Stmt → Prop} {p : Prog S α} (hp : p.Uses A)
    (ha : ∀ s, A s → m.allowed φ s) (hn : ∀ s r, A s → m.next φ s r = φ)
    (hf : ∀ r, final φ r) : m.Conforms final φ p := by
  induction p with
  | ret a => exact hf _
  | throw e => exact hf _
  | call s k ih => exact ⟨ha s hp.1, fun r => by rw [hn s r hp.1]; exact ih r (hp.2 r)⟩

/-- A program whose every statement is allowed in every phase. -/
theorem conforms_of_always_allowed {A : S.Stmt → Prop} {p : Prog S α} (hp : p.Uses A)
    (ha : ∀ φ s, A s → m.allowed φ s) (hf : ∀ φ r, final φ r) (φ : Φ) : m.Conforms final φ p := by
  induction p generalizing φ with
  | ret a => exact hf _ _
  | throw e => exact hf _ _
  | call s k ih => exact ⟨ha φ s hp.1, fun r => ih r (hp.2 r) _⟩

/-- A program whose every statement is allowed in `φ` and leaves the phase there, then the rest. -/
theorem conforms_uses_bind {A : S.Stmt → Prop} {p : Prog S α} {f : α → Prog S β}
    {final : Φ → Except S.Err β → Prop} (hp : p.Uses A) (ha : ∀ s, A s → m.allowed φ s)
    (hn : ∀ s r, A s → m.next φ s r = φ) (hok : ∀ a, m.Conforms final φ (f a))
    (herr : ∀ e, final φ (.error e)) : m.Conforms final φ (p.bind f) :=
  conforms_bind (conforms_of_uses hp ha hn fun r => match r with
    | .ok a => hok a
    | .error e => herr e)

/-! ### Programs that conform from every phase -/

/-- Whatever the phase it starts in, `p` issues allowed statements only. -/
def Tracks (m : Monitor S Φ) (p : Prog S α) : Prop := ∀ φ, m.Conforms (fun _ _ => True) φ p

theorem tracks_of_uses {A : S.Stmt → Prop} {p : Prog S α} (hp : p.Uses A)
    (ha : ∀ φ s, A s → m.allowed φ s) : m.Tracks p :=
  conforms_of_always_allowed hp ha fun _ _ => trivial

theorem tracks_ret (a : α) : m.Tracks (.ret a : Prog S α) := fun _ => trivial

theorem tracks_bind {p : Prog S α} {f : α → Prog S β} (hp : m.Tracks p) (hf : ∀ a, m.Tracks (f a)) :
    m.Tracks (p.bind f) := fun φ =>
  conforms_bind ((hp φ).mono fun φ' r _ => match r with
    | .ok a => hf a φ'
    | .error _ => trivial)

theorem tracks_perform {s : S.Stmt} (ha : ∀ φ, m.allowed φ s) : m.Tracks (Prog.perform s) := fun φ =>
  conforms_perform (ha φ) fun _ => trivial

theorem tracks_perform_bind {s : S.Stmt} {f : S.Reply s → Prog S β} (ha : ∀ φ, m.allowed φ s)
    (hf : ∀ a, m.Tracks (f a)) : m.Tracks ((Prog.perform s).bind f) :=
  tracks_bind (tracks_perform ha) hf

theorem tracks_repeatN {body : Prog S Unit} (h : m.Tracks body) (n : Nat) :
    m.Tracks (Prog.repeatN body n) := by
  induction n with
  | zero => exact tracks_ret ()
  | succ n ih => exact tracks_bind h fun _ => ih

end Monitor

/-! ## Monitors along a run -/

section Phase

variable {Φ : ι → Type} (m : ∀ i, Monitor S (Φ i)) (φ₀ : ∀ i, Φ i)

/-- One monitor for each thread, started in `φ₀`, after the statements of the log. -/
def phaseOf (log : List (Event S ι)) (i : ι) : Φ i :=
  log.foldr (fun e φ => if e.thread = i then (m i).next φ e.stmt e.reply else φ) (φ₀ i)

def Pool.phase (p : Pool S σ ι Ret) (i : ι) : Φ i := phaseOf m φ₀ p.log i

@[simp] theorem phaseOf_nil (i : ι) : phaseOf m φ₀ [] i = φ₀ i := rfl

theorem phaseOf_cons (e : Event S ι) (log : List (Event S ι)) (i : ι) :
    phaseOf m φ₀ (e :: log) i =
      if e.thread = i then (m i).next (phaseOf m φ₀ log i) e.stmt e.reply
      else phaseOf m φ₀ log i := rfl

variable {m φ₀} {M : Machine S σ} {p : Pool S σ ι Ret}

@[simp] theorem phase_tick (n : Nat) (i : ι) :
    (p.step M (.tick n)).phase m φ₀ i = p.phase m φ₀ i := rfl

theorem phase_step_self {i : ι} {s : S.Stmt} {k : Except S.Err (S.Reply s) → Prog S (Ret i)}
    (h : p.prog i = .call s k) :
    (p.step M (.run i)).phase m φ₀ i = (m i).next (p.phase m φ₀ i) s (M.exec s p.world).1 := by
  rw [Pool.step_call h]
  simp [Pool.phase, phaseOf_cons]

theorem phase_step_other {i j : ι} (hij : j ≠ i) :
    (p.step M (.run i)).phase m φ₀ j = p.phase m φ₀ j := by
  simp only [Pool.step]
  split
  · rfl
  · rfl
  · simp [Pool.phase, phaseOf_cons, Ne.symm hij]

variable {C : Pool S σ ι Ret → Label ι → Prop}
  {F : ∀ i, Φ i → Except S.Err (Ret i) → Prop} {q : Pool S σ ι Ret}

/-- A thread that conforms at the start conforms all along, at the phase it has reached. -/
theorem conforms_reach {i : ι} (hr : Reach M C p q)
    (h0 : (m i).Conforms (F i) (p.phase m φ₀ i) (p.prog i)) :
    (m i).Conforms (F i) (q.phase m φ₀ i) (q.prog i) := by
  refine hr.invariant_steps (I := fun q => (m i).Conforms (F i) (q.phase m φ₀ i) (q.prog i)) h0
    (fun q n _ ih _ => ih) fun q j s k _ ih _ hp => ?_
  by_cases hij : i = j
  · subst hij
    rw [hp] at ih
    rw [phase_step_self hp, Pool.step_call hp]
    simpa using ih.2 (M.exec s q.world).1
  · rw [phase_step_other hij, Pool.step_call hp]
    simpa [Function.update_of_ne hij] using ih

/-- The rule for invariants over interleavings: time passing keeps `I`, and so does every statement
a thread may issue in the phase it has reached. -/
theorem Reach.invariant_of_conforms {I : Pool S σ ι Ret → Prop}
    (hconf : ∀ i, (m i).Conforms (F i) (p.phase m φ₀ i) (p.prog i)) (h0 : I p)
    (htick : ∀ q n, I q → C q (.tick n) → I (q.step M (.tick n)))
    (hrun : ∀ q i s k, I q → C q (.run i) → q.prog i = .call s k →
      (m i).allowed (q.phase m φ₀ i) s → I (q.step M (.run i)))
    (hr : Reach M C p q) : I q := by
  refine hr.invariant_steps h0 (fun q n _ => htick q n) fun q i s k hq ih hc hp => ?_
  have hconf' := conforms_reach (F := F) hq (hconf i)
  rw [hp] at hconf'
  exact hrun q i s k ih hc hp hconf'.1

/-- A finished thread has ended in a phase that `F` admits for its result. -/
theorem final_of_result {i : ι} {r : Except S.Err (Ret i)} (hr : Reach M C p q)
    (h0 : (m i).Conforms (F i) (p.phase m φ₀ i) (p.prog i)) (hres : q.result? i = some r) :
    F i (q.phase m φ₀ i) r := by
  have hconf := conforms_reach (F := F) hr h0
  unfold Pool.result? at hres
  cases hp : q.prog i with
  | ret a => rw [hp] at hres hconf; cases hres; exact hconf
  | throw e => rw [hp] at hres hconf; cases hres; exact hconf
  | call s k => rw [hp] at hres; cases hres

end Phase

/-! ## At most one thread -/

omit [DecidableEq ι] in
/-- A step of thread `i` keeps a property to at most one thread, if `i` comes to it only where no
thread has it. -/
theorem unique_step {P P' : ι → Prop} {i : ι} (huniq : ∀ j l, P j → P l → j = l)
    (hother : ∀ j, j ≠ i → P' j → P j) (hself : P' i → P i ∨ ∀ j, ¬ P j) (j l : ι) (hj : P' j)
    (hl : P' l) : j = l := by
  by_cases hji : j = i <;> by_cases hli : l = i
  · rw [hji, hli]
  · subst hji
    rcases hself hj with h | h
    · exact huniq j l h (hother l hli hl)
    · exact (h l (hother l hli hl)).elim
  · subst hli
    rcases hself hl with h | h
    · exact huniq j l (hother j hji hj) h
    · exact (h j (hother j hji hj)).elim
  · exact huniq j l (hother j hji hj) (hother l hli hl)

/-! ## Counting threads -/

section Tally

variable [Fintype ι]

/-- How many threads satisfy `P`. -/
def tally (P : ι → Bool) : Nat := ∑ i, (P i).toNat

omit [DecidableEq ι] in
theorem tally_eq_zero {P : ι → Bool} (h : ∀ i, P i = false) : tally P = 0 := by
  unfold tally
  exact Finset.sum_eq_zero fun i _ => by rw [h i]; rfl

omit [DecidableEq ι] in
theorem tally_eq_card {P : ι → Bool} (h : ∀ i, P i = true) : tally P = Fintype.card ι := by
  have hone : ∀ i, (P i).toNat = 1 := fun i => by rw [h i]; rfl
  simp [tally, hone]

omit [DecidableEq ι] in
theorem tally_mono {P P' : ι → Bool} (h : ∀ i, P i = true → P' i = true) :
    tally P ≤ tally P' := by
  refine Finset.sum_le_sum fun i _ => ?_
  cases hi : P i with
  | false => exact Nat.zero_le _
  | true => rw [h i hi]

/-- When only thread `i` moves, the tally changes by what changes for `i`. -/
theorem tally_step (P P' : ι → Bool) {i : ι} (h : ∀ j, j ≠ i → P' j = P j) :
    tally P' + (P i).toNat = tally P + (P' i).toNat := by
  unfold tally
  have hrest : ∑ j ∈ Finset.univ.erase i, (P' j).toNat =
      ∑ j ∈ Finset.univ.erase i, (P j).toNat :=
    Finset.sum_congr rfl fun j hj => by rw [h j (Finset.ne_of_mem_erase hj)]
  rw [← Finset.add_sum_erase _ (fun j => (P' j).toNat) (Finset.mem_univ i),
    ← Finset.add_sum_erase _ (fun j => (P j).toNat) (Finset.mem_univ i), hrest]
  omega

end Tally

end Resumption
