import AuthService.Resumption.Prog

/-!
# Resumption.Fault

Machines some of whose statements fail. A failing statement is `rejected` before it has any effect,
or its reply is lost: it takes effect and its caller sees a failure all the same.

`Machine.withFaults` makes such a machine from a plan of faults. An empty plan changes nothing
(`withFaults_none`), a statement that writes nothing replies as ever or fails (`exec_withFaults_read`),
and a property kept by the statements of the machine is kept under any plan (`withFaults_keeps`).
-/

namespace Resumption

inductive Fault (E : Type) where
  | rejected (e : E)
  | replyLost (e : E)

variable {S : Sig} {σ α β : Type} {M : Machine S σ} {fault : S.Stmt → Option (Fault S.Err)}

def Machine.withFaults (M : Machine S σ) (fault : S.Stmt → Option (Fault S.Err)) : Machine S σ where
  exec s w :=
    match fault s with
    | none => M.exec s w
    | some (.rejected e) => (.error e, w)
    | some (.replyLost e) => (.error e, (M.exec s w).2)
  tick := M.tick

theorem exec_withFaults {s : S.Stmt} (h : fault s = none) (w : σ) :
    (M.withFaults fault).exec s w = M.exec s w := by
  simp only [Machine.withFaults, h]

theorem exec_rejected {s : S.Stmt} {e : S.Err} (h : fault s = some (.rejected e)) (w : σ) :
    (M.withFaults fault).exec s w = (.error e, w) := by
  simp only [Machine.withFaults, h]

theorem exec_replyLost {s : S.Stmt} {e : S.Err} (h : fault s = some (.replyLost e)) (w : σ) :
    (M.withFaults fault).exec s w = (.error e, (M.exec s w).2) := by
  simp only [Machine.withFaults, h]

theorem withFaults_none (M : Machine S σ) : M.withFaults (fun _ => none) = M := rfl

/-- A statement that writes nothing. -/
theorem exec_withFaults_read {s : S.Stmt} {w : σ} (h : (M.exec s w).2 = w) :
    (M.withFaults fault).exec s w = M.exec s w ∨
      ∃ e, (M.withFaults fault).exec s w = (.error e, w) := by
  cases hf : fault s with
  | none => exact .inl (exec_withFaults hf w)
  | some f =>
    cases f with
    | rejected e => exact .inr ⟨e, exec_rejected hf w⟩
    | replyLost e => exact .inr ⟨e, by rw [exec_replyLost hf, h]⟩

/-- A fault either hides a statement's effect or leaves it. -/
theorem withFaults_keeps {I : σ → Prop} {s : S.Stmt} {w : σ} (h : I w) (hI : I (M.exec s w).2) :
    I ((M.withFaults fault).exec s w).2 := by
  cases hf : fault s with
  | none =>
    rw [exec_withFaults hf]
    exact hI
  | some f =>
    cases f with
    | rejected e =>
      rw [exec_rejected hf]
      exact h
    | replyLost e =>
      rw [exec_replyLost hf]
      exact hI

namespace Prog

/-- One statement that fails ends the program. -/
theorem run_perform_bind_error {s : S.Stmt} {f : S.Reply s → Prog S β} {w w' : σ} {e : S.Err}
    (h : M.exec s w = (.error e, w')) : ((perform s).bind f).run M w = (.error e, w') :=
  run_bind_error M ((run_perform M s w).trans h)

/-- One statement that is spared, then the rest. -/
theorem run_spared_bind {s : S.Stmt} {f : S.Reply s → Prog S β} {w : σ} {a : S.Reply s}
    (h : fault s = none) (ha : (M.exec s w).1 = .ok a) :
    ((perform s).bind f).run (M.withFaults fault) w = (f a).run (M.withFaults fault) (M.exec s w).2 := by
  have hexec := exec_withFaults (M := M) h w
  rw [run_perform_bind (M.withFaults fault) (by rw [hexec]; exact ha), hexec]

variable (fault) in
/-- One statement that writes nothing: the rest goes on in the same world, unless the statement
fails. -/
theorem run_read_bind {s : S.Stmt} {f : S.Reply s → Prog S β} {w : σ} {a : S.Reply s}
    (h : M.exec s w = (.ok a, w)) :
    fault s = none ∧
        ((perform s).bind f).run (M.withFaults fault) w = (f a).run (M.withFaults fault) w ∨
      fault s ≠ none ∧ ∃ e, ((perform s).bind f).run (M.withFaults fault) w = (.error e, w) := by
  cases hf : fault s with
  | none =>
    refine .inl ⟨rfl, ?_⟩
    rw [run_spared_bind (M := M) (a := a) hf (by rw [h]), h]
  | some f =>
    refine .inr ⟨nofun, ?_⟩
    cases f with
    | rejected e => exact ⟨e, run_perform_bind_error (exec_rejected hf w)⟩
    | replyLost e =>
      refine ⟨e, run_perform_bind_error ?_⟩
      rw [exec_replyLost hf, h]

end Prog
end Resumption
