import Mathlib.Data.List.Basic
import Mathlib.Data.List.Nodup

/-!
# AuthService.ValidationPipe

`CustomValidationPipe.formatErrors`: the errors of a request body, which form a forest, flattened into
one object from field paths to messages.

* `Record`      — a plain object, with assignment to a property and `Object.assign`.
* `formatErrors` — the recursion of the source, loop and path prefix included.
* `carriers`    — the nodes that carry constraints, each with the names on the way to it.
* `joinPath_inj` — names without dots are told apart by their path.
* `formatErrors_loses_nothing` — one entry for each carrier, and no other.
-/

namespace Auth

/-! ## Plain objects -/

structure Record (α : Type) where
  entries : List (String × α)
  nodup : (entries.map Prod.fst).Nodup

namespace Record

variable {α : Type} {r : Record α}

def keys (r : Record α) : List String := r.entries.map Prod.fst

def empty : Record α := ⟨[], List.nodup_nil⟩

/-- The value of a key that is there is replaced. -/
def replace (key : String) (value : α) (e : String × α) : String × α :=
  if e.1 = key then (key, value) else e

theorem fst_replace (key : String) (value : α) (e : String × α) :
    (replace key value e).1 = e.1 := by
  unfold replace
  split
  · rename_i h
    exact h.symm
  · rfl

/-- `object[key] = value`. What is assigned to `__proto__` becomes the prototype, not an entry. -/
def set (r : Record α) (key : String) (value : α) : Record α :=
  if key = "__proto__" then r
  else if h : key ∈ r.keys then
    { entries := r.entries.map (replace key value)
      nodup := by
        have hkeys : Prod.fst ∘ replace key value = Prod.fst := funext (fst_replace key value)
        rw [List.map_map, hkeys]
        exact r.nodup }
  else
    { entries := r.entries ++ [(key, value)]
      nodup := by
        rw [List.map_append, List.nodup_append]
        refine ⟨r.nodup, by simp, fun a ha b hb heq => h ?_⟩
        obtain rfl : b = key := by simpa using hb
        exact heq ▸ ha }

/-- `Object.assign(object, source)`. -/
def assign (r source : Record α) : Record α :=
  source.entries.foldl (fun r e => r.set e.1 e.2) r

theorem entries_set {key : String} {value : α} (hproto : key ≠ "__proto__") (h : key ∉ r.keys) :
    (r.set key value).entries = r.entries ++ [(key, value)] := by
  simp [set, hproto, h]

/-- Assigning fresh keys appends them. -/
theorem entries_foldl_set {es : List (String × α)} (hproto : ∀ e ∈ es, e.1 ≠ "__proto__")
    (hnodup : (es.map Prod.fst).Nodup) (hfresh : ∀ e ∈ es, e.1 ∉ r.keys) :
    (es.foldl (fun r e => r.set e.1 e.2) r).entries = r.entries ++ es := by
  induction es generalizing r with
  | nil => simp
  | cons e es ih =>
    obtain ⟨he, hproto⟩ := List.forall_mem_cons.mp hproto
    obtain ⟨hnew, hfresh⟩ := List.forall_mem_cons.mp hfresh
    rw [List.map_cons, List.nodup_cons] at hnodup
    have hset : (r.set e.1 e.2).entries = r.entries ++ [(e.1, e.2)] := entries_set he hnew
    have hkeys : ∀ e' ∈ es, e'.1 ∉ (r.set e.1 e.2).keys := by
      intro e' he' hmem
      rw [keys, hset, List.map_append, List.mem_append] at hmem
      rcases hmem with hmem | hmem
      · exact hfresh e' he' hmem
      · have heq : e'.1 = e.1 := by simpa using hmem
        exact hnodup.1 (List.mem_map.mpr ⟨e', he', heq⟩)
    rw [List.foldl_cons, ih hproto hnodup.2 hkeys, hset, List.append_assoc]
    rfl

end Record

/-! ## formatErrors -/

/-- A `ValidationError`; of its constraints, which are absent or named messages, the messages. -/
inductive ValidationError where
  | mk (property : String) (constraints : Option (List String)) (children : List ValidationError)

def ValidationError.property : ValidationError → String
  | .mk property _ _ => property

namespace CustomValidationPipe

/-- An empty `parentPath` is falsy. -/
def propertyPath (parentPath property : String) : String :=
  if parentPath = "" then property else parentPath ++ "." ++ property

mutual

/-- One pass of the loop. -/
def formatError (parentPath : String) (result : Record (List String)) :
    ValidationError → Record (List String)
  | .mk property constraints children =>
    let path := propertyPath parentPath property
    let result := match constraints with
      | some messages => result.set path messages
      | none => result
    if children.length > 0 then result.assign (formatErrorsFrom path .empty children) else result

/-- The loop from a result so far. -/
def formatErrorsFrom (parentPath : String) (result : Record (List String)) :
    List ValidationError → Record (List String)
  | [] => result
  | error :: errors => formatErrorsFrom parentPath (formatError parentPath result error) errors

end

def formatErrors (errors : List ValidationError) (parentPath : String) : Record (List String) :=
  formatErrorsFrom parentPath .empty errors

end CustomValidationPipe

/-! ## The nodes of a forest -/

/-- A node that carries constraints: the names from its root down to it, and its messages. -/
structure Carrier where
  path : List String
  messages : List String

mutual

def ValidationError.carriers (above : List String) : ValidationError → List Carrier
  | .mk property constraints children =>
    (constraints.map fun messages => ⟨above ++ [property], messages⟩).toList ++
      carriers (above ++ [property]) children

def carriers (above : List String) : List ValidationError → List Carrier
  | [] => []
  | error :: errors => error.carriers above ++ carriers above errors

end

/-- A dot-joined path. -/
def joinPath (path : List String) : String := ".".intercalate path

def Carrier.entry (n : Carrier) : String × List String := (joinPath n.path, n.messages)

/-- A name that can be told from a path. -/
structure ProperName (property : String) : Prop where
  nonempty : property ≠ ""
  dotless : '.' ∉ property.toList
  not_proto : property ≠ "__proto__"

mutual

def ValidationError.WellNamed : ValidationError → Prop
  | .mk property _ children => ProperName property ∧ WellNamed children

/-- Proper names throughout, distinct among siblings. -/
def WellNamed : List ValidationError → Prop
  | [] => True
  | error :: errors =>
    error.WellNamed ∧ (∀ sibling ∈ errors, sibling.property ≠ error.property) ∧ WellNamed errors

end

/-! ## Paths -/

theorem joinPath_snoc {path : List String} (hpath : ∀ name ∈ path, ProperName name)
    (property : String) :
    CustomValidationPipe.propertyPath (joinPath path) property = joinPath (path ++ [property]) := by
  unfold CustomValidationPipe.propertyPath joinPath
  cases path with
  | nil => simp
  | cons name rest =>
    have hne : ".".intercalate (name :: rest) ≠ "" := by
      intro h
      have hchars := congrArg String.toList h
      rw [String.toList_intercalate] at hchars
      have hname := (hpath name List.mem_cons_self).nonempty
      cases rest with
      | nil =>
        refine hname (String.toList_inj.mp ?_)
        simpa using hchars
      | cons _ _ => simp at hchars
    rw [if_neg hne, String.intercalate_append_of_ne_nil (by simp) (by simp),
      String.intercalate_singleton]

/-- Names without dots are told apart by their path. -/
theorem joinPath_inj {path path' : List String} (h : ∀ name ∈ path, '.' ∉ name.toList)
    (h' : ∀ name ∈ path', '.' ∉ name.toList) (hne : path ≠ []) (hne' : path' ≠ [])
    (heq : joinPath path = joinPath path') : path = path' := by
  have hsplit : ∀ p : List String, (∀ name ∈ p, '.' ∉ name.toList) → p ≠ [] →
      (joinPath p).toList.splitOn '.' = p.map String.toList := by
    intro p hp hnil
    have hchars : (joinPath p).toList = ['.'].intercalate (p.map String.toList) :=
      String.toList_intercalate
    rw [hchars]
    exact List.splitOn_intercalate '.' (by simpa using hp) (by simpa using hnil)
  have hlists := (hsplit path h hne).symm.trans ((congrArg (fun s => s.toList.splitOn '.') heq).trans
    (hsplit path' h' hne'))
  exact List.map_injective_iff.mpr (fun _ _ => String.toList_inj.mp) hlists

/-- A path of proper names. -/
def ProperPath (path : List String) : Prop := ∀ name ∈ path, ProperName name

theorem joinPath_eq_iff {path path' : List String} (h : ProperPath path) (h' : ProperPath path')
    (hne : path ≠ []) (hne' : path' ≠ []) : joinPath path = joinPath path' ↔ path = path' := by
  constructor
  · exact joinPath_inj (fun name hn => (h name hn).dotless) (fun name hn => (h' name hn).dotless)
      hne hne'
  · rintro rfl
    rfl

theorem joinPath_ne_proto {path : List String} (h : ProperPath path) (hne : path ≠ []) :
    joinPath path ≠ "__proto__" := by
  intro heq
  have hproto : joinPath ["__proto__"] = "__proto__" := String.intercalate_singleton
  have hpath : path = ["__proto__"] := by
    refine joinPath_inj (fun name hn => (h name hn).dotless) ?_ hne (by simp)
      (heq.trans hproto.symm)
    simp only [List.mem_singleton, forall_eq]
    decide
  exact (h "__proto__" (by simp [hpath])).not_proto rfl

mutual

/-- The path of a node starts with the names above its tree, and the name of its root. -/
theorem ValidationError.mem_carriers {above : List String} {n : Carrier} :
    ∀ {e : ValidationError}, e.WellNamed → n ∈ e.carriers above →
      ∃ rest, n.path = above ++ e.property :: rest ∧ ProperPath (e.property :: rest)
  | .mk property constraints children, h, hn => by
    rw [ValidationError.carriers, List.mem_append] at hn
    rcases hn with hn | hn
    · obtain ⟨messages, -, rfl⟩ : ∃ messages, constraints = some messages ∧
          (⟨above ++ [property], messages⟩ : Carrier) = n := by
        simpa using hn
      exact ⟨[], rfl, by simpa [ProperPath, ValidationError.property] using h.1⟩
    · obtain ⟨child, -, rest, hpath, hproper⟩ := mem_carriers h.2 hn
      refine ⟨child.property :: rest, by simp [hpath, ValidationError.property], ?_⟩
      exact List.forall_mem_cons.mpr ⟨h.1, hproper⟩

theorem mem_carriers {above : List String} {n : Carrier} :
    ∀ {es : List ValidationError}, WellNamed es → n ∈ carriers above es →
      ∃ e ∈ es, ∃ rest, n.path = above ++ e.property :: rest ∧ ProperPath (e.property :: rest)
  | [], _, hn => by simp [carriers] at hn
  | e :: es, h, hn => by
    rw [carriers, List.mem_append] at hn
    rcases hn with hn | hn
    · exact ⟨e, List.mem_cons_self, ValidationError.mem_carriers h.1 hn⟩
    · obtain ⟨e', he', hrest⟩ := mem_carriers h.2.2 hn
      exact ⟨e', List.mem_cons_of_mem _ he', hrest⟩

end

/-- The keys of different siblings differ. -/
theorem joinPath_ne_of_siblings {above : List String} (habove : ProperPath above)
    {name name' : String} {rest rest' : List String} (h : ProperPath (name :: rest))
    (h' : ProperPath (name' :: rest')) (hne : name' ≠ name) :
    joinPath (above ++ name' :: rest') ≠ joinPath (above ++ name :: rest) := by
  intro heq
  have happend : ∀ {p : List String}, ProperPath p → ProperPath (above ++ p) := fun hp =>
    List.forall_mem_append.mpr ⟨habove, hp⟩
  rw [joinPath_eq_iff (happend h') (happend h) (by simp) (by simp)] at heq
  exact hne (List.cons.inj (List.append_cancel_left heq)).1

/-! ## One entry for each node -/

namespace CustomValidationPipe

mutual

/-- One pass, on a result that has none of its keys. -/
theorem entries_formatError {above : List String} (habove : ProperPath above) :
    ∀ {e : ValidationError} {result : Record (List String)}, e.WellNamed →
      (∀ n ∈ e.carriers above, joinPath n.path ∉ result.keys) →
      (formatError (joinPath above) result e).entries =
        result.entries ++ (e.carriers above).map Carrier.entry
  | .mk property constraints children, result, h, hfresh => by
    have hpath : ProperPath (above ++ [property]) :=
      List.forall_mem_append.mpr ⟨habove, by simpa [ProperPath] using h.1⟩
    have hchildren : (formatErrorsFrom (joinPath (above ++ [property])) .empty children).entries =
        (carriers (above ++ [property]) children).map Carrier.entry := by
      have hnone : (formatErrorsFrom (joinPath (above ++ [property])) .empty children).entries =
          Record.empty.entries ++ (carriers (above ++ [property]) children).map Carrier.entry :=
        entries_formatErrorsFrom hpath h.2 (by simp [Record.keys, Record.empty])
      simpa [Record.empty] using hnone
    rw [ValidationError.carriers, List.forall_mem_append] at hfresh
    obtain ⟨hown, hbelow⟩ := hfresh
    simp only [formatError, joinPath_snoc habove]
    -- the node's own entry
    have hset : (match constraints with
        | some messages => result.set (joinPath (above ++ [property])) messages
        | none => result).entries = result.entries ++
          ((constraints.map fun messages => (⟨above ++ [property], messages⟩ : Carrier)).toList.map
            Carrier.entry) := by
      cases constraints with
      | none => simp
      | some messages =>
        have hnew := hown ⟨above ++ [property], messages⟩ (by simp)
        exact Record.entries_set (joinPath_ne_proto hpath (by simp)) hnew
    generalize (match constraints with
      | some messages => result.set (joinPath (above ++ [property])) messages
      | none => result) = result' at hset ⊢
    have hnodes : ∀ n ∈ carriers (above ++ [property]) children,
        ProperPath n.path ∧ n.path ≠ [] ∧ n.path ≠ above ++ [property] := by
      intro n hn
      obtain ⟨child, -, rest, hrest, hproper⟩ := mem_carriers h.2 hn
      rw [hrest]
      exact ⟨List.forall_mem_append.mpr ⟨hpath, hproper⟩, by simp, by simp⟩
    cases children with
    | nil => simp [hset, ValidationError.carriers, carriers]
    | cons child children =>
      rw [if_pos (by simp), Record.assign, Record.entries_foldl_set, hset, hchildren,
        ValidationError.carriers, List.map_append, List.append_assoc]
      · intro e he
        rw [hchildren] at he
        obtain ⟨n, hn, rfl⟩ := List.mem_map.mp he
        exact joinPath_ne_proto (hnodes n hn).1 (hnodes n hn).2.1
      · exact Record.nodup _
      · intro e he hmem
        rw [hchildren] at he
        obtain ⟨n, hn, rfl⟩ := List.mem_map.mp he
        rw [Record.keys, hset, List.map_append, List.mem_append] at hmem
        rcases hmem with hmem | hmem
        · exact hbelow n hn hmem
        · have hsame : joinPath n.path = joinPath (above ++ [property]) := by
            cases constraints with
            | none => simp at hmem
            | some messages => simpa [Carrier.entry] using hmem
          rw [joinPath_eq_iff (hnodes n hn).1 hpath (hnodes n hn).2.1 (by simp)] at hsame
          exact (hnodes n hn).2.2 hsame

theorem entries_formatErrorsFrom {above : List String} (habove : ProperPath above) :
    ∀ {es : List ValidationError} {result : Record (List String)}, WellNamed es →
      (∀ n ∈ carriers above es, joinPath n.path ∉ result.keys) →
      (formatErrorsFrom (joinPath above) result es).entries =
        result.entries ++ (carriers above es).map Carrier.entry
  | [], result, _, _ => by simp [formatErrorsFrom, carriers]
  | e :: es, result, h, hfresh => by
    rw [carriers, List.forall_mem_append] at hfresh
    have hpass : (formatError (joinPath above) result e).entries =
        result.entries ++ (e.carriers above).map Carrier.entry :=
      entries_formatError habove h.1 hfresh.1
    have hkeys : ∀ n ∈ carriers above es,
        joinPath n.path ∉ (formatError (joinPath above) result e).keys := by
      intro n hn hmem
      rw [Record.keys, hpass, List.map_append, List.mem_append] at hmem
      rcases hmem with hmem | hmem
      · exact hfresh.2 n hn hmem
      · rw [List.map_map] at hmem
        obtain ⟨n', hn', heq⟩ := List.mem_map.mp hmem
        obtain ⟨e', he', rest', hpath', hproper'⟩ := mem_carriers h.2.2 hn
        obtain ⟨rest, hpath, hproper⟩ := ValidationError.mem_carriers h.1 hn'
        refine joinPath_ne_of_siblings habove hproper hproper' (h.2.1 e' he') ?_
        rw [← hpath, ← hpath']
        exact heq.symm
    rw [formatErrorsFrom, entries_formatErrorsFrom habove h.2.2 hkeys, hpass, carriers,
      List.map_append, List.append_assoc]

end

end CustomValidationPipe

/-- The object has one entry for each node that carries constraints, under the dot-joined path from
its root and with its messages, no two of them under one key; and no other entry. -/
theorem formatErrors_loses_nothing (errors : List ValidationError) (h : WellNamed errors) :
    (CustomValidationPipe.formatErrors errors "").entries.Perm
        ((carriers [] errors).map fun n => (joinPath n.path, n.messages)) ∧
      ((carriers [] errors).map fun n => joinPath n.path).Nodup := by
  have hentries : (CustomValidationPipe.formatErrors errors "").entries =
      (carriers [] errors).map Carrier.entry := by
    have hnone : (CustomValidationPipe.formatErrorsFrom (joinPath []) .empty errors).entries =
        Record.empty.entries ++ (carriers [] errors).map Carrier.entry :=
      CustomValidationPipe.entries_formatErrorsFrom (by simp [ProperPath]) h
        (by simp [Record.keys, Record.empty])
    exact hnone.trans (List.nil_append _)
  refine ⟨List.Perm.of_eq hentries, ?_⟩
  have hnodup := (CustomValidationPipe.formatErrors errors "").nodup
  rw [hentries, List.map_map] at hnodup
  exact hnodup

/-- Two fields of one name at different depths. -/
theorem formatErrors_loses_nothing_nested :
    let errors : List ValidationError :=
      [.mk "email" (some ["email must be an email"]) [],
        .mk "profile" none [.mk "email" (some ["email must be a string"]) []]]
    (CustomValidationPipe.formatErrors errors "").entries.Perm
        [("email", ["email must be an email"]), ("profile.email", ["email must be a string"])] ∧
      ["email", "profile.email"].Nodup := by
  intro errors
  have hemail : ProperName "email" := ⟨by decide, by decide, by decide⟩
  have hprofile : ProperName "profile" := ⟨by decide, by decide, by decide⟩
  exact formatErrors_loses_nothing errors
    ⟨⟨hemail, trivial⟩, by simp [ValidationError.property], ⟨hprofile, ⟨hemail, trivial⟩, by simp, trivial⟩,
      by simp, trivial⟩

/-- A dot in a name: the node below `a` overwrites the entry of its neighbour. -/
example :
    (CustomValidationPipe.formatErrors
      [.mk "a.b" (some ["x"]) [], .mk "a" none [.mk "b" (some ["y"]) []]] "").entries =
        [("a.b", ["y"])] := by decide

end Auth
