import Mathlib.Data.List.Nodup
import Mathlib.Data.List.Basic

/-!
# Relational.Table

Tables of rows with a primary key and one unique column, as values that carry both constraints:

* `Row α κ υ`  — which columns of a row type are the key and the unique column.
* `Table α`    — rows in insertion order, keys distinct, unique columns distinct.
* `Patch α`    — the `SET` clause of an update; it leaves the key and the unique column alone.
* `insert?`, `updateWhere`, `deleteWhere`, `find?`, `select` — one statement each. `insert?` refuses
  a row that would violate a constraint.

The `mem_` lemmas say which rows each statement leaves, the `count_` lemmas how many; `eq_of_key` and
`find?_key` are what the constraints are for.
-/

namespace Relational

class Row (α : Type) (κ υ : outParam Type) where
  key : α → κ
  uniq : α → υ

structure Table (α : Type) {κ υ : Type} [Row α κ υ] where
  rows : List α
  key_nodup : (rows.map Row.key).Nodup
  uniq_nodup : (rows.map Row.uniq).Nodup

/-- A `SET` clause. -/
structure Patch (α : Type) {κ υ : Type} [Row α κ υ] where
  apply : α → α
  key_eq : ∀ a, Row.key (apply a) = Row.key a
  uniq_eq : ∀ a, Row.uniq (apply a) = Row.uniq a

namespace Table

variable {α κ υ : Type} [Row α κ υ]

def empty : Table α := ⟨[], List.nodup_nil, List.nodup_nil⟩

def find? (t : Table α) (p : α → Bool) : Option α := t.rows.find? p

def select (t : Table α) (p : α → Bool) : List α := t.rows.filter p

/-- `INSERT`: `none` when a unique constraint is violated. -/
def insert? [DecidableEq κ] [DecidableEq υ] (t : Table α) (a : α) : Option (Table α) :=
  if h : Row.key a ∉ t.rows.map Row.key ∧ Row.uniq a ∉ t.rows.map Row.uniq then
    some
      { rows := t.rows ++ [a]
        key_nodup := by
          rw [List.map_append, List.nodup_append]
          exact ⟨t.key_nodup, by simp, by
            rintro x hx y hy rfl; simp only [List.map_cons, List.map_nil, List.mem_singleton] at hy
            exact h.1 (hy ▸ hx)⟩
        uniq_nodup := by
          rw [List.map_append, List.nodup_append]
          exact ⟨t.uniq_nodup, by simp, by
            rintro x hx y hy rfl; simp only [List.map_cons, List.map_nil, List.mem_singleton] at hy
            exact h.2 (hy ▸ hx)⟩ }
  else none

/-- One row of an `UPDATE ... SET f WHERE p`. -/
def patchIf (p : α → Bool) (f : Patch α) (a : α) : α := if p a then f.apply a else a

theorem key_patchIf (p : α → Bool) (f : Patch α) (a : α) :
    Row.key (patchIf p f a) = Row.key a := by
  unfold patchIf; split
  · exact f.key_eq a
  · rfl

theorem uniq_patchIf (p : α → Bool) (f : Patch α) (a : α) :
    Row.uniq (patchIf p f a) = Row.uniq a := by
  unfold patchIf; split
  · exact f.uniq_eq a
  · rfl

def updateWhere (t : Table α) (p : α → Bool) (f : Patch α) : Table α where
  rows := t.rows.map (patchIf p f)
  key_nodup := by
    have h : Row.key ∘ patchIf p f = Row.key := funext (key_patchIf p f)
    rw [List.map_map, h]; exact t.key_nodup
  uniq_nodup := by
    have h : Row.uniq ∘ patchIf p f = Row.uniq := funext (uniq_patchIf p f)
    rw [List.map_map, h]; exact t.uniq_nodup

def deleteWhere (t : Table α) (p : α → Bool) : Table α where
  rows := t.rows.filter fun a => !p a
  key_nodup := (List.Sublist.map _ List.filter_sublist).nodup t.key_nodup
  uniq_nodup := (List.Sublist.map _ List.filter_sublist).nodup t.uniq_nodup

/-! ## Which rows are left -/

@[simp] theorem rows_empty : (empty : Table α).rows = [] := rfl

@[simp] theorem rows_updateWhere (t : Table α) (p : α → Bool) (f : Patch α) :
    (t.updateWhere p f).rows = t.rows.map (patchIf p f) := rfl

@[simp] theorem rows_deleteWhere (t : Table α) (p : α → Bool) :
    (t.deleteWhere p).rows = t.rows.filter fun a => !p a := rfl

theorem mem_updateWhere {t : Table α} {p : α → Bool} {f : Patch α} {b : α} :
    b ∈ (t.updateWhere p f).rows ↔ ∃ a ∈ t.rows, patchIf p f a = b := by
  simp

theorem mem_deleteWhere {t : Table α} {p : α → Bool} {a : α} :
    a ∈ (t.deleteWhere p).rows ↔ a ∈ t.rows ∧ p a = false := by
  simp

/-- A `DELETE` that no row matches. -/
theorem deleteWhere_none {t : Table α} {p : α → Bool} (h : ∀ a ∈ t.rows, p a = false) :
    t.deleteWhere p = t := by
  cases t with
  | mk rows hkey huniq =>
    simp only [deleteWhere, mk.injEq]
    exact List.filter_eq_self.mpr fun a ha => by simp [h a ha]

/-- An `UPDATE` that no row matches. -/
theorem updateWhere_none {t : Table α} {p : α → Bool} {f : Patch α}
    (h : ∀ a ∈ t.rows, p a = false) : t.updateWhere p f = t := by
  cases t with
  | mk rows hkey huniq =>
    simp only [updateWhere, mk.injEq]
    refine (List.map_congr_left fun a ha => ?_).trans (List.map_id rows)
    simp [patchIf, h a ha]

theorem updateWhere_congr {t : Table α} {p q : α → Bool} {f : Patch α}
    (h : ∀ a ∈ t.rows, p a = q a) : t.updateWhere p f = t.updateWhere q f := by
  simp only [updateWhere, mk.injEq]
  refine List.map_congr_left fun a ha => ?_
  simp [patchIf, h a ha]

/-- Two updates with one `SET` clause, the second of which matches a row before it is set iff it
does afterwards. -/
theorem updateWhere_updateWhere {t : Table α} {p q : α → Bool} {f : Patch α}
    (hq : ∀ a, q (f.apply a) = q a) (hf : ∀ a, f.apply (f.apply a) = f.apply a) :
    (t.updateWhere p f).updateWhere q f = t.updateWhere (fun a => p a || q a) f := by
  cases t with
  | mk rows hkey huniq =>
    simp only [updateWhere, mk.injEq, List.map_map]
    refine List.map_congr_left fun a _ => ?_
    cases hp : p a <;> cases hqa : q a <;> simp [patchIf, hp, hqa, hq, hf]

theorem rows_insert? [DecidableEq κ] [DecidableEq υ] {t t' : Table α} {a : α}
    (h : t.insert? a = some t') : t'.rows = t.rows ++ [a] := by
  unfold insert? at h
  split at h
  · cases h; rfl
  · cases h

theorem insert?_eq_none [DecidableEq κ] [DecidableEq υ] {t : Table α} {a : α} :
    t.insert? a = none ↔ Row.key a ∈ t.rows.map Row.key ∨ Row.uniq a ∈ t.rows.map Row.uniq := by
  unfold insert?
  by_cases hk : Row.key a ∈ t.rows.map Row.key <;> by_cases hu : Row.uniq a ∈ t.rows.map Row.uniq
  all_goals simp [hk, hu]

/-- An insert that violates no constraint goes through. -/
theorem insert?_of_fresh [DecidableEq κ] [DecidableEq υ] {t : Table α} {a : α}
    (hkey : ∀ b ∈ t.rows, Row.key b ≠ Row.key a) (huniq : ∀ b ∈ t.rows, Row.uniq b ≠ Row.uniq a) :
    ∃ t', t.insert? a = some t' := by
  unfold insert?
  rw [dif_pos ⟨by simpa using hkey, by simpa using huniq⟩]
  exact ⟨_, rfl⟩

theorem mem_insert? [DecidableEq κ] [DecidableEq υ] {t t' : Table α} {a b : α}
    (h : t.insert? a = some t') : b ∈ t'.rows ↔ b ∈ t.rows ∨ b = a := by
  simp [rows_insert? h]

/-! ## What the constraints give -/

theorem eq_of_key {t : Table α} {a b : α} (ha : a ∈ t.rows) (hb : b ∈ t.rows)
    (h : Row.key a = Row.key b) : a = b :=
  List.inj_on_of_nodup_map t.key_nodup ha hb h

theorem eq_of_uniq {t : Table α} {a b : α} (ha : a ∈ t.rows) (hb : b ∈ t.rows)
    (h : Row.uniq a = Row.uniq b) : a = b :=
  List.inj_on_of_nodup_map t.uniq_nodup ha hb h

theorem find?_mem {t : Table α} {p : α → Bool} {a : α} (h : t.find? p = some a) :
    a ∈ t.rows ∧ p a = true :=
  ⟨List.mem_of_find?_eq_some h, List.find?_some h⟩

theorem find?_none {t : Table α} {p : α → Bool} (h : t.find? p = none) :
    ∀ a ∈ t.rows, p a = false := by
  simpa [find?, List.find?_eq_none] using h

/-- A predicate that at most one row satisfies: `find?` returns exactly that row. -/
theorem find?_unique {t : Table α} {p : α → Bool} {a : α} (ha : a ∈ t.rows) (hp : p a = true)
    (huniq : ∀ b ∈ t.rows, p b = true → b = a) : t.find? p = some a := by
  cases h : t.find? p with
  | none => rw [find?_none h a ha] at hp; cases hp
  | some b =>
    obtain ⟨hb, hpb⟩ := find?_mem h
    rw [huniq b hb hpb]

/-- A row that `p` finds is still found after an insert. -/
theorem find?_insert? [DecidableEq κ] [DecidableEq υ] {t t' : Table α} {a b : α} {p : α → Bool}
    (h : t.insert? a = some t') (hb : t.find? p = some b) : t'.find? p = some b := by
  have hb' : t.rows.find? p = some b := hb
  simp [find?, rows_insert? h, List.find?_append, hb']

theorem find?_key [DecidableEq κ] {t : Table α} {a : α} (ha : a ∈ t.rows) :
    t.find? (fun b => Row.key b = Row.key a) = some a :=
  find?_unique ha (by simp) fun b hb hp => eq_of_key hb ha (by simpa using hp)

theorem find?_uniq [DecidableEq υ] {t : Table α} {a : α} (ha : a ∈ t.rows) :
    t.find? (fun b => Row.uniq b = Row.uniq a) = some a :=
  find?_unique ha (by simp) fun b hb hp => eq_of_uniq hb ha (by simpa using hp)

/-! ## Counting rows -/

/-- `SELECT COUNT(*) WHERE p`. -/
def count (t : Table α) (p : α → Bool) : Nat := t.rows.countP p

variable {t : Table α} {p p' : α → Bool}

theorem length_select (t : Table α) (p : α → Bool) : (t.select p).length = t.count p :=
  List.countP_eq_length_filter.symm

theorem count_mono (h : ∀ a ∈ t.rows, p a = true → p' a = true) : t.count p ≤ t.count p' :=
  List.countP_mono_left h

theorem count_updateWhere_le {q : α → Bool} {f : Patch α}
    (h : ∀ a ∈ t.rows, p (patchIf q f a) = true → p' a = true) :
    (t.updateWhere q f).count p ≤ t.count p' := by
  rw [count, rows_updateWhere, List.countP_map]
  exact List.countP_mono_left h

theorem count_deleteWhere_le (q : α → Bool) : (t.deleteWhere q).count p ≤ t.count p :=
  List.Sublist.countP_le List.filter_sublist

/-- Exactly one row less. -/
theorem count_without_eq [DecidableEq κ] {a : α} (ha : a ∈ t.rows) (hp : p a = true) :
    t.count (fun b => p b && Row.key b ≠ Row.key a) + 1 = t.count p := by
  have hone : ((t.rows.filter p).countP fun b => decide (Row.key b = Row.key a)) = 1 := by
    have hnodup : ((t.rows.filter p).map Row.key).Nodup :=
      (List.Sublist.map _ List.filter_sublist).nodup t.key_nodup
    have hmem : Row.key a ∈ (t.rows.filter p).map Row.key :=
      List.mem_map_of_mem (List.mem_filter.mpr ⟨ha, hp⟩)
    have hcount := List.count_eq_one_of_mem hnodup hmem
    rw [List.count, List.countP_map] at hcount
    rw [← hcount]
    exact List.countP_congr fun b _ => by simp
  have hsplit := List.length_eq_countP_add_countP (l := t.rows.filter p)
    fun b => decide (Row.key b = Row.key a)
  rw [← List.countP_eq_length_filter] at hsplit
  have hrest : t.count (fun b => p b && decide (Row.key b ≠ Row.key a)) =
      (t.rows.filter p).countP fun b => decide (¬ decide (Row.key b = Row.key a) = true) := by
    rw [List.countP_filter, count]
    refine List.countP_congr fun b _ => ?_
    simp [and_comm]
  show t.count (fun b => p b && decide (Row.key b ≠ Row.key a)) + 1 = t.rows.countP p
  omega

/-- One row less. -/
theorem count_without [DecidableEq κ] {a : α} (ha : a ∈ t.rows) (hp : p a = true) :
    t.count (fun b => p b && Row.key b ≠ Row.key a) + 1 ≤ t.count p :=
  Nat.le_of_eq (count_without_eq ha hp)

theorem count_updateWhere {q : α → Bool} {f : Patch α}
    (h : ∀ a ∈ t.rows, p (patchIf q f a) = true ↔ p' a = true) :
    (t.updateWhere q f).count p = t.count p' := by
  rw [count, rows_updateWhere, List.countP_map]
  exact List.countP_congr h

/-! ## The rows of one owner -/

/-- An `UPDATE` that moves no row in or out of `p`. -/
theorem select_updateWhere {q : α → Bool} {f : Patch α} (h : ∀ a, p (f.apply a) = p a) :
    (t.updateWhere q f).select p = (t.select p).map (patchIf q f) := by
  have hp : p ∘ patchIf q f = p := by
    funext a
    unfold patchIf
    by_cases hq : q a = true
    · simp [hq, h]
    · simp [hq]
  rw [select, rows_updateWhere, List.filter_map, hp]
  rfl

theorem select_deleteWhere (q : α → Bool) :
    (t.deleteWhere q).select p = (t.select p).filter fun a => !q a := by
  rw [select, rows_deleteWhere, List.filter_filter, select, List.filter_filter]
  exact List.filter_congr fun a _ => Bool.and_comm _ _

theorem select_insert? [DecidableEq κ] [DecidableEq υ] {t' : Table α} {a : α}
    (h : t.insert? a = some t') :
    t'.select p = t.select p ++ if p a then [a] else [] := by
  rw [select, rows_insert? h, List.filter_append]
  by_cases hp : p a = true
  · simp [select, hp]
  · simp [select, hp]

/-- A lookup that only rows of `p` can answer. -/
theorem find?_select {q : α → Bool} (h : ∀ a ∈ t.rows, q a = true → p a = true) :
    t.find? q = (t.select p).find? q := by
  cases hfind : t.find? q with
  | some a =>
    obtain ⟨before, after, hrows, hnot⟩ := (List.find?_eq_some_iff_append.mp hfind).2
    obtain ⟨ha, hq⟩ := find?_mem hfind
    rw [select, hrows, List.filter_append, List.filter_cons_of_pos (h a ha hq),
      List.find?_append]
    have hnone : (before.filter p).find? q = none := by
      refine List.find?_eq_none.mpr fun b hb => ?_
      simpa using hnot b (List.mem_filter.mp hb).1
    simp [hnone, hq]
  | none =>
    refine (List.find?_eq_none.mpr fun a ha => ?_).symm
    simp [find?_none hfind a (List.mem_filter.mp ha).1]

theorem select_select {q : α → Bool} (h : ∀ a ∈ t.rows, q a = true → p a = true) :
    t.select q = (t.select p).filter q := by
  rw [select, select, List.filter_filter]
  refine List.filter_congr fun a ha => ?_
  by_cases hq : q a = true
  · simp [hq, h a ha hq]
  · simp [hq]

/-- Two tables with the same rows of `p` answer alike what only rows of `p` can answer. -/
theorem find?_of_select {t' : Table α} {q : α → Bool} (h : t.select p = t'.select p)
    (hq : ∀ a ∈ t.rows, q a = true → p a = true) (hq' : ∀ a ∈ t'.rows, q a = true → p a = true) :
    t.find? q = t'.find? q := by
  rw [find?_select hq, find?_select hq', h]

theorem select_of_select {t' : Table α} {q : α → Bool} (h : t.select p = t'.select p)
    (hq : ∀ a ∈ t.rows, q a = true → p a = true) (hq' : ∀ a ∈ t'.rows, q a = true → p a = true) :
    t.select q = t'.select q := by
  rw [select_select hq, select_select hq', h]

end Table
end Relational
