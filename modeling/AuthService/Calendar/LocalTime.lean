import Mathlib.Data.Int.LeastGreatest

/-!
# AuthService.Calendar.LocalTime

Local time by an offset function: instants and local readings are integers, and the offset may
change at any instant, forward or back. A reading may then occur more than once, or not at all.

* `First`, `Last`   — the first and the last instant with a reading.
* `Instant`         — the instant that a reading is converted back to: its first one, and for a
  skipped reading the one with the offset of the last instant before the gap.
* `exists_instant`, `instant_unique` — bounded offsets: every reading has exactly one.
* `instant_shifted` — when the reading of an instant, taken with another offset, leads back to it.
* `Transition`      — a zone that changes its offset once, with its conversion in closed form.
-/

namespace LocalTime

section Reading

variable {offset : Int → Int}

/-- The local reading at an instant. -/
def reading (offset : Int → Int) (t : Int) : Int := t + offset t

structure First (offset : Int → Int) (l u : Int) : Prop where
  reads : reading offset u = l
  le : ∀ t, reading offset t = l → u ≤ t

structure Last (offset : Int → Int) (l u : Int) : Prop where
  reads : reading offset u = l
  ge : ∀ t, reading offset t = l → t ≤ u

/-- No instant has the reading `l`; `before` is the latest one below it that some instant has, and
`i` is the last instant with it. -/
structure Skipped (offset : Int → Int) (l before i : Int) : Prop where
  unread : ∀ t, reading offset t ≠ l
  below : before < l
  gap : ∀ t, reading offset t < l → reading offset t ≤ before
  last : Last offset before i

/-- The instant of a local reading. -/
inductive Instant (offset : Int → Int) (l : Int) : Int → Prop where
  | first {u : Int} : First offset l u → Instant offset l u
  | skipped {before i : Int} : Skipped offset l before i → Instant offset l (l - offset i)

theorem first_unique {l u u' : Int} (h : First offset l u) (h' : First offset l u') : u = u' :=
  Int.le_antisymm (h.le u' h'.reads) (h'.le u h.reads)

theorem last_unique {l u u' : Int} (h : Last offset l u) (h' : Last offset l u') : u = u' :=
  Int.le_antisymm (h'.ge u h.reads) (h.ge u' h'.reads)

theorem skipped_unique {l before before' i i' : Int} (h : Skipped offset l before i)
    (h' : Skipped offset l before' i') : i = i' := by
  have hle : before ≤ before' := by
    rw [← h.last.reads]
    exact h'.gap i (h.last.reads ▸ h.below)
  have hge : before' ≤ before := by
    rw [← h'.last.reads]
    exact h.gap i' (h'.last.reads ▸ h'.below)
  obtain rfl := Int.le_antisymm hle hge
  exact last_unique h.last h'.last

theorem instant_unique {l u u' : Int} (h : Instant offset l u) (h' : Instant offset l u') :
    u = u' := by
  cases h with
  | first hu =>
    cases h' with
    | first hu' => exact first_unique hu hu'
    | skipped hs' => exact absurd hu.reads (hs'.unread u)
  | skipped hs =>
    cases h' with
    | first hu' => exact absurd hu'.reads (hs.unread _)
    | skipped hs' => rw [skipped_unique hs hs']

/-! ## Bounded offsets -/

section Bounded

variable {bound : Int} (hb : ∀ t, -bound ≤ offset t ∧ offset t ≤ bound)

include hb

theorem exists_first {l t : Int} (ht : reading offset t = l) : ∃ u, First offset l u := by
  obtain ⟨u, hu, hmin⟩ := Int.exists_least_of_bdd (P := fun t => reading offset t = l)
    ⟨l - bound, fun t ht => by have := hb t; unfold reading at ht; omega⟩ ⟨t, ht⟩
  exact ⟨u, hu, hmin⟩

theorem exists_last {l t : Int} (ht : reading offset t = l) : ∃ u, Last offset l u := by
  obtain ⟨u, hu, hmax⟩ := Int.exists_greatest_of_bdd (P := fun t => reading offset t = l)
    ⟨l + bound, fun t ht => by have := hb t; unfold reading at ht; omega⟩ ⟨t, ht⟩
  exact ⟨u, hu, hmax⟩

theorem exists_skipped {l : Int} (hl : ∀ t, reading offset t ≠ l) :
    ∃ before i, Skipped offset l before i := by
  have hbelow : reading offset (l - bound - 1) < l := by
    have := hb (l - bound - 1)
    unfold reading
    omega
  obtain ⟨before, ⟨hlt, t, ht⟩, hmax⟩ := Int.exists_greatest_of_bdd
    (P := fun before => before < l ∧ ∃ t, reading offset t = before)
    ⟨l, fun before h => Int.le_of_lt h.1⟩ ⟨_, hbelow, _, rfl⟩
  obtain ⟨i, hi⟩ := exists_last hb ht
  exact ⟨before, i, hl, hlt, fun t ht => hmax _ ⟨ht, t, rfl⟩, hi⟩

/-- Every local reading has an instant. -/
theorem exists_instant (l : Int) : ∃ u, Instant offset l u := by
  by_cases hl : ∃ t, reading offset t = l
  · obtain ⟨t, ht⟩ := hl
    obtain ⟨u, hu⟩ := exists_first hb ht
    exact ⟨u, .first hu⟩
  · obtain ⟨before, i, hs⟩ := exists_skipped hb fun t ht => hl ⟨t, ht⟩
    exact ⟨_, .skipped hs⟩

end Bounded

/-! ## A reading taken with another offset -/

/-- The reading `u + c` leads back to `u`: `u` has it with the offset `c` and no earlier instant has
it, or it is skipped and the offset before the gap is `c`. -/
inductive Returns (offset : Int → Int) (c u : Int) : Prop where
  | first : offset u = c → (∀ t, t < u → reading offset t ≠ u + c) → Returns offset c u
  | skipped {before i : Int} : Skipped offset (u + c) before i → offset i = c → Returns offset c u

theorem instant_shifted {c u u' : Int} (h : Instant offset (u + c) u') :
    u' = u ↔ Returns offset c u := by
  constructor
  · rintro rfl
    generalize hl : u' + c = l at h
    cases h with
    | first hu =>
      subst hl
      refine .first (by have := hu.reads; unfold reading at this; omega) fun t ht hread => ?_
      have := hu.le t hread
      omega
    | @skipped before i hs =>
      have hc : offset i = c := by omega
      rw [← hl] at hs
      exact .skipped hs hc
  · intro hret
    cases hret with
    | first hoff hmin =>
      have hu : First offset (u + c) u := by
        refine ⟨by unfold reading; omega, fun t ht => ?_⟩
        by_contra hlt
        exact hmin t (by omega) ht
      exact instant_unique h (.first hu)
    | @skipped before i hs hoff =>
      have := instant_unique h (.skipped hs)
      omega

/-- A zone with one offset only: the shift is exact. -/
theorem returns_of_fixed {c : Int} (h : ∀ t, offset t = c) (u : Int) : Returns offset c u := by
  refine .first (h u) fun t ht hread => ?_
  unfold reading at hread
  rw [h t] at hread
  omega

end Reading

/-! ## One transition -/

/-- From the instant `at'` on the offset is `after`. -/
structure Transition where
  at' : Int
  before : Int
  after : Int

namespace Transition

variable (z : Transition)

def offset (t : Int) : Int := if t < z.at' then z.before else z.after

/-- The reading's instant: in the repeated hours the first, in the skipped ones by the offset
before. -/
def instant (l : Int) : Int :=
  if l < z.at' + max z.before z.after then l - z.before else l - z.after

theorem instant_spec (l : Int) : Instant z.offset l (z.instant l) := by
  unfold instant
  by_cases hearly : l < z.at' + z.before
  · have hlt : l < z.at' + max z.before z.after := by omega
    rw [if_pos hlt]
    refine .first ⟨?_, fun t ht => ?_⟩
    · unfold reading offset
      rw [if_pos (by omega)]
      omega
    · unfold reading offset at ht
      split at ht <;> omega
  · by_cases hgap : l < z.at' + z.after
    · have hlt : l < z.at' + max z.before z.after := by omega
      rw [if_pos hlt]
      have hlast : Skipped z.offset l (z.at' + z.before - 1) (z.at' - 1) := by
        constructor
        · intro t ht
          unfold reading offset at ht
          split at ht <;> omega
        · omega
        · intro t ht
          unfold reading offset at ht ⊢
          split at ht <;> rename_i hlt
          · rw [if_pos hlt]
            omega
          · omega
        · constructor
          · unfold reading offset
            rw [if_pos (by omega)]
            omega
          · intro t ht
            unfold reading offset at ht
            split at ht <;> omega
      have hoff : z.offset (z.at' - 1) = z.before := if_pos (by omega)
      rw [← hoff]
      exact .skipped hlast
    · have hge : ¬ l < z.at' + max z.before z.after := by omega
      rw [if_neg hge]
      refine .first ⟨?_, fun t ht => ?_⟩
      · unfold reading offset
        rw [if_neg (by omega)]
        omega
      · unfold reading offset at ht
        split at ht <;> omega

end Transition

end LocalTime
