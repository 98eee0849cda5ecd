import Mathlib.Data.List.Perm.Basic
import Mathlib.Data.List.Pairwise

/-!
# Messaging.Outbox

A store-and-forward sender over arbitrary messages: a message is delivered at once or parked in a
bounded buffer, a full buffer drops its head, and a flush delivers some of the parked messages.

* `Outbox`, `Op`, `Outbox.apply` — the sender and its operations.
* `Conserved`  — every message offered is delivered, waiting or dropped, once.
* `Ordered`    — the deliveries, then the buffer, follow the order of the offers. An operation keeps
  this if it is `Patient`: nothing is delivered past a message that stays in the buffer.
-/

namespace Messaging

structure Outbox (α : Type) where
  offered : List α
  delivered : List α
  waiting : List α
  dropped : List α

inductive Op (α : Type) where
  | deliver (a : α)
  | park (a : α)
  | flush (takes : α → Bool)

namespace Outbox

variable {α : Type}

def apply (cap : Nat) (o : Outbox α) : Op α → Outbox α
  | .deliver a => { o with offered := o.offered ++ [a], delivered := o.delivered ++ [a] }
  | .park a =>
    if o.waiting.length ≥ cap then
      { o with
        offered := o.offered ++ [a], waiting := o.waiting.tail ++ [a]
        dropped := o.dropped ++ o.waiting.head?.toList }
    else { o with offered := o.offered ++ [a], waiting := o.waiting ++ [a] }
  | .flush takes =>
    { o with
      delivered := o.delivered ++ o.waiting.filter takes
      waiting := o.waiting.filter fun a => !takes a }

variable {o : Outbox α}

/-! ## Conservation -/

def Conserved (o : Outbox α) : Prop := (o.delivered ++ o.waiting ++ o.dropped).Perm o.offered

theorem head?_append_tail (l : List α) : l.head?.toList ++ l.tail = l := by
  cases l <;> rfl

theorem Conserved.apply (h : o.Conserved) (cap : Nat) (op : Op α) :
    (o.apply cap op).Conserved := by
  cases op with
  | deliver a =>
    show (o.delivered ++ [a] ++ o.waiting ++ o.dropped).Perm (o.offered ++ [a])
    refine List.Perm.trans ?_ (h.append_right [a])
    simp only [List.append_assoc]
    refine List.Perm.append_left _ ?_
    have hswap : ([a] ++ (o.waiting ++ o.dropped)).Perm (o.waiting ++ o.dropped ++ [a]) :=
      List.perm_append_comm
    simpa only [List.append_assoc] using hswap
  | park a =>
    by_cases hfull : o.waiting.length ≥ cap
    · simp only [Outbox.apply, hfull, if_true]
      show (o.delivered ++ (o.waiting.tail ++ [a]) ++ (o.dropped ++ o.waiting.head?.toList)).Perm
        (o.offered ++ [a])
      refine List.Perm.trans ?_ (h.append_right [a])
      -- only the head of the buffer and the new message change places
      nth_rewrite 3 [← head?_append_tail o.waiting]
      simp only [List.append_assoc]
      refine List.Perm.append_left _ ?_
      have hswap : (o.waiting.tail ++ [a] ++ o.dropped ++ o.waiting.head?.toList).Perm
          (o.waiting.head?.toList ++ (o.waiting.tail ++ [a] ++ o.dropped)) := List.perm_append_comm
      have hlast : ([a] ++ o.dropped).Perm (o.dropped ++ [a]) := List.perm_append_comm
      simp only [List.append_assoc] at hswap
      exact hswap.trans (List.Perm.append_left _ (List.Perm.append_left _ hlast))
    · simp only [Outbox.apply, hfull, if_false]
      show (o.delivered ++ (o.waiting ++ [a]) ++ o.dropped).Perm (o.offered ++ [a])
      refine List.Perm.trans ?_ (h.append_right [a])
      simp only [List.append_assoc]
      exact List.Perm.append_left _ (List.Perm.append_left _ List.perm_append_comm)
  | flush takes =>
    refine List.Perm.trans ?_ h
    refine List.Perm.append_right _ ?_
    show (o.delivered ++ o.waiting.filter takes ++ o.waiting.filter fun a => !takes a).Perm _
    rw [List.append_assoc]
    exact List.Perm.append_left _ (List.filter_append_perm takes o.waiting)

/-! ## The bound on the buffer -/

theorem waiting_apply_le {cap : Nat} (hcap : 0 < cap) (h : o.waiting.length ≤ cap) (op : Op α) :
    (o.apply cap op).waiting.length ≤ cap := by
  cases op with
  | deliver a => exact h
  | park a =>
    by_cases hfull : o.waiting.length ≥ cap
    · simp only [Outbox.apply, hfull, if_true, List.length_append, List.length_tail,
        List.length_singleton]
      omega
    · simp only [Outbox.apply, hfull, if_false, List.length_append, List.length_singleton]
      omega
  | flush takes => exact Nat.le_trans (List.length_filter_le _ _) h

/-! ## Order -/

def Ordered (o : Outbox α) : Prop := List.Sublist (o.delivered ++ o.waiting) o.offered

/-- A message is delivered only when no earlier one stays behind it in the buffer. -/
def Patient (o : Outbox α) : Op α → Prop
  | .deliver _ => o.waiting = []
  | .park _ => True
  | .flush takes => o.waiting.Pairwise fun a b => takes b = true → takes a = true

instance (o : Outbox α) : (op : Op α) → Decidable (o.Patient op)
  | .deliver _ => decidable_of_iff (o.waiting.isEmpty = true) List.isEmpty_iff
  | .park _ => .isTrue trivial
  | .flush _ => inferInstanceAs (Decidable (List.Pairwise _ _))

theorem filter_append_filter {takes : α → Bool} {l : List α}
    (h : l.Pairwise fun a b => takes b = true → takes a = true) :
    l.filter takes ++ l.filter (fun a => !takes a) = l := by
  induction l with
  | nil => rfl
  | cons a l ih =>
    obtain ⟨ha, hl⟩ := List.pairwise_cons.mp h
    cases hta : takes a with
    | true => simpa [hta] using ih hl
    | false =>
      have hnone : l.filter takes = [] :=
        List.filter_eq_nil_iff.mpr fun b hb htb => by rw [ha b hb htb] at hta; cases hta
      have hall := ih hl
      rw [hnone, List.nil_append] at hall
      simp [hta, hnone, hall]

theorem Ordered.apply (h : o.Ordered) (cap : Nat) {op : Op α} (hp : o.Patient op) :
    (o.apply cap op).Ordered := by
  cases op with
  | deliver a =>
    have hempty : o.waiting = [] := hp
    unfold Ordered at h ⊢
    rw [hempty, List.append_nil] at h
    simp only [Outbox.apply, hempty, List.append_nil]
    exact h.append (List.Sublist.refl [a])
  | park a =>
    unfold Ordered at h ⊢
    by_cases hfull : o.waiting.length ≥ cap
    · simp only [Outbox.apply, hfull, if_true, ← List.append_assoc]
      refine List.Sublist.append ?_ (List.Sublist.refl [a])
      exact (List.Sublist.append (List.Sublist.refl _) (List.tail_sublist _)).trans h
    · simp only [Outbox.apply, hfull, if_false, ← List.append_assoc]
      exact h.append (List.Sublist.refl [a])
  | flush takes =>
    have hpair : o.waiting.Pairwise fun a b => takes b = true → takes a = true := hp
    unfold Ordered at h ⊢
    simp only [Outbox.apply]
    rw [List.append_assoc, filter_append_filter hpair]
    exact h

theorem Ordered.delivered (h : o.Ordered) : o.delivered.Sublist o.offered :=
  (List.sublist_append_left _ _).trans h

end Outbox
end Messaging
