/-
This file models the comparisons behind the resolver's ordered containers.

Every `std::map` and `std::set` of the private DNS configuration takes a *Compare*
argument, and the standard asks it to be a strict weak ordering. `Compare` carries that
law as a field, so no container of this development can be built over a comparator that
breaks it, and the containers' proofs read the law off the comparator.

The keys of the private DNS tables compare through `std::tie`: the tuple's `operator<` is
lexicographic and reads only the components' `operator<`, and its `operator==` reads only
the components' `operator==`. When the components' `operator<` are strict total orders
consistent with `operator==`, so is the tuple's: it is then the lexicographic order, and
its incomparable pairs are exactly its `operator==` pairs.
-/

import Mathlib

namespace Android.Net

/-- The *Compare* argument of `std::map` and `std::set`: a boolean `operator<` that is a
strict weak ordering, as the standard requires of it. -/
structure Compare (α : Type) where
  less : α → α → Bool
  strictWeakOrder : IsStrictWeakOrder α fun a b => less a b = true

namespace Compare

variable {α β : Type}

/-! ### The laws of a comparator -/

section Laws

variable (compare : Compare α) {a b c : α}

/-- Neither key is below the other: what the containers take for one key. -/
def equiv (a b : α) : Bool := !compare.less a b && !compare.less b a

theorem less_irrefl (a : α) : compare.less a a = false :=
  Bool.eq_false_iff.mpr (compare.strictWeakOrder.irrefl a)

theorem less_trans (first : compare.less a b) (second : compare.less b c) :
    compare.less a c :=
  compare.strictWeakOrder.trans a b c first second

theorem equiv_iff : compare.equiv a b ↔ compare.less a b = false ∧ compare.less b a = false := by
  simp [equiv]

theorem equiv_refl (a : α) : compare.equiv a a := by
  simp [equiv, less_irrefl]

theorem equiv_comm (a b : α) : compare.equiv a b = compare.equiv b a := by
  simp [equiv, Bool.and_comm]

theorem equiv_symm (same : compare.equiv a b) : compare.equiv b a :=
  compare.equiv_comm a b ▸ same

theorem equiv_trans (first : compare.equiv a b) (second : compare.equiv b c) :
    compare.equiv a c := by
  simp only [equiv_iff, ← Bool.not_eq_true] at *
  exact compare.strictWeakOrder.incomp_trans a b c first second

theorem equiv_of_less_eq_false (below : compare.less a b = false)
    (above : compare.less b a = false) : compare.equiv a b :=
  (compare.equiv_iff).mpr ⟨below, above⟩

theorem not_equiv_of_less (below : compare.less a b) : compare.equiv a b = false := by
  simp [equiv, below]

/-- A key equivalent to one that is apart from a third is apart from it too. -/
theorem not_equiv_of_equiv_of_not_equiv (same : compare.equiv a b)
    (apart : compare.equiv b c = false) : compare.equiv a c = false :=
  Bool.eq_false_iff.mpr fun joined => by
    simpa [apart] using compare.equiv_trans (compare.equiv_symm same) joined

end Laws

/-! ### Building comparators -/

/-- A comparator whose `operator<` is a strict total order. -/
def ofStrictTotal (less : α → α → Bool)
    (total : IsStrictTotalOrder α fun a b => less a b = true) : Compare α :=
  ⟨less, isStrictWeakOrder_of_isOrderConnected⟩

/-- Under a strict total order the containers' one key is one value. -/
theorem ofStrictTotal_equiv (less : α → α → Bool)
    (total : IsStrictTotalOrder α fun a b => less a b = true) {a b : α} :
    (ofStrictTotal less total).equiv a b ↔ a = b := by
  simp only [equiv_iff, ofStrictTotal, ← Bool.not_eq_true]
  constructor
  · rintro ⟨below, above⟩
    exact ((total.trichotomous a b).resolve_left below).resolve_right above
  · rintro rfl
    exact ⟨total.irrefl a, total.irrefl a⟩

/-- `std::less`, the default comparator, of a type whose `operator<` is a strict total
order. -/
def ofLT (α : Type) [LT α] [DecidableRel (· < · : α → α → Prop)]
    [IsStrictTotalOrder α (· < ·)] : Compare α :=
  ofStrictTotal (fun a b => decide (a < b)) (by simpa using (inferInstance :
    IsStrictTotalOrder α (· < ·)))

theorem ofLT_equiv [LT α] [DecidableRel (· < · : α → α → Prop)] [IsStrictTotalOrder α (· < ·)]
    {a b : α} : (ofLT α).equiv a b ↔ a = b :=
  ofStrictTotal_equiv _ _

/-- Compare values by a key computed from them. -/
def comap (compare : Compare α) (key : β → α) : Compare β where
  less a b := compare.less (key a) (key b)
  strictWeakOrder :=
    { irrefl := fun a => compare.strictWeakOrder.irrefl (key a)
      trans := fun a b c => compare.strictWeakOrder.trans (key a) (key b) (key c)
      incomp_trans := fun a b c => compare.strictWeakOrder.incomp_trans (key a) (key b) (key c) }

theorem comap_equiv (compare : Compare α) (key : β → α) {a b : β} :
    (compare.comap key).equiv a b = compare.equiv (key a) (key b) := rfl

end Compare

/-! ### `std::tie` -/

section Tie

variable {α β : Type}

/-- `std::tie(a.1, a.2) == std::tie(b.1, b.2)`. -/
def tieEqual [DecidableEq α] [DecidableEq β] (a b : α × β) : Bool :=
  decide (a.1 = b.1) && decide (a.2 = b.2)

theorem tieEqual_iff [DecidableEq α] [DecidableEq β] {a b : α × β} :
    tieEqual a b ↔ a = b := by
  simp [tieEqual, Prod.ext_iff]

variable [LT α] [DecidableRel (· < · : α → α → Prop)] [LT β]
  [DecidableRel (· < · : β → β → Prop)]

/-- `std::tie(a.1, a.2) < std::tie(b.1, b.2)`: the second components decide only when
neither first component is below the other. -/
def tieLess (a b : α × β) : Bool :=
  decide (a.1 < b.1) || (!decide (b.1 < a.1) && decide (a.2 < b.2))

variable [IsStrictTotalOrder α (· < ·)]

/-- Over strict total orders the tuple's `operator<` is the lexicographic order. -/
theorem tieLess_iff_lex {a b : α × β} : tieLess a b ↔ Prod.Lex (· < ·) (· < ·) a b := by
  rw [Prod.lex_iff]
  rcases trichotomous_of (· < · : α → α → Prop) a.1 b.1 with below | same | above
  · simp [tieLess, below]
  · simp [tieLess, same, irrefl]
  · simp [tieLess, above, asymm above, ne_of_irrefl' above]

variable [IsStrictTotalOrder β (· < ·)]

theorem tieLess_isStrictTotalOrder :
    IsStrictTotalOrder (α × β) fun a b => tieLess a b = true := by
  have lex : (fun a b : α × β => tieLess a b = true) = Prod.Lex (· < ·) (· < ·) :=
    funext₂ fun _ _ => propext tieLess_iff_lex
  rw [lex]
  exact { trichotomous := trichotomous, irrefl := irrefl, trans := fun _ _ _ => Prod.Lex.trans }

/-- The comparator of a `std::tie` of two totally ordered components. -/
def Compare.tie : Compare (α × β) := Compare.ofStrictTotal tieLess tieLess_isStrictTotalOrder

theorem Compare.tie_equiv [DecidableEq α] [DecidableEq β] {a b : α × β} :
    (Compare.tie : Compare (α × β)).equiv a b ↔ tieEqual a b := by
  rw [tieEqual_iff]
  exact Compare.ofStrictTotal_equiv _ _

end Tie

end Android.Net
