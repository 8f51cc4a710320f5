import DialogueIndex.Path

/-! # The order of paths

Paths are ordered by their components and these by kind and name. The order is total, and two paths
are level exactly when they have the same components.
-/

namespace DialogueIndex

namespace Path

open Std

theorem compareChars_eq_compareLex :
    compareChars = List.compareLex (compareOn Char.toNat) := by
  funext as bs
  induction as generalizing bs with
  | nil => cases bs <;> rfl
  | cons a as ih =>
      cases bs with
      | nil => rfl
      | cons b bs => rw [compareChars, List.compareLex_cons_cons, ih, compareOn]

theorem compareComponents_eq_compareLex :
    compareComponents = List.compareLex Component.compare := by
  funext as bs
  induction as generalizing bs with
  | nil => cases bs <;> rfl
  | cons a as ih =>
      cases bs with
      | nil => rfl
      | cons b bs => rw [compareComponents, List.compareLex_cons_cons, ih]

instance : TransCmp compareChars := by
  rw [compareChars_eq_compareLex]
  infer_instance

instance : LawfulEqCmp (compareOn Char.toNat) where
  eq_of_compare h := Char.toNat_inj.mp (LawfulEqOrd.eq_of_compare h)

instance : LawfulEqCmp compareChars := by
  rw [compareChars_eq_compareLex]
  infer_instance

/-- The name in a component. There is none in one of another kind. -/
def Component.chars : Component → List Char
  | .name text => text
  | _ => []

/-- The order of components is that of their kinds, and then that of their names. -/
theorem Component.compare_eq_compareLex :
    Component.compare =
      compareLex (compareOn Component.rank) fun a b => compareChars a.chars b.chars := by
  funext a b
  cases a <;> cases b <;> rfl

instance : TransCmp fun a b : Component => compareChars a.chars b.chars where
  eq_swap := by
    intro a b
    exact OrientedCmp.eq_swap
  isLE_trans := by
    intro a b c hab hbc
    exact TransCmp.isLE_trans hab hbc

instance : TransCmp Component.compare := by
  rw [Component.compare_eq_compareLex]
  infer_instance

instance : LawfulEqCmp Component.compare where
  compare_self := ReflCmp.compare_self
  eq_of_compare {a b} h := by
    rw [Component.compare_eq_compareLex, compareLex_eq_eq] at h
    have hrank : a.rank = b.rank := LawfulEqOrd.eq_of_compare h.1
    have hchars : a.chars = b.chars := LawfulEqCmp.eq_of_compare h.2
    cases a <;> cases b <;> simp_all [Component.rank, Component.chars]

instance : TransCmp Path.compare where
  eq_swap := by
    intro p q
    rw [Path.compare, Path.compare, compareComponents_eq_compareLex]
    exact OrientedCmp.eq_swap
  isLE_trans := by
    intro p q r hpq hqr
    rw [Path.compare, compareComponents_eq_compareLex] at *
    exact TransCmp.isLE_trans hpq hqr

/-- Paths are level exactly when they have the same components. -/
theorem compare_eq_eq_iff (p q : Path) : p.compare q = .eq ↔ p.Same q := by
  rw [Path.compare, compareComponents_eq_compareLex]
  exact LawfulEqCmp.compare_eq_iff_eq

end Path

end DialogueIndex
