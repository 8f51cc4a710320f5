import DialogueIndex.Resolution
import Mathlib.Data.List.Basic

/-! # Resolution in two tiers

A target is resolved to the first section with its key, and if there is none to the first whose name
begins with it. It is resolved whenever some section has the key or such a name.
-/

namespace DialogueIndex

/-- The first element of a list with a property. -/
def IsFirst {α : Type} (P : α → Prop) (xs : List α) (x : α) : Prop :=
  ∃ before after, xs = before ++ x :: after ∧ P x ∧ ∀ y ∈ before, ¬ P y

namespace IsFirst

variable {α : Type} {P : α → Prop} {xs : List α} {x : α}

theorem mem (hfirst : IsFirst P xs x) : x ∈ xs := by
  obtain ⟨before, after, rfl, _⟩ := hfirst
  exact List.mem_append_right _ List.mem_cons_self

theorem holds (hfirst : IsFirst P xs x) : P x := by
  obtain ⟨_, _, _, hx, _⟩ := hfirst
  exact hx

/-- What is added behind a list does not change what comes first. -/
theorem append (hfirst : IsFirst P xs x) (more : List α) : IsFirst P (xs ++ more) x := by
  obtain ⟨before, after, rfl, hx, hbefore⟩ := hfirst
  exact ⟨before, after ++ more, by rw [List.append_assoc, List.cons_append], hx, hbefore⟩

end IsFirst

theorem find?_eq_some_iff_isFirst {α : Type} {P : α → Prop} [DecidablePred P] {xs : List α}
    {x : α} : xs.find? (fun y => decide (P y)) = some x ↔ IsFirst P xs x := by
  rw [List.find?_eq_some_iff_append]
  constructor
  · rintro ⟨hx, before, after, hxs, hbefore⟩
    refine ⟨before, after, hxs, of_decide_eq_true hx, ?_⟩
    intro y hy
    simpa using hbefore y hy
  · rintro ⟨before, after, hxs, hx, hbefore⟩
    refine ⟨decide_eq_true hx, before, after, hxs, ?_⟩
    intro y hy
    simpa using hbefore y hy

/-- Where an element has a property, some element is the first with it. -/
theorem exists_isFirst {α : Type} {P : α → Prop} [DecidablePred P] {xs : List α} {x : α}
    (hx : x ∈ xs) (hP : P x) : ∃ y, IsFirst P xs y := by
  have hsome : (xs.find? fun y => decide (P y)).isSome :=
    List.find?_isSome.mpr ⟨x, hx, decide_eq_true hP⟩
  obtain ⟨y, hy⟩ := Option.isSome_iff_exists.mp hsome
  exact ⟨y, find?_eq_some_iff_isFirst.mp hy⟩

/-- Whether a section has the key of a target. -/
def Section.HasKeyOf (target : String) (s : Section) : Prop := s.key = nameKey target

theorem Section.hasKeyOf_eq {target key : String} (hkey : nameKey target = key) :
    HasKeyOf target = fun s => s.key = key := by
  subst hkey
  rfl

/-- Whether the name of a section begins with a target, both in lower case. -/
def Section.BeginsWith (target : String) (s : Section) : Prop :=
  lowercase target.toList <+: lowercase s.name.toList

instance (target : String) : DecidablePred (Section.HasKeyOf target) :=
  fun s => inferInstanceAs (Decidable (s.key = nameKey target))

instance (target : String) : DecidablePred (Section.BeginsWith target) :=
  fun s => inferInstanceAs (Decidable (lowercase target.toList <+: lowercase s.name.toList))

theorem exactMatch?_eq_find? (target : String) (sections : List Section) :
    exactMatch? target sections = sections.find? fun s => decide (s.HasKeyOf target) := rfl

theorem leadingMatch?_eq_find? (target : String) (sections : List Section) :
    leadingMatch? target sections = sections.find? fun s => decide (s.BeginsWith target) := by
  rw [leadingMatch?]
  congr 1
  funext s
  rw [Bool.eq_iff_iff, List.isPrefixOf_iff_prefix, decide_eq_true_eq]
  rfl

theorem resolve_eq_some_iff (target : String) (sections : List Section) (r : Resolution) :
    resolve target sections = some r ↔
      (r.kind = .exact ∧ IsFirst (Section.HasKeyOf target) sections r.target) ∨
        (r.kind = .leading ∧ (∀ s ∈ sections, ¬ s.HasKeyOf target) ∧
          IsFirst (Section.BeginsWith target) sections r.target) := by
  obtain ⟨found, kind⟩ := r
  rw [resolve, exactMatch?_eq_find?, leadingMatch?_eq_find?]
  cases hexact : sections.find? fun s => decide (s.HasKeyOf target) with
  | some s =>
      have hkeyed := find?_eq_some_iff_isFirst.mp hexact
      constructor
      · intro heq
        cases heq
        exact Or.inl ⟨rfl, hkeyed⟩
      · rintro (⟨rfl, hfirst⟩ | ⟨_, hnone, _⟩)
        · rw [find?_eq_some_iff_isFirst.mpr hfirst] at hexact
          cases hexact
          rfl
        · exact absurd hkeyed.holds (hnone s hkeyed.mem)
  | none =>
      have hnone : ∀ s ∈ sections, ¬ s.HasKeyOf target := by
        simpa using List.find?_eq_none.mp hexact
      change Option.map _ _ = _ ↔ _
      rw [Option.map_eq_some_iff]
      constructor
      · rintro ⟨s, hs, heq⟩
        cases heq
        exact Or.inr ⟨rfl, hnone, find?_eq_some_iff_isFirst.mp hs⟩
      · rintro (⟨_, hfirst⟩ | ⟨rfl, _, hfirst⟩)
        · exact absurd hfirst.holds (hnone found hfirst.mem)
        · exact ⟨found, find?_eq_some_iff_isFirst.mpr hfirst, rfl⟩

theorem resolve_eq_some_exact_iff {target : String} {sections : List Section} {s : Section} :
    resolve target sections = some ⟨s, .exact⟩ ↔ IsFirst (Section.HasKeyOf target) sections s := by
  simp [resolve_eq_some_iff]

theorem resolve_eq_some_leading_iff {target : String} {sections : List Section} {s : Section} :
    resolve target sections = some ⟨s, .leading⟩ ↔
      (∀ t ∈ sections, ¬ t.HasKeyOf target) ∧
        IsFirst (Section.BeginsWith target) sections s := by
  simp [resolve_eq_some_iff]

/-- A target is resolved if and only if some section matches it in one of the tiers. -/
theorem resolve_isSome_iff (target : String) (sections : List Section) :
    (resolve target sections).isSome ↔
      ∃ s ∈ sections, s.HasKeyOf target ∨ s.BeginsWith target := by
  constructor
  · intro hsome
    obtain ⟨r, hr⟩ := Option.isSome_iff_exists.mp hsome
    rcases (resolve_eq_some_iff target sections r).mp hr with ⟨_, hfirst⟩ | ⟨_, _, hfirst⟩
    · exact ⟨r.target, hfirst.mem, Or.inl hfirst.holds⟩
    · exact ⟨r.target, hfirst.mem, Or.inr hfirst.holds⟩
  · rintro ⟨s, hs, hmatch⟩
    by_contra hnone
    rw [Option.not_isSome_iff_eq_none, resolve, exactMatch?_eq_find?,
      leadingMatch?_eq_find?] at hnone
    cases hexact : sections.find? fun s => decide (s.HasKeyOf target) with
    | some t => simp [hexact] at hnone
    | none =>
        rw [hexact] at hnone
        change Option.map _ _ = none at hnone
        have hkeyless := List.find?_eq_none.mp hexact s hs
        have hleadless := List.find?_eq_none.mp (Option.map_eq_none_iff.mp hnone) s hs
        simp only [decide_eq_true_eq] at hkeyless hleadless
        exact hmatch.elim hkeyless hleadless

end DialogueIndex
