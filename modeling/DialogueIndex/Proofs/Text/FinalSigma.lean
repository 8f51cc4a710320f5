import DialogueIndex.Proofs.Text.Lowercase
import Mathlib.Data.List.Basic

/-! # Lower case of the beginning of a text

Lower-casing looks ahead: a capital sigma takes its final form if its word ends there. So the
lower-case form of a text begins with that of a beginning of the text, unless the beginning breaks
off behind such a sigma in the middle of a word.
-/

namespace DialogueIndex

/-- Whether a word ends in a capital sigma at the end of a text: there is case before the sigma, and
behind it are only case-ignorable characters. What is before the text has been `seen`, the last
character first. -/
def EndsInSigma (seen cs : List Char) : Prop :=
  ∃ before after, cs = before ++ 'Σ' :: after ∧ startsCased (before.reverse ++ seen) ∧
    ∀ c ∈ after, isCaseIgnorable c

theorem endsInSigma_cons_iff {seen rest : List Char} {c : Char} :
    EndsInSigma seen (c :: rest) ↔
      c = 'Σ' ∧ startsCased seen ∧ (∀ d ∈ rest, isCaseIgnorable d) ∨
        EndsInSigma (c :: seen) rest := by
  constructor
  · rintro ⟨before, after, hcons, hcased, hafter⟩
    cases before with
    | nil =>
        cases hcons
        exact Or.inl ⟨rfl, hcased, hafter⟩
    | cons d before =>
        cases hcons
        rw [List.reverse_cons, List.append_assoc] at hcased
        exact Or.inr ⟨before, after, rfl, hcased, hafter⟩
  · rintro (⟨rfl, hcased, hrest⟩ | ⟨before, after, rfl, hcased, hafter⟩)
    · exact ⟨[], rest, rfl, hcased, hrest⟩
    · refine ⟨c :: before, after, rfl, ?_, hafter⟩
      rw [List.reverse_cons, List.append_assoc]
      exact hcased

/-! ## The case that comes first -/

theorem startsCased_cons (c : Char) (cs : List Char) :
    startsCased (c :: cs) = if isCaseIgnorable c then startsCased cs else isCased c := by
  rw [startsCased, List.dropWhile_cons]
  split_ifs <;> rfl

theorem startsCased_append_of_forall {cs : List Char} (hcs : ∀ c ∈ cs, isCaseIgnorable c)
    (rest : List Char) : startsCased (cs ++ rest) = startsCased rest := by
  rw [startsCased, List.dropWhile_append_of_pos hcs]
  rfl

theorem startsCased_append_of_exists {cs : List Char} (hcs : ¬ ∀ c ∈ cs, isCaseIgnorable c)
    (rest : List Char) : startsCased (cs ++ rest) = startsCased cs := by
  induction cs with
  | nil => exact absurd (List.forall_mem_nil _) hcs
  | cons c cs ih =>
      rw [List.cons_append, startsCased_cons, startsCased_cons]
      split_ifs with hc
      · rw [List.forall_mem_cons, not_and] at hcs
        exact ih (hcs hc)
      · rfl

theorem exists_isCased_of_startsCased {cs : List Char} (hcs : startsCased cs) :
    ∃ c ∈ cs, isCased c := by
  induction cs with
  | nil => cases hcs
  | cons c cs ih =>
      rw [startsCased_cons] at hcs
      split_ifs at hcs with hc
      · obtain ⟨d, hd, hcased⟩ := ih hcs
        exact ⟨d, List.mem_cons_of_mem c hd, hcased⟩
      · exact ⟨c, List.mem_cons_self, hcs⟩

/-! ## Lower case behind what has been seen -/

theorem lowerFrom_cons_of_ne {c : Char} (hc : c ≠ 'Σ') (seen rest : List Char) :
    lowerFrom (startsCased seen) (c :: rest) =
      lowerChar c ++ lowerFrom (startsCased (c :: seen)) rest := by
  rw [lowerFrom, startsCased_cons]
  simp only [if_neg hc]

theorem lowerFrom_sigma (seen rest : List Char) :
    lowerFrom (startsCased seen) ('Σ' :: rest) =
      (if startsCased seen && !startsCased rest then 'ς' else 'σ') ::
        lowerFrom (startsCased ('Σ' :: seen)) rest := by
  rw [lowerFrom, startsCased_cons]
  rfl

/-- The induction is on the beginning. Only a sigma looks ahead, and it sees the same unless nothing
but case-ignorable characters are left of the beginning. -/
theorem lowerFrom_prefix_iff {text rest : List Char} (seen : List Char) :
    lowerFrom (startsCased seen) text <+: lowerFrom (startsCased seen) (text ++ rest) ↔
      ¬ (EndsInSigma seen text ∧ startsCased rest) := by
  induction text generalizing seen with
  | nil =>
      have hnone : ¬ EndsInSigma seen [] := by
        rintro ⟨before, after, hnil, _⟩
        cases before <;> cases hnil
      simp [lowerFrom, hnone]
  | cons c tail ih =>
      rw [List.cons_append, endsInSigma_cons_iff]
      by_cases hc : c = 'Σ'
      · subst hc
        rw [lowerFrom_sigma, lowerFrom_sigma, List.cons_prefix_cons, ih]
        by_cases htail : ∀ d ∈ tail, isCaseIgnorable d
        · have hend : startsCased tail = false := by
            rw [← List.append_nil tail, startsCased_append_of_forall htail]
            rfl
          rw [startsCased_append_of_forall htail, hend, eq_true htail]
          cases startsCased seen <;> cases startsCased rest <;> simp
        · rw [startsCased_append_of_exists htail, eq_false htail]
          simp
      · rw [lowerFrom_cons_of_ne hc, lowerFrom_cons_of_ne hc, List.prefix_append_right_inj, ih]
        simp [hc]

/-- The lower-case form of a text begins with that of a beginning of it if and only if the
beginning does not break off a word behind a capital sigma. -/
theorem lowercase_prefix_iff {text rest : List Char} :
    lowercase text <+: lowercase (text ++ rest) ↔ ¬ (EndsInSigma [] text ∧ startsCased rest) :=
  lowerFrom_prefix_iff []

/-! ## Lengths -/

/-- How long a lower-case form is does not depend on what is around the characters. -/
theorem length_lowerFrom (afterCased : Bool) (cs : List Char) :
    (lowerFrom afterCased cs).length = (cs.flatMap lowerChar).length := by
  induction cs generalizing afterCased with
  | nil => rfl
  | cons c rest ih =>
      rw [lowerFrom, List.flatMap_cons, List.length_append, List.length_append, ih]
      congr 1
      by_cases hc : c = 'Σ'
      · -- Either form of a sigma is as long as the one out of context.
        subst hc
        rw [if_pos rfl]
        rfl
      · rw [if_neg hc]

theorem length_lowercase_append (cs rest : List Char) :
    (lowercase (cs ++ rest)).length = (lowercase cs).length + (lowercase rest).length := by
  simp only [lowercase, length_lowerFrom, List.flatMap_append, List.length_append]

end DialogueIndex
