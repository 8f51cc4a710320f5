import DialogueIndex.Proofs.Text.CodeRanges
import DialogueIndex.Proofs.Text.Lowercase
import DialogueIndex.Reference
import Mathlib.Data.List.TakeWhile

/-! # Keys of names

A key holds no white space and is its own key. A token holds no white space either, so that its key
is nothing but its lower-case form.
-/

namespace DialogueIndex

/-! ## Classes of characters -/

theorem wordRanges_apart_spaceRanges : wordRanges.apart spaceRanges := by decide +kernel

theorem isSpace_eq_false_of_isTokenChar {c : Char} (hc : isTokenChar c) : isSpace c = false := by
  simp only [isTokenChar, Bool.or_eq_true, beq_iff_eq] at hc
  rcases hc with (hword | rfl) | rfl
  · exact CodeRanges.contains_eq_false_of_apart wordRanges_apart_spaceRanges hword
  · rfl
  · rfl

/-! ## Keys -/

theorem collapseFrom_of_forall {cs : List Char} (hcs : ∀ c ∈ cs, isSpace c = false)
    (inRun : Bool) : collapseFrom inRun cs = cs := by
  induction cs generalizing inRun with
  | nil => rfl
  | cons c rest ih =>
      obtain ⟨hc, hrest⟩ := List.forall_mem_cons.mp hcs
      rw [collapseFrom, if_neg (by simp [hc]), ih hrest]

theorem dropWhile_isSpace_of_forall {cs : List Char} (hcs : ∀ c ∈ cs, isSpace c = false) :
    cs.dropWhile isSpace = cs := by
  cases cs with
  | nil => rfl
  | cons c rest => rw [List.dropWhile_cons_of_neg (by simp [hcs c List.mem_cons_self])]

theorem trim_of_forall {cs : List Char} (hcs : ∀ c ∈ cs, isSpace c = false) : trim cs = cs := by
  rw [trim, dropRightWhile, dropWhile_isSpace_of_forall hcs,
    dropWhile_isSpace_of_forall (by simpa using hcs), List.reverse_reverse]

/-- The key of a name without white space is its lower-case form. -/
theorem nameKey_ofList_of_forall {cs : List Char} (hcs : ∀ c ∈ cs, isSpace c = false) :
    nameKey (String.ofList cs) = String.ofList (lowercase cs) := by
  rw [nameKey, String.toList_ofList, collapseSpaces, collapseFrom_of_forall hcs,
    trim_of_forall hcs]

theorem isSpace_eq_false_of_mem_collapseFrom {cs : List Char} {inRun : Bool} {c : Char}
    (hc : c ∈ collapseFrom inRun cs) : isSpace c = false := by
  induction cs generalizing inRun with
  | nil => cases hc
  | cons d rest ih =>
      rw [collapseFrom] at hc
      split_ifs at hc with hspace hrun
      · exact ih hc
      · rcases List.mem_cons.mp hc with rfl | hc
        · rfl
        · exact ih hc
      · rcases List.mem_cons.mp hc with rfl | hc
        · simpa using hspace
        · exact ih hc

/-- There is no white space left to trim when a key is made. -/
theorem nameKey_toList (name : String) :
    (nameKey name).toList = lowercase (collapseSpaces name.toList) := by
  rw [nameKey, String.toList_ofList, trim_of_forall]
  exact fun c hc => isSpace_eq_false_of_mem_collapseFrom hc

theorem isSpace_eq_false_of_mem_nameKey {name : String} {c : Char}
    (hc : c ∈ (nameKey name).toList) : isSpace c = false := by
  rw [nameKey_toList] at hc
  exact isSpace_eq_false_of_mem_lowercase
    (fun d hd => isSpace_eq_false_of_mem_collapseFrom hd) hc

/-- A key is its own key. -/
theorem nameKey_nameKey (name : String) : nameKey (nameKey name) = nameKey name := by
  have hspaceless : ∀ c ∈ (nameKey name).toList, isSpace c = false :=
    fun c hc => isSpace_eq_false_of_mem_nameKey hc
  have hkey := nameKey_ofList_of_forall hspaceless
  rw [String.ofList_toList] at hkey
  rw [hkey, nameKey_toList, lowercase_lowercase, ← nameKey_toList, String.ofList_toList]

/-- Only the empty name has an empty key: white space leaves an underscore. -/
theorem nameKey_toList_ne_nil {name : String} (hname : name ≠ "") : (nameKey name).toList ≠ [] := by
  rw [nameKey_toList, ne_eq, lowercase_eq_nil_iff, collapseSpaces]
  obtain ⟨c, rest, hcons⟩ := List.exists_cons_of_ne_nil (mt String.toList_eq_nil_iff.mp hname)
  rw [hcons, collapseFrom]
  split <;> exact List.cons_ne_nil _ _

end DialogueIndex
