import DialogueIndex.Proofs.FileTree.Lookup

/-! # The working directory under many names

A path of dots leads to the working directory, however many dots there are, until it is too long.
-/

namespace DialogueIndex

/-- The working directory, named by the given number of dots. -/
def Path.dots (count : Nat) : Path := ⟨String.intercalate "/" (List.replicate count ".")⟩

namespace Path

theorem dots_toList (count : Nat) :
    (dots count).text.toList = joinSlashes (List.replicate count ['.']) := by
  rw [dots, intercalate_toList, List.map_replicate]
  rfl

theorem dots_utf8ByteSize (count : Nat) :
    (dots (count + 1)).text.utf8ByteSize = 2 * count + 1 := by
  induction count with
  | zero => rfl
  | succ count ih =>
      have hne : List.replicate (count + 1) "." ≠ [] := by simp
      rw [dots] at ih ⊢
      rw [List.replicate_succ, String.intercalate_cons_of_ne_nil hne, String.utf8ByteSize_append,
        String.utf8ByteSize_append, ih]
      change 1 + 1 + _ = _
      omega

theorem dots_text_ne_empty (count : Nat) : (dots (count + 1)).text ≠ "" := by
  intro hempty
  have hsize := dots_utf8ByteSize count
  rw [hempty] at hsize
  cases hsize

theorem eq_of_mem_dots {count : Nat} {c : Char} (hc : c ∈ (dots count).text.toList) :
    c = '/' ∨ c = '.' := by
  rw [dots_toList] at hc
  refine (mem_joinSlashes hc).imp_right ?_
  rintro ⟨piece, hpiece, hmem⟩
  rw [List.eq_of_mem_replicate hpiece] at hmem
  exact List.mem_singleton.mp hmem

theorem dots_isAbsolute (count : Nat) : (dots (count + 1)).isAbsolute = false := by
  rw [isAbsolute, dots_toList, List.replicate_succ]
  cases count <;> rfl

end Path

namespace FileTree

theorem namedSteps_dots (count : Nat) :
    namedSteps (Path.dots (count + 1)).text = List.replicate (count + 1) "." := by
  have hslash : ∀ piece ∈ List.replicate (count + 1) ['.'], '/' ∉ piece := by
    intro piece hpiece
    rw [List.eq_of_mem_replicate hpiece]
    decide
  rw [namedSteps, Path.dots_toList, Path.splitSlashes_joinSlashes (by simp) hslash,
    List.map_replicate, List.filter_replicate]
  rfl

variable {tree : FileTree} {place : Location} {entries : List (String × Node)}

/-- Dots lead from a directory to itself. -/
theorem follow_dots (hnode : tree.nodeAt? place = some (.directory entries)) (links count : Nat)
    (rest : List String) :
    tree.follow .followed links place (List.replicate count "." ++ rest) =
      tree.follow .followed links place rest := by
  induction count with
  | zero => rfl
  | succ count ih =>
      rw [← ih, List.replicate_succ, List.cons_append]
      cases links <;>
      · rw [follow, followWith, hnode]
        rfl

theorem startOf_of_relative {p : Path} (hrelative : p.isAbsolute = false) :
    startOf place p.text = place := by
  rw [startOf, hrelative, if_neg Bool.false_ne_true]

theorem find_dots (hnode : tree.nodeAt? tree.workingDirectory = some (.directory entries))
    {count : Nat} (hshort : 2 * count + 1 < pathLimit) :
    tree.find .followed (Path.dots (count + 1)) =
      .ok (tree.workingDirectory, .directory entries) := by
  have hlocate : tree.locate .followed (Path.dots (count + 1)) = .ok tree.workingDirectory := by
    refine locate_eq_ok_iff.mpr ⟨?_, Path.dots_text_ne_empty count, ?_, ?_⟩
    · intro hzero
      rcases Path.eq_of_mem_dots hzero with heq | heq <;> cases heq
    · rw [Path.dots_utf8ByteSize]
      exact hshort
    · rw [startOf_of_relative (Path.dots_isAbsolute count)]
      rcases stepsOf_eq_namedSteps (Path.dots (count + 1)).text with hsteps | hsteps
      · rw [hsteps, namedSteps_dots, ← List.append_nil (List.replicate _ _), follow_dots hnode]
        rfl
      · rw [hsteps, namedSteps_dots, follow_dots hnode]
        simp [linkLimit, follow, followWith, hnode]
  exact find_eq_ok_iff.mpr ⟨hlocate, hnode⟩

/-- A name that the working directory does not hold is not found there by any number of dots. -/
theorem contains_join_dots (hnode : tree.nodeAt? tree.workingDirectory = some (.directory entries))
    {name : String} (hname : IsEntryName name) (hmissing : entries.lookup name = none)
    (count : Nat) : tree.contains ((Path.dots (count + 1)).join name) = false := by
  cases hfind : tree.find .followed ((Path.dots (count + 1)).join name) with
  | error e => rw [contains, hfind]
  | ok found =>
      obtain ⟨_, _, _, hfollow⟩ := locate_eq_ok_iff.mp (find_eq_ok_iff.mp hfind).1
      have hempty := Path.dots_text_ne_empty count
      have hnames := List.forall_mem_singleton.mpr hname
      have hsteps := stepsOf_descend hempty hnames (List.cons_ne_nil name [])
      have habsolute := Path.descend_isAbsolute hempty hnames
      rw [Path.dots_isAbsolute] at habsolute
      change tree.follow _ _ (startOf _ ((Path.dots _).descend [name]).text)
        (stepsOf ((Path.dots _).descend [name]).text) = _ at hfollow
      rw [startOf_of_relative habsolute, hsteps, namedSteps_dots, follow_dots hnode,
        follow_missing hnode hname hmissing] at hfollow
      cases hfollow

end FileTree

end DialogueIndex
