import DialogueIndex.Proofs.FileTree.Lookup

/-! # Directories seen from wherever they stand

A directory without links looks the same from inside wherever it stands in a tree. A path that never
leads out of it leads to the same place in it, and what is read there is the same.
-/

namespace DialogueIndex

namespace FileTree

/-- A directory as a tree of its own, in which relative paths start at the top. -/
def alone (entries : List (String × Node)) : FileTree := ⟨entries, []⟩

/-- Whether steps never lead out of the directory that stands the given number of names above. -/
def staysWithin : Nat → List String → Bool
  | _, [] => true
  | depth, step :: rest =>
    if step = "" ∨ step = "." then staysWithin depth rest
    else if step = ".." then 0 < depth && staysWithin (depth - 1) rest
    else staysWithin (depth + 1) rest

variable {tree : FileTree} {place : Location} {entries : List (String × Node)}

section Follow

variable (hnode : tree.nodeAt? place = some (.directory entries))
  (hplain : (Node.directory entries).IsPlain)

include hnode hplain

/-- Steps that stay within a directory are followed as in the directory alone. -/
theorem followWith_within {onLink onOther : Location → String → List String →
      Except FileError Location} {below : Location} {steps : List String}
    (hwithin : staysWithin below.length steps) :
    tree.followWith .followed onLink (place ++ below) steps =
      ((alone entries).followWith .followed onOther below steps).map (place ++ ·) := by
  induction steps generalizing below with
  | nil => rfl
  | cons step rest ih =>
      have hown : (alone entries).nodeAt? below = (Node.directory entries).at? below := rfl
      rw [followWith, followWith, nodeAt?_append hnode, hown]
      cases hat : (Node.directory entries).at? below with
      | none => rfl
      | some node =>
          cases node with
          | file | link => rfl
          | directory inner =>
              rw [staysWithin] at hwithin
              dsimp only
              simp only [reduceCtorEq, and_false, if_false]
              split_ifs at hwithin ⊢ with hhere hup hlong
              · exact ih hwithin
              · -- There is a name to go back by.
                simp only [Bool.and_eq_true, decide_eq_true_eq] at hwithin
                have hbelow : below ≠ [] := List.ne_nil_of_length_pos hwithin.1
                rw [List.dropLast_append_of_ne_nil hbelow]
                apply ih
                rw [List.length_dropLast]
                exact hwithin.2
              · rfl
              · cases hchild : inner.lookup step with
                | none => rfl
                | some child =>
                    have hinner := (hplain.at? hat).1
                    have hmem := (Node.lookup_eq_some_iff hinner.distinct).mp hchild
                    have hnext : tree.followWith .followed onLink (place ++ (below ++ [step]))
                        rest = _ := ih (by simpa using hwithin)
                    rw [← List.append_assoc] at hnext
                    cases hinner.child hmem with
                    | file | directory => exact hnext

theorem follow_within {steps : List String} (hwithin : staysWithin 0 steps) (links others : Nat) :
    tree.follow .followed links place steps =
      ((alone entries).follow .followed others [] steps).map (place ++ ·) := by
  have hfollow : ∀ onLink onOther, tree.followWith .followed onLink place steps =
      ((alone entries).followWith .followed onOther [] steps).map (place ++ ·) := by
    intro onLink onOther
    have hempty : staysWithin ([] : Location).length steps := hwithin
    rw [← followWith_within hnode hplain hempty, List.append_nil]
  cases links <;> cases others <;> exact hfollow _ _

end Follow

section Found

variable {root : Path} (hroot : tree.find .followed root = .ok (place, .directory entries))

include hroot

/-- Steps that go nowhere from a directory leave a path to it where it leads. -/
theorem follow_namedSteps_append {steps : List String} (hsteps : steps = [] ∨ steps = [""]) :
    tree.follow .followed linkLimit (startOf tree.workingDirectory root.text)
      (namedSteps root.text ++ steps) = .ok place := by
  obtain ⟨hlocate, hnode⟩ := find_eq_ok_iff.mp hroot
  obtain ⟨_, _, _, hfollow⟩ := locate_eq_ok_iff.mp hlocate
  have hfollowed : Ending.followed ≠ .created := nofun
  refine follow_stepsOf_append hfollowed nofun hfollow ?_
  intro links
  rcases hsteps with rfl | rfl <;> cases links <;> simp [follow, followWith, hnode]

/-- The root joined with the empty path leads to the root itself, which is no file. -/
theorem read_join_empty (content : ByteArray) : tree.read (root.join "") ≠ .ok content := by
  obtain ⟨_, hnode⟩ := find_eq_ok_iff.mp hroot
  have hempty := text_ne_empty_of_find hroot
  have hjoin := Path.join_text_toList_of_head? hempty (show "".toList.head? ≠ some '/' by decide)
  have hnamed : namedSteps (root.join "").text = namedSteps root.text := by
    rw [namedSteps_eq_trunk root, namedSteps, hjoin, Path.splitSlashes_append_slash]
    simp [Path.splitSlashes]
  obtain ⟨steps, hnowhere, hsteps⟩ : ∃ steps, (steps = [] ∨ steps = [""]) ∧
      stepsOf (root.join "").text = namedSteps root.text ++ steps := by
    rw [← hnamed]
    rcases stepsOf_eq_namedSteps (root.join "").text with hsteps | hsteps
    · exact ⟨[], Or.inl rfl, by rw [hsteps, List.append_nil]⟩
    · exact ⟨[""], Or.inr rfl, hsteps⟩
  intro hread
  obtain ⟨last, hfind⟩ := read_eq_ok_iff.mp hread
  obtain ⟨hlast, hfile⟩ := find_eq_ok_iff.mp hfind
  obtain ⟨_, _, _, hfollow⟩ := locate_eq_ok_iff.mp hlast
  rw [startOf, Path.isAbsolute_of_text_eq hempty hjoin, ← startOf, hsteps,
    follow_namedSteps_append hroot hnowhere] at hfollow
  cases hfollow
  rw [hnode] at hfile
  cases hfile

variable (hplain : (Node.directory entries).IsPlain)

include hplain

section Within

variable {text : String} (hne : text ≠ "") (hhead : text.toList.head? ≠ some '/')
  (hwithin : staysWithin 0 (stepsOf text))
  (hshort : (root.join text).text.utf8ByteSize < pathLimit)

include hne hhead hwithin hshort

theorem locate_join_within :
    tree.locate .followed (root.join text) =
      ((alone entries).locate .followed ⟨text⟩).map (place ++ ·) := by
  obtain ⟨hlocate, hnode⟩ := find_eq_ok_iff.mp hroot
  obtain ⟨hzero, hempty, _, hfollow⟩ := locate_eq_ok_iff.mp hlocate
  have hjoin := Path.join_text_toList_of_head? hempty hhead
  have hfollowed : Ending.followed ≠ .created := nofun
  have hsteps : stepsOf text ≠ [] := by
    rcases stepsOf_eq_namedSteps text with hown | hown
    · rw [hown]
      exact namedSteps_ne_nil hne hhead
    · simp [hown]
  have hbehind := follow_stepsOf_append hfollowed (fun _ => hsteps) hfollow fun links =>
    follow_within hnode hplain hwithin links linkLimit
  have hrelative : (⟨text⟩ : Path).isAbsolute = false := by simpa [Path.isAbsolute] using hhead
  have hnonempty : (root.join text).text ≠ "" := by
    rw [ne_eq, ← String.toList_eq_nil_iff, hjoin]
    simp
  have hown : text.utf8ByteSize < pathLimit :=
    Nat.lt_of_le_of_lt (Nat.le_of_add_left_le (Path.utf8ByteSize_add_le_join_of_head? hhead)) hshort
  rw [locate, locate]
  by_cases hmem : '\x00' ∈ text.toList
  · rw [if_pos ((Path.zero_mem_iff_of_text_eq hzero hjoin).mpr hmem), if_pos hmem]
    rfl
  · rw [if_neg fun h => hmem ((Path.zero_mem_iff_of_text_eq hzero hjoin).mp h), if_neg hmem,
      if_neg hnonempty, if_neg hne, if_neg (Nat.not_le.mpr hshort), if_neg (Nat.not_le.mpr hown),
      stepsOf_join hempty hne hhead, startOf, Path.isAbsolute_of_text_eq hempty hjoin, ← startOf,
      hbehind, startOf, hrelative, if_neg Bool.false_ne_true]
    rfl

/-- A path that stays within the root leads to where it leads in the root alone. -/
theorem find_join_within :
    tree.find .followed (root.join text) =
      ((alone entries).find .followed ⟨text⟩).map fun found => (place ++ found.1, found.2) := by
  obtain ⟨_, hnode⟩ := find_eq_ok_iff.mp hroot
  rw [find, find, locate_join_within hroot hplain hne hhead hwithin hshort]
  cases (alone entries).locate .followed ⟨text⟩ with
  | error e => rfl
  | ok below =>
      have hown : (alone entries).nodeAt? below = (Node.directory entries).at? below := rfl
      dsimp only [Except.map]
      rw [nodeAt?_append hnode, ← hown]
      cases (alone entries).nodeAt? below <;> rfl

theorem read_join_within :
    tree.read (root.join text) = (alone entries).read ⟨text⟩ := by
  rw [read, read, find_join_within hroot hplain hne hhead hwithin hshort]
  cases (alone entries).find .followed ⟨text⟩ with
  | error e => rfl
  | ok found =>
      obtain ⟨below, node⟩ := found
      cases node <;> rfl

end Within

omit hroot in
/-- In a plain directory alone, a name leads to its entry or nowhere. -/
theorem at?_of_read_alone {name : String} (hname : IsEntryName name) {content : ByteArray}
    (hread : (alone entries).read ⟨name⟩ = .ok content) :
    (Node.directory entries).at? [name] = some (.file content) := by
  obtain ⟨last, hfind⟩ := read_eq_ok_iff.mp hread
  obtain ⟨hlast, hfile⟩ := find_eq_ok_iff.mp hfind
  obtain ⟨_, _, _, hfollow⟩ := locate_eq_ok_iff.mp hlast
  have htop : (alone entries).nodeAt? [] = some (.directory entries) := rfl
  have hfollowed : Ending.followed ≠ .created := nofun
  have hstart : startOf (alone entries).workingDirectory name = [] := ite_self []
  dsimp only at hfollow
  rw [hstart, stepsOf_entryName hname] at hfollow
  cases hchild : entries.lookup name with
  | none =>
      rw [follow_missing htop hname hchild] at hfollow
      cases hfollow
  | some child =>
      have hlink : ∀ target, child ≠ .link target := by
        rintro target rfl
        cases hplain.child ((Node.lookup_eq_some_iff hplain.distinct).mp hchild)
      rw [follow_singleton hfollowed htop hname hchild fun _ => hlink] at hfollow
      cases hfollow
      exact hfile

/-- What can be read within the root is what can be read there in the root alone, as far as the path
from the root on is not too long. -/
theorem read_join_eq_ok_iff {text : String} (hhead : text.toList.head? ≠ some '/')
    (hwithin : staysWithin 0 (stepsOf text)) (content : ByteArray) :
    tree.read (root.join text) = .ok content ↔
      (root.join text).text.utf8ByteSize < pathLimit ∧
        (alone entries).read ⟨text⟩ = .ok content := by
  by_cases hne : text = ""
  · subst hne
    have hnone : (alone entries).read ⟨""⟩ = .error .notFound := rfl
    simp [read_join_empty hroot, hnone]
  · constructor
    · intro hread
      obtain ⟨_, hfind⟩ := read_eq_ok_iff.mp hread
      have hshort := short_of_find hfind
      rw [← read_join_within hroot hplain hne hhead hwithin hshort]
      exact ⟨hshort, hread⟩
    · rintro ⟨hshort, hread⟩
      rw [read_join_within hroot hplain hne hhead hwithin hshort]
      exact hread

end Found

/-- A directory stands at a root. -/
def Mounts (tree : FileTree) (root : Path) (entries : List (String × Node)) : Prop :=
  ∃ place, tree.find .followed root = .ok (place, .directory entries)

/-- The files of a directory whose paths are too long are the same from two roots. -/
def ReachesAlike (entries : List (String × Node)) (root site : Path) : Prop :=
  ∀ names content, (Node.directory entries).at? names = some (.file content) →
    ((root.descend names).text.utf8ByteSize < pathLimit ↔
      (site.descend names).text.utf8ByteSize < pathLimit)

end FileTree

end DialogueIndex
