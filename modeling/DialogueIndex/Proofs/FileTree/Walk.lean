import DialogueIndex.FileTree.Walk
import DialogueIndex.Proofs.FileTree.Lookup

/-! # What a walk comes upon in a tree without links

A walk comes upon the files to which it gets by way of directories that it enters, each once. The
directory it starts from is entered without being asked about.
-/

namespace DialogueIndex

namespace Walk

variable (walk : Walk)

/-- Whether a walk gets from a path to a location below: it enters all directories on the way. -/
def passes : Path → Location → Bool
  | _, [] => true
  | p, name :: rest => walk.enters p && passes (p.join name) rest

/-- Whether a walk gets to a location below the path of a directory that it is in. -/
def passesBelow (p : Path) : Location → Bool
  | [] => true
  | name :: rest => walk.passes (p.join name) rest

/-- What a walk comes upon at a file below a path. -/
def fileVisit (p : Path) (file : Location × ByteArray) : Visit :=
  .leaf ⟨p.descend file.1, file.2.size⟩

/-- What a walk would come upon at the files below a path, as far as it gets to them. -/
def fileVisits (p : Path) (files : List (Location × ByteArray)) : List Visit :=
  (files.filter (walk.passesBelow p ·.1)).map (fileVisit p)

theorem passes_iff (p : Path) (names : Location) :
    walk.passes p names ↔
      ∀ above, above <+: names → above ≠ names → walk.enters (p.descend above) := by
  induction names generalizing p with
  | nil => simp [passes]
  | cons name rest ih =>
      rw [passes, Bool.and_eq_true, ih]
      constructor
      · rintro ⟨henters, hrest⟩ above hprefix hne
        rcases List.prefix_cons_iff.mp hprefix with rfl | ⟨tail, rfl, htail⟩
        · exact henters
        · exact hrest tail htail (by simpa using hne)
      · intro hall
        refine ⟨hall [] (List.nil_prefix) (by simp), ?_⟩
        intro above hprefix hne
        exact hall (name :: above) (List.cons_prefix_cons.mpr ⟨rfl, hprefix⟩) (by simpa using hne)

theorem passesBelow_iff (p : Path) (names : Location) :
    walk.passesBelow p names ↔
      ∀ above, above <+: names → above ≠ [] → above ≠ names → walk.enters (p.descend above) := by
  cases names with
  | nil => simp [passesBelow]
  | cons name rest =>
      rw [passesBelow, passes_iff]
      constructor
      · intro hall above hprefix hnil hne
        rcases List.prefix_cons_iff.mp hprefix with rfl | ⟨tail, rfl, htail⟩
        · exact absurd rfl hnil
        · exact hall tail htail (by simpa using hne)
      · intro hall above hprefix hne
        exact hall (name :: above) (List.cons_prefix_cons.mpr ⟨rfl, hprefix⟩)
          (List.cons_ne_nil _ _) (by simpa using hne)

variable {walk} {onLink : OnLink}

theorem entries_eq_of_forall {entries : List (String × Node)} {p : Path}
    (hentries : ∀ e ∈ entries, ∀ trail place,
      walk.node onLink trail place (p.join e.1) e.2 =
        (e.2.files.filter (walk.passes (p.join e.1) ·.1)).map (fileVisit (p.join e.1)))
    (trail : Trail) (place : Location) :
    walk.entries onLink trail place p entries =
      walk.fileVisits p (Node.filesOfEntries entries) := by
  induction entries with
  | nil => rfl
  | cons e rest ih =>
      obtain ⟨name, child⟩ := e
      rw [List.forall_mem_cons] at hentries
      rw [entries, hentries.1, ih hentries.2, fileVisits, fileVisits, Node.filesOfEntries,
        List.filter_append, List.map_append, List.filter_map, List.map_map]
      rfl

theorem node_eq_of_plain {node : Node} (hplain : node.IsPlain) (trail : Trail)
    (place : Location) (p : Path) :
    walk.node onLink trail place p node =
      (node.files.filter (walk.passes p ·.1)).map (fileVisit p) := by
  induction hplain generalizing trail place p with
  | file content => rfl
  | @directory entries _ _ _ ih =>
      rw [Walk.node, Node.files]
      by_cases henters : walk.enters p
      · rw [if_pos henters, entries_eq_of_forall fun e he trail place => ih e he trail place _,
          fileVisits]
        congr 1
        apply List.filter_congr
        intro file hfile
        obtain ⟨name, rest, hcons⟩ :=
          List.exists_cons_of_ne_nil (Node.filesOfEntries_ne_nil hfile)
        rw [hcons, passes, henters, Bool.true_and, passesBelow]
      · -- The way to every file leads through the directory that is not entered.
        have hnone : ∀ file ∈ Node.filesOfEntries entries, ¬ walk.passes p file.1 := by
          intro file hfile
          obtain ⟨name, rest, hcons⟩ :=
            List.exists_cons_of_ne_nil (Node.filesOfEntries_ne_nil hfile)
          simp [hcons, passes, henters]
        rw [if_neg henters, List.filter_eq_nil_iff.mpr hnone, List.map_nil]

/-- In a directory without links a walk comes upon the files to which it gets. -/
theorem inside_eq_of_plain {entries : List (String × Node)}
    (hplain : (Node.directory entries).IsPlain) (place : Location) (p : Path) :
    walk.inside place p entries = walk.fileVisits p (Node.directory entries).files := by
  rw [inside, Node.files]
  apply entries_eq_of_forall
  intro e he trail place
  exact node_eq_of_plain (hplain.child he) trail place _

/-- A walk from a directory without links comes upon the files in it. A link by which the walk
starts may come before them. -/
theorem visits_eq_of_plain (walk : Walk) {start : Path} {place : Location}
    {entries : List (String × Node)}
    (hstart : walk.tree.find .followed start = .ok (place, .directory entries))
    (hplain : (Node.directory entries).IsPlain) :
    ∃ before, (∀ visit ∈ before, ∃ size, visit = .leaf ⟨start, size⟩) ∧
      walk.visits start = before ++ walk.fileVisits start (Node.directory entries).files := by
  rcases FileTree.find_kept hstart with hkept | ⟨last, own, hkept⟩
  · refine ⟨[], by simp, ?_⟩
    rw [visits, hkept]
    exact inside_eq_of_plain hplain place start
  · refine ⟨if walk.followsLinks then [] else [.leaf ⟨start, own.utf8ByteSize⟩], ?_, ?_⟩
    · intro visit hvisit
      split at hvisit
      · cases hvisit
      · exact ⟨_, List.mem_singleton.mp hvisit⟩
    · rw [visits, hkept]
      dsimp only
      rw [hstart]
      dsimp only
      rw [inside_eq_of_plain hplain place start]

end Walk

end DialogueIndex
