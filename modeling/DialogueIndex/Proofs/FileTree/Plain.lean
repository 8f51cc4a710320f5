import DialogueIndex.Proofs.FileTree.Formed

/-! # Trees without links

A plain node has no links below it, and the entries of its directories have names that differ. Its
files can be listed, and each stands at one location.
-/

namespace DialogueIndex

namespace Node

/-- A file, or a directory of plain nodes under names that differ. -/
inductive IsPlain : Node → Prop
  | file (content : ByteArray) : IsPlain (.file content)
  | directory {entries : List (String × Node)} (hnames : ∀ e ∈ entries, IsEntryName e.1)
      (hdistinct : (entries.map Prod.fst).Nodup) (hplain : ∀ e ∈ entries, IsPlain e.2) :
      IsPlain (.directory entries)

mutual

/-- The files of a node with their locations in it. -/
def files : Node → List (Location × ByteArray)
  | file content => [([], content)]
  | directory entries => filesOfEntries entries
  | link _ => []

/-- The files below the entries of a directory. -/
def filesOfEntries : List (String × Node) → List (Location × ByteArray)
  | [] => []
  | (name, node) :: rest =>
    (files node).map (fun file => (name :: file.1, file.2)) ++ filesOfEntries rest

end

theorem at?_file_eq_some_iff {content : ByteArray} {names : Location} {found : Node} :
    (Node.file content).at? names = some found ↔ names = [] ∧ found = .file content := by
  cases names with
  | nil => simp [at?, eq_comm]
  | cons name rest => simp [at?]

theorem mem_filesOfEntries_iff {entries : List (String × Node)} {file : Location × ByteArray} :
    file ∈ filesOfEntries entries ↔
      ∃ name node below, (name, node) ∈ entries ∧ below ∈ node.files ∧
        file = (name :: below.1, below.2) := by
  induction entries with
  | nil => simp [filesOfEntries]
  | cons e rest ih =>
      obtain ⟨name, node⟩ := e
      rw [filesOfEntries, List.mem_append, List.mem_map, ih]
      constructor
      · rintro (⟨below, hbelow, rfl⟩ | ⟨other, child, below, hmem, hbelow, rfl⟩)
        · exact ⟨name, node, below, List.mem_cons_self, hbelow, rfl⟩
        · exact ⟨other, child, below, List.mem_cons_of_mem _ hmem, hbelow, rfl⟩
      · rintro ⟨other, child, below, hmem, hbelow, rfl⟩
        rcases List.mem_cons.mp hmem with heq | hmem
        · cases heq
          exact Or.inl ⟨below, hbelow, rfl⟩
        · exact Or.inr ⟨other, child, below, hmem, hbelow, rfl⟩

theorem filesOfEntries_ne_nil {entries : List (String × Node)} {file : Location × ByteArray}
    (hfile : file ∈ filesOfEntries entries) : file.1 ≠ [] := by
  obtain ⟨name, node, below, _, _, rfl⟩ := mem_filesOfEntries_iff.mp hfile
  exact List.cons_ne_nil _ _

namespace IsPlain

theorem isFormed {node : Node} (hplain : node.IsPlain) : node.IsFormed := by
  induction hplain with
  | file content => exact .file content
  | directory hnames hdistinct _ ih => exact .directory hnames hdistinct ih

theorem entryNames {entries : List (String × Node)} (hplain : (Node.directory entries).IsPlain) :
    ∀ e ∈ entries, IsEntryName e.1 := hplain.isFormed.entryNames

theorem distinct {entries : List (String × Node)} (hplain : (Node.directory entries).IsPlain) :
    (entries.map Prod.fst).Nodup := hplain.isFormed.distinct

theorem child {entries : List (String × Node)} (hplain : (Node.directory entries).IsPlain)
    {name : String} {node : Node} (hmem : (name, node) ∈ entries) : node.IsPlain := by
  cases hplain with
  | directory _ _ hchildren => exact hchildren _ hmem

/-- What is found below a plain node is plain, by way of names that entries can have. -/
theorem at? {node found : Node} {names : Location} (hplain : node.IsPlain)
    (hfound : node.at? names = some found) :
    found.IsPlain ∧ ∀ name ∈ names, IsEntryName name := by
  induction names generalizing node with
  | nil =>
      cases hfound
      exact ⟨hplain, by simp⟩
  | cons name rest ih =>
      cases node with
      | directory entries =>
          obtain ⟨child, hchild, hrest⟩ := at?_cons_eq_some_iff.mp hfound
          have hmem := (lookup_eq_some_iff hplain.distinct).mp hchild
          obtain ⟨hbelow, hnames⟩ := ih (hplain.child hmem) hrest
          exact ⟨hbelow, List.forall_mem_cons.mpr ⟨hplain.entryNames _ hmem, hnames⟩⟩
      | file | link => cases hfound

theorem mem_files_iff {node : Node} (hplain : node.IsPlain) {names : Location}
    {content : ByteArray} :
    (names, content) ∈ node.files ↔ node.at? names = some (.file content) := by
  induction hplain generalizing names content with
  | file other => simp [files, at?_file_eq_some_iff, eq_comm]
  | directory hnames hdistinct _ ih =>
      rw [files, mem_filesOfEntries_iff]
      constructor
      · rintro ⟨name, node, below, hmem, hbelow, heq⟩
        cases heq
        rw [at?_cons_eq_some_iff]
        exact ⟨node, (lookup_eq_some_iff hdistinct).mpr hmem, (ih _ hmem).mp hbelow⟩
      · intro hat
        cases names with
        | nil => cases hat
        | cons name rest =>
            obtain ⟨child, hchild, hrest⟩ := at?_cons_eq_some_iff.mp hat
            have hmem := (lookup_eq_some_iff hdistinct).mp hchild
            exact ⟨name, child, (rest, content), hmem, (ih _ hmem).mpr hrest, rfl⟩

end IsPlain

end Node

end DialogueIndex
