import DialogueIndex.Proofs.Path.Descend
import Mathlib.Data.List.Nodup

/-! # Well-formed trees

The entries of a directory have names that an entry can have, and no two have the same name. So
what a directory lists under a name is what the name leads to.
-/

namespace DialogueIndex

namespace Node

/-- A node whose directories list well-formed nodes under names that differ. -/
inductive IsFormed : Node → Prop
  | file (content : ByteArray) : IsFormed (.file content)
  | link (target : String) : IsFormed (.link target)
  | directory {entries : List (String × Node)} (hnames : ∀ e ∈ entries, IsEntryName e.1)
      (hdistinct : (entries.map Prod.fst).Nodup) (hformed : ∀ e ∈ entries, IsFormed e.2) :
      IsFormed (.directory entries)

theorem isFormed_directory_iff {entries : List (String × Node)} :
    (directory entries).IsFormed ↔ (∀ e ∈ entries, IsEntryName e.1) ∧
      (entries.map Prod.fst).Nodup ∧ ∀ e ∈ entries, e.2.IsFormed := by
  constructor
  · rintro (_ | _ | ⟨hnames, hdistinct, hformed⟩)
    exact ⟨hnames, hdistinct, hformed⟩
  · rintro ⟨hnames, hdistinct, hformed⟩
    exact .directory hnames hdistinct hformed

mutual

def decideIsFormed : (node : Node) → Decidable node.IsFormed
  | file content => .isTrue (.file content)
  | link target => .isTrue (.link target)
  | directory entries =>
    have := decideEntriesFormed entries
    decidable_of_iff' _ isFormed_directory_iff

def decideEntriesFormed : (entries : List (String × Node)) →
    Decidable (∀ e ∈ entries, e.2.IsFormed)
  | [] => .isTrue (List.forall_mem_nil _)
  | (_, child) :: rest =>
    have := decideIsFormed child
    have := decideEntriesFormed rest
    decidable_of_iff' (child.IsFormed ∧ ∀ e ∈ rest, e.2.IsFormed) List.forall_mem_cons

end

instance (node : Node) : Decidable node.IsFormed := decideIsFormed node

theorem at?_append (node : Node) (place below : Location) :
    node.at? (place ++ below) = (node.at? place).bind (·.at? below) := by
  induction place generalizing node with
  | nil => simp [at?]
  | cons name rest ih =>
      cases node with
      | directory entries =>
          rw [List.cons_append, at?, at?]
          cases entries.lookup name with
          | none => rfl
          | some child => exact ih child
      | file | link => rfl

theorem at?_cons_eq_some_iff {entries : List (String × Node)} {name : String} {rest : Location}
    {found : Node} :
    (Node.directory entries).at? (name :: rest) = some found ↔
      ∃ child, entries.lookup name = some child ∧ child.at? rest = some found := by
  rw [at?, Option.bind_eq_some_iff]

/-- Under names that differ, every entry is found. -/
theorem lookup_eq_some_iff {entries : List (String × Node)}
    (hdistinct : (entries.map Prod.fst).Nodup) {name : String} {child : Node} :
    entries.lookup name = some child ↔ (name, child) ∈ entries := by
  induction entries with
  | nil => simp
  | cons e rest ih =>
      obtain ⟨other, node⟩ := e
      rw [List.map_cons, List.nodup_cons] at hdistinct
      rw [List.lookup_cons, List.mem_cons]
      by_cases hname : name = other
      · subst hname
        have hnot : (name, child) ∉ rest :=
          fun h => hdistinct.1 (List.mem_map.mpr ⟨_, h, rfl⟩)
        simp [hnot, eq_comm]
      · have hbeq : (name == other) = false := by simpa using hname
        simp [hbeq, hname, ih hdistinct.2]

namespace IsFormed

variable {entries : List (String × Node)} (hformed : (Node.directory entries).IsFormed)

include hformed

theorem entryNames : ∀ e ∈ entries, IsEntryName e.1 := (isFormed_directory_iff.mp hformed).1

theorem distinct : (entries.map Prod.fst).Nodup := (isFormed_directory_iff.mp hformed).2.1

theorem child {name : String} {node : Node} (hmem : (name, node) ∈ entries) : node.IsFormed :=
  (isFormed_directory_iff.mp hformed).2.2 _ hmem

omit hformed in
/-- What is found below a well-formed node is well-formed. -/
theorem at? {node found : Node} {names : Location} (hnode : node.IsFormed)
    (hfound : node.at? names = some found) : found.IsFormed := by
  induction names generalizing node with
  | nil =>
      cases hfound
      exact hnode
  | cons name rest ih =>
      cases node with
      | directory entries =>
          obtain ⟨child, hchild, hrest⟩ := at?_cons_eq_some_iff.mp hfound
          exact ih (hnode.child ((lookup_eq_some_iff hnode.distinct).mp hchild)) hrest
      | file | link => cases hfound

end IsFormed

end Node

end DialogueIndex
