import DialogueIndex.FileTree.Walk
import DialogueIndex.Proofs.FileTree.Lookup

/-! # What a walk comes upon in any tree

With links in a tree, a walk and a lookup may see different things at one path. A walk that follows
links sees what the lookup finds. One that does not follow links sees the link itself.
-/

namespace DialogueIndex

namespace Walk

/-- The paths by which a walk gets into directories. It enters the one it starts from without being
asked. -/
inductive GetsInto (walk : Walk) (start : Path) : Path → Prop
  | start : GetsInto walk start start
  | child {p : Path} {name : String} (hp : GetsInto walk start p) (hname : IsEntryName name)
      (henters : walk.enters (p.join name)) : GetsInto walk start (p.join name)

/-- A path that a walk comes upon in a directory that it gets into. -/
def GetsTo (walk : Walk) (start p : Path) : Prop :=
  ∃ dir name, walk.GetsInto start dir ∧ IsEntryName name ∧ p = dir.join name

/-- A walk is in a directory, by a path that leads there unless it is too long. -/
structure IsIn (walk : Walk) (start p : Path) (place : Location)
    (entries : List (String × Node)) : Prop where
  getsInto : walk.GetsInto start p
  formed : (Node.directory entries).IsFormed
  found : p.text.utf8ByteSize < FileTree.pathLimit →
    walk.tree.find .followed p = .ok (place, .directory entries)

/-- A walk comes upon a node, by a path that leads there unless it is too long. -/
structure Meets (walk : Walk) (start p : Path) (place : Location) (node : Node) : Prop where
  getsTo : walk.GetsTo start p
  formed : node.IsFormed
  kept : p.text.utf8ByteSize < FileTree.pathLimit → walk.tree.find .kept p = .ok (place, node)
  found : p.text.utf8ByteSize < FileTree.pathLimit → (∀ target, node ≠ .link target) →
    walk.tree.find .followed p = .ok (place, node)

/-- A leaf that a walk comes upon has the size of what its path leads to. When links are not
followed, it may instead have the size of a link at its path. -/
structure IsLeaf (walk : Walk) (start : Path) (leaf : Leaf) : Prop where
  getsTo : walk.GetsTo start leaf.path
  size_eq : leaf.path.text.utf8ByteSize < FileTree.pathLimit →
    walk.tree.size leaf.path = .ok leaf.size ∨
      walk.followsLinks = false ∧ ∃ place target,
        walk.tree.find .kept leaf.path = .ok (place, .link target) ∧
          leaf.size = target.utf8ByteSize

/-- A walk gets into a directory by entering all directories on the way to it. -/
theorem GetsInto.exists_entered {walk : Walk} {start p : Path} (hp : walk.GetsInto start p) :
    ∃ names, (∀ name ∈ names, IsEntryName name) ∧ p = start.descend names ∧
      ∀ outer name, outer ++ [name] <+: names → walk.enters (start.descend (outer ++ [name])) := by
  induction hp with
  | start => exact ⟨[], by simp, rfl, by simp⟩
  | child _ hname henters ih =>
      obtain ⟨names, hnames, rfl, hentered⟩ := ih
      rw [Path.join_descend] at henters ⊢
      refine ⟨_, List.forall_mem_append.mpr ⟨hnames, List.forall_mem_singleton.mpr hname⟩, rfl, ?_⟩
      intro outer name hprefix
      rcases List.prefix_concat_iff.mp hprefix with heq | hprefix
      · rwa [heq]
      · exact hentered outer name hprefix

theorem GetsInto.exists_descend {walk : Walk} {start p : Path} (hp : walk.GetsInto start p) :
    ∃ names, (∀ name ∈ names, IsEntryName name) ∧ p = start.descend names := by
  obtain ⟨names, hnames, hpath, _⟩ := hp.exists_entered
  exact ⟨names, hnames, hpath⟩

/-- What a walk comes upon is named by one or more names below its start. -/
theorem GetsTo.exists_descend {walk : Walk} {start p : Path} (hp : walk.GetsTo start p) :
    ∃ names, names ≠ [] ∧ (∀ name ∈ names, IsEntryName name) ∧ p = start.descend names := by
  obtain ⟨dir, name, hdir, hname, rfl⟩ := hp
  obtain ⟨names, hnames, rfl⟩ := hdir.exists_descend
  exact ⟨_, List.concat_ne_nil name names, List.forall_mem_append.mpr
    ⟨hnames, List.forall_mem_singleton.mpr hname⟩, Path.join_descend⟩

/-- The path below the start leads back to what a walk comes upon. -/
theorem GetsTo.join_relativeTo {walk : Walk} {start p : Path} (hstart : start.text ≠ "")
    (hp : walk.GetsTo start p) : start.join (p.relativeTo start).text = p := by
  obtain ⟨names, hne, hnames, rfl⟩ := hp.exists_descend
  rw [Path.descend_relativeTo hstart hnames hne, Path.join_intercalate hstart hnames hne]

variable {walk : Walk} {start p : Path} {place : Location} {entries : List (String × Node)}
  {onLink : OnLink} {trail : Trail} {leaf : Leaf}

/-- In a directory a walk meets what the directory lists. -/
theorem IsIn.meets (hin : walk.IsIn start p place entries) {name : String} {child : Node}
    (hmem : (name, child) ∈ entries) :
    walk.Meets start (p.join name) (place ++ [name]) child := by
  have hname : IsEntryName name := hin.formed.entryNames _ hmem
  have hchild := (Node.lookup_eq_some_iff hin.formed.distinct).mpr hmem
  -- A path that is short enough is so without its last name.
  have hfound : (p.join name).text.utf8ByteSize < FileTree.pathLimit →
      walk.tree.find .followed p = .ok (place, .directory entries) := by
    intro hshort
    apply hin.found
    have hlength : p.text.utf8ByteSize + _ ≤ _ := Path.utf8ByteSize_add_le_join hname
    exact Nat.lt_of_le_of_lt (Nat.le_of_add_right_le hlength) hshort
  refine ⟨⟨p, name, hin.getsInto, hname, rfl⟩, hin.formed.child hmem, ?_, ?_⟩
  · intro hshort
    have hcreated : FileTree.Ending.kept ≠ .created := nofun
    exact FileTree.find_join hcreated (hfound hshort) hname hchild nofun hshort
  · intro hshort hlink
    have hcreated : FileTree.Ending.followed ≠ .created := nofun
    exact FileTree.find_join hcreated (hfound hshort) hname hchild (fun _ => hlink) hshort

/-- A walk is in a directory that it meets and enters. -/
theorem Meets.isIn (hmeets : walk.Meets start p place (.directory entries))
    (henters : walk.enters p) : walk.IsIn start p place entries := by
  obtain ⟨dir, name, hdir, hname, rfl⟩ := hmeets.getsTo
  exact ⟨hdir.child hname henters, hmeets.formed, fun hshort => hmeets.found hshort nofun⟩

/-- A walk that enters what a link leads to is in that directory. -/
theorem Meets.isIn_of_link (htree : walk.tree.top.IsFormed) {link : Location} {target : String}
    (hmeets : walk.Meets start p link (.link target)) (henters : walk.enters p)
    (hfind : walk.tree.find .followed p = .ok (place, .directory entries)) :
    walk.IsIn start p place entries := by
  obtain ⟨dir, name, hdir, hname, rfl⟩ := hmeets.getsTo
  obtain ⟨_, hnode⟩ := FileTree.find_eq_ok_iff.mp hfind
  exact ⟨hdir.child hname henters, htree.at? hnode, fun _ => hfind⟩

theorem mem_entries_iff {visit : Visit} :
    visit ∈ walk.entries onLink trail place p entries ↔
      ∃ e ∈ entries, visit ∈ walk.node onLink trail (place ++ [e.1]) (p.join e.1) e.2 := by
  induction entries with
  | nil => simp [Walk.entries]
  | cons e rest ih =>
      obtain ⟨name, child⟩ := e
      rw [Walk.entries, List.mem_append, ih]
      simp

/-- The leaves at a node are leaves of the walk, if those at links are. -/
theorem isLeaf_of_mem_node
    (hlink : ∀ trail p place target, walk.Meets start p place (.link target) →
      .leaf leaf ∈ onLink trail p target → walk.IsLeaf start leaf)
    {node : Node} (hformed : node.IsFormed) {trail : Trail} {place : Location} {p : Path}
    (hmeets : walk.Meets start p place node)
    (hleaf : .leaf leaf ∈ walk.node onLink trail place p node) : walk.IsLeaf start leaf := by
  -- The induction is on the node. That the walk meets it is carried down to what it lists.
  induction hformed generalizing trail place p with
  | file content =>
      rw [Walk.node, List.mem_singleton] at hleaf
      cases hleaf
      refine ⟨hmeets.getsTo, ?_⟩
      intro hshort
      rw [FileTree.size, hmeets.found hshort nofun]
      exact Or.inl rfl
  | link target => exact hlink _ _ _ _ hmeets hleaf
  | directory _ _ _ ih =>
      rw [Walk.node] at hleaf
      split at hleaf
      next henters =>
        obtain ⟨e, he, hleaf⟩ := mem_entries_iff.mp hleaf
        exact ih e he ((hmeets.isIn henters).meets he) hleaf
      next => cases hleaf

theorem IsIn.isLeaf_of_mem (hin : walk.IsIn start p place entries)
    (hlink : ∀ trail p place target, walk.Meets start p place (.link target) →
      .leaf leaf ∈ onLink trail p target → walk.IsLeaf start leaf)
    (hleaf : .leaf leaf ∈ walk.entries onLink trail place p entries) :
    walk.IsLeaf start leaf := by
  obtain ⟨e, he, hleaf⟩ := mem_entries_iff.mp hleaf
  exact isLeaf_of_mem_node hlink (hin.formed.child he) (hin.meets he) hleaf

/-- The leaves at a link are leaves of the walk, however deep links lead into directories. -/
theorem isLeaf_of_mem_link (htree : walk.tree.top.IsFormed) {depth : Nat} {target : String}
    (hmeets : walk.Meets start p place (.link target))
    (hleaf : .leaf leaf ∈ walk.link depth trail p target) : walk.IsLeaf start leaf := by
  -- Every link to a directory that is entered leaves one link less to be followed within it.
  induction depth generalizing trail p place target with
  | zero => cases hleaf
  | succ depth ih =>
      rw [Walk.link] at hleaf
      split at hleaf
      next =>
        split at hleaf
        next => simp at hleaf
        next inner entries hfind =>
          split at hleaf
          next => simp at hleaf
          next =>
            split at hleaf
            next henters =>
              have hin := hmeets.isIn_of_link htree henters hfind
              exact hin.isLeaf_of_mem (fun _ _ _ _ => ih) hleaf
            next => cases hleaf
        next found _ hfind =>
          -- The link is taken for what it leads to.
          rw [List.mem_singleton] at hleaf
          cases hleaf
          refine ⟨hmeets.getsTo, fun _ => Or.inl ?_⟩
          rw [FileTree.size, hfind]
      next hfollows =>
        rw [List.mem_singleton] at hleaf
        cases hleaf
        refine ⟨hmeets.getsTo, fun hshort => Or.inr ⟨by simpa using hfollows, ?_⟩⟩
        exact ⟨_, target, hmeets.kept hshort, rfl⟩

/-- Every leaf that a walk from a directory comes upon is one below it, apart from a link by which
the walk starts. -/
theorem isLeaf_of_mem_visits (htree : walk.tree.top.IsFormed)
    (hstart : walk.tree.find .followed start = .ok (place, .directory entries))
    (hleaf : .leaf leaf ∈ walk.visits start) : leaf.path = start ∨ walk.IsLeaf start leaf := by
  obtain ⟨_, hnode⟩ := FileTree.find_eq_ok_iff.mp hstart
  have hin : walk.IsIn start start place entries := ⟨.start, htree.at? hnode, fun _ => hstart⟩
  have hinside : .leaf leaf ∈ walk.inside place start entries → walk.IsLeaf start leaf :=
    hin.isLeaf_of_mem fun _ _ _ _ => isLeaf_of_mem_link htree
  rw [visits] at hleaf
  rcases FileTree.find_kept hstart with hkept | ⟨last, own, hkept⟩
  · rw [hkept] at hleaf
    exact Or.inr (hinside hleaf)
  · -- The walk starts from a link, which it may come upon before it is in the directory.
    rw [hkept] at hleaf
    dsimp only at hleaf
    rw [hstart] at hleaf
    rcases List.mem_append.mp hleaf with hbefore | hbelow
    · refine Or.inl ?_
      split at hbefore
      · cases hbefore
      · rw [List.mem_singleton] at hbefore
        cases hbefore
        rfl
    · exact Or.inr (hinside hbelow)

/-- From the empty path a walk comes upon no leaf. -/
theorem start_ne_empty_of_mem_visits (hleaf : .leaf leaf ∈ walk.visits start) :
    start.text ≠ "" := by
  intro hempty
  rw [visits, FileTree.find_of_text_eq_empty hempty] at hleaf
  simp at hleaf

/-- Wherever a walk starts, every leaf that it comes upon is one below, apart from the start. -/
theorem getsTo_of_mem_visits (htree : walk.tree.top.IsFormed)
    (hleaf : .leaf leaf ∈ walk.visits start) :
    leaf.path = start ∨ walk.GetsTo start leaf.path := by
  by_cases hstart : ∃ place entries,
      walk.tree.find .followed start = .ok (place, .directory entries)
  · obtain ⟨place, entries, hfind⟩ := hstart
    exact (isLeaf_of_mem_visits htree hfind hleaf).imp_right IsLeaf.getsTo
  · -- Where there is no directory to start from, there is nothing but the start itself.
    left
    rw [visits] at hleaf
    split at hleaf
    next => simp at hleaf
    next =>
      rw [List.mem_singleton] at hleaf
      cases hleaf
      rfl
    next hkept => exact absurd ⟨_, _, FileTree.find_of_kept hkept nofun⟩ hstart
    next =>
      split at hleaf
      next => simp at hleaf
      next hfind => exact absurd ⟨_, _, hfind⟩ hstart
      next =>
        rw [List.mem_singleton] at hleaf
        cases hleaf
        rfl

end Walk

end DialogueIndex
