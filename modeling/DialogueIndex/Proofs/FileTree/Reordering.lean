import DialogueIndex.FileTree.Walk
import DialogueIndex.Proofs.FileTree.Lookup

/-! # Directories that list their entries in another order

The order in which directories list their entries makes no difference to where paths lead or to
what is read there. A walk comes upon the same leaves and faults, in an order of its own.
-/

namespace DialogueIndex

namespace Node

/-- The same node but for the order in which directories list their entries. -/
inductive Reordered : Node → Node → Prop
  | file (content : ByteArray) : Reordered (.file content) (.file content)
  | link (target : String) : Reordered (.link target) (.link target)
  | directory {entries others : List (String × Node)}
      (hnames : (entries.map Prod.fst).Perm (others.map Prod.fst))
      (hnodes : ∀ e ∈ entries, ∀ o ∈ others, e.1 = o.1 → Reordered e.2 o.2) :
      Reordered (.directory entries) (.directory others)

theorem mem_of_lookup_eq_some {entries : List (String × Node)} {name : String} {child : Node}
    (hlookup : entries.lookup name = some child) : (name, child) ∈ entries := by
  obtain ⟨before, after, rfl, _⟩ := List.lookup_eq_some_iff.mp hlookup
  simp

theorem isSome_lookup_iff (entries : List (String × Node)) (name : String) :
    (entries.lookup name).isSome ↔ name ∈ entries.map Prod.fst := by
  induction entries with
  | nil => simp
  | cons e rest ih =>
      rw [List.lookup_cons, List.map_cons, List.mem_cons, ← ih]
      by_cases hname : name = e.1
      · simp [hname]
      · have hbeq : (name == e.1) = false := by simpa using hname
        simp [hname, hbeq]

namespace Reordered

/-- What reordered directories hold under a name is the same up to order. -/
theorem lookup {entries others : List (String × Node)}
    (hreordered : (Node.directory entries).Reordered (.directory others)) (name : String) :
    Option.Rel Reordered (entries.lookup name) (others.lookup name) := by
  cases hreordered with
  | directory hnames hnodes =>
      have hboth : (entries.lookup name).isSome ↔ (others.lookup name).isSome := by
        rw [isSome_lookup_iff, isSome_lookup_iff, hnames.mem_iff]
      cases hentry : entries.lookup name with
      | none =>
          cases hother : others.lookup name with
          | none => exact .none
          | some other => simp [hentry, hother] at hboth
      | some child =>
          cases hother : others.lookup name with
          | none => simp [hentry, hother] at hboth
          | some other =>
              exact .some (hnodes _ (mem_of_lookup_eq_some hentry) _
                (mem_of_lookup_eq_some hother) rfl)

theorem at? {node other : Node} (hreordered : node.Reordered other) (names : Location) :
    Option.Rel Reordered (node.at? names) (other.at? names) := by
  induction names generalizing node other with
  | nil => exact .some hreordered
  | cons name rest ih =>
      cases hreordered with
      | file | link => exact .none
      | directory hnames hnodes =>
          rw [Node.at?, Node.at?]
          have hchild := (Reordered.directory hnames hnodes).lookup name
          revert hchild
          generalize List.lookup name _ = child, List.lookup name _ = otherChild
          rintro (hchild | _)
          · exact ih hchild
          · exact .none

theorem size_eq {node other : Node} (hreordered : node.Reordered other) :
    node.size = other.size := by
  cases hreordered <;> rfl

/-- Whatever is put together from the entries of directories one by one is the same up to order,
if it is for nodes of the same name. -/
theorem flatMap_perm {α : Type} {f g : String × Node → List α}
    {entries others : List (String × Node)}
    (hnames : (entries.map Prod.fst).Perm (others.map Prod.fst))
    (hfg : ∀ e ∈ entries, ∀ o ∈ others, e.1 = o.1 → (f e).Perm (g o)) :
    (entries.flatMap f).Perm (others.flatMap g) := by
  induction entries generalizing others with
  | nil =>
      have hothers : others = [] := by simpa using hnames
      rw [hothers]
      exact List.Perm.refl _
  | cons e rest ih =>
      -- The other directory lists the name of the first entry somewhere.
      obtain ⟨o, ho, hname⟩ := List.mem_map.mp (hnames.mem_iff.mp List.mem_cons_self)
      obtain ⟨before, after, rfl⟩ := List.append_of_mem ho
      have hrest : (rest.map Prod.fst).Perm ((before ++ after).map Prod.fst) := by
        rw [List.map_cons, List.map_append, List.map_cons, hname] at hnames
        rw [List.map_append]
        exact (hnames.trans List.perm_middle).cons_inv
      have hbelow := ih hrest fun e' he' o' ho' => hfg e' (List.mem_cons_of_mem _ he') o' <| by
        rw [List.mem_append, List.mem_cons]
        exact (List.mem_append.mp ho').imp_right Or.inr
      have hfirst := hfg e List.mem_cons_self o ho hname.symm
      rw [List.flatMap_cons, List.flatMap_append, List.flatMap_cons]
      refine (hfirst.append hbelow).trans ?_
      rw [List.flatMap_append, ← List.append_assoc, ← List.append_assoc]
      exact List.perm_append_comm.append_right _

theorem entriesDirectoryCount_eq (entries : List (String × Node)) :
    entriesDirectoryCount entries =
      (entries.flatMap fun e => List.replicate e.2.directoryCount ()).length := by
  induction entries with
  | nil => rfl
  | cons e rest ih =>
      rw [entriesDirectoryCount, ih, List.flatMap_cons, List.length_append, List.length_replicate]

theorem directoryCount_eq {node other : Node} (hreordered : node.Reordered other) :
    node.directoryCount = other.directoryCount := by
  induction hreordered with
  | file | link => rfl
  | directory hnames _ ih =>
      have hcounts := flatMap_perm hnames fun e he o ho hname =>
        (List.Perm.refl (List.replicate e.2.directoryCount ())).trans
          (List.Perm.of_eq (by rw [ih e he o ho hname]))
      rw [directoryCount, directoryCount, entriesDirectoryCount_eq, entriesDirectoryCount_eq,
        hcounts.length_eq]

end Reordered

end Node

namespace FileTree

/-- The same tree but for the order in which directories list their entries. -/
structure Reordered (tree other : FileTree) : Prop where
  top : tree.top.Reordered other.top
  workingDirectory : tree.workingDirectory = other.workingDirectory

namespace Reordered

variable {tree other : FileTree} (hreordered : tree.Reordered other)

include hreordered

theorem nodeAt? (place : Location) :
    Option.Rel Node.Reordered (tree.nodeAt? place) (other.nodeAt? place) :=
  hreordered.top.at? place

theorem followWith_eq (ending : Ending)
    (onLink : Location → String → List String → Except FileError Location) (place : Location)
    (steps : List String) :
    tree.followWith ending onLink place steps = other.followWith ending onLink place steps := by
  induction steps generalizing place with
  | nil => rfl
  | cons step rest ih =>
      have hnode := hreordered.nodeAt? place
      rw [followWith, followWith]
      revert hnode
      generalize tree.nodeAt? place = node, other.nodeAt? place = otherNode
      rintro (hnode | _)
      · cases hnode with
        | file | link => rfl
        | directory hnames hnodes =>
            have hchild := (Node.Reordered.directory hnames hnodes).lookup step
            revert hchild
            dsimp only
            generalize List.lookup step _ = child, List.lookup step _ = otherChild
            rintro (hchild | _)
            · cases hchild <;> simp only [ih]
            · simp only [ih]
      · rfl

/-- Paths lead to the same places in reordered trees. -/
theorem locate_eq (ending : Ending) (p : Path) : tree.locate ending p = other.locate ending p := by
  have hfollow : ∀ links, tree.follow ending links = other.follow ending links := by
    intro links
    induction links with
    | zero =>
        funext place steps
        exact hreordered.followWith_eq ending _ place steps
    | succ links ih =>
        funext place steps
        rw [follow, follow, ih]
        exact hreordered.followWith_eq ending _ place steps
  rw [locate, locate, hfollow, hreordered.workingDirectory]

/-- What paths lead to is the same up to order. -/
theorem find_cases (ending : Ending) (p : Path) :
    (∃ e, tree.find ending p = .error e ∧ other.find ending p = .error e) ∨
      ∃ place node otherNode, tree.find ending p = .ok (place, node) ∧
        other.find ending p = .ok (place, otherNode) ∧ node.Reordered otherNode := by
  rw [find, find, hreordered.locate_eq]
  cases other.locate ending p with
  | error e => exact Or.inl ⟨e, rfl, rfl⟩
  | ok place =>
      have hnode := hreordered.nodeAt? place
      revert hnode
      dsimp only
      generalize tree.nodeAt? place = node, other.nodeAt? place = otherNode
      rintro (hnode | _)
      · exact Or.inr ⟨place, _, _, rfl, rfl, hnode⟩
      · exact Or.inl ⟨.notFound, rfl, rfl⟩

theorem contains_eq (p : Path) : tree.contains p = other.contains p := by
  rw [contains, contains]
  rcases hreordered.find_cases .followed p with ⟨e, htree, hother⟩ | ⟨_, _, _, htree, hother, _⟩ <;>
    rw [htree, hother]

theorem read_eq (p : Path) : tree.read p = other.read p := by
  rw [read, read]
  rcases hreordered.find_cases .followed p with
    ⟨e, htree, hother⟩ | ⟨_, _, _, htree, hother, hnode⟩
  · rw [htree, hother]
  · rw [htree, hother]
    cases hnode <;> rfl

theorem readText_eq (p : Path) : tree.readText p = other.readText p := by
  rw [readText, readText, hreordered.read_eq]

theorem canonical_eq (p : Path) : tree.canonical p = other.canonical p := by
  rw [canonical, canonical]
  rcases hreordered.find_cases .followed p with ⟨e, htree, hother⟩ | ⟨_, _, _, htree, hother, _⟩ <;>
    rw [htree, hother]

end Reordered

end FileTree

namespace Walk

/-- The same walk through a tree whose directories list their entries in another order. -/
structure Reordered (walk other : Walk) : Prop where
  tree : walk.tree.Reordered other.tree
  followsLinks : walk.followsLinks = other.followsLinks
  enters : walk.enters = other.enters

theorem entries_eq_flatMap (walk : Walk) (onLink : OnLink) (trail : Trail) (place : Location)
    (p : Path) (entries : List (String × Node)) :
    walk.entries onLink trail place p entries =
      entries.flatMap fun e => walk.node onLink trail (place ++ [e.1]) (p.join e.1) e.2 := by
  induction entries with
  | nil => rfl
  | cons e rest ih =>
      obtain ⟨name, child⟩ := e
      rw [Walk.entries, ih, List.flatMap_cons]

namespace Reordered

variable {walk other : Walk} (hsame : walk.Reordered other)

include hsame

section Node

variable {onLink onOther : OnLink}
  (hlink : ∀ trail p target, (onLink trail p target).Perm (onOther trail p target))

include hlink

/-- At reordered nodes the walks come upon the same, if they do so at links. -/
theorem node_perm {node otherNode : Node} (hnode : node.Reordered otherNode) (trail : Trail)
    (place : Location) (p : Path) :
    (walk.node onLink trail place p node).Perm (other.node onOther trail place p otherNode) := by
  induction hnode generalizing trail place p with
  | file content => exact List.Perm.refl _
  | link target => exact hlink trail p target
  | directory hnames _ ih =>
      rw [Walk.node, Walk.node, hsame.enters]
      split
      · rw [entries_eq_flatMap, entries_eq_flatMap]
        apply Node.Reordered.flatMap_perm hnames
        intro e he o ho hname
        rw [hname]
        exact ih e he o ho hname _ _ _
      · exact List.Perm.refl _

theorem entries_perm {entries others : List (String × Node)}
    (hentries : (Node.directory entries).Reordered (.directory others)) (trail : Trail)
    (place : Location) (p : Path) :
    (walk.entries onLink trail place p entries).Perm
      (other.entries onOther trail place p others) := by
  cases hentries with
  | directory hnames hnodes =>
      rw [entries_eq_flatMap, entries_eq_flatMap]
      apply Node.Reordered.flatMap_perm hnames
      intro e he o ho hname
      rw [hname]
      exact hsame.node_perm hlink (hnodes e he o ho hname) _ _ _

end Node

/-- At a link the walks find the same in their trees, and either both enter it or none does. -/
theorem link_perm (depth : Nat) (trail : Trail) (p : Path) (target : String) :
    (walk.link depth trail p target).Perm (other.link depth trail p target) := by
  induction depth generalizing trail p target with
  | zero => exact List.Perm.refl _
  | succ depth ih =>
      rw [link, link, hsame.followsLinks, hsame.enters]
      split
      · rcases hsame.tree.find_cases .followed p with
          ⟨e, htree, hother⟩ | ⟨place, _, _, htree, hother, hnode⟩
        · rw [htree, hother]
        · rw [htree, hother]
          cases hnode with
          | file | link => exact List.Perm.refl _
          | directory hnames hnodes =>
              dsimp only
              split
              · exact List.Perm.refl _
              · split
                · exact hsame.entries_perm ih (.directory hnames hnodes) _ _ _
                · exact List.Perm.refl _
      · exact List.Perm.refl _

theorem inside_perm {entries others : List (String × Node)}
    (hentries : (Node.directory entries).Reordered (.directory others)) (place : Location)
    (p : Path) : (walk.inside place p entries).Perm (other.inside place p others) := by
  have hdepth : walk.depthLimit = other.depthLimit := hsame.tree.top.directoryCount_eq
  rw [inside, inside, hdepth]
  exact hsame.entries_perm (hsame.link_perm _) hentries _ _ _

/-- From wherever they start, both walks come upon the same, each in an order of its own. -/
theorem visits_perm (start : Path) : (walk.visits start).Perm (other.visits start) := by
  rw [visits, visits, hsame.followsLinks]
  rcases hsame.tree.find_cases .kept start with
    ⟨e, htree, hother⟩ | ⟨place, _, _, htree, hother, hnode⟩
  · rw [htree, hother]
  · rw [htree, hother]
    cases hnode with
    | file content => exact List.Perm.refl _
    | directory hnames hnodes => exact hsame.inside_perm (.directory hnames hnodes) place start
    | link target =>
        -- A link by which the walk starts is followed.
        dsimp only
        rcases hsame.tree.find_cases .followed start with
          ⟨e, htree, hother⟩ | ⟨place, _, _, htree, hother, hnode⟩
        · rw [htree, hother]
        · rw [htree, hother]
          cases hnode with
          | file | link => exact List.Perm.refl _
          | directory hnames hnodes =>
              exact (hsame.inside_perm (.directory hnames hnodes) place start).append_left _

end Reordered

end Walk

end DialogueIndex
