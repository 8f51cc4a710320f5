import DialogueIndex.FileTree.Walk
import DialogueIndex.Proofs.FileTree.Lookup

/-! # The paths of leaves

A walk comes upon its leaves at different locations below its start, each of which is given by the
names on the way. With links this is so too, though one file may then be met at several of them.
-/

namespace DialogueIndex

/-- The path of a leaf. A fault has none. -/
def Visit.leafPath? : Visit → Option Path
  | .leaf found => some found.path
  | .fault _ => none

/-- The paths of the leaves among visits. -/
def leafPaths (visits : List Visit) : List Path := visits.filterMap Visit.leafPath?

theorem leafPaths_append (first second : List Visit) :
    leafPaths (first ++ second) = leafPaths first ++ leafPaths second :=
  List.filterMap_append

/-- The leaves among visits are at different locations below a path. -/
def LiesApart (p : Path) (visits : List Visit) : Prop :=
  ∃ places : List Location, places.Nodup ∧
    (∀ names ∈ places, ∀ name ∈ names, IsEntryName name) ∧
    leafPaths visits = places.map p.descend

theorem liesApart_of_leafPaths_eq_nil {visits : List Visit} (p : Path)
    (hnone : leafPaths visits = []) : LiesApart p visits :=
  ⟨[], List.nodup_nil, nofun, hnone⟩

theorem liesApart_leaf (p : Path) (size : Nat) : LiesApart p [.leaf ⟨p, size⟩] :=
  ⟨[[]], List.nodup_singleton [], by simp, rfl⟩

namespace Walk

variable {walk : Walk} {onLink : OnLink}

/-- The leaves in a directory are at locations that start with a name in it. -/
theorem exists_places_of_entries {entries : List (String × Node)} {p : Path}
    (hnames : ∀ e ∈ entries, IsEntryName e.1) (hdistinct : (entries.map Prod.fst).Nodup)
    {trail : Trail} {place : Location}
    (hapart : ∀ e ∈ entries, LiesApart (p.join e.1)
      (walk.node onLink trail (place ++ [e.1]) (p.join e.1) e.2)) :
    ∃ places : List Location, places.Nodup ∧
      (∀ names ∈ places, (∀ name ∈ names, IsEntryName name) ∧
        ∃ e ∈ entries, names.head? = some e.1) ∧
      leafPaths (walk.entries onLink trail place p entries) = places.map p.descend := by
  induction entries with
  | nil => exact ⟨[], List.nodup_nil, nofun, rfl⟩
  | cons e rest ih =>
      obtain ⟨name, child⟩ := e
      rw [List.map_cons, List.nodup_cons] at hdistinct
      rw [List.forall_mem_cons] at hnames hapart
      obtain ⟨below, hbelow, hbelowNames, hbelowPaths⟩ := hapart.1
      obtain ⟨later, hlater, hlaterNames, hlaterPaths⟩ := ih hnames.2 hdistinct.2 hapart.2
      refine ⟨below.map (name :: ·) ++ later, ?_, ?_, ?_⟩
      · refine List.nodup_append'.mpr ⟨hbelow.map List.cons_injective, hlater, ?_⟩
        -- A later location starts with a name other than this one.
        intro names hfirst hmem
        obtain ⟨_, _, rfl⟩ := List.mem_map.mp hfirst
        obtain ⟨_, e, he, hhead⟩ := hlaterNames _ hmem
        exact hdistinct.1 (List.mem_map.mpr ⟨e, he, (Option.some.inj hhead).symm⟩)
      · intro names hmem
        rcases List.mem_append.mp hmem with hfirst | hmem
        · obtain ⟨inner, hinner, rfl⟩ := List.mem_map.mp hfirst
          exact ⟨List.forall_mem_cons.mpr ⟨hnames.1, hbelowNames inner hinner⟩, _,
            List.mem_cons_self, rfl⟩
        · obtain ⟨hentry, e, he, hhead⟩ := hlaterNames names hmem
          exact ⟨hentry, e, List.mem_cons_of_mem _ he, hhead⟩
      · rw [Walk.entries, leafPaths_append, hbelowPaths, hlaterPaths, List.map_append,
          List.map_map]
        rfl

theorem liesApart_entries {entries : List (String × Node)} {p : Path}
    (hnames : ∀ e ∈ entries, IsEntryName e.1) (hdistinct : (entries.map Prod.fst).Nodup)
    {trail : Trail} {place : Location}
    (hapart : ∀ e ∈ entries, LiesApart (p.join e.1)
      (walk.node onLink trail (place ++ [e.1]) (p.join e.1) e.2)) :
    LiesApart p (walk.entries onLink trail place p entries) := by
  obtain ⟨places, hnodup, hplaces, hpaths⟩ := exists_places_of_entries hnames hdistinct hapart
  exact ⟨places, hnodup, fun names hmem => (hplaces names hmem).1, hpaths⟩

/-- The leaves at a node lie apart, if those at links do. -/
theorem liesApart_node (hlink : ∀ trail p target, LiesApart p (onLink trail p target))
    {node : Node} (hformed : node.IsFormed) (trail : Trail) (place : Location) (p : Path) :
    LiesApart p (walk.node onLink trail place p node) := by
  induction hformed generalizing trail place p with
  | file content => exact liesApart_leaf p content.size
  | link target => exact hlink trail p target
  | directory hnames hdistinct _ ih =>
      rw [Walk.node]
      split
      · exact liesApart_entries hnames hdistinct fun e he => ih e he _ _ _
      · exact liesApart_of_leafPaths_eq_nil p rfl

variable (htree : walk.tree.top.IsFormed)

include htree

/-- The leaves at a link lie apart, however deep links lead into directories. -/
theorem liesApart_link (depth : Nat) (trail : Trail) (p : Path) (target : String) :
    LiesApart p (walk.link depth trail p target) := by
  induction depth generalizing trail p target with
  | zero => exact liesApart_of_leafPaths_eq_nil p rfl
  | succ depth ih =>
      rw [link]
      split
      · split
        next => exact liesApart_of_leafPaths_eq_nil p rfl
        next place entries hfind =>
          split
          next => exact liesApart_of_leafPaths_eq_nil p rfl
          next =>
            split
            · obtain ⟨_, hnode⟩ := FileTree.find_eq_ok_iff.mp hfind
              have hformed := htree.at? hnode
              exact liesApart_entries hformed.entryNames hformed.distinct
                fun e he => liesApart_node ih (hformed.child he) _ _ _
            · exact liesApart_of_leafPaths_eq_nil p rfl
        next => exact liesApart_leaf p _
      · exact liesApart_leaf p _

/-- The leaves that a walk comes upon lie apart, that by which it starts among them. -/
theorem liesApart_visits (start : Path) : LiesApart start (walk.visits start) := by
  have hinside : ∀ {ending place entries},
      walk.tree.find ending start = .ok (place, .directory entries) →
      ∃ places : List Location, places.Nodup ∧
        (∀ names ∈ places, (∀ name ∈ names, IsEntryName name) ∧
          ∃ e ∈ entries, names.head? = some e.1) ∧
        leafPaths (walk.inside place start entries) = places.map start.descend := by
    intro ending place entries hfind
    obtain ⟨_, hnode⟩ := FileTree.find_eq_ok_iff.mp hfind
    have hformed := htree.at? hnode
    exact exists_places_of_entries hformed.entryNames hformed.distinct
      fun e he => liesApart_node (liesApart_link htree _) (hformed.child he) _ _ _
  rw [visits]
  split
  next => exact liesApart_of_leafPaths_eq_nil start rfl
  next => exact liesApart_leaf start _
  next hfind =>
    obtain ⟨places, hnodup, hplaces, hpaths⟩ := hinside hfind
    exact ⟨places, hnodup, fun names hmem => (hplaces names hmem).1, hpaths⟩
  next =>
    split
    next => exact liesApart_of_leafPaths_eq_nil start rfl
    next hfind =>
      obtain ⟨places, hnodup, hplaces, hpaths⟩ := hinside hfind
      split
      · exact ⟨places, hnodup, fun names hmem => (hplaces names hmem).1, hpaths⟩
      · -- No location inside is that of the start itself.
        refine ⟨[] :: places, List.nodup_cons.mpr ⟨?_, hnodup⟩, ?_, congrArg (start :: ·) hpaths⟩
        · intro hmem
          obtain ⟨_, _, _, hhead⟩ := hplaces [] hmem
          cases hhead
        · exact List.forall_mem_cons.mpr ⟨nofun, fun names hmem => (hplaces names hmem).1⟩
    next => exact liesApart_leaf start _

end Walk

end DialogueIndex
