import DialogueIndex.FileTree.Walk

/-! # Walks that enter fewer directories

A walk that enters only directories that another walk enters comes upon nothing else than that one,
and in the same order. So it is with links: what is followed within a link is the same for both.
-/

namespace DialogueIndex

namespace Walk

/-- A walk through the tree of another one that enters no directory that the other does not. -/
structure IsWithin (narrow wide : Walk) : Prop where
  tree : narrow.tree = wide.tree
  followsLinks : narrow.followsLinks = wide.followsLinks
  enters : ∀ p, narrow.enters p → wide.enters p

namespace IsWithin

variable {narrow wide : Walk}

mutual

/-- At every node the one walk comes upon what the other does, or leaves some of it out. -/
theorem node_sublist {onNarrow onWide : OnLink} (hwithin : narrow.IsWithin wide)
    (hlink : ∀ trail p target, (onNarrow trail p target).Sublist (onWide trail p target))
    (trail : Trail) (place : Location) (p : Path) :
    ∀ node, (narrow.node onNarrow trail place p node).Sublist (wide.node onWide trail place p node)
  | .file _ => List.Sublist.refl _
  | .link target => hlink trail p target
  | .directory entries => by
      change (if narrow.enters p then _ else []).Sublist (if wide.enters p then _ else [])
      by_cases henters : narrow.enters p
      · rw [if_pos henters, if_pos (hwithin.enters p henters)]
        exact entries_sublist hwithin hlink _ place p entries
      · rw [if_neg henters]
        exact List.nil_sublist _

theorem entries_sublist {onNarrow onWide : OnLink} (hwithin : narrow.IsWithin wide)
    (hlink : ∀ trail p target, (onNarrow trail p target).Sublist (onWide trail p target))
    (trail : Trail) (place : Location) (p : Path) :
    ∀ entries, (narrow.entries onNarrow trail place p entries).Sublist
      (wide.entries onWide trail place p entries)
  | [] => List.Sublist.refl _
  | (_, child) :: rest =>
      (node_sublist hwithin hlink trail _ _ child).append
        (entries_sublist hwithin hlink trail place p rest)

end

variable (hwithin : narrow.IsWithin wide)

include hwithin

/-- However many links to directories are followed within each other, each leads both walks into
the same directory. -/
theorem link_sublist (depth : Nat) (trail : Trail) (p : Path) (target : String) :
    (narrow.link depth trail p target).Sublist (wide.link depth trail p target) := by
  induction depth generalizing trail p target with
  | zero => exact List.Sublist.refl _
  | succ depth ih =>
      -- The walks differ only in whether they enter a directory that is no loop.
      have hentered : ∀ place entries,
          (if narrow.enters p then
            narrow.entries (narrow.link depth) ((place, p) :: trail) place p entries
          else []).Sublist
          (if wide.enters p then
            wide.entries (wide.link depth) ((place, p) :: trail) place p entries
          else []) := by
        intro place entries
        by_cases henters : narrow.enters p
        · rw [if_pos henters, if_pos (hwithin.enters p henters)]
          exact entries_sublist hwithin ih _ _ _ _
        · rw [if_neg henters]
          exact List.nil_sublist _
      rw [link, link, hwithin.tree, hwithin.followsLinks]
      split
      · split
        next => exact List.Sublist.refl _
        next place entries _ =>
          split
          next => exact List.Sublist.refl _
          next => exact hentered place entries
        next => exact List.Sublist.refl _
      · exact List.Sublist.refl _

theorem inside_sublist (place : Location) (p : Path) (entries : List (String × Node)) :
    (narrow.inside place p entries).Sublist (wide.inside place p entries) := by
  rw [inside, inside, depthLimit, depthLimit, hwithin.tree]
  exact entries_sublist hwithin (hwithin.link_sublist _) _ _ _ _

/-- From wherever they start, the one walk comes upon part of what the other comes upon. -/
theorem visits_sublist (start : Path) : (narrow.visits start).Sublist (wide.visits start) := by
  rw [visits, visits, hwithin.tree, hwithin.followsLinks]
  split
  next => exact List.Sublist.refl _
  next => exact List.Sublist.refl _
  next => exact hwithin.inside_sublist _ _ _
  next =>
    split
    next => exact List.Sublist.refl _
    next => exact (List.Sublist.refl _).append (hwithin.inside_sublist _ _ _)
    next => exact List.Sublist.refl _

end IsWithin

end Walk

end DialogueIndex
