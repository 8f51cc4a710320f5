import DialogueIndex.FileTree.Change
import DialogueIndex.Proofs.FileTree.Lookup

/-! # What writing changes

A file is written at one location. What stands at any other location is afterwards what it was
before, and the path by which the file was written leads to it. Directories are compared without
what is in them, since that stands at locations of its own.
-/

namespace DialogueIndex

namespace Node

/-- A node without what stands below it. -/
def bare : Node → Node
  | directory _ => directory []
  | node => node

theorem lookup_setEntry (name other : String) (node : Node) (entries : List (String × Node)) :
    (setEntry name (some node) entries).lookup other =
      if other = name then some node else entries.lookup other := by
  induction entries with
  | nil =>
      by_cases hother : other = name
      · simp [setEntry, hother]
      · have hbeq : (other == name) = false := by simpa using hother
        simp [setEntry, List.lookup_cons, hother, hbeq]
  | cons e rest ih =>
      obtain ⟨key, child⟩ := e
      rw [setEntry]
      by_cases hkey : key = name
      · subst hkey
        rw [if_pos rfl]
        by_cases hother : other = key
        · simp [hother]
        · have hbeq : (other == key) = false := by simpa using hother
          simp [List.lookup_cons, hother, hbeq]
      · rw [if_neg hkey, List.lookup_cons, List.lookup_cons, ih]
        by_cases hother : other = key
        · simp [hother, hkey]
        · have hbeq : (other == key) = false := by simpa using hother
          simp [hbeq]

/-- Nothing stands below a location where no directory is. -/
theorem at?_append_eq_none {node : Node} {place below : Location}
    (hnot : ∀ entries, node.at? place ≠ some (.directory entries)) (hne : below ≠ []) :
    node.at? (place ++ below) = none := by
  obtain ⟨first, rest, rfl⟩ := List.exists_cons_of_ne_nil hne
  rw [at?_append]
  cases hnode : node.at? place with
  | none => rfl
  | some found =>
      cases found with
      | directory own => exact absurd hnode (hnot own)
      | file | link => rfl

/-- What is put somewhere below a name concerns only what stands below that name. -/
theorem at?_set_cons (node new : Node) (name other : String) (rest below : Location) :
    (node.set (some new) (name :: rest)).at? (other :: below) =
      if other = name then (((node.at? [name]).getD (directory [])).set (some new) rest).at? below
      else node.at? (other :: below) := by
  have hset : ∀ child : Node, (if rest = [] then some new else some (child.set (some new) rest)) =
      some (child.set (some new) rest) := by
    intro child
    cases rest <;> rfl
  cases node with
  | directory entries =>
      have hname : (directory entries).at? [name] = entries.lookup name := by
        rw [at?]
        cases entries.lookup name <;> rfl
      rw [hname, set, hset, at?, at?, lookup_setEntry]
      split <;> rfl
  | file | link =>
      change (directory (setEntry name _ [])).at? (other :: below) = _
      rw [hset, at?, lookup_setEntry]
      split <;> rfl

/-- What is put somewhere is found there. -/
theorem at?_set_self (node new : Node) (place : Location) :
    (node.set (some new) place).at? place = some new := by
  induction place generalizing node with
  | nil => rfl
  | cons name rest ih => rw [at?_set_cons, if_pos rfl, ih]

/-- A file that is put into a directory, in the place of no directory, changes nothing elsewhere. -/
theorem bare_at?_set {node : Node} {parent q : Location} {name : String}
    {entries : List (String × Node)} {content : ByteArray}
    (hparent : node.at? parent = some (.directory entries))
    (hnot : ∀ own, node.at? (parent ++ [name]) ≠ some (.directory own))
    (hq : q ≠ parent ++ [name]) :
    ((node.set (some (.file content)) (parent ++ [name])).at? q).map bare =
      (node.at? q).map bare := by
  induction parent generalizing node q with
  | nil =>
      cases hparent
      cases q with
      | nil => rfl
      | cons first rest =>
          rw [List.nil_append, at?_set_cons]
          split
          next hfirst =>
            subst hfirst
            have hrest : rest ≠ [] := fun h => hq (by rw [h, List.nil_append])
            have hold := at?_append_eq_none hnot hrest
            have hnew : (file content).at? ([] ++ rest) = none := at?_append_eq_none nofun hrest
            exact congrArg (Option.map bare) (hnew.trans hold.symm)
          next => rfl
  | cons above rest ih =>
      cases node with
      | directory own =>
          obtain ⟨child, hchild, hrest⟩ := at?_cons_eq_some_iff.mp hparent
          have habove : (directory own).at? [above] = some child :=
            at?_cons_eq_some_iff.mpr ⟨child, hchild, rfl⟩
          have hbelow : ∀ below, (directory own).at? (above :: below) = child.at? below := by
            intro below
            rw [at?, hchild, Option.bind_some]
          cases q with
          | nil => rfl
          | cons first below =>
              rw [List.cons_append, at?_set_cons]
              split
              next hfirst =>
                subst hfirst
                rw [List.cons_append, hbelow] at hnot
                rw [habove, hbelow]
                exact ih hrest hnot fun h => hq (by rw [h, List.cons_append])
              next => rfl
      | file | link => cases hparent

end Node

namespace FileTree

variable {tree : FileTree} {p : Path} {content : ByteArray} {place : Location}

def IsDirectoryAt (tree : FileTree) (place : Location) : Prop :=
  ∃ entries, tree.nodeAt? place = some (.directory entries)

/-- A place in a directory that holds a file or nothing. -/
structure IsWritable (tree : FileTree) (place : Location) : Prop where
  inDirectory : ∃ parent name, place = parent ++ [name] ∧ tree.IsDirectoryAt parent
  holdsFile : ∀ node, tree.nodeAt? place = some node → ∃ content, node = .file content

theorem nodeAt?_append_singleton {entries : List (String × Node)}
    (hnode : tree.nodeAt? place = some (.directory entries)) (name : String) :
    tree.nodeAt? (place ++ [name]) = entries.lookup name := by
  rw [nodeAt?_append hnode, Node.at?]
  cases entries.lookup name <;> rfl

/-- What a directory is in is a directory. -/
theorem IsDirectoryAt.dropLast (hplace : tree.IsDirectoryAt place) :
    tree.IsDirectoryAt place.dropLast := by
  rcases List.eq_nil_or_concat place with rfl | ⟨parent, name, rfl⟩
  · exact hplace
  · obtain ⟨entries, hnode⟩ := hplace
    rw [List.concat_eq_append] at hnode ⊢
    rw [List.dropLast_concat]
    cases hparent : tree.nodeAt? parent with
    | none =>
        rw [nodeAt?, Node.at?_append] at hnode
        change (tree.nodeAt? parent).bind _ = _ at hnode
        rw [hparent] at hnode
        cases hnode
    | some node =>
        rw [nodeAt?_append hparent] at hnode
        cases node with
        | directory own => exact ⟨own, hparent⟩
        | file | link => cases hnode

/-! ## Where files are written -/

/-- A step that is the name of an entry. -/
structure IsNameStep (step : String) : Prop where
  not_here : ¬ (step = "" ∨ step = ".")
  not_up : step ≠ ".."
  short : ¬ nameLimit < step.utf8ByteSize

/-- Steps from a directory lead, by way of at most so many links, to a directory or to where a file
can be written. -/
inductive Leads (tree : FileTree) : Nat → Location → List String → Location → Prop
  | done {links place} (hplace : tree.IsDirectoryAt place) : Leads tree links place [] place
  | here {links place step rest found} (hplace : tree.IsDirectoryAt place)
      (hstep : step = "" ∨ step = ".") (hrest : Leads tree links place rest found) :
      Leads tree links place (step :: rest) found
  | up {links place rest found} (hplace : tree.IsDirectoryAt place)
      (hrest : Leads tree links place.dropLast rest found) :
      Leads tree links place (".." :: rest) found
  | down {links place step rest found} (hplace : tree.IsDirectoryAt place)
      (hstep : IsNameStep step) (hchild : tree.IsDirectoryAt (place ++ [step]))
      (hrest : Leads tree links (place ++ [step]) rest found) :
      Leads tree links place (step :: rest) found
  | last {links place step} (hplace : tree.IsDirectoryAt place) (hstep : IsNameStep step)
      (hchild : tree.IsWritable (place ++ [step])) :
      Leads tree links place [step] (place ++ [step])
  | link {links place step rest found target} (hplace : tree.IsDirectoryAt place)
      (hstep : IsNameStep step) (hlink : tree.nodeAt? (place ++ [step]) = some (.link target))
      (hrest : Leads tree links (startOf place target) (stepsOf target ++ rest) found) :
      Leads tree (links + 1) place (step :: rest) found

/-- A name in a directory is writable unless it is taken by something that is no file. -/
theorem isWritable_child {name : String} (hplace : tree.IsDirectoryAt place)
    (hfile : ∀ node, tree.nodeAt? (place ++ [name]) = some node → ∃ content, node = .file content) :
    tree.IsWritable (place ++ [name]) :=
  ⟨⟨place, name, rfl, hplace⟩, hfile⟩

/-- No step leads on from a file. -/
theorem followWith_of_file {ending : Ending}
    {onLink : Location → String → List String → Except FileError Location} {steps : List String}
    {found : Location} {content : ByteArray} (hnode : tree.nodeAt? place = some (.file content))
    (hfollow : tree.followWith ending onLink place steps = .ok found) :
    steps = [] ∧ place = found := by
  cases steps with
  | nil =>
      cases hfollow
      exact ⟨rfl, rfl⟩
  | cons step rest =>
      rw [followWith, hnode] at hfollow
      cases hfollow

theorem leads_of_followWith {onLink : Location → String → List String → Except FileError Location}
    {links : Nat}
    (hlink : ∀ {place step rest target found}, tree.IsDirectoryAt place → IsNameStep step →
      tree.nodeAt? (place ++ [step]) = some (.link target) →
      onLink place target rest = .ok found → tree.Leads links place (step :: rest) found)
    {steps : List String} {found : Location} (hstart : steps = [] → tree.IsDirectoryAt place)
    (hfollow : tree.followWith .created onLink place steps = .ok found) :
    tree.Leads links place steps found := by
  induction steps generalizing place with
  | nil =>
      cases hfollow
      exact .done (hstart rfl)
  | cons step rest ih =>
      rw [followWith] at hfollow
      split at hfollow
      next entries hnode =>
        have hplace : tree.IsDirectoryAt place := ⟨entries, hnode⟩
        have hchild := nodeAt?_append_singleton hnode step
        simp only [and_true, reduceCtorEq, and_false, if_false] at hfollow
        by_cases hhere : step = "" ∨ step = "."
        · rw [if_pos hhere] at hfollow
          exact .here hplace hhere (ih (fun _ => hplace) hfollow)
        by_cases hup : step = ".."
        · subst hup
          rw [if_neg hhere, if_pos rfl] at hfollow
          exact .up hplace (ih (fun _ => hplace.dropLast) hfollow)
        rw [if_neg hhere, if_neg hup] at hfollow
        split at hfollow
        next => cases hfollow
        split at hfollow
        next => cases hfollow
        next _ _ hlong =>
          have hstep : IsNameStep step := ⟨hhere, hup, hlong⟩
          cases hlookup : entries.lookup step with
          | none =>
              rw [hlookup] at hchild hfollow
              dsimp only at hfollow
              split at hfollow
              next hrest =>
                subst hrest
                cases hfollow
                exact .last hplace hstep (isWritable_child hplace fun _ h => by simp [hchild] at h)
              next => cases hfollow
          | some child =>
              rw [hlookup] at hchild hfollow
              cases child with
              | link target => exact hlink hplace hstep hchild hfollow
              | directory own =>
                  have hown : tree.IsDirectoryAt (place ++ [step]) := ⟨own, hchild⟩
                  exact .down hplace hstep hown (ih (fun _ => hown) hfollow)
              | file old =>
                  -- Steps behind a file lead nowhere, so this one was the last.
                  obtain ⟨rfl, rfl⟩ := followWith_of_file hchild hfollow
                  exact .last hplace hstep (isWritable_child hplace fun _ h => by simp_all)
      next => cases hfollow
      next => cases hfollow

/-- A link starts from a directory, like the steps in front of it. -/
theorem IsDirectoryAt.startOf (hplace : tree.IsDirectoryAt place) (text : String) :
    tree.IsDirectoryAt (startOf place text) := by
  rw [FileTree.startOf]
  split
  · exact ⟨tree.entries, rfl⟩
  · exact hplace

/-- Where steps lead at whose end something may be created. -/
theorem leads_of_follow {links : Nat} {steps : List String} {found : Location}
    (hstart : steps = [] → tree.IsDirectoryAt place)
    (hfollow : tree.follow .created links place steps = .ok found) :
    tree.Leads links place steps found := by
  induction links generalizing place steps found with
  | zero =>
      refine leads_of_followWith ?_ hstart hfollow
      intro start step rest target found _ _ _ hrest
      cases hrest
  | succ links ih =>
      refine leads_of_followWith ?_ hstart hfollow
      intro start step rest target found hplace hstep hlink hrest
      exact .link hplace hstep hlink (ih (fun _ => hplace.startOf target) hrest)

theorem leads_of_locate (hlocate : tree.locate .created p = .ok place) :
    tree.Leads linkLimit (FileTree.startOf tree.workingDirectory p.text) (stepsOf p.text)
      place := by
  obtain ⟨_, hempty, _, hfollow⟩ := locate_eq_ok_iff.mp hlocate
  refine leads_of_follow ?_ hfollow
  intro hnil
  -- Only a path from the top has no step at all.
  by_cases habsolute : (⟨p.text⟩ : Path).isAbsolute
  · rw [FileTree.startOf, if_pos habsolute]
    exact ⟨tree.entries, rfl⟩
  · have hhead : p.text.toList.head? ≠ some '/' := by simpa [Path.isAbsolute] using habsolute
    have hnamed := namedSteps_ne_nil hempty hhead
    rcases stepsOf_eq_namedSteps p.text with hsteps | hsteps <;> simp_all

/-- What steps lead to is a directory, or a file can be written there. -/
theorem Leads.isDirectoryAt_or_isWritable {links : Nat} {steps : List String} {found : Location}
    (hleads : tree.Leads links place steps found) :
    tree.IsDirectoryAt found ∨ tree.IsWritable found := by
  induction hleads with
  | done hplace => exact Or.inl hplace
  | here _ _ _ ih | up _ _ ih | down _ _ _ _ ih | link _ _ _ _ ih => exact ih
  | last _ _ hchild => exact Or.inr hchild

/-! ## The tree with the file -/

/-- Trees that have the same at all locations but one. -/
structure SameBut (place : Location) (tree other : FileTree) : Prop where
  workingDirectory_eq : other.workingDirectory = tree.workingDirectory
  bare_eq : ∀ q ≠ place, (other.nodeAt? q).map Node.bare = (tree.nodeAt? q).map Node.bare

section Other

variable {other : FileTree} {found : Location}

theorem SameBut.isDirectoryAt (hsame : SameBut found tree other) (hplace : tree.IsDirectoryAt place)
    (hne : place ≠ found) : other.IsDirectoryAt place := by
  obtain ⟨entries, hnode⟩ := hplace
  have hbare := hsame.bare_eq place hne
  rw [hnode] at hbare
  obtain ⟨node, hother, hnode⟩ := Option.map_eq_some_iff.mp hbare
  cases node with
  | directory own => exact ⟨own, hother⟩
  | file | link => cases hnode

theorem SameBut.link (hsame : SameBut found tree other) {target : String}
    (hlink : tree.nodeAt? place = some (.link target)) (hne : place ≠ found) :
    other.nodeAt? place = some (.link target) := by
  have hbare := hsame.bare_eq place hne
  rw [hlink] at hbare
  obtain ⟨node, hother, hnode⟩ := Option.map_eq_some_iff.mp hbare
  cases node with
  | link own =>
      cases hnode
      exact hother
  | file | directory => cases hnode

/-- However many links may be followed, it is only behind a link that their number matters. -/
theorem exists_follow_eq (tree : FileTree) (ending : Ending) (links : Nat) :
    ∃ onLink, tree.follow ending links = tree.followWith ending onLink := by
  cases links <;> exact ⟨_, rfl⟩

theorem follow_nil (tree : FileTree) (ending : Ending) (links : Nat) (place : Location) :
    tree.follow ending links place [] = .ok place := by
  obtain ⟨onLink, hfollow⟩ := tree.exists_follow_eq ending links
  rw [hfollow, followWith]

/-- A name leads to what stands for it, unless that is a link. -/
theorem follow_name {links : Nat} {step : String} {rest : List String} {child : Node}
    (hplace : tree.IsDirectoryAt place) (hstep : IsNameStep step)
    (hchild : tree.nodeAt? (place ++ [step]) = some child)
    (hnot : ∀ target, child ≠ .link target) :
    tree.follow .followed links place (step :: rest) =
      tree.follow .followed links (place ++ [step]) rest := by
  obtain ⟨entries, hnode⟩ := hplace
  rw [nodeAt?_append_singleton hnode] at hchild
  have hcreated : ¬ (rest = [""] ∧ Ending.followed = .created) := by simp
  obtain ⟨onLink, hfollow⟩ := tree.exists_follow_eq .followed links
  rw [hfollow, followWith, hnode]
  dsimp only
  rw [if_neg hstep.not_here, if_neg hstep.not_up, if_neg hcreated, if_neg hstep.short, hchild]
  cases child with
  | link target => exact absurd rfl (hnot target)
  | file | directory => rfl

theorem follow_link {links : Nat} {step target : String} {rest : List String}
    (hplace : tree.IsDirectoryAt place) (hstep : IsNameStep step)
    (hlink : tree.nodeAt? (place ++ [step]) = some (.link target)) :
    tree.follow .followed (links + 1) place (step :: rest) =
      tree.follow .followed links (FileTree.startOf place target) (stepsOf target ++ rest) := by
  obtain ⟨entries, hnode⟩ := hplace
  rw [nodeAt?_append_singleton hnode] at hlink
  have hcreated : ¬ (rest = [""] ∧ Ending.followed = .created) := by simp
  have hkept : ¬ (rest = [] ∧ Ending.followed = .kept) := by simp
  rw [follow, followWith, hnode]
  dsimp only
  rw [if_neg hstep.not_here, if_neg hstep.not_up, if_neg hcreated, if_neg hstep.short, hlink]
  exact if_neg hkept

theorem IsWritable.ne_of_isDirectoryAt (hwritable : tree.IsWritable found)
    (hplace : tree.IsDirectoryAt place) : place ≠ found := by
  rintro rfl
  obtain ⟨entries, hnode⟩ := hplace
  obtain ⟨content, hfile⟩ := hwritable.holdsFile _ hnode
  cases hfile

theorem IsWritable.ne_of_link (hwritable : tree.IsWritable found) {target : String}
    (hlink : tree.nodeAt? place = some (.link target)) : place ≠ found := by
  rintro rfl
  obtain ⟨content, hfile⟩ := hwritable.holdsFile _ hlink
  cases hfile

/-- Steps that lead to where a file can be written lead to the file once it is there. -/
theorem Leads.follow_eq_ok {links : Nat} {steps : List String}
    (hleads : tree.Leads links place steps found) (hsame : SameBut found tree other)
    (hwritable : tree.IsWritable found) (hfile : other.nodeAt? found = some (.file content)) :
    other.follow .followed links place steps = .ok found := by
  have hdirectory : ∀ {q}, tree.IsDirectoryAt q → other.IsDirectoryAt q :=
    fun hq => hsame.isDirectoryAt hq (hwritable.ne_of_isDirectoryAt hq)
  induction hleads with
  | done => exact other.follow_nil _ _ _
  | @here links place step rest found hplace hstep _ ih =>
      obtain ⟨entries, hnode⟩ := hdirectory hplace
      obtain ⟨onLink, hfollow⟩ := other.exists_follow_eq .followed links
      have hrest := ih hsame hwritable hfile
      rw [hfollow] at hrest ⊢
      rw [followWith, hnode]
      dsimp only
      rw [if_pos hstep, hrest]
  | @up links place rest found hplace _ ih =>
      obtain ⟨entries, hnode⟩ := hdirectory hplace
      obtain ⟨onLink, hfollow⟩ := other.exists_follow_eq .followed links
      have hrest := ih hsame hwritable hfile
      rw [hfollow] at hrest ⊢
      rw [followWith, hnode]
      exact hrest
  | down hplace hstep hchild _ ih =>
      obtain ⟨own, hown⟩ := hdirectory hchild
      rw [follow_name (hdirectory hplace) hstep hown (by simp)]
      exact ih hsame hwritable hfile
  | last hplace hstep _ =>
      rw [follow_name (hdirectory hplace) hstep hfile (by simp), follow_nil]
  | link hplace hstep hlink _ ih =>
      have hother := hsame.link hlink (hwritable.ne_of_link hlink)
      rw [follow_link (hdirectory hplace) hstep hother]
      exact ih hsame hwritable hfile

end Other

/-- What is put below the top of a tree leaves the top a directory. -/
theorem nodeAt?_set (tree : FileTree) (node : Node) (parent : Location) (name : String)
    (q : Location) :
    (tree.set (parent ++ [name]) (some node)).nodeAt? q =
      (tree.top.set (some node) (parent ++ [name])).at? q := by
  obtain ⟨first, rest, hcons⟩ : ∃ first rest, parent ++ [name] = first :: rest :=
    List.exists_cons_of_ne_nil (List.append_ne_nil_of_right_ne_nil _ (by simp))
  rw [hcons]
  rfl

/-- A file that is written is found by the path by which it was written. Nothing else changes. -/
theorem write_eq_ok_imp {written : FileTree} (hwrite : tree.write p content = .ok written) :
    ∃ place, tree.locate .created p = .ok place ∧ tree.IsWritable place ∧
      SameBut place tree written ∧ written.read p = .ok content := by
  rw [write] at hwrite
  split at hwrite
  next => cases hwrite
  next place hlocate =>
    have hleads := leads_of_locate hlocate
    split at hwrite
    next => cases hwrite
    next hnot =>
      cases hwrite
      have hwritable : tree.IsWritable place :=
        hleads.isDirectoryAt_or_isWritable.resolve_left fun ⟨entries, hnode⟩ => hnot entries hnode
      obtain ⟨parent, name, rfl, entries, hparent⟩ := hwritable.inDirectory
      have hsame : SameBut (parent ++ [name]) tree
          (tree.set (parent ++ [name]) (some (.file content))) := by
        refine ⟨?_, fun q hq => ?_⟩
        · rw [set]
          split <;> rfl
        · rw [nodeAt?_set]
          exact Node.bare_at?_set hparent hnot hq
      have hfile : (tree.set (parent ++ [name]) (some (.file content))).nodeAt? (parent ++ [name]) =
          some (.file content) := by
        rw [nodeAt?_set, Node.at?_set_self]
      have hfollow := hleads.follow_eq_ok hsame hwritable hfile
      obtain ⟨hzero, hempty, hshort, _⟩ := locate_eq_ok_iff.mp hlocate
      rw [← hsame.workingDirectory_eq] at hfollow
      have hfind := find_eq_ok_iff.mpr
        ⟨locate_eq_ok_iff.mpr ⟨hzero, hempty, hshort, hfollow⟩, hfile⟩
      exact ⟨_, hlocate, hwritable, hsame, read_eq_ok_iff.mpr ⟨_, hfind⟩⟩

end FileTree

end DialogueIndex
