import DialogueIndex.Proofs.FileTree.Plain

/-! # Following paths below a directory

Steps behind a directory are followed from where the directory is. Below a plain node they are the
names of the entries on the way, and no link is met.
-/

namespace DialogueIndex

namespace FileTree

variable {tree : FileTree} {onLink : Location → String → List String → Except FileError Location}

theorem nodeAt?_append {place below : Location} {node : Node}
    (hnode : tree.nodeAt? place = some node) :
    tree.nodeAt? (place ++ below) = node.at? below := by
  rw [nodeAt?, Node.at?_append]
  change (tree.nodeAt? place).bind _ = _
  rw [hnode, Option.bind_some]

section Append

variable {ending : Ending} (hcreated : ending ≠ .created) {tail more : List String}
  (hmore : ending = .kept → more ≠ []) {found : Location}
  {result : Except FileError Location}

include hcreated hmore

/-- What holds of the steps at the end holds of all steps, by whatever way the end is reached. Only
at the end does it matter what becomes of a link there. -/
theorem followWith_append_imp
    {onOther : Location → String → List String → Except FileError Location}
    (hend : ∀ place, tree.followWith .followed onLink place tail = .ok found →
      tree.followWith ending onOther place more = result)
    (hlink : ∀ place target rest, onLink place target (rest ++ tail) = .ok found →
      onOther place target (rest ++ more) = result)
    {steps : List String} {place : Location}
    (hfollow : tree.followWith .followed onLink place (steps ++ tail) = .ok found) :
    tree.followWith ending onOther place (steps ++ more) = result := by
  -- The steps in front of the end are the same on both sides, until a link replaces them.
  induction steps generalizing place with
  | nil => exact hend place hfollow
  | cons step rest ih =>
      have hkept : ¬ (rest ++ more = [] ∧ ending = .kept) :=
        fun h => hmore h.2 (List.append_eq_nil_iff.mp h.1).2
      rw [List.cons_append, followWith] at hfollow ⊢
      split at hfollow
      · next entries hnode =>
          simp only [reduceCtorEq, hcreated, hkept, and_false, if_false] at hfollow ⊢
          split_ifs at hfollow ⊢ with hhere hup hlong
          · exact ih hfollow
          · exact ih hfollow
          · split at hfollow
            · cases hfollow
            · exact hlink _ _ _ hfollow
            · exact ih hfollow
      · cases hfollow
      · cases hfollow

theorem follow_append_imp
    (hend : ∀ links place, tree.follow .followed links place tail = .ok found →
      tree.follow ending links place more = result)
    {links : Nat} {steps : List String} {place : Location}
    (hfollow : tree.follow .followed links place (steps ++ tail) = .ok found) :
    tree.follow ending links place (steps ++ more) = result := by
  induction links generalizing steps place with
  | zero => exact followWith_append_imp hcreated hmore (hend 0) (by simp) hfollow
  | succ links ih =>
      refine followWith_append_imp hcreated hmore (hend (links + 1)) ?_ hfollow
      -- Behind a link there are other steps in front, but the same ones at the end.
      intro start target rest hrest
      rw [← List.append_assoc] at hrest ⊢
      exact ih hrest

end Append

/-- Below a plain node, names lead where they say. -/
theorem followWith_plain {place : Location} {node found : Node} {names : Location}
    (hnode : tree.nodeAt? place = some node) (hplain : node.IsPlain)
    (hfound : node.at? names = some found) :
    tree.followWith .followed onLink place names = .ok (place ++ names) := by
  induction names generalizing place node with
  | nil => rw [followWith, List.append_nil]
  | cons name rest ih =>
      cases node with
      | directory entries =>
          obtain ⟨child, hchild, hrest⟩ := Node.at?_cons_eq_some_iff.mp hfound
          have hmem := (Node.lookup_eq_some_iff hplain.distinct).mp hchild
          have hname := hplain.entryNames _ hmem
          have hnext : tree.nodeAt? (place ++ [name]) = some child := by
            rw [nodeAt?_append hnode, Node.at?_cons_eq_some_iff]
            exact ⟨child, hchild, rfl⟩
          have hbelow := ih hnext (hplain.child hmem) hrest
          rw [List.append_assoc, List.singleton_append] at hbelow
          rw [followWith, hnode]
          simp only [hname.ne_empty, hname.ne_here, hname.ne_up, Nat.not_lt.mpr hname.short,
            or_self, if_false, reduceCtorEq, and_false, hchild]
          cases hplain.child hmem with
          | file | directory => exact hbelow
      | file | link => cases hfound

theorem follow_plain {place : Location} {node found : Node} {names : Location} (links : Nat)
    (hnode : tree.nodeAt? place = some node) (hplain : node.IsPlain)
    (hfound : node.at? names = some found) :
    tree.follow .followed links place names = .ok (place ++ names) := by
  cases links <;> exact followWith_plain hnode hplain hfound

/-- A name that a directory does not hold leads nowhere. -/
theorem follow_missing {place : Location} {entries : List (String × Node)} {name : String}
    (hnode : tree.nodeAt? place = some (.directory entries)) (hname : IsEntryName name)
    (hmissing : entries.lookup name = none) (links : Nat) :
    tree.follow .followed links place [name] = .error .notFound := by
  cases links <;>
    simp [follow, followWith, hnode, hname.ne_empty, hname.ne_here, hname.ne_up,
      Nat.not_lt.mpr hname.short, hmissing]

/-- An empty step at the end leads nowhere else. -/
theorem follow_singleton_empty {links : Nat} {place found : Location}
    (hfollow : tree.follow .followed links place [""] = .ok found) : place = found := by
  cases links <;>
  · rw [follow, followWith] at hfollow
    split at hfollow
    · simpa [followWith] using hfollow
    · cases hfollow
    · cases hfollow

/-- If a path leads somewhere, its steps without an empty one at the end lead there too, and further
steps lead on from there. -/
theorem follow_stepsOf_append {ending : Ending} (hcreated : ending ≠ .created) {text : String}
    {links : Nat} {start place : Location} {more : List String}
    (hmore : ending = .kept → more ≠ []) {result : Except FileError Location}
    (hfollow : tree.follow .followed links start (stepsOf text) = .ok place)
    (hbehind : ∀ links, tree.follow ending links place more = result) :
    tree.follow ending links start (namedSteps text ++ more) = result := by
  rcases stepsOf_eq_namedSteps text with hsteps | hsteps
  · rw [hsteps, ← List.append_nil (namedSteps text)] at hfollow
    apply follow_append_imp hcreated hmore _ hfollow
    intro links last hlast
    have heq : last = place := by cases links <;> simpa [follow, followWith] using hlast
    rw [heq]
    exact hbehind links
  · rw [hsteps] at hfollow
    apply follow_append_imp hcreated hmore _ hfollow
    intro links last hlast
    rw [follow_singleton_empty hlast]
    exact hbehind links

theorem followWith_kept {onKept : Location → String → List String → Except FileError Location}
    {found : Location}
    (hlink : ∀ place target rest, rest ≠ [] → onLink place target rest = .ok found →
      onKept place target rest = .ok found ∨
        ∃ last own, onKept place target rest = .ok last ∧ tree.nodeAt? last = some (.link own))
    {steps : List String} {place : Location}
    (hfollow : tree.followWith .followed onLink place steps = .ok found) :
    tree.followWith .kept onKept place steps = .ok found ∨
      ∃ last own, tree.followWith .kept onKept place steps = .ok last ∧
        tree.nodeAt? last = some (.link own) := by
  induction steps generalizing place with
  | nil => exact Or.inl hfollow
  | cons step rest ih =>
      rw [followWith] at hfollow ⊢
      split at hfollow
      · next entries hnode =>
          simp only [reduceCtorEq, and_false, if_false, and_true] at hfollow ⊢
          -- The two endings differ only in what becomes of a link at the last step.
          split_ifs at hfollow ⊢ with hhere hup hlong hlast
          · exact ih hfollow
          · exact ih hfollow
          · split at hfollow
            · cases hfollow
            · next target hlookup =>
                refine Or.inr ⟨_, target, rfl, ?_⟩
                rw [nodeAt?_append hnode, Node.at?_cons_eq_some_iff]
                exact ⟨_, hlookup, rfl⟩
            · exact ih hfollow
          · split at hfollow
            · cases hfollow
            · exact hlink _ _ _ hlast hfollow
            · exact ih hfollow
      · cases hfollow
      · cases hfollow

/-- A path that is not followed at its end leads where it is followed to, or to a link. -/
theorem follow_kept {links : Nat} {steps : List String} {place found : Location}
    (hfollow : tree.follow .followed links place steps = .ok found) :
    tree.follow .kept links place steps = .ok found ∨
      ∃ last own, tree.follow .kept links place steps = .ok last ∧
        tree.nodeAt? last = some (.link own) := by
  induction links generalizing place steps with
  | zero => exact followWith_kept (by simp) hfollow
  | succ links ih => exact followWith_kept (fun _ _ _ _ hrest => ih hrest) hfollow

theorem locate_eq_ok_iff {ending : Ending} {p : Path} {place : Location} :
    tree.locate ending p = .ok place ↔
      '\x00' ∉ p.text.toList ∧ p.text ≠ "" ∧ p.text.utf8ByteSize < pathLimit ∧
        tree.follow ending linkLimit (startOf tree.workingDirectory p.text) (stepsOf p.text) =
          .ok place := by
  rw [locate]
  split_ifs with hzero hempty hlong
  · simp [hzero]
  · simp [hempty]
  · simp [Nat.not_lt.mpr hlong]
  · simp [hzero, hempty, Nat.lt_of_not_le hlong]

theorem find_eq_ok_iff {ending : Ending} {p : Path} {place : Location} {node : Node} :
    tree.find ending p = .ok (place, node) ↔
      tree.locate ending p = .ok place ∧ tree.nodeAt? place = some node := by
  rw [find]
  cases hlocate : tree.locate ending p with
  | error e => simp
  | ok other =>
      dsimp only
      cases hnode : tree.nodeAt? other with
      | none =>
          have hnot : ¬ (other = place ∧ tree.nodeAt? place = some node) := by
            rintro ⟨rfl, hsome⟩
            simp [hnode] at hsome
          simpa using hnot
      | some found =>
          rw [Except.ok.injEq, Except.ok.injEq, Prod.mk.injEq]
          constructor
          · rintro ⟨rfl, rfl⟩
            exact ⟨rfl, hnode⟩
          · rintro ⟨rfl, hsome⟩
            rw [hnode] at hsome
            exact ⟨rfl, Option.some.inj hsome⟩

theorem isDirectory_iff {p : Path} :
    tree.isDirectory p ↔
      ∃ place entries, tree.find .followed p = .ok (place, .directory entries) := by
  rw [isDirectory]
  split
  next place entries hfind => simp [hfind]
  next hnot => simpa using hnot

theorem read_eq_ok_iff {p : Path} {content : ByteArray} :
    tree.read p = .ok content ↔ ∃ place, tree.find .followed p = .ok (place, .file content) := by
  rw [read]
  cases hfind : tree.find .followed p with
  | error e => simp
  | ok found =>
      obtain ⟨place, node⟩ := found
      cases node <;> simp

/-- The text of a file is what its bytes stand for. -/
theorem readText_eq_ok_iff {p : Path} {text : String} :
    tree.readText p = .ok text ↔ ∃ place content,
      tree.find .followed p = .ok (place, .file content) ∧
        String.fromUTF8? content = some text := by
  rw [readText, read]
  cases hfind : tree.find .followed p with
  | error e => simp
  | ok found =>
      obtain ⟨place, node⟩ := found
      cases node with
      | file content => cases hutf8 : String.fromUTF8? content <;> simp [hutf8]
      | directory | link => simp

/-- A text that is kept in its UTF-8 form is read back. -/
theorem readText_of_read_toUTF8 {p : Path} {text : String}
    (hread : tree.read p = .ok text.toUTF8) : tree.readText p = .ok text := by
  have hutf8 : String.fromUTF8? text.toUTF8 = some text := dif_pos text.isValidUTF8
  rw [readText, hread]
  dsimp only
  rw [hutf8]

theorem find_kept {p : Path} {place : Location} {node : Node}
    (hfind : tree.find .followed p = .ok (place, node)) :
    tree.find .kept p = .ok (place, node) ∨
      ∃ last own, tree.find .kept p = .ok (last, .link own) := by
  obtain ⟨hlocate, hnode⟩ := find_eq_ok_iff.mp hfind
  obtain ⟨hzero, hempty, hshort, hfollow⟩ := locate_eq_ok_iff.mp hlocate
  rcases follow_kept hfollow with hkept | ⟨last, own, hkept, hlink⟩
  · exact Or.inl (find_eq_ok_iff.mpr
      ⟨locate_eq_ok_iff.mpr ⟨hzero, hempty, hshort, hkept⟩, hnode⟩)
  · exact Or.inr ⟨last, own, find_eq_ok_iff.mpr
      ⟨locate_eq_ok_iff.mpr ⟨hzero, hempty, hshort, hkept⟩, hlink⟩⟩

theorem followWith_of_kept {onKept : Location → String → List String → Except FileError Location}
    {found : Location} (hfound : ∀ own, tree.nodeAt? found ≠ some (.link own))
    (hlink : ∀ place target rest, onKept place target rest = .ok found →
      onLink place target rest = .ok found)
    {steps : List String} {place : Location}
    (hfollow : tree.followWith .kept onKept place steps = .ok found) :
    tree.followWith .followed onLink place steps = .ok found := by
  induction steps generalizing place with
  | nil => exact hfollow
  | cons step rest ih =>
      rw [followWith] at hfollow ⊢
      split at hfollow
      · next entries hnode =>
          simp only [reduceCtorEq, and_false, if_false, and_true] at hfollow ⊢
          split_ifs at hfollow ⊢ with hhere hup hlong hlast
          · exact ih hfollow
          · exact ih hfollow
          · split at hfollow
            · cases hfollow
            · next target hlookup =>
                -- A link at the last step would be what is found.
                cases hfollow
                refine absurd ?_ (hfound target)
                rw [nodeAt?_append hnode, Node.at?_cons_eq_some_iff]
                exact ⟨_, hlookup, rfl⟩
            · exact ih hfollow
          · split at hfollow
            · cases hfollow
            · exact hlink _ _ _ hfollow
            · exact ih hfollow
      · cases hfollow
      · cases hfollow

theorem follow_of_kept {links : Nat} {steps : List String} {place found : Location}
    (hfound : ∀ own, tree.nodeAt? found ≠ some (.link own))
    (hfollow : tree.follow .kept links place steps = .ok found) :
    tree.follow .followed links place steps = .ok found := by
  induction links generalizing place steps with
  | zero => exact followWith_of_kept hfound (by simp) hfollow
  | succ links ih => exact followWith_of_kept hfound (fun _ _ _ => ih) hfollow

/-- What is found without following a link at the end is found by following, if it is no link. -/
theorem find_of_kept {p : Path} {place : Location} {node : Node}
    (hfind : tree.find .kept p = .ok (place, node)) (hnode : ∀ own, node ≠ .link own) :
    tree.find .followed p = .ok (place, node) := by
  obtain ⟨hlocate, hat⟩ := find_eq_ok_iff.mp hfind
  obtain ⟨hzero, hempty, hshort, hfollow⟩ := locate_eq_ok_iff.mp hlocate
  have hfound : ∀ own, tree.nodeAt? place ≠ some (.link own) := by
    rw [hat]
    exact fun own heq => hnode own (Option.some.inj heq)
  exact find_eq_ok_iff.mpr
    ⟨locate_eq_ok_iff.mpr ⟨hzero, hempty, hshort, follow_of_kept hfound hfollow⟩, hat⟩

/-- The empty path leads nowhere. -/
theorem find_of_text_eq_empty {p : Path} (hempty : p.text = "") (ending : Ending) :
    tree.find ending p = .error .notFound := by
  simp [find, locate, hempty]

theorem text_ne_empty_of_find {ending : Ending} {p : Path} {found : Location × Node}
    (hfind : tree.find ending p = .ok found) : p.text ≠ "" :=
  (locate_eq_ok_iff.mp (find_eq_ok_iff.mp hfind).1).2.1

theorem short_of_find {ending : Ending} {p : Path} {found : Location × Node}
    (hfind : tree.find ending p = .ok found) : p.text.utf8ByteSize < pathLimit :=
  (locate_eq_ok_iff.mp (find_eq_ok_iff.mp hfind).1).2.2.1

theorem short_of_readText {p : Path} {text : String} (hread : tree.readText p = .ok text) :
    p.text.utf8ByteSize < pathLimit := by
  obtain ⟨_, _, hfind, _⟩ := readText_eq_ok_iff.mp hread
  exact short_of_find hfind

/-- If a path leads somewhere, the path with names behind it leads to where the names lead on from
there, unless it is too long. -/
theorem find_descend_of_follow {ending : Ending} (hcreated : ending ≠ .created) {root : Path}
    {place other : Location} {top found : Node} {names : Location}
    (hroot : tree.find .followed root = .ok (place, top)) (hne : names ≠ [])
    (hnames : ∀ name ∈ names, IsEntryName name)
    (hfollow : ∀ links, tree.follow ending links place names = .ok other)
    (hnode : tree.nodeAt? other = some found)
    (hshort : (root.descend names).text.utf8ByteSize < pathLimit) :
    tree.find ending (root.descend names) = .ok (other, found) := by
  obtain ⟨hlocate, _⟩ := find_eq_ok_iff.mp hroot
  obtain ⟨hzero, hempty, _, hsteps⟩ := locate_eq_ok_iff.mp hlocate
  have hbelow := follow_stepsOf_append hcreated (fun _ => hne) hsteps hfollow
  refine find_eq_ok_iff.mpr ⟨locate_eq_ok_iff.mpr ⟨?_, ?_, hshort, ?_⟩, hnode⟩
  · exact Path.zero_notMem_descend hempty hnames hzero
  · rw [ne_eq, ← String.toList_eq_nil_iff, Path.descend_text_toList hempty hne hnames]
    simp
  · rw [stepsOf_descend hempty hnames hne, startOf, Path.descend_isAbsolute hempty hnames]
    exact hbelow

/-- A name leads from a directory to what it stands for there. A link must not be followed. -/
theorem follow_singleton {ending : Ending} (hcreated : ending ≠ .created) {place : Location}
    {entries : List (String × Node)} {name : String} {child : Node}
    (hnode : tree.nodeAt? place = some (.directory entries)) (hname : IsEntryName name)
    (hchild : entries.lookup name = some child)
    (hlink : ending = .followed → ∀ target, child ≠ .link target) (links : Nat) :
    tree.follow ending links place [name] = .ok (place ++ [name]) := by
  have hkept : ∀ target, child = .link target → ending = .kept := by
    intro target htarget
    cases ending with
    | followed => exact absurd htarget (hlink rfl target)
    | kept => rfl
    | created => exact absurd rfl hcreated
  cases links <;>
  · rw [follow, followWith, hnode]
    simp only [hname.ne_empty, hname.ne_here, hname.ne_up, Nat.not_lt.mpr hname.short, hcreated,
      or_self, and_false, if_false, hchild]
    cases child with
    | link target => exact if_pos ⟨trivial, hkept target rfl⟩
    | file | directory => rfl

/-- A path below a directory leads to the entry, unless it is too long. -/
theorem find_join {ending : Ending} (hcreated : ending ≠ .created) {p : Path} {place : Location}
    {entries : List (String × Node)} {name : String} {child : Node}
    (hfind : tree.find .followed p = .ok (place, .directory entries)) (hname : IsEntryName name)
    (hchild : entries.lookup name = some child)
    (hlink : ending = .followed → ∀ target, child ≠ .link target)
    (hshort : (p.join name).text.utf8ByteSize < pathLimit) :
    tree.find ending (p.join name) = .ok (place ++ [name], child) := by
  obtain ⟨_, hnode⟩ := find_eq_ok_iff.mp hfind
  have hpath : p.join name = p.descend [name] := rfl
  rw [hpath] at hshort ⊢
  refine find_descend_of_follow hcreated hfind (List.cons_ne_nil name [])
    (List.forall_mem_singleton.mpr hname) ?_ ?_ hshort
  · exact follow_singleton hcreated hnode hname hchild hlink
  · rw [nodeAt?_append hnode, Node.at?_cons_eq_some_iff]
    exact ⟨child, hchild, rfl⟩

section Below

variable {root : Path} {place : Location} {top : Node} {names : Location}
  (hroot : tree.find .followed root = .ok (place, top)) (hplain : top.IsPlain)

include hroot hplain

/-- What stands below a plain node is found by the path to it, unless that path is too long. -/
theorem find_descend {found : Node} (hfound : top.at? names = some found)
    (hshort : (root.descend names).text.utf8ByteSize < pathLimit) :
    tree.find .followed (root.descend names) = .ok (place ++ names, found) := by
  obtain ⟨_, hnode⟩ := find_eq_ok_iff.mp hroot
  by_cases hne : names = []
  · subst hne
    cases hfound
    rw [List.append_nil]
    exact hroot
  · obtain ⟨_, hnames⟩ := hplain.at? hfound
    have hfollowed : Ending.followed ≠ .created := nofun
    refine find_descend_of_follow hfollowed hroot hne hnames ?_ ?_ hshort
    · exact fun links => follow_plain links hnode hplain hfound
    · rw [nodeAt?_append hnode, hfound]

/-- A file below a plain node is read if and only if its path is not too long and it is UTF-8. -/
theorem readText_descend {content : ByteArray} (hfile : top.at? names = some (.file content))
    (text : String) :
    tree.readText (root.descend names) = .ok text ↔
      (root.descend names).text.utf8ByteSize < pathLimit ∧
        String.fromUTF8? content = some text := by
  by_cases hshort : (root.descend names).text.utf8ByteSize < pathLimit
  · rw [readText, read, find_descend hroot hplain hfile hshort]
    dsimp only
    cases String.fromUTF8? content <;> simp [hshort]
  · cases hfind : tree.find .followed (root.descend names) with
    | ok found => exact absurd (short_of_find hfind) hshort
    | error e => simp [readText, read, hfind, hshort]

end Below

end FileTree

end DialogueIndex
