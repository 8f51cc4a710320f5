import DialogueIndex.FileTree.Lookup
import Mathlib.Data.List.Basic

/-! # Paths below a base

A path below a base is the base joined with names of directory entries. Its components, the steps by
which it is followed and its text below the base are those of the base with the names behind them.
-/

namespace DialogueIndex

/-- A name that an entry of a directory can have. -/
structure IsEntryName (name : String) : Prop where
  ne_empty : name ≠ ""
  ne_here : name ≠ "."
  ne_up : name ≠ ".."
  no_slash : '/' ∉ name.toList
  no_zero : '\x00' ∉ name.toList
  short : name.utf8ByteSize ≤ FileTree.nameLimit

namespace IsEntryName

variable {name : String}

instance : Decidable (IsEntryName name) :=
  decidable_of_iff (name ≠ "" ∧ name ≠ "." ∧ name ≠ ".." ∧ '/' ∉ name.toList ∧
      '\x00' ∉ name.toList ∧ name.utf8ByteSize ≤ FileTree.nameLimit)
    ⟨fun ⟨hempty, hhere, hup, hslash, hzero, hshort⟩ =>
        ⟨hempty, hhere, hup, hslash, hzero, hshort⟩,
      fun ⟨hempty, hhere, hup, hslash, hzero, hshort⟩ =>
        ⟨hempty, hhere, hup, hslash, hzero, hshort⟩⟩

theorem toList_ne_nil (hname : IsEntryName name) : name.toList ≠ [] := by
  rw [ne_eq, String.toList_eq_nil_iff]
  exact hname.ne_empty

theorem not_isIdle (hname : IsEntryName name) : Path.isIdle name.toList = false := by
  have hdot : name.toList ≠ ['.'] := fun h => hname.ne_here (String.toList_injective h)
  simp [Path.isIdle, hname.ne_empty, hdot]

theorem start?_eq_none (hname : IsEntryName name) : Path.start? name.toList = none := by
  have hhere : name.toList ≠ ['.'] := fun h => hname.ne_here (String.toList_injective h)
  have hslash := hname.no_slash
  unfold Path.start?
  split <;> simp_all

theorem componentOf_eq (hname : IsEntryName name) :
    Path.componentOf name.toList = .name name.toList := by
  have hup : name.toList ≠ ['.', '.'] := fun h => hname.ne_up (String.toList_injective h)
  rw [Path.componentOf, if_neg hup]

end IsEntryName

namespace Path

theorem splitSlashes_ne_nil (cs : List Char) : splitSlashes cs ≠ [] := by
  cases cs with
  | nil => exact List.cons_ne_nil _ _
  | cons c rest =>
      rw [splitSlashes]
      split
      · exact List.cons_ne_nil _ _
      · split <;> exact List.cons_ne_nil _ _

theorem splitSlashes_append_slash (before after : List Char) :
    splitSlashes (before ++ '/' :: after) = splitSlashes before ++ splitSlashes after := by
  induction before with
  | nil => rfl
  | cons c rest ih =>
      rw [List.cons_append, splitSlashes, splitSlashes]
      by_cases hc : c = '/'
      · rw [if_pos hc, if_pos hc, ih, List.cons_append]
      · rw [if_neg hc, if_neg hc, ih]
        obtain ⟨piece, pieces, hrest⟩ := List.exists_cons_of_ne_nil (splitSlashes_ne_nil rest)
        rw [hrest]
        rfl

theorem splitSlashes_of_notMem {piece : List Char} (hpiece : '/' ∉ piece) :
    splitSlashes piece = [piece] := by
  induction piece with
  | nil => rfl
  | cons c rest ih =>
      rw [List.mem_cons, not_or] at hpiece
      rw [splitSlashes, if_neg (Ne.symm hpiece.1), ih hpiece.2]

theorem joinSlashes_cons {piece : List Char} {pieces : List (List Char)} (hne : pieces ≠ []) :
    joinSlashes (piece :: pieces) = piece ++ '/' :: joinSlashes pieces := by
  obtain ⟨next, rest, rfl⟩ := List.exists_cons_of_ne_nil hne
  rfl

/-- Pieces without slashes are recovered from the text that is made of them. -/
theorem splitSlashes_joinSlashes {pieces : List (List Char)} (hne : pieces ≠ [])
    (hpieces : ∀ piece ∈ pieces, '/' ∉ piece) : splitSlashes (joinSlashes pieces) = pieces := by
  induction pieces with
  | nil => exact absurd rfl hne
  | cons piece rest ih =>
      have hpiece := splitSlashes_of_notMem (hpieces piece List.mem_cons_self)
      by_cases hrest : rest = []
      · subst hrest
        exact hpiece
      · rw [joinSlashes_cons hrest, splitSlashes_append_slash, hpiece,
          ih hrest fun q hq => hpieces q (List.mem_cons_of_mem _ hq), List.singleton_append]

theorem mem_joinSlashes {pieces : List (List Char)} {c : Char} (hc : c ∈ joinSlashes pieces) :
    c = '/' ∨ ∃ piece ∈ pieces, c ∈ piece := by
  induction pieces with
  | nil => cases hc
  | cons piece rest ih =>
      by_cases hrest : rest = []
      · subst hrest
        exact Or.inr ⟨piece, List.mem_cons_self, hc⟩
      · rw [joinSlashes_cons hrest, List.mem_append, List.mem_cons] at hc
        rcases hc with hpiece | rfl | hbehind
        · exact Or.inr ⟨piece, List.mem_cons_self, hpiece⟩
        · exact Or.inl rfl
        · refine (ih hbehind).imp_right ?_
          rintro ⟨other, hother, hmem⟩
          exact ⟨other, List.mem_cons_of_mem _ hother, hmem⟩

theorem intercalate_toList (names : List String) :
    (String.intercalate "/" names).toList = joinSlashes (names.map String.toList) := by
  induction names with
  | nil => rfl
  | cons name rest ih =>
      by_cases hrest : rest = []
      · subst hrest
        simp [joinSlashes]
      · rw [String.intercalate_cons_of_ne_nil hrest, List.map_cons,
          joinSlashes_cons (by simpa using hrest)]
        simp [ih]

/-- Idle pieces count for nothing when pieces that are not idle are dropped. -/
theorem dropPieces_append (before after : List (List Char)) :
    dropPieces (before.filter (!isIdle ·)).length (before ++ after) =
      after.dropWhile isIdle := by
  induction before with
  | nil => rfl
  | cons piece rest ih =>
      by_cases hpiece : isIdle piece
      · rw [List.filter_cons_of_neg (by simp [hpiece]), ← ih]
        cases (rest.filter (!isIdle ·)).length <;> simp [dropPieces, hpiece]
      · rw [List.filter_cons_of_pos (by simp [hpiece]), ← ih]
        simp [dropPieces, hpiece]

/-- The path of what names lead to from a base. -/
def descend (base : Path) (names : List String) : Path := names.foldl join base

theorem join_descend {base : Path} {names : List String} {name : String} :
    (base.descend names).join name = base.descend (names ++ [name]) := by
  rw [descend, descend, List.foldl_append]
  rfl

/-- The text of a path without the slash at its end. -/
def trunk (p : Path) : List Char :=
  if p.text.toList.getLast? = some '/' then p.text.toList.dropLast else p.text.toList

theorem text_eq_trunk (p : Path) :
    p.text.toList = p.trunk ∨ p.text.toList = p.trunk ++ ['/'] := by
  rw [trunk]
  by_cases hlast : p.text.toList.getLast? = some '/'
  · rw [if_pos hlast]
    exact Or.inr (List.dropLast_append_getLast? '/' hlast).symm
  · rw [if_neg hlast]
    exact Or.inl rfl

theorem trunk_ne_nil {p : Path} (hp : p.text ≠ "") (htext : p.text.toList = p.trunk) :
    p.trunk ≠ [] := by
  rw [← htext, ne_eq, String.toList_eq_nil_iff]
  exact hp

theorem join_text_toList_of_head? {base : Path} {text : String} (hbase : base.text ≠ "")
    (hhead : text.toList.head? ≠ some '/') :
    (base.join text).text.toList = base.trunk ++ '/' :: text.toList := by
  rw [join, if_neg hhead, trunk]
  by_cases hlast : base.text.toList.getLast? = some '/'
  · rw [if_pos (Or.inr hlast), if_pos hlast, String.toList_append, List.append_cons,
      List.dropLast_append_getLast? '/' hlast]
  · rw [if_neg (not_or_intro hbase hlast), if_neg hlast]
    simp

theorem utf8ByteSize_add_le_join_of_head? {base : Path} {text : String}
    (hhead : text.toList.head? ≠ some '/') :
    base.text.utf8ByteSize + text.utf8ByteSize ≤ (base.join text).text.utf8ByteSize := by
  rw [join, if_neg hhead]
  split
  · exact Nat.le_of_eq String.utf8ByteSize_append.symm
  · rw [String.utf8ByteSize_append, String.utf8ByteSize_append]
    omega

/-- What is joined to a base starts where the base does. -/
theorem isAbsolute_of_text_eq {base p : Path} (hbase : base.text ≠ "") {rest : List Char}
    (hp : p.text.toList = base.trunk ++ '/' :: rest) : p.isAbsolute = base.isAbsolute := by
  rw [isAbsolute, isAbsolute, hp]
  rcases text_eq_trunk base with htext | htext
  · obtain ⟨c, tail, hcons⟩ := List.exists_cons_of_ne_nil (trunk_ne_nil hbase htext)
    rw [htext, hcons]
    rfl
  · rw [htext]
    cases base.trunk <;> rfl

/-- What is joined to a base holds a zero only if the base or what is joined does. -/
theorem zero_mem_iff_of_text_eq {base p : Path} (hzero : '\x00' ∉ base.text.toList)
    {rest : List Char} (hp : p.text.toList = base.trunk ++ '/' :: rest) :
    '\x00' ∈ p.text.toList ↔ '\x00' ∈ rest := by
  have htrunk : '\x00' ∉ base.trunk := by
    intro hmem
    rcases text_eq_trunk base with htext | htext
    · exact hzero (htext ▸ hmem)
    · exact hzero (htext ▸ List.mem_append_left _ hmem)
  simp [hp, htrunk]

section Join

variable {base : Path} {name : String} (hbase : base.text ≠ "") (hname : IsEntryName name)

include hbase hname

theorem join_text_toList : (base.join name).text.toList = base.trunk ++ '/' :: name.toList :=
  join_text_toList_of_head? hbase fun h => hname.no_slash (List.mem_of_mem_head? h)

omit hbase in
theorem utf8ByteSize_add_le_join :
    base.text.utf8ByteSize + name.utf8ByteSize ≤ (base.join name).text.utf8ByteSize :=
  utf8ByteSize_add_le_join_of_head? fun h => hname.no_slash (List.mem_of_mem_head? h)

theorem join_text_ne_empty : (base.join name).text ≠ "" := by
  rw [ne_eq, ← String.toList_eq_nil_iff, join_text_toList hbase hname]
  simp

theorem join_trunk : (base.join name).trunk = base.trunk ++ '/' :: name.toList := by
  have hlast : (base.join name).text.toList.getLast? ≠ some '/' := by
    rw [join_text_toList hbase hname, List.append_cons,
      List.getLast?_append_of_ne_nil _ hname.toList_ne_nil]
    exact fun h => hname.no_slash (List.mem_of_getLast? h)
  rw [trunk, if_neg hlast, join_text_toList hbase hname]

end Join

/-- The text of a path below a base holds the names between slashes. -/
theorem descend_text_toList {base : Path} (hbase : base.text ≠ "") {names : List String}
    (hne : names ≠ []) (hnames : ∀ name ∈ names, IsEntryName name) :
    (base.descend names).text.toList =
      base.trunk ++ '/' :: joinSlashes (names.map String.toList) := by
  induction names generalizing base with
  | nil => exact absurd rfl hne
  | cons name rest ih =>
      have hname := hnames name List.mem_cons_self
      by_cases hrest : rest = []
      · subst hrest
        exact join_text_toList hbase hname
      · have hbelow := ih (join_text_ne_empty hbase hname) hrest
          fun other hother => hnames other (List.mem_cons_of_mem _ hother)
        rw [join_trunk hbase hname] at hbelow
        rw [descend, List.foldl_cons, ← descend, hbelow, List.map_cons,
          joinSlashes_cons (by simpa using hrest)]
        simp

/-! ## Components -/

theorem start?_append_slash {cs : List Char} (hne : cs ≠ []) (rest : List Char) :
    start? (cs ++ '/' :: rest) = start? cs := by
  obtain ⟨c, tail, rfl⟩ := List.exists_cons_of_ne_nil hne
  by_cases hslash : c = '/'
  · subst hslash
    rfl
  by_cases hdot : c = '.'
  · subst hdot
    cases tail with
    | nil => rfl
    | cons d tail => by_cases hd : d = '/' <;> simp [start?, hd]
  · simp [start?, hslash, hdot]

theorem pieces_append_slash {cs : List Char} (hne : cs ≠ []) (rest : List Char) :
    pieces (cs ++ '/' :: rest) = pieces cs ++ splitSlashes rest := by
  rw [pieces, pieces, start?_append_slash hne]
  split
  · obtain ⟨c, tail, rfl⟩ := List.exists_cons_of_ne_nil hne
    exact splitSlashes_append_slash tail rest
  · exact splitSlashes_append_slash cs rest

theorem componentsOf_append_slash {cs : List Char} (hne : cs ≠ []) (rest : List Char) :
    componentsOf (cs ++ '/' :: rest) =
      componentsOf cs ++ ((splitSlashes rest).filter (!isIdle ·)).map componentOf := by
  simp [componentsOf, start?_append_slash hne, pieces_append_slash hne]

theorem componentsOf_cons_slash (rest : List Char) :
    componentsOf ('/' :: rest) =
      .root :: ((splitSlashes rest).filter (!isIdle ·)).map componentOf := rfl

/-- The components of a path are those of its trunk, except that the trunk of the root is empty. -/
theorem components_eq_trunk {base : Path} (hbase : base.text ≠ "") :
    base.components = if base.trunk = [] then [.root] else componentsOf base.trunk := by
  rw [components]
  rcases text_eq_trunk base with htext | htext
  · have hne : base.trunk ≠ [] := trunk_ne_nil hbase htext
    rw [if_neg hne, htext]
  · rw [htext]
    split
    · next hempty => rw [hempty]; rfl
    · next hne =>
        rw [componentsOf_append_slash hne]
        simp [splitSlashes, isIdle]

/-! ## The text behind components -/

theorem dropWhile_isIdle {pieces : List (List Char)}
    (hpieces : ∀ piece ∈ pieces, isIdle piece = false) : pieces.dropWhile isIdle = pieces := by
  cases pieces with
  | nil => rfl
  | cons piece rest =>
      exact List.dropWhile_cons_of_neg (by simp [hpieces piece List.mem_cons_self])

theorem dropIdleEnd_eq_self {pieces : List (List Char)}
    (hpieces : ∀ piece ∈ pieces, isIdle piece = false) : dropIdleEnd pieces = pieces := by
  rw [dropIdleEnd, dropWhile_isIdle, List.reverse_reverse]
  intro piece hpiece
  exact hpieces piece (List.mem_reverse.mp hpiece)

/-- Behind the components of what is in front of a slash stands what is behind the slash. -/
theorem textAfter_append_slash {cs : List Char} (hne : cs ≠ []) (rest : List Char) :
    textAfter (componentsOf cs).length (cs ++ '/' :: rest) =
      joinSlashes (dropIdleEnd ((splitSlashes rest).dropWhile isIdle)) := by
  rw [← dropPieces_append (pieces cs), ← pieces_append_slash hne, componentsOf,
    List.length_append, List.length_map]
  unfold textAfter
  rw [start?_append_slash hne]
  cases start? cs with
  | none => simp
  | some start => rw [Option.toList_some, List.length_singleton, Nat.add_comm]

/-- Behind all components of a path nothing is left. -/
theorem textAfter_length (cs : List Char) : textAfter (componentsOf cs).length cs = [] := by
  have hpieces : dropPieces ((pieces cs).filter (!isIdle ·)).length (pieces cs) = [] := by
    simpa using dropPieces_append (pieces cs) []
  rw [componentsOf, List.length_append, List.length_map]
  unfold textAfter
  cases start? cs with
  | none => simp [hpieces, dropIdleEnd, joinSlashes]
  | some start =>
      rw [Option.toList_some, List.length_singleton, Nat.add_comm]
      simp [hpieces, dropIdleEnd, joinSlashes]

theorem relativeTo_self (p : Path) : p.relativeTo p = ⟨""⟩ := by
  have hprefix : p.components.isPrefixOf p.components :=
    List.isPrefixOf_iff_prefix.mpr (List.prefix_refl _)
  rw [relativeTo, below?, if_pos hprefix, components, textAfter_length]
  rfl

/-! ## Names below a base -/

section Descend

variable {base : Path} {names : List String} (hbase : base.text ≠ "")
  (hnames : ∀ name ∈ names, IsEntryName name)

include hnames

theorem not_isIdle_of_mem_names {piece : List Char} (hpiece : piece ∈ names.map String.toList) :
    isIdle piece = false := by
  obtain ⟨name, hname, rfl⟩ := List.mem_map.mp hpiece
  exact (hnames name hname).not_isIdle

theorem splitSlashes_joinSlashes_names (hne : names ≠ []) :
    splitSlashes (joinSlashes (names.map String.toList)) = names.map String.toList := by
  apply splitSlashes_joinSlashes (by simpa using hne)
  intro piece hpiece
  obtain ⟨name, hname, rfl⟩ := List.mem_map.mp hpiece
  exact (hnames name hname).no_slash

theorem map_componentOf_names :
    ((names.map String.toList).filter (!isIdle ·)).map componentOf =
      names.map fun name => .name name.toList := by
  have hkept : (names.map String.toList).filter (!isIdle ·) = names.map String.toList := by
    rw [List.filter_eq_self]
    intro piece hpiece
    rw [not_isIdle_of_mem_names hnames hpiece, Bool.not_false]
  rw [hkept, List.map_map]
  apply List.map_congr_left
  intro name hname
  exact (hnames name hname).componentOf_eq

theorem start?_joinSlashes_names : start? (joinSlashes (names.map String.toList)) = none := by
  cases names with
  | nil => rfl
  | cons name rest =>
      have hname := hnames name List.mem_cons_self
      by_cases hrest : rest = []
      · subst hrest
        exact hname.start?_eq_none
      · rw [List.map_cons, joinSlashes_cons (by simpa using hrest),
          start?_append_slash hname.toList_ne_nil, hname.start?_eq_none]

theorem head?_joinSlashes_names : (joinSlashes (names.map String.toList)).head? ≠ some '/' := by
  intro hhead
  have hstart := start?_joinSlashes_names hnames
  obtain ⟨rest, hrest⟩ := List.head?_eq_some_iff.mp hhead
  rw [hrest] at hstart
  cases hstart

/-- Names between slashes are a path of these names. -/
theorem components_intercalate :
    (⟨String.intercalate "/" names⟩ : Path).components =
      names.map fun name => .name name.toList := by
  by_cases hne : names = []
  · subst hne
    rfl
  · rw [components, intercalate_toList, componentsOf, pieces, start?_joinSlashes_names hnames,
      Option.isSome_none, if_neg Bool.false_ne_true, splitSlashes_joinSlashes_names hnames hne,
      map_componentOf_names hnames]
    rfl

include hbase

/-- The components of a path below a base are those of the base and the names. -/
theorem descend_components :
    (base.descend names).components =
      base.components ++ names.map fun name => .name name.toList := by
  by_cases hne : names = []
  · subst hne
    simp [descend]
  · rw [components, descend_text_toList hbase hne hnames, components_eq_trunk hbase]
    have hsplit := splitSlashes_joinSlashes_names hnames hne
    split
    · next hempty =>
        rw [hempty, List.nil_append, componentsOf_cons_slash, hsplit,
          map_componentOf_names hnames, List.singleton_append]
    · next htrunk =>
        rw [componentsOf_append_slash htrunk, hsplit, map_componentOf_names hnames]

/-- The file name of a path below a base is the last of the names. -/
theorem fileName?_descend (hne : names ≠ []) :
    (base.descend names).fileName? = names.getLast?.map String.toList := by
  rw [fileName?, descend_components hbase hnames, List.getLast?_append_of_ne_nil _ (by simpa),
    List.getLast?_map]
  cases names.getLast? <;> rfl

/-- The names below a base may be joined to it all at once. -/
theorem join_intercalate (hne : names ≠ []) :
    base.join (String.intercalate "/" names) = base.descend names := by
  have hhead : (String.intercalate "/" names).toList.head? ≠ some '/' := by
    rw [intercalate_toList]
    exact head?_joinSlashes_names hnames
  have htext : (base.join (String.intercalate "/" names)).text = (base.descend names).text := by
    apply String.toList_injective
    rw [join_text_toList_of_head? hbase hhead, intercalate_toList,
      descend_text_toList hbase hne hnames]
  exact congrArg Path.mk htext

/-- A path below a base is seen from the base as the names between slashes. -/
theorem descend_relativeTo (hne : names ≠ []) :
    (base.descend names).relativeTo base = ⟨String.intercalate "/" names⟩ := by
  have hprefix : base.components.isPrefixOf (base.descend names).components := by
    rw [descend_components hbase hnames, List.isPrefixOf_iff_prefix]
    exact List.prefix_append _ _
  have hsplit := splitSlashes_joinSlashes_names hnames hne
  have hidle : ∀ piece ∈ names.map String.toList, isIdle piece = false :=
    fun _ => not_isIdle_of_mem_names hnames
  have hbehind : joinSlashes (dropIdleEnd ((splitSlashes (joinSlashes
      (names.map String.toList))).dropWhile isIdle)) = joinSlashes (names.map String.toList) := by
    rw [hsplit, dropWhile_isIdle hidle, dropIdleEnd_eq_self hidle]
  have htext : textAfter base.components.length (base.descend names).text.toList =
      joinSlashes (names.map String.toList) := by
    rw [descend_text_toList hbase hne hnames, components_eq_trunk hbase]
    split
    · next hempty =>
        rw [hempty]
        exact hbehind
    · next htrunk => rw [textAfter_append_slash htrunk, hbehind]
  rw [relativeTo, below?, if_pos hprefix, htext, ← intercalate_toList, String.ofList_toList]
  rfl

/-- From the base, the base itself and all paths below it are seen as their names. -/
theorem components_relativeTo :
    ((base.descend names).relativeTo base).components =
      names.map fun name => .name name.toList := by
  by_cases hne : names = []
  · subst hne
    rw [descend, List.foldl_nil, relativeTo_self]
    rfl
  · rw [descend_relativeTo hbase hnames hne, components_intercalate hnames]

/-- A path below a base starts at the root if and only if the base does. -/
theorem descend_isAbsolute : (base.descend names).isAbsolute = base.isAbsolute := by
  by_cases hne : names = []
  · subst hne
    rfl
  · exact isAbsolute_of_text_eq hbase (descend_text_toList hbase hne hnames)

/-- The names below a base add no zero to the text of the base. -/
theorem zero_notMem_descend (hzero : '\x00' ∉ base.text.toList) :
    '\x00' ∉ (base.descend names).text.toList := by
  induction names generalizing base with
  | nil => exact hzero
  | cons name rest ih =>
      have hname := hnames name List.mem_cons_self
      apply ih (join_text_ne_empty hbase hname)
      · exact fun other hother => hnames other (List.mem_cons_of_mem _ hother)
      · rw [zero_mem_iff_of_text_eq hzero (join_text_toList hbase hname)]
        exact hname.no_zero

end Descend

end Path

namespace FileTree

/-- The steps of a path that go somewhere. -/
def namedSteps (text : String) : List String :=
  ((Path.splitSlashes text.toList).map String.ofList).filter (· ≠ "")

/-- A path is followed by its named steps, behind which an empty one may ask for a directory. -/
theorem stepsOf_eq_namedSteps (text : String) :
    stepsOf text = namedSteps text ∨ stepsOf text = namedSteps text ++ [""] := by
  rw [stepsOf]
  split
  · exact Or.inr rfl
  · exact Or.inl rfl

theorem namedSteps_eq_trunk (p : Path) :
    namedSteps p.text =
      ((Path.splitSlashes p.trunk).map String.ofList).filter (· ≠ "") := by
  rw [namedSteps]
  rcases p.text_eq_trunk with htext | htext
  · rw [htext]
  · rw [htext, Path.splitSlashes_append_slash]
    simp [Path.splitSlashes]

theorem stepsOf_entryName {name : String} (hname : IsEntryName name) : stepsOf name = [name] := by
  rw [stepsOf, Path.splitSlashes_of_notMem hname.no_slash]
  simp [hname.ne_empty]

/-- A text that is not empty and does not start with a slash has a first named step. -/
theorem namedSteps_ne_nil {text : String} (hne : text ≠ "")
    (hhead : text.toList.head? ≠ some '/') : namedSteps text ≠ [] := by
  obtain ⟨c, rest, hcons⟩ := List.exists_cons_of_ne_nil fun h => hne (String.toList_eq_nil_iff.mp h)
  have hslash : c ≠ '/' := by simpa [hcons] using hhead
  obtain ⟨piece, pieces, hrest⟩ := List.exists_cons_of_ne_nil (Path.splitSlashes_ne_nil rest)
  rw [namedSteps, hcons, Path.splitSlashes, if_neg hslash, hrest]
  simp

/-- A path joined to a base is followed by the named steps of the base and then by its own. -/
theorem stepsOf_join {base : Path} {text : String} (hbase : base.text ≠ "") (hne : text ≠ "")
    (hhead : text.toList.head? ≠ some '/') :
    stepsOf (base.join text).text = namedSteps base.text ++ stepsOf text := by
  have hpieces : (Path.splitSlashes (base.join text).text.toList).map String.ofList =
      (Path.splitSlashes base.trunk).map String.ofList ++
        (Path.splitSlashes text.toList).map String.ofList := by
    rw [Path.join_text_toList_of_head? hbase hhead, Path.splitSlashes_append_slash,
      List.map_append]
  have hown : (Path.splitSlashes text.toList).map String.ofList ≠ [] := by
    simpa using Path.splitSlashes_ne_nil text.toList
  have hnamed := namedSteps_ne_nil hne hhead
  rw [namedSteps] at hnamed
  rw [stepsOf, stepsOf, hpieces, List.filter_append, namedSteps_eq_trunk,
    List.getLast?_append_of_ne_nil _ hown]
  by_cases hlast : ((Path.splitSlashes text.toList).map String.ofList).getLast? = some ""
  · rw [if_pos ⟨hlast, List.append_ne_nil_of_right_ne_nil _ hnamed⟩, if_pos ⟨hlast, hnamed⟩,
      List.append_assoc]
  · rw [if_neg fun h => hlast h.1, if_neg fun h => hlast h.1]

/-- A path below a base is followed by the named steps of the base and then by the names. -/
theorem stepsOf_descend {base : Path} {names : List String} (hbase : base.text ≠ "")
    (hnames : ∀ name ∈ names, IsEntryName name) (hne : names ≠ []) :
    stepsOf (base.descend names).text = namedSteps base.text ++ names := by
  have hpieces : (Path.splitSlashes (base.descend names).text.toList).map String.ofList =
      (Path.splitSlashes base.trunk).map String.ofList ++ names := by
    rw [Path.descend_text_toList hbase hne hnames, Path.splitSlashes_append_slash,
      Path.splitSlashes_joinSlashes_names hnames hne, List.map_append, List.map_map]
    simp [Function.comp_def]
  have hnamed : names.filter (· ≠ "") = names := by
    rw [List.filter_eq_self]
    intro name hname
    simpa using (hnames name hname).ne_empty
  have hlast : names.getLast? ≠ some "" :=
    fun h => (hnames "" (List.mem_of_getLast? h)).ne_empty rfl
  rw [stepsOf, hpieces, if_neg, List.filter_append, hnamed, namedSteps_eq_trunk]
  rw [List.getLast?_append_of_ne_nil _ hne]
  exact fun h => hlast h.1

end FileTree

end DialogueIndex
