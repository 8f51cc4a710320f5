import DialogueIndex.Glob.Match
import DialogueIndex.Proofs.Path.Descend

/-! # Patterns for directories

A pattern such as two stars, a name and two stars again, with slashes in between, is about all that
lies below a directory of that name, however deep either is. With several names it is about what
lies below directories of these names, each of them below the one in front. The directories
themselves it does not match.
-/

namespace DialogueIndex

namespace Glob

/-! ## What tokens leave -/

theorem mem_behindSlashes_iff {after bytes : List UInt8} :
    after ∈ behindSlashes bytes ↔ ∃ before, bytes = before ++ slash :: after := by
  induction bytes with
  | nil => simp [behindSlashes]
  | cons b rest ih =>
      -- The first byte is the slash in question, or the slash stands further on.
      have hcons : (∃ before, b :: rest = before ++ slash :: after) ↔
          b = slash ∧ after = rest ∨ ∃ before, rest = before ++ slash :: after := by
        constructor
        · rintro ⟨before, heq⟩
          cases before with
          | nil =>
              cases heq
              exact Or.inl ⟨rfl, rfl⟩
          | cons first before =>
              cases heq
              exact Or.inr ⟨before, rfl⟩
        · rintro (⟨rfl, rfl⟩ | ⟨before, rfl⟩)
          · exact ⟨[], rfl⟩
          · exact ⟨b :: before, rfl⟩
      rw [behindSlashes, hcons]
      split
      next hslash => rw [List.mem_cons, ih, and_iff_right hslash]
      next hslash => rw [ih, or_iff_right fun h => hslash h.1]

theorem nil_mem_tailsWhile (bytes : List UInt8) : [] ∈ tailsWhile (fun _ => true) bytes := by
  induction bytes with
  | nil => exact List.mem_singleton_self []
  | cons b rest ih =>
      rw [tailsWhile, if_pos rfl]
      exact List.mem_cons_of_mem _ ih

variable {options : Options} {lefts : List (List UInt8)} {after : List UInt8}

theorem behind?_append (bytes after : List UInt8) :
    behind? bytes (bytes ++ after) = some after := by
  induction bytes with
  | nil => rfl
  | cons b rest ih => rw [List.cons_append, behind?, if_pos rfl, ih]

theorem mem_step_literal {c : Char} (hleft : String.utf8EncodeChar c ++ after ∈ lefts) :
    after ∈ step options (.literal c) lefts :=
  List.mem_filterMap.mpr ⟨_, hleft, behind?_append _ _⟩

/-- Two stars at the start leave all that follows any slash, and what there was. -/
theorem mem_step_leadingDirs_iff :
    after ∈ step options .leadingDirs lefts ↔
      after ∈ lefts ∨ ∃ before, before ++ slash :: after ∈ lefts := by
  simp only [step, List.mem_eraseDups, List.mem_flatMap, List.mem_cons, mem_behindSlashes_iff]
  constructor
  · rintro ⟨left, hleft, rfl | ⟨before, rfl⟩⟩
    · exact Or.inl hleft
    · exact Or.inr ⟨before, hleft⟩
  · rintro (hleft | ⟨before, hleft⟩)
    · exact ⟨after, hleft, Or.inl rfl⟩
    · exact ⟨_, hleft, Or.inr ⟨before, rfl⟩⟩

/-- Two stars inside leave what two stars at the start leave of what follows a slash. -/
theorem mem_step_innerDirs {left : List UInt8} (hleft : slash :: left ∈ lefts)
    (hafter : after ∈ step options .leadingDirs [left]) :
    after ∈ step options .innerDirs lefts := by
  rw [mem_step_leadingDirs_iff] at hafter
  simp only [step, List.mem_eraseDups, List.mem_flatMap]
  refine ⟨_, hleft, ?_⟩
  change after ∈ if slash = slash then left :: behindSlashes left else []
  rw [if_pos rfl, List.mem_cons, mem_behindSlashes_iff]
  rcases hafter with hsame | ⟨before, hbefore⟩
  · exact Or.inl (List.mem_singleton.mp hsame)
  · exact Or.inr ⟨before, (List.mem_singleton.mp hbefore).symm⟩

/-- Two stars at the end leave nothing of what begins with a slash. -/
theorem nil_mem_step_trailingDirs {left : List UInt8} (hleft : slash :: left ∈ lefts) :
    [] ∈ step options .trailingDirs lefts := by
  simp only [step, List.mem_eraseDups, List.mem_flatMap]
  refine ⟨_, hleft, ?_⟩
  change [] ∈ if slash = slash then tailsWhile (fun _ => true) left else []
  rw [if_pos rfl]
  exact nil_mem_tailsWhile left

theorem stepTokens_append (first second : List GlobToken) (lefts : List (List UInt8)) :
    stepTokens options (first ++ second) lefts =
      stepTokens options second (stepTokens options first lefts) := by
  induction first generalizing lefts with
  | nil => rw [List.nil_append, stepTokens]
  | cons t rest ih => rw [List.cons_append, stepTokens, stepTokens, ih]

/-- The tokens that stand for a name. -/
def literals (name : String) : List GlobToken := name.toList.map .literal

theorem mem_stepTokens_literals {cs : List Char} (hleft : utf8 cs ++ after ∈ lefts) :
    after ∈ stepTokens options (cs.map .literal) lefts := by
  induction cs generalizing lefts with
  | nil => exact hleft
  | cons c rest ih =>
      rw [List.map_cons, stepTokens]
      apply ih
      apply mem_step_literal
      rwa [utf8, List.flatMap_cons, List.append_assoc] at hleft

/-! ## Directories -/

/-- The bytes of the path of a file in directories that lie within each other. -/
def filePath (dirs : List String) (file : String) : List UInt8 :=
  utf8 (Path.joinSlashes ((dirs ++ [file]).map String.toList))

theorem filePath_cons (dir : String) (dirs : List String) (file : String) :
    filePath (dir :: dirs) file = utf8 dir.toList ++ slash :: filePath dirs file := by
  have hslash : utf8 ['/'] = [slash] := by decide
  rw [filePath, List.cons_append, List.map_cons, Path.joinSlashes_cons (by simp), utf8,
    List.flatMap_append, List.flatMap_cons]
  rfl

/-- What lies in the inner directories is what two stars leave. -/
theorem mem_step_leadingDirs_filePath (outer inner : List String) (file : String) :
    filePath inner file ∈ step options .leadingDirs [filePath (outer ++ inner) file] := by
  rw [mem_step_leadingDirs_iff]
  induction outer with
  | nil => exact Or.inl (List.mem_singleton_self _)
  | cons dir outer ih =>
      refine Or.inr ?_
      rw [List.cons_append, filePath_cons]
      rcases ih with hsame | ⟨before, hbefore⟩
      · exact ⟨utf8 dir.toList, by rw [List.mem_singleton.mp hsame, List.mem_singleton]⟩
      · refine ⟨utf8 dir.toList ++ slash :: before, ?_⟩
        rw [List.mem_singleton, ← List.mem_singleton.mp hbefore, List.append_assoc,
          List.cons_append]

/-- The tokens for what lies below directories with the given names, behind a slash. -/
def tokensBelow : List String → List GlobToken
  | [] => [.trailingDirs]
  | name :: rest => .innerDirs :: (literals name ++ tokensBelow rest)

/-- The tokens for what lies below directories with the given names, wherever they are. -/
def directoryTokens : List String → List GlobToken
  | [] => [.leadingDirs]
  | name :: rest => .leadingDirs :: (literals name ++ tokensBelow rest)

/-- Names that stand among directories in their order do so behind the first of them. -/
theorem exists_of_cons_sublist {name : String} {rest dirs : List String}
    (hsub : (name :: rest).Sublist dirs) :
    ∃ outer inner, dirs = outer ++ name :: inner ∧ rest.Sublist inner := by
  obtain ⟨front, behind, rfl, hname, hrest⟩ := List.cons_sublist_iff.mp hsub
  obtain ⟨outer, middle, rfl⟩ := List.append_of_mem hname
  exact ⟨outer, middle ++ behind, by simp, hrest.trans (List.sublist_append_right _ _)⟩

theorem nil_mem_stepTokens_tokensBelow {names dirs : List String} (hsub : names.Sublist dirs)
    {file : String} (hleft : slash :: filePath dirs file ∈ lefts) :
    [] ∈ stepTokens options (tokensBelow names) lefts := by
  induction names generalizing dirs lefts with
  | nil =>
      rw [tokensBelow, stepTokens, stepTokens]
      exact nil_mem_step_trailingDirs hleft
  | cons name rest ih =>
      obtain ⟨outer, inner, rfl, hrest⟩ := exists_of_cons_sublist hsub
      rw [tokensBelow, stepTokens, stepTokens_append]
      apply ih hrest
      apply mem_stepTokens_literals
      rw [← filePath_cons]
      exact mem_step_innerDirs hleft (mem_step_leadingDirs_filePath outer _ file)

/-- A file below directories with the given names is matched by the tokens for them. -/
theorem nil_mem_stepTokens_directoryTokens {name : String} {rest dirs : List String}
    (hsub : (name :: rest).Sublist dirs) (file : String) :
    [] ∈ stepTokens options (directoryTokens (name :: rest)) [filePath dirs file] := by
  obtain ⟨outer, inner, rfl, hrest⟩ := exists_of_cons_sublist hsub
  rw [directoryTokens, stepTokens, stepTokens_append]
  apply nil_mem_stepTokens_tokensBelow hrest
  apply mem_stepTokens_literals
  rw [← filePath_cons]
  exact mem_step_leadingDirs_filePath outer _ file

end Glob

/-- A pattern for directories matches every file below them. -/
theorem GlobPattern.isMatch_directoryTokens {options : Glob.Options} {names dirs : List String}
    (hname : Glob.goesByName options (Glob.directoryTokens names) = false)
    (hsub : names.Sublist dirs) (file : String) :
    (⟨options, Glob.directoryTokens names⟩ : GlobPattern).isMatch
      (Path.joinSlashes ((dirs ++ [file]).map String.toList)) := by
  cases names with
  | nil => rfl
  | cons name rest =>
      have hleft : (Glob.stepTokens options (Glob.directoryTokens (name :: rest))
          [Glob.filePath dirs file]).any List.isEmpty :=
        List.any_eq_true.mpr ⟨[], Glob.nil_mem_stepTokens_directoryTokens hsub file, rfl⟩
      rw [Glob.filePath] at hleft
      rw [isMatch, Glob.matchesBytes, hleft, hname, Bool.false_and, Bool.not_false, Bool.and_self,
        Bool.or_true]

end DialogueIndex
