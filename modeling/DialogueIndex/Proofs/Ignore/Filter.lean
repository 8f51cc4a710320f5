import DialogueIndex.Ignore.Filter
import Mathlib.Data.List.Basic

/-! # Filters of configurations

The patterns of a filter are those that can be read from the texts of its configuration, and the
standard ones. A filter with more patterns leaves out more.
-/

namespace DialogueIndex

/-- An ignore file that is missing holds a fault and nothing else. -/
theorem RuleFile.exists_read_of_missing {tree : FileTree} {p : Path}
    (hmissing : tree.contains p = false) : ∃ fault, read tree p = ⟨[], [fault]⟩ := by
  rw [FileTree.contains] at hmissing
  split at hmissing
  next => cases hmissing
  next hfind =>
    rw [read, FileTree.read, hfind]
    exact ⟨_, rfl⟩

namespace IgnoreFilter

/-- A pattern is read if and only if its text is among the texts. -/
theorem mem_patternsOf_iff {texts : List String} {patterns : List GlobPattern}
    (hpatterns : patternsOf texts = .ok patterns) (pattern : GlobPattern) :
    pattern ∈ patterns ↔ ∃ text ∈ texts, GlobPattern.ofText globOptions text = .ok pattern := by
  induction texts generalizing patterns with
  | nil =>
      cases hpatterns
      simp
  | cons text rest ih =>
      rw [patternsOf, List.mapM_cons] at hpatterns
      cases hfirst : GlobPattern.ofText globOptions text with
      | error e =>
          rw [hfirst] at hpatterns
          cases hpatterns
      | ok first =>
          rw [hfirst] at hpatterns
          cases hrest : rest.mapM (GlobPattern.ofText globOptions) with
          | error e =>
              rw [hrest] at hpatterns
              cases hpatterns
          | ok others =>
              rw [hrest] at hpatterns
              cases hpatterns
              rw [List.mem_cons, ih hrest]
              simp [hfirst, eq_comm]

theorem ofConfig_eq_ok_iff {tree : FileTree} {config : ScanConfig} {filter : IgnoreFilter} :
    ofConfig tree config = .ok filter ↔
      ∃ own standard, patternsOf config.ignorePatterns = .ok own ∧
        patternsOf standardTexts = .ok standard ∧
        filter = ⟨config.root, config.includeHidden, standard ++ own,
          rulesOf (ruleFiles tree config)⟩ := by
  rw [ofConfig]
  cases patternsOf config.ignorePatterns with
  | error e => simp
  | ok own => cases patternsOf standardTexts <;> simp [eq_comm]

/-- Files without rules and with faults make no difference to the rules. -/
theorem rulesOf_filter {files : List (Path × RuleFile)} {keep : Path × RuleFile → Bool}
    (hdropped : ∀ file ∈ files, keep file = false →
      file.2.faults.isEmpty = false ∧ file.2.rules = []) :
    rulesOf (files.filter keep) = rulesOf files := by
  have hany : (files.filter keep).any (·.2.faults.isEmpty) = files.any (·.2.faults.isEmpty) := by
    rw [List.any_filter, Bool.eq_iff_iff, List.any_eq_true, List.any_eq_true]
    simp only [Bool.and_eq_true]
    refine exists_congr fun file => and_congr_right fun hfile => and_iff_right_of_imp ?_
    intro hempty
    cases hkeep : keep file with
    | true => rfl
    | false =>
        rw [(hdropped file hfile hkeep).1] at hempty
        cases hempty
  have hrules : (files.filter keep).flatMap (·.2.rules) = files.flatMap (·.2.rules) := by
    clear hany
    induction files with
    | nil => rfl
    | cons file rest ih =>
        rw [List.forall_mem_cons] at hdropped
        rw [List.filter_cons, List.flatMap_cons, ← ih hdropped.2]
        cases hkeep : keep file with
        | true => rfl
        | false => rw [(hdropped.1 hkeep).2, List.nil_append, if_neg Bool.false_ne_true]
  rw [rulesOf, rulesOf, hany, hrules]

/-- What a file says is all that counts for the rules. -/
theorem rulesOf_map_congr {α : Type} {texts : List α} {f g : α → Path × RuleFile}
    (hfaults : ∀ text ∈ texts, (f text).2.faults.isEmpty = (g text).2.faults.isEmpty)
    (hrules : ∀ text ∈ texts, (f text).2.rules = (g text).2.rules) :
    rulesOf (texts.map f) = rulesOf (texts.map g) := by
  have hany : (texts.map f).any (·.2.faults.isEmpty) = (texts.map g).any (·.2.faults.isEmpty) := by
    rw [List.any_map, List.any_map, Bool.eq_iff_iff, List.any_eq_true, List.any_eq_true]
    refine exists_congr fun text => and_congr_right fun htext => ?_
    exact Bool.eq_iff_iff.mp (hfaults text htext)
  rw [rulesOf, rulesOf, hany, List.flatMap_map, List.flatMap_map, List.flatMap_congr hrules]

/-- The paths of the ignore files of a configuration, whether they are there or not. -/
def rulePaths (config : ScanConfig) : List Path :=
  config.root.join rulesName :: config.ignoreFile.toList

/-- Only what can be read at the paths of ignore files makes a difference to the rules. -/
theorem rulesOf_ruleFiles (tree : FileTree) (config : ScanConfig) :
    rulesOf (ruleFiles tree config) =
      rulesOf ((rulePaths config).map fun p => (p, RuleFile.read tree p)) := by
  have hfiles : ruleFiles tree config =
      ((rulePaths config).map fun p => (p, RuleFile.read tree p)).filter
        fun file => tree.contains file.1 := by
    rw [List.filter_map]
    rfl
  rw [hfiles]
  apply rulesOf_filter
  intro file hfile hmissing
  obtain ⟨p, _, rfl⟩ := List.mem_map.mp hfile
  obtain ⟨fault, hread⟩ := RuleFile.exists_read_of_missing hmissing
  rw [hread]
  exact ⟨rfl, rfl⟩

/-- A filter leaves out all that another one with the same rules leaves out, if it has the other
one's patterns and lets no more hidden names through. -/
theorem ignores_of_subset {loose tight : IgnoreFilter} (hroot : tight.root = loose.root)
    (hrules : tight.rules = loose.rules) (hpatterns : loose.patterns ⊆ tight.patterns)
    (hhidden : tight.includeHidden → loose.includeHidden) {p : Path} {isDirectory : Bool}
    (hignored : loose.ignores p isDirectory) : tight.ignores p isDirectory := by
  simp only [ignores, Bool.or_eq_true, Bool.and_eq_true, Bool.not_eq_true', List.any_eq_true]
    at hignored ⊢
  rw [hroot, hrules]
  refine hignored.imp_left ?_
  rintro (⟨hloose, hname⟩ | ⟨pattern, hpattern, hmatch⟩)
  · refine Or.inl ⟨?_, hname⟩
    rw [Bool.eq_false_iff]
    intro htight
    rw [hhidden htight] at hloose
    cases hloose
  · exact Or.inr ⟨pattern, hpatterns hpattern, hmatch⟩

end IgnoreFilter

end DialogueIndex
