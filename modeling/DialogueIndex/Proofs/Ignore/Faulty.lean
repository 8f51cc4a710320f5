import DialogueIndex.Proofs.Ignore.Filter
import Mathlib.Algebra.Order.BigOperators.Group.List
import Mathlib.Algebra.Order.Ring.Nat

/-! # Ignore files with faults

An ignore file with a faulty line is reported, but the rules on its other lines may still count. They
do if another ignore file is free of faults, and then as if the faulty lines were not there. If none
is, the file counts for no more than one that is missing.
-/

namespace DialogueIndex

/-- What an ignore file would hold without its faulty lines. -/
def RuleFile.withoutFaults (file : RuleFile) : RuleFile := { file with faults := [] }

namespace IgnoreFilter

/-- Two trees whose ignore files for a configuration hold the same, but for the one at a path. -/
def AlikeBut (p : Path) (config : ScanConfig) (tree other : FileTree) : Prop :=
  ∀ q ∈ rulePaths config, q ≠ p → RuleFile.read other q = RuleFile.read tree q

/-- Whether one of the ignore files of a configuration is free of faults. -/
def HasFaultless (config : ScanConfig) (tree : FileTree) : Prop :=
  ∃ q ∈ rulePaths config, (RuleFile.read tree q).faults = []

/-- The rules of all ignore files of a configuration, whether they count or not. -/
def readRules (tree : FileTree) (config : ScanConfig) : List IgnoreRule :=
  (rulePaths config).flatMap fun q => (RuleFile.read tree q).rules

section Rules

variable {tree other : FileTree} {config : ScanConfig} {p : Path}

theorem rulesOf_of_hasFaultless (hfree : HasFaultless config tree) :
    rulesOf (ruleFiles tree config) = readRules tree config := by
  obtain ⟨q, hq, hempty⟩ := hfree
  have hany : ((rulePaths config).map fun q => (q, RuleFile.read tree q)).any
      (·.2.faults.isEmpty) := by
    rw [List.any_map, List.any_eq_true]
    exact ⟨q, hq, List.isEmpty_iff.mpr hempty⟩
  rw [rulesOf_ruleFiles, rulesOf, if_pos hany, List.flatMap_map]
  rfl

theorem rulesOf_of_not_hasFaultless (hfaulty : ¬ HasFaultless config tree) :
    rulesOf (ruleFiles tree config) = [] := by
  rw [rulesOf_ruleFiles, rulesOf, if_neg]
  rw [List.any_map, List.any_eq_true]
  rintro ⟨q, hq, hempty⟩
  exact hfaulty ⟨q, hq, List.isEmpty_iff.mp hempty⟩

/-- Filters of one configuration in two trees differ in their rules only. -/
theorem ofConfig_eq_iff {filter : IgnoreFilter} (hfilter : ofConfig tree config = .ok filter) :
    ofConfig other config = .ok filter ↔
      rulesOf (ruleFiles other config) = rulesOf (ruleFiles tree config) := by
  obtain ⟨own, standard, hown, hstandard, rfl⟩ := ofConfig_eq_ok_iff.mp hfilter
  rw [ofConfig, hown, hstandard]
  simp

variable (halike : AlikeBut p config tree other)

include halike

theorem AlikeBut.symm : AlikeBut p config other tree :=
  fun q hq hne => (halike q hq hne).symm

/-- A file that is free of faults is not the one with faults, so that it is in both trees. -/
theorem AlikeBut.hasFaultless (hfaulty : (RuleFile.read tree p).faults ≠ [])
    (hfree : HasFaultless config tree) : HasFaultless config other := by
  obtain ⟨q, hq, hempty⟩ := hfree
  have hne : q ≠ p := by
    rintro rfl
    exact hfaulty hempty
  exact ⟨q, hq, by rw [halike q hq hne, hempty]⟩

/-- Only the file at the path can make a difference to the rules that are read. -/
theorem AlikeBut.readRules_eq
    (hrules : (RuleFile.read other p).rules = (RuleFile.read tree p).rules) :
    readRules other config = readRules tree config := by
  apply List.flatMap_congr
  intro q hq
  by_cases hne : q = p
  · rw [hne, hrules]
  · rw [halike q hq hne]

/-- Without a file that holds rules fewer rules are read. -/
theorem AlikeBut.length_readRules_lt (hp : p ∈ rulePaths config)
    (hmissing : other.contains p = false) (hrules : (RuleFile.read tree p).rules ≠ []) :
    (readRules other config).length < (readRules tree config).length := by
  obtain ⟨fault, hread⟩ := RuleFile.exists_read_of_missing hmissing
  have hlt : (RuleFile.read other p).rules.length < (RuleFile.read tree p).rules.length := by
    rw [hread]
    exact List.length_pos_iff.mpr hrules
  rw [readRules, readRules, List.length_flatMap, List.length_flatMap]
  refine List.sum_lt_sum _ _ ?_ ⟨p, hp, hlt⟩
  intro q hq
  by_cases hne : q = p
  · rw [hne]
    exact hlt.le
  · rw [halike q hq hne]

end Rules

/-- A faulty ignore file counts for as much as if it were missing if no ignore file is free of faults
or it holds no rule, and then only. If another file is free of faults, the filter is the one for the
file without its faulty lines. -/
theorem faulty_file_counts_beside_faultless {tree : FileTree} {config : ScanConfig}
    {filter : IgnoreFilter} (hfilter : ofConfig tree config = .ok filter) {p : Path}
    (hp : p ∈ rulePaths config) (hfaulty : (RuleFile.read tree p).faults ≠ []) :
    (∀ other, AlikeBut p config tree other → other.contains p = false →
      (ofConfig other config = .ok filter ↔
        ¬ HasFaultless config tree ∨ (RuleFile.read tree p).rules = [])) ∧
    (∀ other, AlikeBut p config tree other →
      RuleFile.read other p = (RuleFile.read tree p).withoutFaults →
      HasFaultless config tree → ofConfig other config = .ok filter) := by
  refine ⟨?_, ?_⟩
  · intro other halike hmissing
    obtain ⟨fault, hread⟩ := RuleFile.exists_read_of_missing hmissing
    have hother : (RuleFile.read other p).faults ≠ [] := by
      rw [hread]
      exact List.cons_ne_nil _ _
    rw [ofConfig_eq_iff hfilter]
    by_cases hfree : HasFaultless config tree
    · rw [rulesOf_of_hasFaultless hfree,
        rulesOf_of_hasFaultless (halike.hasFaultless hfaulty hfree)]
      constructor
      · -- Beside a faultless file all rules count, so that any rule of the file would be missed.
        intro hsame
        by_contra hrules
        rw [not_or] at hrules
        have hlt := halike.length_readRules_lt hp hmissing hrules.2
        exact hlt.ne (congrArg List.length hsame)
      · rintro (hnone | hrules)
        · exact absurd hfree hnone
        · exact halike.readRules_eq (by rw [hread, hrules])
    · have hnone : ¬ HasFaultless config other :=
        fun hother' => hfree (halike.symm.hasFaultless hother hother')
      rw [rulesOf_of_not_hasFaultless hfree, rulesOf_of_not_hasFaultless hnone]
      exact iff_of_true rfl (Or.inl hfree)
  · intro other halike hmended hfree
    rw [ofConfig_eq_iff hfilter, rulesOf_of_hasFaultless hfree,
      rulesOf_of_hasFaultless (halike.hasFaultless hfaulty hfree)]
    exact halike.readRules_eq (by rw [hmended, RuleFile.withoutFaults])

/-! ## A faulty line in front of a rule -/

/-- A tree with a root ignore file that is free of faults, and perhaps another ignore file. -/
def layeredTree (rules : Option String) : FileTree where
  entries := (".gitignore", .file "*.tmp\n".toUTF8) ::
    rules.toList.map fun text => ("rules", .file text.toUTF8)
  workingDirectory := []

def layeredConfig : ScanConfig :=
  { ScanConfig.standard ⟨"."⟩ 1 with ignoreFile := some ⟨"rules"⟩ }

/-- A line on which the range of a class runs backwards, and a line with a rule. -/
def faultyRules : String := "[z-a]\n*.dialogue\n"

theorem alikeBut_layered (rules rules' : Option String) :
    AlikeBut ⟨"rules"⟩ layeredConfig (layeredTree rules) (layeredTree rules') := by
  have hpaths : rulePaths layeredConfig = [⟨"./.gitignore"⟩, ⟨"rules"⟩] := by decide +kernel
  intro q hq hne
  rw [hpaths, List.mem_cons, List.mem_singleton] at hq
  rcases hq with rfl | rfl
  · rfl
  · exact absurd rfl hne

theorem faults_faultyRules :
    (RuleFile.read (layeredTree (some faultyRules)) ⟨"rules"⟩).faults ≠ [] := by
  decide +kernel

/-- What the filters with the faulty file and without it say of a file that the rule is about. -/
theorem ignores_layered :
    (ofConfig (layeredTree (some faultyRules)) layeredConfig).toOption.map
        (·.ignores ⟨"./a.dialogue"⟩ false) = some true ∧
      (ofConfig (layeredTree none) layeredConfig).toOption.map
        (·.ignores ⟨"./a.dialogue"⟩ false) = some false := by
  decide +kernel

theorem faulty_rules_count_in_layers :
    ⟨"rules"⟩ ∈ rulePaths layeredConfig ∧
      (RuleFile.read (layeredTree (some faultyRules)) ⟨"rules"⟩).faults ≠ [] ∧
      ∃ filter, ofConfig (layeredTree (some faultyRules)) layeredConfig = .ok filter ∧
        ofConfig (layeredTree (some "\n*.dialogue\n")) layeredConfig = .ok filter ∧
        ofConfig (layeredTree none) layeredConfig ≠ .ok filter := by
  have hp : ⟨"rules"⟩ ∈ rulePaths layeredConfig := by decide +kernel
  have hfree : HasFaultless layeredConfig (layeredTree (some faultyRules)) :=
    ⟨⟨"./.gitignore"⟩, by decide +kernel, rfl⟩
  have hsome := ignores_layered.1
  cases hfilter : ofConfig (layeredTree (some faultyRules)) layeredConfig with
  | error e =>
      rw [hfilter] at hsome
      cases hsome
  | ok filter =>
      obtain ⟨hmissing, hmended⟩ := faulty_file_counts_beside_faultless hfilter hp faults_faultyRules
      refine ⟨hp, faults_faultyRules, filter, rfl, ?_, ?_⟩
      · exact hmended _ (alikeBut_layered _ _) rfl hfree
      · rw [ne_eq, hmissing _ (alikeBut_layered _ _) (by decide +kernel), not_or]
        exact ⟨not_not.mpr hfree, by decide +kernel⟩

/-- The rule of a faulty file counts, which it would not if the file were missing. -/
theorem faulty_file_leaves_rule :
    AlikeBut ⟨"rules"⟩ layeredConfig (layeredTree (some faultyRules)) (layeredTree none) ∧
      (RuleFile.read (layeredTree (some faultyRules)) ⟨"rules"⟩).faults ≠ [] ∧
      (layeredTree none).contains ⟨"rules"⟩ = false ∧
      (ofConfig (layeredTree (some faultyRules)) layeredConfig).toOption.map
        (·.ignores ⟨"./a.dialogue"⟩ false) = some true ∧
      (ofConfig (layeredTree none) layeredConfig).toOption.map
        (·.ignores ⟨"./a.dialogue"⟩ false) = some false :=
  ⟨alikeBut_layered _ _, faults_faultyRules, by decide +kernel, ignores_layered⟩

end IgnoreFilter

end DialogueIndex
