import DialogueIndex.CommandLine.Run
import DialogueIndex.Proofs.ConfigRun

/-! # The layers of the configuration of a run

The configuration of a run has three layers: what is standard, what one settings file says, and the
arguments. An argument goes before the settings file, and that before what is standard, except that
ignore patterns add up and that the ignore file is seen from the root. Besides the settings file
that counts for the run no file has any influence.
-/

namespace DialogueIndex

/-- Why a settings file cannot be loaded: it cannot be read, or what is read holds no settings. -/
inductive CannotLoad (tree : FileTree) (file : Path) : ConfigError → Prop
  | unreadable {cause : FileError} (hread : tree.readText file = .error cause) :
      CannotLoad tree file (.unreadable cause)
  | settings {text : String} (hread : tree.readText file = .ok text)
      (htext : Settings.ofText? text = none) : CannotLoad tree file .settings

theorem CannotLoad.load_eq_error {tree : FileTree} {file : Path} {error : ConfigError}
    (hcannot : CannotLoad tree file error) (config : ScanConfig) :
    config.load tree file = .error error := by
  rw [ScanConfig.load]
  cases hcannot with
  | unreadable hread => rw [hread]
  | settings hread htext =>
      rw [hread]
      dsimp only
      rw [htext]

/-- A settings file says something unless it cannot be loaded. -/
theorem settingsAt?_eq_none_iff {tree : FileTree} {file : Path} :
    settingsAt? tree file = none ↔ ∃ error, CannotLoad tree file error := by
  rw [settingsAt?]
  constructor
  · intro hnone
    cases hread : tree.readText file with
    | error cause => exact ⟨_, .unreadable hread⟩
    | ok text =>
        rw [hread] at hnone
        exact ⟨_, .settings hread hnone⟩
  · rintro ⟨error, hread | ⟨hread, htext⟩⟩
    · rw [hread]
      rfl
    · rw [hread]
      exact htext

namespace CommandLine

namespace Arguments

/-- The settings file that counts for a run: the one that is asked for, or else the one in the root
if the root is a directory that has one. -/
def settingsFile? (args : Arguments) (tree : FileTree) (root : Path) : Option Path :=
  match args.config with
  | some file => some file
  | none =>
    if tree.isDirectory root ∧ tree.isFile (root.join "mta-dialogue.toml") then
      some (root.join "mta-dialogue.toml")
    else none

/-- What the settings file says that counts for a run. If none does, nothing is said. -/
def settings? (args : Arguments) (tree : FileTree) (root : Path) : Option Settings :=
  match args.settingsFile? tree root with
  | some file => settingsAt? tree file
  | none => some {}

/-- What is tried when a settings file is loaded. -/
def loading (args : Arguments) : String :=
  match args.config with
  | some file => "Failed to load config " ++ file.text
  | none => "Failed to load mta-dialogue.toml"

/-- The configuration of a run, setting by setting. -/
def layered (args : Arguments) (processors : Nat) (root : Path) (settings : Settings) :
    ScanConfig where
  root := root
  extensions :=
    if args.extensions = [] then settings.extensions.getD ["dialogue"] else args.extensions
  ignorePatterns := settings.ignore.getD [] ++ args.ignore
  ignoreFile := settings.ignoreFile.map root.join
  threads := (args.threads.or settings.threads).getD processors
  maxFileSize := settings.maxFileSize.getD (10 * 1024 * 1024)
  followLinks := settings.followLinks.getD false
  includeHidden := settings.includeHidden.getD false
  includeUntitled := if args.noUntitled then false else settings.includeUntitled.getD true

variable {args : Arguments} {tree other : FileTree} {root file : Path}

/-! ## The settings file -/

/-- If a settings file counts, it is loaded. -/
theorem withSettings_of_settingsFile? (config : ScanConfig)
    (hfile : args.settingsFile? tree config.root = some file) :
    args.withSettings tree config =
      attempt args.loading ConfigError.causes (config.load tree file) := by
  rw [settingsFile?] at hfile
  rw [withSettings, loading]
  cases hconfig : args.config with
  | some asked =>
      rw [hconfig] at hfile
      cases hfile
      rfl
  | none =>
      rw [hconfig] at hfile
      dsimp only at hfile ⊢
      split at hfile
      next hown =>
        cases hfile
        have hload : config.loadOwn tree = config.load tree config.ownSettings := if_pos hown.2
        rw [if_pos hown.1, hload]
        rfl
      next => cases hfile

/-- If no settings file counts, nothing is loaded. -/
theorem withSettings_of_settingsFile?_eq_none (config : ScanConfig)
    (hfile : args.settingsFile? tree config.root = none) :
    args.withSettings tree config = .ok config := by
  rw [settingsFile?] at hfile
  rw [withSettings]
  cases hconfig : args.config with
  | some asked =>
      rw [hconfig] at hfile
      cases hfile
  | none =>
      rw [hconfig] at hfile
      dsimp only at hfile ⊢
      split at hfile
      next => cases hfile
      next hown =>
        split
        next hdirectory =>
          have hload : config.loadOwn tree = .ok config :=
            if_neg fun hexists => hown ⟨hdirectory, hexists⟩
          rw [hload]
          rfl
        next => rfl

/-! ## The layers -/

/-- The arguments are laid over what the settings make of the standard. -/
theorem applyTo_standard_apply (args : Arguments) (processors : Nat) (root : Path)
    (settings : Settings) :
    args.applyTo ((ScanConfig.standard root processors).apply settings) =
      args.layered processors root settings := by
  refine ScanConfig.eq_of_settings rfl fun s => ?_
  cases s with
  | extensions =>
      change (if args.extensions.isEmpty then _ else args.extensions) = _
      simp only [List.isEmpty_iff]
      rfl
  | ignoreFile =>
      change (settings.ignoreFile.map root.join).or none = _
      rw [Option.or_none]
      rfl
  | threads =>
      change args.threads.getD (settings.threads.getD processors) = _
      rw [← Option.getD_or]
      rfl
  | includeUntitled =>
      change (settings.includeUntitled.getD true && !args.noUntitled) =
        if args.noUntitled then false else settings.includeUntitled.getD true
      cases args.noUntitled <;> simp
  | _ => rfl

/-- Nothing is laid over a configuration by settings that say nothing. -/
theorem apply_nothing (config : ScanConfig) : config.apply {} = config := rfl

/-- A run without settings has what is standard under its arguments. -/
theorem scanConfig_of_settingsFile?_eq_none {env : Environment}
    (hfile : args.settingsFile? tree root = none) :
    args.scanConfig env tree root = .ok (args.layered env.processors root {}) := by
  have hstandard := applyTo_standard_apply args env.processors root {}
  rw [apply_nothing] at hstandard
  rw [scanConfig, withSettings_of_settingsFile?_eq_none (.standard root _) hfile, ← hstandard]
  rfl

theorem scanConfig_of_settingsAt?_eq_some {env : Environment} {settings : Settings}
    (hfile : args.settingsFile? tree root = some file)
    (hsettings : settingsAt? tree file = some settings) :
    args.scanConfig env tree root = .ok (args.layered env.processors root settings) := by
  have hload : (ScanConfig.standard root env.processors).load tree file =
      .ok ((ScanConfig.standard root env.processors).apply settings) :=
    ScanConfig.load_eq_ok_iff.mpr ⟨settings, hsettings, rfl⟩
  rw [scanConfig, withSettings_of_settingsFile? (.standard root _) hfile, hload,
    ← applyTo_standard_apply]
  rfl

theorem scanConfig_of_cannotLoad {env : Environment} {error : ConfigError}
    (hfile : args.settingsFile? tree root = some file) (hcannot : CannotLoad tree file error) :
    args.scanConfig env tree root = .error ⟨args.loading, error.causes⟩ := by
  rw [scanConfig, withSettings_of_settingsFile? (.standard root _) hfile, hcannot.load_eq_error]
  rfl

/-- The configuration of a run depends on the settings file that counts, and on no other file. -/
theorem scanConfig_congr (env : Environment)
    (hfile : args.settingsFile? other root = args.settingsFile? tree root)
    (hread : ∀ file, args.settingsFile? tree root = some file →
      other.readText file = tree.readText file) :
    args.scanConfig env other root = args.scanConfig env tree root := by
  cases hcounts : args.settingsFile? tree root with
  | none =>
      rw [scanConfig_of_settingsFile?_eq_none hcounts,
        scanConfig_of_settingsFile?_eq_none (hfile.trans hcounts)]
  | some file =>
      have hload : ∀ config : ScanConfig, config.load other file = config.load tree file := by
        intro config
        rw [ScanConfig.load, ScanConfig.load, hread file hcounts]
      rw [scanConfig, scanConfig, withSettings_of_settingsFile? (.standard root _) hcounts,
        withSettings_of_settingsFile? (.standard root _) (hfile.trans hcounts), hload]

end Arguments

/-- A run has no configuration if the settings file that counts for it cannot be read or holds no
settings, and then it says so. Otherwise each setting is taken from the arguments, or else from that
file, or else from what is standard. Trees in which the same settings file counts and has the same
text give the same configuration, or the same failure. -/
theorem configuration_in_layers (args : Arguments) (env : Environment) (tree : FileTree)
    (root : Path) :
    ((∃ file error, args.settingsFile? tree root = some file ∧ CannotLoad tree file error ∧
        args.scanConfig env tree root = .error ⟨args.loading, error.causes⟩) ∨
      ∃ settings, args.settings? tree root = some settings ∧
        args.scanConfig env tree root = .ok (args.layered env.processors root settings)) ∧
    ∀ other : FileTree, args.settingsFile? other root = args.settingsFile? tree root →
      (∀ file, args.settingsFile? tree root = some file →
        other.readText file = tree.readText file) →
      args.scanConfig env other root = args.scanConfig env tree root := by
  refine ⟨?_, fun other => Arguments.scanConfig_congr env⟩
  cases hfile : args.settingsFile? tree root with
  | none =>
      have hsettings : args.settings? tree root = some {} := by
        rw [Arguments.settings?, hfile]
      exact Or.inr ⟨{}, hsettings, Arguments.scanConfig_of_settingsFile?_eq_none hfile⟩
  | some file =>
      cases hsettings : settingsAt? tree file with
      | none =>
          obtain ⟨error, hcannot⟩ := settingsAt?_eq_none_iff.mp hsettings
          exact Or.inl ⟨file, error, rfl, hcannot,
            Arguments.scanConfig_of_cannotLoad hfile hcannot⟩
      | some settings =>
          have hsays : args.settings? tree root = some settings := by
            rw [Arguments.settings?, hfile]
            exact hsettings
          exact Or.inr ⟨settings, hsays,
            Arguments.scanConfig_of_settingsAt?_eq_some hfile hsettings⟩

/-- A project with settings of its own, and settings that lie elsewhere. -/
def elsewhereTree (own : String) : FileTree where
  entries := [("p", .directory [("mta-dialogue.toml", .file own.toUTF8)]),
    ("chosen", .file
      "extensions = [\"dlg\"]\nignore = [\"**/drafts/**\"]\nignore_file = \"rules\"\n".toUTF8)]
  workingDirectory := []

/-- A run that is asked to take the settings that lie elsewhere. -/
def elsewhereRun : Arguments :=
  ⟨.scan ⟨"/p"⟩, .json, none, some ⟨"/chosen"⟩, [], ["*.tmp"], true, some 3, false⟩

/-- The settings of the project are not looked at, even if they make no sense. -/
theorem configuration_in_layers_elsewhere :
    elsewhereRun.settingsFile? (elsewhereTree "threads = 9") ⟨"/p"⟩ = some ⟨"/chosen"⟩ ∧
    elsewhereRun.settingsFile? (elsewhereTree "=") ⟨"/p"⟩ = some ⟨"/chosen"⟩ ∧
    (∀ env, elsewhereRun.scanConfig env (elsewhereTree "=") ⟨"/p"⟩ =
      elsewhereRun.scanConfig env (elsewhereTree "threads = 9") ⟨"/p"⟩) ∧
    ∀ env, elsewhereRun.scanConfig env (elsewhereTree "threads = 9") ⟨"/p"⟩ =
      .ok ⟨⟨"/p"⟩, ["dlg"], ["**/drafts/**", "*.tmp"], some ⟨"/p/rules"⟩, 3, 10 * 1024 * 1024,
        false, false, false⟩ := by
  have hread : ∀ own, (elsewhereTree own).readText ⟨"/chosen"⟩ =
      (elsewhereTree "threads = 9").readText ⟨"/chosen"⟩ := fun _ => rfl
  have hsays : settingsAt? (elsewhereTree "threads = 9") ⟨"/chosen"⟩ =
      some { extensions := some ["dlg"], ignore := some ["**/drafts/**"],
             ignoreFile := some "rules" } := by
    decide +kernel
  refine ⟨rfl, rfl, fun env => ?_, fun env => ?_⟩
  · refine (configuration_in_layers elsewhereRun env _ ⟨"/p"⟩).2 _ rfl ?_
    rintro file hfile
    cases hfile
    exact hread "="
  · rcases (configuration_in_layers elsewhereRun env (elsewhereTree "threads = 9") ⟨"/p"⟩).1 with
      ⟨file, error, hfile, hcannot, _⟩ | ⟨settings, hsettings, hconfig⟩
    · cases hfile
      cases hsays.symm.trans (settingsAt?_eq_none_iff.mpr ⟨error, hcannot⟩)
    · cases hsettings.symm.trans hsays
      rw [hconfig]
      rfl

end CommandLine

end DialogueIndex
