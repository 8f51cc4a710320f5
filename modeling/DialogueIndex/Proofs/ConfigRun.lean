import DialogueIndex.ScanConfig

/-! # Runs of changes to a configuration

A configuration is set up by one change after the other. A change that fails is passed over. In the
end each setting has the value that the last change to give it one gave it, however many other
settings were given values in between; a setting that no change gives a value keeps the one it had.
-/

namespace DialogueIndex

/-- What changes can give a value. -/
inductive Setting where
  | extensions
  | ignorePatterns
  | ignoreFile
  | threads
  | maxFileSize
  | followLinks
  | includeHidden
  | includeUntitled
deriving DecidableEq, Repr

namespace Setting

/-- The values of a setting. -/
abbrev Value : Setting → Type
  | extensions => List String
  | ignorePatterns => List String
  | ignoreFile => Option Path
  | threads => Nat
  | maxFileSize => Nat
  | followLinks => Bool
  | includeHidden => Bool
  | includeUntitled => Bool

/-- The value of a setting in a configuration. -/
def of (config : ScanConfig) : (s : Setting) → s.Value
  | extensions => config.extensions
  | ignorePatterns => config.ignorePatterns
  | ignoreFile => config.ignoreFile
  | threads => config.threads
  | maxFileSize => config.maxFileSize
  | followLinks => config.followLinks
  | includeHidden => config.includeHidden
  | includeUntitled => config.includeUntitled

end Setting

/-- The value that a settings text gives a setting: there is one exactly if the text has the key. A
relative ignore file is one below the root. -/
def Settings.given? (settings : Settings) (root : Path) : (s : Setting) → Option s.Value
  | .extensions => settings.extensions
  | .ignorePatterns => settings.ignore
  | .ignoreFile => settings.ignoreFile.map fun text => some (root.join text)
  | .threads => settings.threads
  | .maxFileSize => settings.maxFileSize
  | .followLinks => settings.followLinks
  | .includeHidden => settings.includeHidden
  | .includeUntitled => settings.includeUntitled

/-- What the settings file at a path says, if it can be read. -/
def settingsAt? (tree : FileTree) (file : Path) : Option Settings :=
  (tree.readText file).toOption.bind Settings.ofText?

namespace ConfigChange

/-- The settings file that a change reads. The one of the root is read only if there is one. -/
def source? (root : Path) (tree : FileTree) : ConfigChange → Option Path
  | load file => some file
  | loadOwn =>
    if tree.isFile (root.join ScanConfig.settingsName) then some (root.join ScanConfig.settingsName)
    else none
  | _ => none

/-- The value that a change gives a setting by itself. -/
def own? : ConfigChange → (s : Setting) → Option s.Value
  | extensions value, .extensions => some value
  | ignorePatterns value, .ignorePatterns => some value
  | ignoreFile value, .ignoreFile => some (some value)
  | threads value, .threads => some value
  | maxFileSize value, .maxFileSize => some value
  | followLinks value, .followLinks => some value
  | includeHidden value, .includeHidden => some value
  | includeUntitled value, .includeUntitled => some value
  | _, _ => none

/-- The value that a change gives a setting, by itself or through the file that it reads. -/
def given? (root : Path) (tree : FileTree) (change : ConfigChange) (s : Setting) :
    Option s.Value :=
  match change.source? root tree with
  | some file => (settingsAt? tree file).bind (·.given? root s)
  | none => change.own? s

end ConfigChange

namespace ScanConfig

/-- A change together with the files that it sees. -/
abbrev Call := FileTree × ConfigChange

/-- The configuration after changes. One that fails leaves the configuration as it is. -/
def run (config : ScanConfig) : List Call → ScanConfig
  | [] => config
  | (tree, change) :: calls =>
    match config.change tree change with
    | .ok next => next.run calls
    | .error _ => config.run calls

/-- The changes in a run that do not fail. -/
def succeeding (config : ScanConfig) : List Call → List Call
  | [] => []
  | (tree, change) :: calls =>
    match config.change tree change with
    | .ok next => (tree, change) :: next.succeeding calls
    | .error _ => config.succeeding calls

variable {config next : ScanConfig} {tree : FileTree} {change : ConfigChange}

/-- The value that the last of some changes to give a setting one gives it. -/
def lastGiven? (root : Path) (calls : List Call) (s : Setting) : Option s.Value :=
  calls.reverse.findSome? fun (tree, change) => change.given? root tree s

theorem lastGiven?_cons (root : Path) (call : Call) (calls : List Call) (s : Setting) :
    lastGiven? root (call :: calls) s =
      (lastGiven? root calls s).or (call.2.given? root call.1 s) := by
  rw [lastGiven?, List.reverse_cons, List.findSome?_append, List.findSome?_singleton]
  rfl

/-! ## One change -/

theorem of_apply (config : ScanConfig) (settings : Settings) (s : Setting) :
    s.of (config.apply settings) = (settings.given? config.root s).getD (s.of config) := by
  cases s with
  | ignoreFile =>
      change (settings.ignoreFile.map config.root.join).or config.ignoreFile = _
      rw [Settings.given?]
      cases settings.ignoreFile <;> rfl
  | _ => rfl

/-- Configurations with the same root and the same settings are the same. -/
theorem eq_of_settings {other : ScanConfig} (hroot : config.root = other.root)
    (hof : ∀ s : Setting, s.of config = s.of other) : config = other := by
  cases config
  cases other
  cases hroot
  cases hof .extensions
  cases hof .ignorePatterns
  cases hof .ignoreFile
  cases hof .threads
  cases hof .maxFileSize
  cases hof .followLinks
  cases hof .includeHidden
  cases hof .includeUntitled
  rfl

/-- Settings that are there already change nothing. -/
theorem apply_apply (config : ScanConfig) (settings : Settings) :
    (config.apply settings).apply settings = config.apply settings := by
  refine eq_of_settings rfl fun s => ?_
  have hgiven : (config.apply settings).root = config.root := rfl
  rw [of_apply, of_apply, hgiven]
  cases settings.given? config.root s <;> rfl

/-- Loading a file lays over the configuration what the file says. -/
theorem load_eq_ok_iff {file : Path} :
    config.load tree file = .ok next ↔
      ∃ settings, settingsAt? tree file = some settings ∧ config.apply settings = next := by
  rw [load, settingsAt?]
  cases tree.readText file with
  | error cause => simp [Except.toOption]
  | ok text => cases hsettings : Settings.ofText? text <;> simp [Except.toOption, hsettings]

/-- A change that reads a file is the loading of that file. -/
theorem change_of_source? {file : Path} (hsource : change.source? config.root tree = some file) :
    config.change tree change = config.load tree file := by
  cases change with
  | load own =>
      cases hsource
      rfl
  | loadOwn =>
      rw [ConfigChange.source?] at hsource
      split at hsource
      next hfile =>
        cases hsource
        exact if_pos hfile
      next => cases hsource
  | _ => cases hsource

/-- A change that reads no file does not fail. -/
theorem change_of_source?_eq_none (hsource : change.source? config.root tree = none) :
    ∃ next, config.change tree change = .ok next ∧ next.root = config.root ∧
      ∀ s : Setting, s.of next = (change.own? s).getD (s.of config) := by
  cases change with
  | load file => cases hsource
  | loadOwn =>
      rw [ConfigChange.source?] at hsource
      split at hsource
      next => cases hsource
      next hfile => exact ⟨config, if_neg hfile, rfl, fun _ => rfl⟩
  | _ =>
      refine ⟨_, rfl, rfl, fun s => ?_⟩
      cases s <;> rfl

/-- A change does nothing but give values to settings. -/
theorem change_eq_ok_imp (hchange : config.change tree change = .ok next) :
    next.root = config.root ∧
      ∀ s : Setting, s.of next = (change.given? config.root tree s).getD (s.of config) := by
  cases hsource : change.source? config.root tree with
  | some file =>
      rw [change_of_source? hsource] at hchange
      obtain ⟨settings, hsettings, rfl⟩ := load_eq_ok_iff.mp hchange
      refine ⟨rfl, fun s => ?_⟩
      have hgiven : change.given? config.root tree s = settings.given? config.root s := by
        rw [ConfigChange.given?, hsource]
        exact congrArg (Option.bind · _) hsettings
      rw [hgiven, of_apply]
  | none =>
      obtain ⟨other, hother, hroot, hof⟩ := change_of_source?_eq_none hsource
      cases hchange.symm.trans hother
      refine ⟨hroot, fun s => ?_⟩
      rw [ConfigChange.given?, hsource]
      exact hof s

/-- Two files with the same text, loaded one after the other, have the effect of one. -/
theorem load_bind_load {other : FileTree} {file file' : Path}
    (hread : tree.readText file = other.readText file') :
    (config.load tree file).bind (·.load other file') = config.load tree file := by
  cases hload : config.load tree file with
  | error e => rfl
  | ok next =>
      obtain ⟨settings, hsettings, rfl⟩ := load_eq_ok_iff.mp hload
      refine load_eq_ok_iff.mpr ⟨settings, ?_, config.apply_apply settings⟩
      rw [settingsAt?, ← hread]
      exact hsettings

/-! ## Many changes -/

theorem run_root (config : ScanConfig) (calls : List Call) :
    (config.run calls).root = config.root := by
  induction calls generalizing config with
  | nil => rfl
  | cons call calls ih =>
      rw [run]
      split
      next next hchange => rw [ih, (change_eq_ok_imp hchange).1]
      next => exact ih config

/-- In the end a setting has the value that the last of the changes that do not fail gave it. -/
theorem of_run (config : ScanConfig) (calls : List Call) (s : Setting) :
    s.of (config.run calls) =
      (lastGiven? config.root (config.succeeding calls) s).getD (s.of config) := by
  induction calls generalizing config with
  | nil => rfl
  | cons call calls ih =>
      rw [run, succeeding]
      split
      next next hchange =>
        obtain ⟨hroot, hof⟩ := change_eq_ok_imp hchange
        rw [ih, hroot, hof, lastGiven?_cons, Option.getD_or]
      next => exact ih config

/-- However a configuration is changed, it keeps its root, and each setting has the value that the
last change to give it one gave it, of those that do not fail. The settings file of the root is
loaded like any other if it is there, and otherwise nothing changes. What a settings file says does
not count twice. -/
theorem settings_keep_last_value (config : ScanConfig) (calls : List Call) :
    (config.run calls).root = config.root ∧
    (∀ s : Setting, s.of (config.run calls) =
      (lastGiven? config.root (config.succeeding calls) s).getD (s.of config)) ∧
    (∀ tree, config.change tree .loadOwn =
      if tree.isFile (config.root.join "mta-dialogue.toml") then
        config.change tree (.load (config.root.join "mta-dialogue.toml"))
      else .ok config) ∧
    (∀ (tree other : FileTree) (file file' : Path),
      tree.readText file = other.readText file' →
      (config.change tree (.load file)).bind (·.change other (.load file')) =
        config.change tree (.load file)) :=
  ⟨config.run_root calls, config.of_run calls, fun _ => rfl, fun _ _ _ _ => load_bind_load⟩

/-- A project with its settings file, a copy of it, and a file that holds no settings. -/
def copiedSettings : FileTree where
  entries := [("p", .directory [
    ("mta-dialogue.toml", .file "threads = 2\nignore_file = \"rules\"\n".toUTF8),
    ("copy", .file "threads = 2\nignore_file = \"rules\"\n".toUTF8),
    ("notes", .file "threads = 3\ncolour = true\n".toUTF8)])]
  workingDirectory := []

/-- Changes of which the fourth fails. -/
def copiedCalls : List Call :=
  [.threads 5, .loadOwn, .extensions ["dlg"], .load ⟨"/p/notes"⟩, .threads 4, .load ⟨"/p/copy"⟩].map
    (copiedSettings, ·)

theorem settings_keep_last_value_copied :
    let config := ScanConfig.standard ⟨"/p"⟩ 1
    (config.succeeding copiedCalls).length = 5 ∧
    Setting.threads.of (config.run copiedCalls) = 2 ∧
    Setting.extensions.of (config.run copiedCalls) = ["dlg"] ∧
    Setting.ignoreFile.of (config.run copiedCalls) = some ⟨"/p/rules"⟩ ∧
    copiedSettings.readText ⟨"/p/mta-dialogue.toml"⟩ = copiedSettings.readText ⟨"/p/copy"⟩ ∧
    (config.change copiedSettings (.load ⟨"/p/mta-dialogue.toml"⟩)).bind
        (·.change copiedSettings (.load ⟨"/p/copy"⟩)) =
      config.change copiedSettings (.load ⟨"/p/mta-dialogue.toml"⟩) := by
  intro config
  obtain ⟨_, hof, _, htwice⟩ := settings_keep_last_value config copiedCalls
  have hread : copiedSettings.readText ⟨"/p/mta-dialogue.toml"⟩ =
      copiedSettings.readText ⟨"/p/copy"⟩ := by rfl
  refine ⟨by decide +kernel, ?_, ?_, ?_, hread, htwice _ _ _ _ hread⟩
  · rw [hof]
    decide +kernel
  · rw [hof]
    decide +kernel
  · rw [hof]
    decide +kernel

end ScanConfig

end DialogueIndex
