import DialogueIndex.CommandLine.Run
import DialogueIndex.Proofs.FileTree.Write

/-! # What a run leaves behind

A run looks at the file tree and makes a report, or a notice, or fails. Only a report is written
anywhere, and only when all else is done; so the file for the output is all that a run ever changes,
and what is in it is what the run without that file prints.
-/

namespace DialogueIndex

namespace CommandLine

theorem bind_eq_ok_iff {ε α β : Type} {x : Except ε α} {f : α → Except ε β} {b : β} :
    x.bind f = .ok b ↔ ∃ a, x = .ok a ∧ f a = .ok b := by
  cases x <;> simp [Except.bind]

theorem attempt_eq_ok_iff {ε α : Type} {text : String} {causes : ε → List String}
    {result : Except ε α} {a : α} : attempt text causes result = .ok a ↔ result = .ok a := by
  cases result <;> simp [attempt, Except.mapError]

namespace Arguments

variable {args : Arguments} {env : Environment} {tree : FileTree}

/-- The section behind a reference or a name is looked for in a file that can be read, and there is
none. -/
def FindsNothing (args : Arguments) (env : Environment) (tree : FileTree) : Prop :=
  match args.command with
  | .definition p position =>
    ∃ config, args.scanConfig env tree (settingsDirectory p) = .ok config ∧
      config.findDefinition tree p position = .ok none
  | .resolve p name =>
    ∃ config, args.scanConfig env tree (settingsDirectory p) = .ok config ∧
      config.findSection tree p name = .ok none
  | _ => False

theorem scanProduct_ne_notice (p : Path) (text : String) :
    args.scanProduct env tree p ≠ .ok (.notice text) := by
  intro hproduct
  obtain ⟨config, _, hproduct⟩ := bind_eq_ok_iff.mp hproduct
  obtain ⟨scanner, _, hproduct⟩ := bind_eq_ok_iff.mp hproduct
  cases hproduct

theorem outlineProduct_ne_notice (p : Path) (text : String) :
    args.outlineProduct env tree p ≠ .ok (.notice text) := by
  intro hproduct
  obtain ⟨config, _, hproduct⟩ := bind_eq_ok_iff.mp hproduct
  obtain ⟨file, _, hproduct⟩ := bind_eq_ok_iff.mp hproduct
  cases hproduct

/-- What is made of a search depends on what it finds only. -/
theorem search_eq_notice_iff {look : ScanConfig → Except ScanError (Option Definition)} {p : Path}
    {trial notice : String} :
    (∃ text, ((args.scanConfig env tree (settingsDirectory p)).bind fun config =>
        (attempt trial ScanError.causes (look config)).bind fun found =>
          .ok (args.definitionProduct notice found)) = .ok (.notice text)) ↔
      ∃ config, args.scanConfig env tree (settingsDirectory p) = .ok config ∧
        look config = .ok none := by
  constructor
  · rintro ⟨text, hproduct⟩
    obtain ⟨config, hconfig, hproduct⟩ := bind_eq_ok_iff.mp hproduct
    obtain ⟨found, hfound, hproduct⟩ := bind_eq_ok_iff.mp hproduct
    refine ⟨config, hconfig, ?_⟩
    cases found with
    | none => exact attempt_eq_ok_iff.mp hfound
    | some definition => cases hproduct
  · rintro ⟨config, hconfig, hnone⟩
    have hfound : attempt trial ScanError.causes (look config) = .ok none :=
      attempt_eq_ok_iff.mpr hnone
    exact ⟨notice, bind_eq_ok_iff.mpr ⟨config, hconfig, bind_eq_ok_iff.mpr ⟨none, hfound, rfl⟩⟩⟩

/-- A notice is given exactly when a section is looked for and there is none. -/
theorem product_eq_notice_iff :
    (∃ text, args.product env tree = .ok (.notice text)) ↔ args.FindsNothing env tree := by
  rw [product, FindsNothing]
  cases args.command with
  | scan p =>
      dsimp only
      split_ifs
      · simp [scanProduct_ne_notice]
      · simp [outlineProduct_ne_notice]
      · simp
  | outline p => simp [outlineProduct_ne_notice]
  | definition p position => exact search_eq_notice_iff
  | resolve p name => exact search_eq_notice_iff

/-! ## What is written -/

/-- A run does one of four things. -/
theorem run_cases (args : Arguments) (env : Environment) (tree : FileTree) :
    (∃ failure, args.product env tree = .error failure ∧
      args.run env tree = failed tree failure) ∨
    (∃ text, args.product env tree = .ok (.notice text) ∧
      args.run env tree = ⟨0, "", text ++ "\n", tree⟩) ∨
    (∃ text, args.product env tree = .ok (.report text) ∧ args.output = none ∧
      args.run env tree = ⟨0, text ++ "\n", "", tree⟩) ∨
    (∃ text file, args.product env tree = .ok (.report text) ∧ args.output = some file ∧
      ((∃ cause, args.run env tree = failed tree ⟨"Failed to write output file", [cause]⟩) ∨
        ∃ written, tree.write file text.toUTF8 = .ok written ∧
          args.run env tree = ⟨0, "", "", written⟩)) := by
  rw [run]
  cases hproduct : args.product env tree with
  | error failure => exact Or.inl ⟨failure, rfl, rfl⟩
  | ok product =>
      cases product with
      | notice text => exact Or.inr (Or.inl ⟨text, rfl, rfl⟩)
      | report text =>
          cases houtput : args.output with
          | none => exact Or.inr (Or.inr (Or.inl ⟨text, rfl, rfl, rfl⟩))
          | some file =>
              refine Or.inr (Or.inr (Or.inr ⟨text, file, rfl, rfl, ?_⟩))
              dsimp only
              cases hwrite : tree.write file text.toUTF8 with
              | error cause => exact Or.inl ⟨cause.message, rfl⟩
              | ok written => exact Or.inr ⟨written, rfl, rfl⟩

theorem run_of_findsNothing (hnothing : args.FindsNothing env tree) :
    ∃ text, args.run env tree = ⟨0, "", text ++ "\n", tree⟩ := by
  obtain ⟨text, hproduct⟩ := product_eq_notice_iff.mpr hnothing
  exact ⟨text, by rw [run, hproduct]⟩

/-- What is reported does not depend on where the report goes. -/
theorem run_without_output {text : String} (hproduct : args.product env tree = .ok (.report text)) :
    { args with output := none }.run env tree = ⟨0, text ++ "\n", "", tree⟩ := by
  have hsame : { args with output := none }.product env tree = .ok (.report text) := hproduct
  rw [run, hsame]

/-- Only a run that succeeds changes files, and only the one for the output. -/
theorem run_tree_cases (args : Arguments) (env : Environment) (tree : FileTree) :
    (args.run env tree).tree = tree ∨ (args.run env tree).status = 0 ∧
      ∃ file place, args.output = some file ∧ tree.locate .created file = .ok place ∧
        tree.IsWritable place ∧ FileTree.SameBut place tree (args.run env tree).tree := by
  rcases run_cases args env tree with ⟨_, _, hrun⟩ | ⟨_, _, hrun⟩ | ⟨_, _, _, hrun⟩ |
    ⟨text, file, _, houtput, ⟨cause, hrun⟩ | ⟨written, hwrite, hrun⟩⟩
  · exact Or.inl (by rw [hrun, failed])
  · exact Or.inl (by rw [hrun])
  · exact Or.inl (by rw [hrun])
  · exact Or.inl (by rw [hrun, failed])
  · obtain ⟨place, hlocate, hwritable, hsame, _⟩ := FileTree.write_eq_ok_imp hwrite
    rw [hrun]
    exact Or.inr ⟨rfl, file, place, houtput, hlocate, hwritable, hsame⟩

/-- A report is written to the file for the output as it would be printed. -/
theorem run_writes_report {file : Path} (houtput : args.output = some file)
    (hstatus : (args.run env tree).status = 0) (hfinds : ¬ args.FindsNothing env tree) :
    (args.run env tree).output = "" ∧
      ∃ text, (args.run env tree).tree.readText file = .ok text ∧
        { args with output := none }.run env tree = ⟨0, text ++ "\n", "", tree⟩ := by
  rcases run_cases args env tree with ⟨_, _, hrun⟩ | ⟨text, hproduct, _⟩ | ⟨_, _, hnone, _⟩ |
    ⟨text, _, hproduct, hsome, ⟨cause, hrun⟩ | ⟨written, hwrite, hrun⟩⟩
  · rw [hrun] at hstatus
    cases hstatus
  · exact absurd (product_eq_notice_iff.mp ⟨text, hproduct⟩) hfinds
  · cases houtput.symm.trans hnone
  · rw [hrun] at hstatus
    cases hstatus
  · cases houtput.symm.trans hsome
    obtain ⟨place, _, _, _, hread⟩ := FileTree.write_eq_ok_imp hwrite
    have htext : written.readText file = .ok text := FileTree.readText_of_read_toUTF8 hread
    rw [hrun]
    exact ⟨rfl, text, htext, run_without_output hproduct⟩

end Arguments

/-- A run changes nothing but the file that is given for the output. It changes nothing at all when
it fails, and when a section is looked for and not found. If it makes a report, the file has the
text that the run without a file for the output prints, and nothing is printed. -/
theorem run_changes_output_file_only (args : Arguments) (env : Environment) (tree : FileTree) :
    ((args.run env tree).tree = tree ∨
      ∃ file place, args.output = some file ∧ tree.locate .created file = .ok place ∧
        tree.IsWritable place ∧ FileTree.SameBut place tree (args.run env tree).tree) ∧
    ((args.run env tree).status ≠ 0 → (args.run env tree).tree = tree) ∧
    (args.FindsNothing env tree →
      (args.run env tree).status = 0 ∧ (args.run env tree).tree = tree) ∧
    (∀ file, args.output = some file → (args.run env tree).status = 0 →
      ¬ args.FindsNothing env tree →
      (args.run env tree).output = "" ∧
      ∃ text, (args.run env tree).tree.readText file = .ok text ∧
        { args with output := none }.run env tree = ⟨0, text ++ "\n", "", tree⟩) := by
  have hcases := args.run_tree_cases env tree
  refine ⟨hcases.imp_right And.right, ?_, ?_, fun _ => Arguments.run_writes_report⟩
  · exact fun hfailed => hcases.resolve_right fun h => hfailed h.1
  · intro hnothing
    obtain ⟨text, hrun⟩ := Arguments.run_of_findsNothing hnothing
    rw [hrun]
    exact ⟨rfl, rfl⟩

/-- A project with a script and a link that leads to no file yet. -/
def draftTree : FileTree where
  entries := [("a.dialogue", .file "~ start\n=> end\n".toUTF8), ("out", .link "b.dialogue")]
  workingDirectory := []

/-- A run on the project, with the link given for the output. -/
def draftRun (command : Command) : Arguments :=
  ⟨command, .json, some ⟨"out"⟩, none, [], [], false, some 1, false⟩

/-- Nothing is measured. -/
def stillEnvironment : Environment :=
  ⟨1, fun files => .measured 0 files "", .measured 0 1 ""⟩

/-- The scan is written through the link, which makes the file that the link leads to. Neither of
the searches writes anything: one has no file to search in, the other does not find the name. -/
theorem draft_run_changes_output_file_only :
    let scan := draftRun (.scan ⟨"."⟩)
    let unread := draftRun (.resolve ⟨"b.dialogue"⟩ "end")
    let unfound := draftRun (.resolve ⟨"a.dialogue"⟩ "end")
    (scan.output = some ⟨"out"⟩ ∧ (scan.run stillEnvironment draftTree).status = 0 ∧
      ¬ scan.FindsNothing stillEnvironment draftTree ∧
      (scan.run stillEnvironment draftTree).output = "" ∧
      ∃ text, (scan.run stillEnvironment draftTree).tree.readText ⟨"out"⟩ = .ok text ∧
        { scan with output := none }.run stillEnvironment draftTree =
          ⟨0, text ++ "\n", "", draftTree⟩) ∧
    ((unread.run stillEnvironment draftTree).status ≠ 0 ∧
      (unread.run stillEnvironment draftTree).tree = draftTree) ∧
    (unfound.FindsNothing stillEnvironment draftTree ∧
      (unfound.run stillEnvironment draftTree).status = 0 ∧
      (unfound.run stillEnvironment draftTree).tree = draftTree) := by
  intro scan unread unfound
  have hstatus : (scan.run stillEnvironment draftTree).status = 0 := by decide +kernel
  have hfinds : ¬ scan.FindsNothing stillEnvironment draftTree := id
  have hfailed : (unread.run stillEnvironment draftTree).status ≠ 0 := by decide +kernel
  have hnothing : unfound.FindsNothing stillEnvironment draftTree :=
    ⟨.standard ⟨"."⟩ 1, rfl, rfl⟩
  have hscan := run_changes_output_file_only scan stillEnvironment draftTree
  have hunread := run_changes_output_file_only unread stillEnvironment draftTree
  have hunfound := run_changes_output_file_only unfound stillEnvironment draftTree
  exact ⟨⟨rfl, hstatus, hfinds, hscan.2.2.2 ⟨"out"⟩ rfl hstatus hfinds⟩,
    ⟨hfailed, hunread.2.1 hfailed⟩, hnothing, hunfound.2.2.1 hnothing⟩

end CommandLine

end DialogueIndex
