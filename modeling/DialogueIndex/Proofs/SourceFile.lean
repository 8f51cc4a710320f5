import DialogueIndex.Proofs.FileTree.Lookup
import DialogueIndex.Proofs.Outline
import DialogueIndex.Proofs.Reference
import DialogueIndex.SourceFile

/-! # What is found in one file

The section under a cursor, the section of a given name and the entry in the outline are found on
ways of their own through one file. They agree: what a reference leads to is what its token leads
to, and it is an entry that every outline of the file shows, since no token leads to a section
without a name.
-/

namespace DialogueIndex

/-! ## Reading a file -/

namespace ScanConfig

variable {config : ScanConfig} {tree : FileTree} {p : Path} {text : String}

/-- A file that can be read is read, unless it is larger than the configuration allows. -/
theorem readSource_of_readText (hread : tree.readText p = .ok text) :
    ∃ size, tree.size p = .ok size ∧
      config.readSource tree p =
        if config.maxFileSize < size then .error (.tooLarge p size) else .ok text := by
  obtain ⟨place, content, hfind, _⟩ := FileTree.readText_eq_ok_iff.mp hread
  have hsize : tree.size p = .ok content.size := by
    rw [FileTree.size, hfind]
    rfl
  refine ⟨content.size, hsize, ?_⟩
  rw [readSource, hsize, hread]

/-- A file that can be read has on its own the outline that it has under any other path, unless it
is larger than the configuration allows. -/
theorem outlineFile_of_readText (hread : tree.readText p = .ok text) (listed : Path) :
    ∃ size, tree.size p = .ok size ∧
      config.outlineFile tree p =
        if config.maxFileSize < size then .error (.tooLarge p size)
        else .ok { config.outlineText tree text listed p with path := p } := by
  obtain ⟨size, hsize, hsource⟩ := config.readSource_of_readText hread
  refine ⟨size, hsize, ?_⟩
  rw [outlineFile, hsource]
  split <;> rfl

theorem readText_of_readSource (hread : config.readSource tree p = .ok text) :
    tree.readText p = .ok text := by
  rw [readSource] at hread
  split at hread
  next => cases hread
  next =>
    split_ifs at hread
    split at hread
    next => cases hread
    next read hread' =>
      cases hread
      exact hread'

end ScanConfig

/-! ## Tokens and the placeholder -/

/-- A token has no parenthesis, neither as it is written nor in lower case. -/
theorem parenthesis_notMem_lowercase {run : List Char} (hrun : ∀ c ∈ run, isTokenChar c) :
    '(' ∉ lowercase run := by
  intro hmem
  have htoken := hrun '(' (mem_of_mem_lowercase hmem (by decide))
  revert htoken
  decide +kernel

/-- The placeholder starts with a parenthesis, so no token leads to it by key or by beginning. -/
theorem target_ne_untitledName {run : List Char} (hne : run ≠ [])
    (hrun : ∀ c ∈ run, isTokenChar c) {sections : List Section} {r : Resolution}
    (hr : resolve (String.ofList run) sections = some r) : r.target.name ≠ untitledName := by
  intro huntitled
  have hparenthesis := parenthesis_notMem_lowercase hrun
  rcases (resolve_eq_some_iff _ _ r).mp hr with ⟨_, hexact⟩ | ⟨_, _, hleading⟩
  · have hkey : nameKey r.target.name = nameKey (String.ofList run) := hexact.holds
    have hspaceless : ∀ c ∈ run, isSpace c = false :=
      fun c hc => isSpace_eq_false_of_isTokenChar (hrun c hc)
    -- The key of the placeholder has the parenthesis, that of a token has none.
    rw [huntitled, nameKey_ofList_of_forall hspaceless] at hkey
    apply hparenthesis
    rw [← String.toList_ofList (l := lowercase run), ← hkey]
    decide +kernel
  · have hprefix : lowercase (String.ofList run).toList <+: lowercase r.target.name.toList :=
      hleading.holds
    rw [huntitled, String.toList_ofList] at hprefix
    obtain ⟨c, rest, hcons⟩ := List.exists_cons_of_ne_nil (mt lowercase_eq_nil_iff.mp hne)
    have hhead : lowercase untitledName.toList = '(' :: (lowercase untitledName.toList).tail := by
      decide +kernel
    rw [hhead, hcons, List.cons_prefix_cons] at hprefix
    exact hparenthesis (hcons ▸ hprefix.1 ▸ List.mem_cons_self)

/-! ## References and sections -/

/-- Jumping goes to where the reference under the position leads. -/
theorem locate_eq_map_referenceAt (text : String) (p : Position) :
    locate text p =
      ((Document.ofText text).referenceAt (scan text) p).map (·.resolution.target.position) := by
  change ((Document.ofText text).tokenAt p).bind (fun token =>
      (resolve token.text (scan text)).bind fun r => some r.target.position) =
    (((Document.ofText text).tokenAt p).bind fun token =>
      (resolve token.text (scan text)).bind fun r => some (Reference.mk token r)).map _
  rw [Option.map_bind]
  refine Option.bind_congr ?_
  intro token _
  rw [Function.comp_apply, Option.map_bind]
  rfl

/-- A reference leads to one of the sections, and that section has a name. -/
theorem target_of_referenceAt {text : String} {p : Position} {reference : Reference}
    (hreference : (Document.ofText text).referenceAt (scan text) p = some reference) :
    reference.resolution.target ∈ scan text ∧
      reference.resolution.target.name ≠ untitledName := by
  obtain ⟨htoken, hr⟩ := Document.referenceAt_eq_some_iff.mp hreference
  refine ⟨target_mem_of_resolve hr, ?_⟩
  obtain ⟨_, _, _, _, _, _, hmaximal, _⟩ :=
    (exists_tokenAt_iff text p _).mp ⟨_, htoken, String.ofList_toList.symm⟩
  rw [← String.ofList_toList (s := reference.token.text)] at hr
  exact target_ne_untitledName hmaximal.nonempty hmaximal.inside hr

namespace ScanConfig

/-- A section with a name has its entry, whatever the configuration leaves out. -/
theorem exists_shown_entry (config : ScanConfig) {text : String} {s : Section}
    (hs : s ∈ scan text) (hname : s.name ≠ untitledName) :
    ∃ e ∈ config.shownEntries (outline text), e.name = s.name ∧ e.span.start = s.position := by
  obtain ⟨e, he, rfl⟩ : ∃ e ∈ outline text, e.toSection = s := by
    rw [← List.mem_map, outline, Document.outline, Document.map_toSection_entries]
    exact hs
  refine ⟨e, ?_, rfl, rfl⟩
  have htitled : e.isUntitled = false := beq_eq_false_iff_ne.mpr hname
  rw [shownEntries]
  split
  · exact he
  · exact List.mem_filter.mpr ⟨he, by rw [htitled, Bool.not_false]⟩

end ScanConfig

/-- Looking for the definition under a cursor, for a section by name and for the outline of a file
fail together and for the same reason. If they succeed, a definition is found exactly when the
reference leads somewhere; it leads to where the jump goes and to what its token is the name of,
and it is among the entries of the outline, even of an outline without untitled sections. -/
theorem lookups_agree (config : ScanConfig) (tree : FileTree) (p : Path) (position : Position) :
    (∃ e, config.findDefinition tree p position = .error e ∧ config.outlineFile tree p = .error e ∧
      ∀ name, config.findSection tree p name = .error e) ∨
    ∃ text found file, tree.readText p = .ok text ∧
      config.findDefinition tree p position = .ok found ∧
      config.outlineFile tree p = .ok file ∧
      (∀ name, ∃ named, config.findSection tree p name = .ok named) ∧
      (found = none ↔ locate text position = none) ∧
      ∀ d, found = some d →
        locate text position = some d.target ∧
        config.findSection tree p d.token = .ok (some d) ∧
        d.sectionName ≠ untitledName ∧
        ∃ e ∈ file.entries, e.name = d.sectionName ∧ e.span.start = d.target := by
  cases hread : config.readSource tree p with
  | error e =>
      refine Or.inl ⟨e, ?_, ?_, ?_⟩
      · rw [ScanConfig.findDefinition, hread, Except.map]
      · rw [ScanConfig.outlineFile, hread, Except.map]
      · intro name
        rw [ScanConfig.findSection, hread, Except.map]
  | ok text =>
      have hnamed : ∀ name, config.findSection tree p name =
          .ok ((resolve name (scan text)).map (·.toDefinition p name)) := by
        intro name
        rw [ScanConfig.findSection, hread, Except.map]
      refine Or.inr ⟨text,
        ((Document.ofText text).referenceAt (scan text) position).map fun reference =>
          reference.resolution.toDefinition p reference.token.text,
        config.outlineText tree text p p, ScanConfig.readText_of_readSource hread, ?_, ?_,
        fun name => ⟨_, hnamed name⟩, ?_, ?_⟩
      · rw [ScanConfig.findDefinition, hread, Except.map]
        rfl
      · rw [ScanConfig.outlineFile, hread, Except.map]
      · rw [locate_eq_map_referenceAt, Option.map_eq_none_iff, Option.map_eq_none_iff]
      · intro d hd
        obtain ⟨reference, hreference, rfl⟩ := Option.map_eq_some_iff.mp hd
        obtain ⟨_, hr⟩ := Document.referenceAt_eq_some_iff.mp hreference
        obtain ⟨hmem, hname⟩ := target_of_referenceAt hreference
        refine ⟨?_, ?_, hname, config.exists_shown_entry hmem hname⟩
        · rw [locate_eq_map_referenceAt, hreference]
          rfl
        · rw [hnamed]
          change Except.ok ((resolve reference.token.text (scan text)).map _) = _
          rw [hr]
          rfl

end DialogueIndex
