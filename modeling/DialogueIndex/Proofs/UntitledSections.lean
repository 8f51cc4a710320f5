import DialogueIndex.Proofs.Outline
import DialogueIndex.Proofs.Scanner
import Mathlib.Algebra.Order.BigOperators.Group.List

/-! # Counts, with and without untitled sections

The counts of a scan are sums over the outlines it lists, and each outline counts what one text
has. Leaving out untitled sections takes their entries from every outline and changes nothing else.
The files without sections, though, are those whose outlines show none: they are more than those
whose texts have none when some file has only untitled sections and these are left out.
-/

namespace DialogueIndex

/-! ## One document -/

/-- No line has two sections. -/
theorem Document.length_sections_le (document : Document) :
    document.sections.length ≤ document.lineCount := by
  have hfilter : document.sections.length ≤ document.lines.zipIdx.length :=
    List.length_filterMap_le _ _
  rwa [List.length_zipIdx] at hfilter

theorem length_outline (text : String) : (outline text).length = (scan text).length :=
  (Document.ofText text).length_entries _

/-- Whether a text has no section marker. -/
def hasNoSections (text : String) : Bool := (scan text).isEmpty

/-- Whether a text has sections, all of them untitled. -/
def hasOnlyUntitled (text : String) : Bool :=
  !hasNoSections text && (scan text).all (·.isUntitled)

theorem isEmpty_outline (text : String) : (outline text).isEmpty = hasNoSections text := by
  rw [hasNoSections, Bool.eq_iff_iff, List.isEmpty_iff_length_eq_zero, length_outline,
    List.isEmpty_iff_length_eq_zero]

theorem all_outline_isUntitled (text : String) :
    (outline text).all (·.isUntitled) = (scan text).all (·.isUntitled) := by
  have hmap : (outline text).map OutlineEntry.toSection = scan text :=
    (Document.ofText text).map_toSection_entries _
  rw [← hmap, List.all_map]
  rfl

namespace ScanConfig

variable (config : ScanConfig)

theorem shownEntries_sublist (entries : List OutlineEntry) :
    (config.shownEntries entries).Sublist entries := by
  rw [shownEntries]
  split
  · exact List.Sublist.refl _
  · exact List.filter_sublist

/-- Whether the outline of a text shows nothing: there is nothing, or all there is is left out. -/
def showsNone (text : String) : Bool :=
  hasNoSections text || !config.includeUntitled && (scan text).all (·.isUntitled)

theorem isEmpty_shownEntries_outline (text : String) :
    (config.shownEntries (outline text)).isEmpty = config.showsNone text := by
  rw [shownEntries, showsNone, ← isEmpty_outline]
  cases config.includeUntitled with
  | true => rw [if_pos rfl, Bool.not_true, Bool.false_and, Bool.or_false]
  | false =>
      have hempty : (outline text).isEmpty → (outline text).all (·.isUntitled) := by
        intro hnil
        rw [List.isEmpty_iff.mp hnil, List.all_nil]
      rw [if_neg Bool.false_ne_true, Bool.not_false, Bool.true_and, ← all_outline_isUntitled,
        Bool.or_eq_right_iff_imp.mpr hempty, Bool.eq_iff_iff]
      simp

end ScanConfig

/-! ## One file -/

namespace FileOutline

/-- The outline without its untitled sections. -/
def titled (file : FileOutline) : FileOutline :=
  { file with entries := file.entries.filter (!·.isUntitled) }

theorem untitledSections_le (file : FileOutline) : file.untitledSections ≤ file.totalSections :=
  List.countP_le_length

theorem untitledSections_titled (file : FileOutline) : file.titled.untitledSections = 0 := by
  rw [untitledSections, titled, List.countP_eq_zero]
  intro e he
  simpa using (List.mem_filter.mp he).2

/-- Every section is titled or untitled. -/
theorem totalSections_titled_add (file : FileOutline) :
    file.titled.totalSections + file.untitledSections = file.totalSections := by
  rw [totalSections, totalSections, untitledSections, titled, ← List.countP_eq_length_filter,
    List.length_eq_countP_add_countP (fun e => !e.isUntitled)]
  simp

end FileOutline

/-! ## The files of a scan -/

namespace Scanner

/-- The scanner that shows untitled sections or does not, and is the same otherwise. -/
def withUntitled (scanner : Scanner) (shown : Bool) : Scanner :=
  { scanner with config := { scanner.config with includeUntitled := shown } }

theorem ofConfig_includeUntitled (tree : FileTree) (config : ScanConfig) (shown : Bool) :
    ofConfig tree { config with includeUntitled := shown } =
      (ofConfig tree config).map (·.withUntitled shown) := by
  have hfilter : IgnoreFilter.ofConfig tree { config with includeUntitled := shown } =
      IgnoreFilter.ofConfig tree config := rfl
  rw [ofConfig, ofConfig, hfilter]
  cases IgnoreFilter.ofConfig tree config <;> rfl

variable (scanner : Scanner) (tree : FileTree)

/-- The outline of a file is that of a text read during the walk. -/
def Reads (file : FileOutline) (text : String) : Prop :=
  ∃ p ∈ scanner.sources tree, tree.readText p = .ok text ∧
    file = scanner.config.outlineText tree text (p.relativeTo scanner.config.root) p

theorem exists_reads {file : FileOutline} (hfile : file ∈ scanner.files tree) :
    ∃ text, scanner.Reads tree file text := by
  obtain ⟨p, hp, houtline⟩ := exists_source_of_mem_files hfile
  obtain ⟨text, hread, houtlined⟩ := outline?_eq_some_iff.mp houtline
  exact ⟨text, p, hp, hread, houtlined⟩

/-- A walk that meets one file to be read lists this file. -/
theorem files_eq_singleton {p : Path} {text : String} (hsources : scanner.sources tree = [p])
    (hread : tree.readText p = .ok text) :
    scanner.files tree =
      [scanner.config.outlineText tree text (p.relativeTo scanner.config.root) p] := by
  rw [files, hsources, List.filterMap_cons, outline?, hread]
  exact List.mergeSort_singleton _

theorem exists_texts : ∃ texts, List.Forall₂ (scanner.Reads tree) (scanner.files tree) texts := by
  have hreads : ∀ file ∈ scanner.files tree, ∃ text, scanner.Reads tree file text :=
    fun file => scanner.exists_reads tree
  choose! textOf htextOf using hreads
  exact ⟨_, List.forall₂_map_right_iff.mpr (List.forall₂_same.mpr htextOf)⟩

/-- No file has more sections than lines. -/
theorem totalSections_le {file : FileOutline} (hfile : file ∈ scanner.files tree) :
    file.totalSections ≤ file.totalLines := by
  obtain ⟨text, p, _, _, rfl⟩ := scanner.exists_reads tree hfile
  calc (scanner.config.shownEntries (outline text)).length
      ≤ (outline text).length := (scanner.config.shownEntries_sublist _).length_le
    _ = (Document.ofText text).sections.length := length_outline text
    _ ≤ (Document.ofText text).lineCount := (Document.ofText text).length_sections_le

theorem outline?_withUntitled_false (p : Path) :
    (scanner.withUntitled false).outline? tree p =
      ((scanner.withUntitled true).outline? tree p).map FileOutline.titled := by
  rw [outline?, outline?]
  cases tree.readText p <;> rfl

/-- Files are in the order of their paths, and these do not depend on what the outlines show. -/
theorem map_titled_mergeSort (outlines : List FileOutline) :
    (outlines.mergeSort listedBefore).map FileOutline.titled =
      (outlines.map FileOutline.titled).mergeSort listedBefore :=
  List.map_mergeSort fun _ _ _ _ => rfl

/-- Without untitled sections the same files are listed, each without its untitled sections. -/
theorem files_withUntitled_false :
    (scanner.withUntitled false).files tree =
      ((scanner.withUntitled true).files tree).map FileOutline.titled := by
  have hsources : (scanner.withUntitled false).sources tree =
      (scanner.withUntitled true).sources tree := rfl
  have houtline : (scanner.withUntitled false).outline? tree =
      fun p => ((scanner.withUntitled true).outline? tree p).map FileOutline.titled :=
    funext fun p => scanner.outline?_withUntitled_false tree p
  rw [files, files, map_titled_mergeSort, List.map_filterMap, hsources, houtline]

end Scanner

/-! ## Sums over files -/

theorem totalOf_eq (counts : List Nat) : totalOf counts = counts.sum % countRange := rfl

theorem totalOf_of_lt {counts : List Nat} (hlt : counts.sum < countRange) :
    totalOf counts = counts.sum :=
  Nat.mod_eq_of_lt hlt

section

variable (files : List FileOutline)

theorem sum_untitledSections_le :
    (files.map (·.untitledSections)).sum ≤ (files.map (·.totalSections)).sum :=
  List.sum_le_sum fun file _ => file.untitledSections_le

theorem sum_totalSections_titled_add :
    ((files.map FileOutline.titled).map (·.totalSections)).sum +
        (files.map (·.untitledSections)).sum = (files.map (·.totalSections)).sum := by
  rw [List.map_map, ← List.sum_map_add]
  exact congrArg List.sum (List.map_congr_left fun file _ => file.totalSections_titled_add)

theorem totalLines_titled :
    (ScanStats.ofFiles (files.map FileOutline.titled)).totalLines =
      (ScanStats.ofFiles files).totalLines := by
  change totalOf _ = totalOf _
  rw [List.map_map]
  rfl

theorem untitledSections_titled :
    (ScanStats.ofFiles (files.map FileOutline.titled)).untitledSections = 0 := by
  have hzero : ∀ count ∈ (files.map FileOutline.titled).map (·.untitledSections), count = 0 := by
    rw [List.map_map]
    intro count hcount
    obtain ⟨file, _, rfl⟩ := List.mem_map.mp hcount
    exact file.untitledSections_titled
  change totalOf _ = 0
  rw [totalOf_eq, List.sum_eq_zero hzero, Nat.zero_mod]

/-- In words, too, the titled sections and the untitled ones make up all. -/
theorem totalSections_titled_add_mod :
    ((ScanStats.ofFiles (files.map FileOutline.titled)).totalSections +
      (ScanStats.ofFiles files).untitledSections) % countRange =
        (ScanStats.ofFiles files).totalSections := by
  change (totalOf _ + totalOf _) % countRange = totalOf _
  rw [totalOf_eq, totalOf_eq, totalOf_eq, ← Nat.add_mod, sum_totalSections_titled_add]

theorem totalSections_titled (hfit : (files.map (·.totalSections)).sum < countRange) :
    (ScanStats.ofFiles (files.map FileOutline.titled)).totalSections =
      (ScanStats.ofFiles files).totalSections - (ScanStats.ofFiles files).untitledSections := by
  have hadd := sum_totalSections_titled_add files
  change totalOf _ = totalOf _ - totalOf _
  rw [totalOf_of_lt hfit, totalOf_of_lt (by omega), totalOf_of_lt (by omega)]
  omega

end

theorem Scanner.sum_totalSections_le (scanner : Scanner) (tree : FileTree) :
    ((scanner.files tree).map (·.totalSections)).sum ≤
      ((scanner.files tree).map (·.totalLines)).sum :=
  List.sum_le_sum fun _ => scanner.totalSections_le tree

/-- The lines of all files together are few enough to be counted in a word. -/
def ProjectOutline.LinesFit (p : ProjectOutline) : Prop :=
  (p.files.map (·.totalLines)).sum < countRange

/-- What fits is counted in order: no more untitled sections than sections, and no more sections
than lines. -/
theorem Scanner.stats_ordered (scanner : Scanner) (tree : FileTree) (measure : Nat → ScanMetadata)
    (hfit : (scanner.scan tree measure).LinesFit) :
    (scanner.scan tree measure).stats.untitledSections ≤
        (scanner.scan tree measure).stats.totalSections ∧
      (scanner.scan tree measure).stats.totalSections ≤
        (scanner.scan tree measure).stats.totalLines := by
  have huntitled := sum_untitledSections_le (scanner.files tree)
  have hsections := scanner.sum_totalSections_le tree
  have hlines : ((scanner.files tree).map (·.totalLines)).sum < countRange := hfit
  change totalOf _ ≤ totalOf _ ∧ totalOf _ ≤ totalOf _
  rw [totalOf_of_lt hlines, totalOf_of_lt (hsections.trans_lt hlines),
    totalOf_of_lt ((huntitled.trans hsections).trans_lt hlines)]
  exact ⟨huntitled, hsections⟩

/-- Scans that differ only in whether they show untitled sections are opened together or fail
together. They list the same files with the same lines, and the one shows just those entries of the
other that are not untitled, so that its sections and the other's untitled ones make up all. In any
scan there are no more untitled sections than sections, and no more of these than lines. -/
theorem scan_hides_untitled (earlier tree : FileTree) (config : ScanConfig)
    (measure : Nat → ScanMetadata) :
    ((∃ error, ∀ shown, Scanner.ofConfig earlier { config with includeUntitled := shown } =
        .error error) ∨
      ∃ full bare whole part,
        Scanner.ofConfig earlier { config with includeUntitled := true } = .ok full ∧
        Scanner.ofConfig earlier { config with includeUntitled := false } = .ok bare ∧
        full.scan tree measure = whole ∧ bare.scan tree measure = part ∧
        part.files = whole.files.map FileOutline.titled ∧
        part.stats.totalFiles = whole.stats.totalFiles ∧
        part.stats.totalLines = whole.stats.totalLines ∧
        (part.stats.totalSections + whole.stats.untitledSections) % countRange =
          whole.stats.totalSections ∧
        (whole.LinesFit → part.stats.totalSections =
          whole.stats.totalSections - whole.stats.untitledSections) ∧
        part.stats.untitledSections = 0) ∧
    ∀ (scanner : Scanner) (p : ProjectOutline), scanner.scan tree measure = p →
      p.stats.filesWithoutSections ≤ p.stats.totalFiles ∧
      (p.files.map (·.untitledSections)).sum ≤ (p.files.map (·.totalSections)).sum ∧
      (p.files.map (·.totalSections)).sum ≤ (p.files.map (·.totalLines)).sum ∧
      (p.LinesFit → p.stats.untitledSections ≤ p.stats.totalSections ∧
        p.stats.totalSections ≤ p.stats.totalLines) := by
  constructor
  · cases hopen : Scanner.ofConfig earlier config with
    | error error =>
        refine Or.inl ⟨error, fun shown => ?_⟩
        rw [Scanner.ofConfig_includeUntitled, hopen]
        rfl
    | ok scanner =>
        have hopened : ∀ shown, Scanner.ofConfig earlier { config with includeUntitled := shown } =
            .ok (scanner.withUntitled shown) := by
          intro shown
          rw [Scanner.ofConfig_includeUntitled, hopen]
          rfl
        have hfiles := scanner.files_withUntitled_false tree
        have hstats : ((scanner.withUntitled false).scan tree measure).stats =
            .ofFiles (((scanner.withUntitled true).files tree).map FileOutline.titled) :=
          congrArg ScanStats.ofFiles hfiles
        have hadd := totalSections_titled_add_mod ((scanner.withUntitled true).files tree)
        refine Or.inr ⟨_, _, _, _, hopened true, hopened false, rfl, rfl, hfiles, ?_⟩
        rw [hstats]
        exact ⟨List.length_map _, totalLines_titled _, hadd,
          fun hfit => totalSections_titled _ ((Scanner.sum_totalSections_le _ tree).trans_lt hfit),
          untitledSections_titled _⟩
  · rintro scanner p rfl
    exact ⟨List.countP_le_length, sum_untitledSections_le _, scanner.sum_totalSections_le tree,
      scanner.stats_ordered tree measure⟩

/-- The lines of a section that is left out go to no other. -/
example : (FileOutline.titled ⟨⟨"a"⟩, ⟨"/a"⟩, 4, outline "~ a\n~ \n\n~ b"⟩).entries.map
    (fun e => (e.name, e.startLine, e.endLine)) = [("a", 0, 0), ("b", 3, 3)] := by
  decide +kernel

/-! ## Files without sections -/

/-- The texts of which nothing is shown are those without sections and, if untitled sections are
left out, those that have no others. -/
theorem ScanConfig.countP_showsNone (config : ScanConfig) (texts : List String) :
    texts.countP config.showsNone =
      texts.countP hasNoSections +
        if config.includeUntitled then 0 else texts.countP hasOnlyUntitled := by
  rw [List.countP_eq_countP_filter_add texts _ hasNoSections, List.countP_filter,
    List.countP_filter]
  congr 1
  · refine List.countP_congr fun text _ => ?_
    rw [showsNone]
    cases hasNoSections text <;> simp
  · cases hshown : config.includeUntitled with
    | true =>
        rw [if_pos rfl, List.countP_eq_zero]
        simp [showsNone, hshown]
    | false =>
        refine List.countP_congr fun text _ => ?_
        rw [showsNone, hshown, hasOnlyUntitled]
        cases hasNoSections text <;> simp

namespace Scanner

variable {scanner : Scanner} {tree : FileTree}

theorem Reads.isEmpty_entries {file : FileOutline} {text : String}
    (hreads : scanner.Reads tree file text) :
    file.entries.isEmpty = scanner.config.showsNone text := by
  obtain ⟨p, _, _, rfl⟩ := hreads
  exact scanner.config.isEmpty_shownEntries_outline text

theorem countP_isEmpty_entries {files : List FileOutline} {texts : List String}
    (hreads : List.Forall₂ (scanner.Reads tree) files texts) :
    files.countP (·.entries.isEmpty) = texts.countP scanner.config.showsNone := by
  induction hreads with
  | nil => rfl
  | cons hread _ ih => rw [List.countP_cons, List.countP_cons, ih, hread.isEmpty_entries]

end Scanner

/-- Every file of a scan has a text. The files without sections are those whose texts have none and,
if untitled sections are left out, those whose texts have no others. So what is counted depends on
whether they are left out as soon as there is such a text. -/
theorem filesWithoutSections_eq (scanner : Scanner) (tree : FileTree)
    (measure : Nat → ScanMetadata) :
    (∃ texts, List.Forall₂ (scanner.Reads tree) (scanner.scan tree measure).files texts) ∧
    ∀ texts, List.Forall₂ (scanner.Reads tree) (scanner.scan tree measure).files texts →
      (scanner.scan tree measure).stats.filesWithoutSections =
        texts.countP hasNoSections +
          (if scanner.config.includeUntitled then 0 else texts.countP hasOnlyUntitled) ∧
      ((scanner.scan tree measure).stats.filesWithoutSections = texts.countP hasNoSections ↔
        scanner.config.includeUntitled ∨ ∀ text ∈ texts, ¬ hasOnlyUntitled text) := by
  refine ⟨scanner.exists_texts tree, ?_⟩
  intro texts htexts
  have hcount : (scanner.scan tree measure).stats.filesWithoutSections =
      texts.countP hasNoSections +
        if scanner.config.includeUntitled then 0 else texts.countP hasOnlyUntitled :=
    (Scanner.countP_isEmpty_entries htexts).trans (scanner.config.countP_showsNone texts)
  refine ⟨hcount, ?_⟩
  rw [hcount, Nat.add_eq_left]
  cases scanner.config.includeUntitled with
  | true => simp
  | false =>
      rw [if_neg Bool.false_ne_true, List.countP_eq_zero]
      simp

/-! ## A file with nothing but an untitled section -/

def unnamedText : String := "~ \n"

def unnamedTree : FileTree := ⟨[("a.dialogue", .file unnamedText.toUTF8)], []⟩

/-- The standard configuration, with untitled sections or without. -/
def shownConfig (shown : Bool) : ScanConfig :=
  { ScanConfig.standard ⟨"."⟩ 1 with includeUntitled := shown }

theorem sources_unnamed : ∀ shown,
    (Scanner.ofConfig unnamedTree (shownConfig shown)).toOption.map (·.sources unnamedTree) =
      some [⟨"./a.dialogue"⟩] := by
  decide +kernel

theorem readText_unnamed : unnamedTree.readText ⟨"./a.dialogue"⟩ = .ok unnamedText := by
  decide +kernel

/-- With untitled sections and without them, the file is listed. -/
theorem exists_scanner_reads_unnamed (shown : Bool) :
    ∃ scanner, Scanner.ofConfig unnamedTree (shownConfig shown) = .ok scanner ∧
      List.Forall₂ (scanner.Reads unnamedTree) (scanner.files unnamedTree) [unnamedText] := by
  obtain ⟨scanner, hscanner, hsources⟩ := Scanner.exists_of_map_toOption (sources_unnamed shown)
  refine ⟨scanner, hscanner, ?_⟩
  rw [scanner.files_eq_singleton unnamedTree hsources readText_unnamed]
  exact .cons ⟨_, hsources ▸ List.mem_singleton_self _, readText_unnamed, rfl⟩ .nil

theorem unnamed_without_sections :
    ∃ full bare, Scanner.ofConfig unnamedTree (shownConfig true) = .ok full ∧
      Scanner.ofConfig unnamedTree (shownConfig false) = .ok bare ∧
      ∀ measure,
        List.Forall₂ (bare.Reads unnamedTree) (bare.scan unnamedTree measure).files
          [unnamedText] ∧
        [unnamedText].countP hasNoSections = 0 ∧
        (full.scan unnamedTree measure).stats.filesWithoutSections = 0 ∧
        (bare.scan unnamedTree measure).stats.filesWithoutSections = 1 := by
  have hshown : [unnamedText].countP (shownConfig true).showsNone = 0 := by decide +kernel
  have hhidden : [unnamedText].countP (shownConfig false).showsNone = 1 := by decide +kernel
  obtain ⟨full, hfull, hfullReads⟩ := exists_scanner_reads_unnamed true
  obtain ⟨bare, hbare, hbareReads⟩ := exists_scanner_reads_unnamed false
  rw [← Scanner.config_of_ofConfig hfull, ← Scanner.countP_isEmpty_entries hfullReads] at hshown
  rw [← Scanner.config_of_ofConfig hbare, ← Scanner.countP_isEmpty_entries hbareReads] at hhidden
  exact ⟨full, bare, hfull, hbare, fun _ => ⟨hbareReads, by decide +kernel, hshown, hhidden⟩⟩

end DialogueIndex
