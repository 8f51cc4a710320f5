import DialogueIndex.Proofs.Marker
import DialogueIndex.Proofs.NameKey
import DialogueIndex.Proofs.Resolution
import DialogueIndex.Proofs.Token

/-! # Where references lead

A position refers to a section if it touches a token of a line with an arrow and the token matches
a section. The token is compared in lower case, and it leads to the marker of that section.
-/

namespace DialogueIndex

theorem hasArrow_iff (line : List Char) : hasArrow line ↔ arrow <:+: line := by
  induction line with
  | nil => simp [hasArrow, arrow]
  | cons c rest ih =>
      rw [hasArrow, Bool.or_eq_true, List.isPrefixOf_iff_prefix, ih, List.infix_cons_iff]

/-- Whether a position touches a maximal run of token characters, on a line with an arrow. -/
def TouchesRun (text : String) (p : Position) (run : List Char) : Prop :=
  ∃ line, (Document.ofText text).line? p.line = some line ∧ arrow <:+: line ∧
    ∃ before after, line = before ++ (run ++ after) ∧ IsMaximalRun before run after ∧
      before.length ≤ min p.character line.length ∧
      min p.character line.length ≤ before.length + run.length

theorem exists_tokenAt_iff (text : String) (p : Position) (run : List Char) :
    (∃ token, (Document.ofText text).tokenAt p = some token ∧ token.text = String.ofList run) ↔
      TouchesRun text p run := by
  constructor
  · rintro ⟨token, htoken, hrun⟩
    obtain ⟨line, hline, htoken⟩ := Option.bind_eq_some_iff.mp htoken
    rw [Option.ite_none_right_eq_some, hasArrow_iff, tokenAt_eq_some_iff] at htoken
    obtain ⟨harrow, before, chars, after, rfl, hmaximal, hstart, hstop, rfl⟩ := htoken
    cases String.ofList_injective hrun
    exact ⟨_, hline, harrow, before, after, rfl, hmaximal, hstart, hstop⟩
  · rintro ⟨line, hline, harrow, before, after, rfl, hmaximal, hstart, hstop⟩
    refine ⟨⟨String.ofList run, before.length, before.length + run.length⟩, ?_, rfl⟩
    rw [Document.tokenAt, hline]
    change (if hasArrow _ then tokenAt _ _ else none) = _
    rw [if_pos ((hasArrow_iff _).mpr harrow), tokenAt_eq_some_iff]
    exact ⟨before, run, after, rfl, hmaximal, hstart, hstop, rfl⟩

/-- The key of a token is its lower-case form. -/
theorem TouchesRun.nameKey {text : String} {p : Position} {run : List Char}
    (htouches : TouchesRun text p run) :
    nameKey (String.ofList run) = String.ofList (lowercase run) := by
  obtain ⟨_, _, _, _, _, _, hmaximal, _⟩ := htouches
  exact nameKey_ofList_of_forall fun c hc => isSpace_eq_false_of_isTokenChar (hmaximal.inside c hc)

theorem TouchesRun.hasKeyOf_eq {text : String} {p : Position} {run : List Char}
    (htouches : TouchesRun text p run) :
    Section.HasKeyOf (String.ofList run) = fun s => s.key = String.ofList (lowercase run) :=
  Section.hasKeyOf_eq htouches.nameKey

theorem beginsWith_ofList_eq (run : List Char) :
    Section.BeginsWith (String.ofList run) =
      fun s => lowercase run <+: lowercase s.name.toList := by
  funext s
  rw [Section.BeginsWith, String.toList_ofList]

theorem locate_eq_some_iff (text : String) (p q : Position) :
    locate text p = some q ↔ ∃ run r, TouchesRun text p run ∧
      resolve (String.ofList run) (scan text) = some r ∧ q = r.target.position := by
  simp only [← exists_tokenAt_iff]
  constructor
  · intro hlocate
    obtain ⟨token, htoken, hlocate⟩ := Option.bind_eq_some_iff.mp hlocate
    obtain ⟨r, hr, hlocate⟩ := Option.bind_eq_some_iff.mp hlocate
    cases hlocate
    refine ⟨token.text.toList, r, ⟨token, htoken, String.ofList_toList.symm⟩, ?_, rfl⟩
    rw [String.ofList_toList]
    exact hr
  · rintro ⟨run, r, ⟨token, htoken, hrun⟩, hr, rfl⟩
    apply Option.bind_eq_some_iff.mpr
    refine ⟨token, htoken, Option.bind_eq_some_iff.mpr ⟨r, ?_, rfl⟩⟩
    rw [hrun]
    exact hr

/-- The section to which a token in a text leads: the first whose key it is in lower case, or, if
there is none, the first whose name begins with it in lower case. -/
theorem TouchesRun.resolve_target_iff {text : String} {p : Position} {run : List Char}
    (htouches : TouchesRun text p run) (s : Section) :
    (∃ r, resolve (String.ofList run) (scan text) = some r ∧ r.target = s) ↔
      IsFirst (fun t => t.key = String.ofList (lowercase run)) (scan text) s ∨
        (∀ t ∈ scan text, t.key ≠ String.ofList (lowercase run)) ∧
          IsFirst (fun t => lowercase run <+: lowercase t.name.toList) (scan text) s := by
  simp only [resolve_eq_some_iff, htouches.hasKeyOf_eq, beginsWith_ofList_eq]
  constructor
  · rintro ⟨r, hr, rfl⟩
    exact hr.imp And.right And.right
  · rintro (hexact | hleading)
    · exact ⟨⟨s, .exact⟩, Or.inl ⟨rfl, hexact⟩, rfl⟩
    · exact ⟨⟨s, .leading⟩, Or.inr ⟨rfl, hleading⟩, rfl⟩

theorem TouchesRun.resolve_isSome_iff {text : String} {p : Position} {run : List Char}
    (htouches : TouchesRun text p run) :
    (resolve (String.ofList run) (scan text)).isSome ↔
      ∃ s ∈ scan text, s.key = String.ofList (lowercase run) ∨
        lowercase run <+: lowercase s.name.toList := by
  rw [DialogueIndex.resolve_isSome_iff, htouches.hasKeyOf_eq, beginsWith_ofList_eq]

theorem Document.referenceAt_eq_some_iff {document : Document} {sections : List Section}
    {p : Position} {reference : Reference} :
    document.referenceAt sections p = some reference ↔
      document.tokenAt p = some reference.token ∧
        resolve reference.token.text sections = some reference.resolution := by
  simp only [referenceAt, Option.bind_eq_bind, Option.bind_eq_some_iff]
  constructor
  · rintro ⟨token, htoken, resolution, hresolution, heq⟩
    cases heq
    exact ⟨htoken, hresolution⟩
  · rintro ⟨htoken, hresolution⟩
    exact ⟨_, htoken, _, hresolution, rfl⟩

/-- What a reference leads to is one of the sections. -/
theorem target_mem_of_resolve {target : String} {sections : List Section} {r : Resolution}
    (hr : resolve target sections = some r) : r.target ∈ sections := by
  rcases (resolve_eq_some_iff target sections r).mp hr with ⟨_, hfirst⟩ | ⟨_, _, hfirst⟩
  · exact hfirst.mem
  · exact hfirst.mem

/-- A reference leads to the first section whose key is the token under the cursor in lower case,
or, if no section has that key, to the first whose name begins with it in lower case. It leads
somewhere whenever a token is touched that matches a section, and always to a marker. -/
theorem locate_eq_first_match (text : String) (p : Position) :
    (∀ q, locate text p = some q ↔ ∃ run s, TouchesRun text p run ∧ q = s.position ∧
      (IsFirst (fun t => t.key = String.ofList (lowercase run)) (scan text) s ∨
        (∀ t ∈ scan text, t.key ≠ String.ofList (lowercase run)) ∧
          IsFirst (fun t => lowercase run <+: lowercase t.name.toList) (scan text) s)) ∧
    ((locate text p).isSome ↔ ∃ run, TouchesRun text p run ∧
      ∃ s ∈ scan text, s.key = String.ofList (lowercase run) ∨
        lowercase run <+: lowercase s.name.toList) ∧
    (∀ q, locate text p = some q → ∃ line,
      (Document.ofText text).line? q.line = some line ∧ OpensSectionAt line q.character) := by
  refine ⟨?_, ?_, ?_⟩
  · intro q
    rw [locate_eq_some_iff]
    constructor
    · rintro ⟨run, r, htouches, hr, rfl⟩
      exact ⟨run, r.target, htouches, rfl, (htouches.resolve_target_iff _).mp ⟨r, hr, rfl⟩⟩
    · rintro ⟨run, s, htouches, rfl, hfirst⟩
      obtain ⟨r, hr, rfl⟩ := (htouches.resolve_target_iff s).mpr hfirst
      exact ⟨run, r, htouches, hr, rfl⟩
  · rw [Option.isSome_iff_exists]
    constructor
    · rintro ⟨q, hq⟩
      obtain ⟨run, r, htouches, hr, _⟩ := (locate_eq_some_iff text p q).mp hq
      exact ⟨run, htouches, htouches.resolve_isSome_iff.mp (Option.isSome_of_eq_some hr)⟩
    · rintro ⟨run, htouches, hmatch⟩
      have hsome := htouches.resolve_isSome_iff.mpr hmatch
      obtain ⟨r, hr⟩ := Option.isSome_iff_exists.mp hsome
      exact ⟨_, (locate_eq_some_iff text p _).mpr ⟨run, r, htouches, hr, rfl⟩⟩
  · intro q hq
    obtain ⟨run, r, _, hr, rfl⟩ := (locate_eq_some_iff text p q).mp hq
    exact Document.opensSectionAt_of_mem_sections (target_mem_of_resolve hr)

end DialogueIndex
