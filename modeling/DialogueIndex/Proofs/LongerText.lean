import DialogueIndex.Proofs.Concatenation
import DialogueIndex.Proofs.Reference

/-! # References in longer texts

What is written behind a text on lines of its own moves no token of the text and adds its sections
behind those of the text. A reference by key keeps its target then, since it is the first with the
key. A reference by beginning keeps its target as well, unless an added section has the key: the
first tier goes before the order of the sections. A token that leads nowhere can only come to lead
to an added section.
-/

namespace DialogueIndex

/-! ## More sections -/

section

variable {target : String} {sections : List Section}

theorem resolve_append_of_exact {s : Section} (hs : resolve target sections = some ⟨s, .exact⟩)
    (more : List Section) : resolve target (sections ++ more) = some ⟨s, .exact⟩ :=
  resolve_eq_some_exact_iff.mpr ((resolve_eq_some_exact_iff.mp hs).append more)

/-- Of the sections that are added, one with the key of the target goes before a section whose name
only begins with it. Others do not. -/
theorem resolve_append_of_leading {s : Section}
    (hs : resolve target sections = some ⟨s, .leading⟩) (more : List Section) :
    resolve target (sections ++ more) = some ⟨s, .leading⟩ ∨
      ∃ t ∈ more, resolve target (sections ++ more) = some ⟨t, .exact⟩ := by
  obtain ⟨hkeyless, hfirst⟩ := resolve_eq_some_leading_iff.mp hs
  by_cases hmore : ∃ t ∈ more, t.HasKeyOf target
  · obtain ⟨t, ht, hkey⟩ := hmore
    obtain ⟨u, hkeyed⟩ := exists_isFirst (List.mem_append_right sections ht) hkey
    refine Or.inr ⟨u, ?_, resolve_eq_some_exact_iff.mpr hkeyed⟩
    exact (List.mem_append.mp hkeyed.mem).resolve_left fun hu => hkeyless u hu hkeyed.holds
  · refine Or.inl (resolve_eq_some_leading_iff.mpr ⟨?_, hfirst.append more⟩)
    exact List.forall_mem_append.mpr ⟨hkeyless, fun t ht hkey => hmore ⟨t, ht, hkey⟩⟩

/-- A target that no section matches can only be resolved to one that is added. -/
theorem mem_of_resolve_append (hnone : resolve target sections = none) {more : List Section}
    {r : Resolution} (hr : resolve target (sections ++ more) = some r) : r.target ∈ more := by
  have hmatch : r.target.HasKeyOf target ∨ r.target.BeginsWith target := by
    rcases (resolve_eq_some_iff _ _ r).mp hr with ⟨_, hfirst⟩ | ⟨_, _, hfirst⟩
    · exact Or.inl hfirst.holds
    · exact Or.inr hfirst.holds
  refine (List.mem_append.mp (target_mem_of_resolve hr)).resolve_left ?_
  intro hmem
  have hsome := (resolve_isSome_iff target sections).mpr ⟨_, hmem, hmatch⟩
  rw [hnone] at hsome
  cases hsome

end

/-! ## More lines -/

/-- The reference under a position of a text, resolved among the sections of the text. -/
def referenceUnder (text : String) (p : Position) : Option Reference :=
  (Document.ofText text).referenceAt (scan text) p

theorem referenceUnder_eq_some_iff {text : String} {p : Position} {token : Token}
    {r : Resolution} :
    referenceUnder text p = some ⟨token, r⟩ ↔
      (Document.ofText text).tokenAt p = some token ∧
        resolve token.text (scan text) = some r :=
  Document.referenceAt_eq_some_iff

section

variable {first : String} (hend : first.toList.getLast? ≠ some '\r') (second : String)
  {p : Position} (hp : p.line < (Document.ofText first).lineCount)

include hend hp

theorem tokenAt_append_feed :
    (Document.ofText (first ++ "\n" ++ second)).tokenAt p =
      (Document.ofText first).tokenAt p := by
  have hline : (Document.ofText (first ++ "\n" ++ second)).line? p.line =
      (Document.ofText first).line? p.line := by
    rw [Document.line?, lines_append_feed hend, List.getElem?_append_left hp]
    rfl
  rw [Document.tokenAt, hline]
  rfl

theorem referenceUnder_append_feed_eq_some_iff (token : Token) (r : Resolution) :
    referenceUnder (first ++ "\n" ++ second) p = some ⟨token, r⟩ ↔
      (Document.ofText first).tokenAt p = some token ∧
        resolve token.text (scan first ++
          (scan second).map (Section.below (Document.ofText first).lineCount)) = some r := by
  rw [referenceUnder_eq_some_iff, tokenAt_append_feed hend second hp, scan_append_feed hend]

end

theorem le_line_of_mem_map_below {count : Nat} {sections : List Section} {s : Section}
    (hs : s ∈ sections.map (Section.below count)) : count ≤ s.line := by
  obtain ⟨t, _, rfl⟩ := List.mem_map.mp hs
  exact Nat.le_add_left count t.line

/-- When lines are added behind a text, the token under a position of the text stays. A reference by
key stays as it is. A reference by beginning stays or comes to lead, by key, to a section on an
added line. A token without a target stays without one or comes to lead to a section on an added
line. Where there is no token, there is no reference. -/
theorem references_in_longer_text {first : String} (hend : first.toList.getLast? ≠ some '\r')
    (second : String) {p : Position} (hp : p.line < (Document.ofText first).lineCount) :
    (Document.ofText (first ++ "\n" ++ second)).tokenAt p = (Document.ofText first).tokenAt p ∧
    (∀ token s, referenceUnder first p = some ⟨token, s, .exact⟩ →
      referenceUnder (first ++ "\n" ++ second) p = some ⟨token, s, .exact⟩) ∧
    (∀ token s, referenceUnder first p = some ⟨token, s, .leading⟩ →
      referenceUnder (first ++ "\n" ++ second) p = some ⟨token, s, .leading⟩ ∨
      ∃ t, (Document.ofText first).lineCount ≤ t.line ∧
        referenceUnder (first ++ "\n" ++ second) p = some ⟨token, t, .exact⟩) ∧
    (∀ token, (Document.ofText first).tokenAt p = some token → referenceUnder first p = none →
      referenceUnder (first ++ "\n" ++ second) p = none ∨
      ∃ r, (Document.ofText first).lineCount ≤ r.target.line ∧
        referenceUnder (first ++ "\n" ++ second) p = some ⟨token, r⟩) ∧
    ((Document.ofText first).tokenAt p = none →
      referenceUnder (first ++ "\n" ++ second) p = none) := by
  have hjoined := referenceUnder_append_feed_eq_some_iff hend second hp
  refine ⟨tokenAt_append_feed hend second hp, ?_, ?_, ?_, ?_⟩
  · intro token s hfound
    obtain ⟨htoken, hs⟩ := referenceUnder_eq_some_iff.mp hfound
    exact (hjoined _ _).mpr ⟨htoken, resolve_append_of_exact hs _⟩
  · intro token s hfound
    obtain ⟨htoken, hs⟩ := referenceUnder_eq_some_iff.mp hfound
    rcases resolve_append_of_leading hs _ with hkept | ⟨t, ht, hexact⟩
    · exact Or.inl ((hjoined _ _).mpr ⟨htoken, hkept⟩)
    · exact Or.inr ⟨t, le_line_of_mem_map_below ht, (hjoined _ _).mpr ⟨htoken, hexact⟩⟩
  · intro token htoken hnone
    have hlost : resolve token.text (scan first) = none := by
      rw [Option.eq_none_iff_forall_ne_some]
      intro r hr
      rw [referenceUnder_eq_some_iff.mpr ⟨htoken, hr⟩] at hnone
      cases hnone
    cases hfound : referenceUnder (first ++ "\n" ++ second) p with
    | none => exact Or.inl rfl
    | some found =>
        obtain ⟨hsame, hr⟩ := (hjoined _ _).mp hfound
        obtain rfl := Option.some.inj (htoken.symm.trans hsame)
        exact Or.inr ⟨found.resolution, le_line_of_mem_map_below (mem_of_resolve_append hlost hr),
          rfl⟩
  · intro hnone
    rw [Option.eq_none_iff_forall_ne_some]
    intro found hfound
    obtain ⟨htoken, _⟩ := (hjoined _ _).mp hfound
    rw [hnone] at htoken
    cases htoken

/-- A text with a reference by the beginning of a name. -/
def introText : String := "~ Intro\n=> in"

/-- An added section takes the reference over, since it has the token for its key. -/
theorem references_in_longer_text_taken_over :
    introText.toList.getLast? ≠ some '\r' ∧ 1 < (Document.ofText introText).lineCount ∧
    referenceUnder introText ⟨1, 4⟩ = some ⟨⟨"in", 3, 5⟩, ⟨"Intro", 0, 0⟩, .leading⟩ ∧
    ∃ s, (Document.ofText introText).lineCount ≤ s.line ∧
      referenceUnder (introText ++ "\n" ++ "~ In") ⟨1, 4⟩ = some ⟨⟨"in", 3, 5⟩, s, .exact⟩ := by
  have hend : introText.toList.getLast? ≠ some '\r' := by decide +kernel
  have hline : 1 < (Document.ofText introText).lineCount := by decide +kernel
  have hfound : referenceUnder introText ⟨1, 4⟩ =
      some ⟨⟨"in", 3, 5⟩, ⟨"Intro", 0, 0⟩, .leading⟩ := by decide +kernel
  have hlonger := references_in_longer_text (p := ⟨1, 4⟩) hend "~ In" hline
  obtain ⟨_, _, hleading, _⟩ := hlonger
  refine ⟨hend, hline, hfound, (hleading _ _ hfound).resolve_left ?_⟩
  decide +kernel

end DialogueIndex
