import DialogueIndex.Proofs.MarkerPattern
import Mathlib.Data.List.DropRight

/-! # Names behind markers

What follows a marker is a run of blanks and, where that ends, a body. The name is the body without
the white space at its end. Without a body the last blank is taken for the name: white space counts
for nothing, and a byte-order mark is a name of its own. A line feed leaves no name where it would
have to be part of it.
-/

namespace DialogueIndex

/-- The parts of a text with a marker: the blanks in front of it, the blanks behind it as far as they
reach, and a body, which may be empty. -/
structure MarkerParts (text blanks gap body : List Char) : Prop where
  eq_append : text = blanks ++ markerChar :: (gap ++ body)
  blanks_blank : ∀ c ∈ blanks, isBlank c
  gap_blank : ∀ c ∈ gap, isBlank c
  body_head : ∀ c ∈ body.head?, isBlank c = false

/-- A name as it is written with some white space behind it, in which the name itself does not
end. -/
def IsWrittenAs (name written : List Char) : Prop :=
  ∃ spaces, written = name ++ spaces ∧ (∀ c ∈ spaces, isSpace c) ∧
    ∀ c ∈ name.getLast?, isSpace c = false

/-- What is left of a text without the white space at its end is written as the text. -/
theorem isWrittenAs_dropRightWhile (written : List Char) :
    IsWrittenAs (dropRightWhile isSpace written) written := by
  refine ⟨written.rtakeWhile isSpace, ?_, fun c hc => List.mem_rtakeWhile_imp hc, ?_⟩
  · exact List.rdropWhile_append_rtakeWhile.symm
  · intro c hc
    obtain ⟨hne, rfl⟩ := List.mem_getLast?_eq_getLast hc
    exact Bool.not_eq_true _ ▸ List.rdropWhile_last_not isSpace written hne

/-! ## Names in sections -/

theorem isSpace_eq_false_of_isBlank {c : Char} (hc : isBlank c = false) : isSpace c = false :=
  (Bool.or_eq_false_iff.mp hc).1

/-- A name that begins with no white space only loses what is at its end. -/
theorem Section.named_of_head? {written : List Char} (hne : written ≠ [])
    (hhead : ∀ c ∈ written.head?, isSpace c = false) (line column : Nat) :
    Section.named (String.ofList written) line column =
      ⟨String.ofList (dropRightWhile isSpace written), line, column⟩ := by
  obtain ⟨c, rest, rfl⟩ := List.exists_cons_of_ne_nil hne
  have hc : isSpace c = false := hhead c rfl
  have htrim : trim (c :: rest) = dropRightWhile isSpace (c :: rest) := by
    rw [trim, List.dropWhile_cons_of_neg (by simp [hc])]
  have hkept : dropRightWhile isSpace (c :: rest) ≠ [] := by
    intro hnil
    have hall := List.rdropWhile_eq_nil_iff.mp hnil
    rw [hall c List.mem_cons_self] at hc
    cases hc
  rw [named, String.toList_ofList, htrim, if_neg (by simpa using hkept)]

/-- A blank for a name is the placeholder or the byte-order mark. -/
theorem Section.named_blank {c : Char} (hc : isBlank c) (line column : Nat) :
    Section.named (String.ofList [c]) line column =
      ⟨if isSpace c then untitledName else String.ofList [byteOrderMark], line, column⟩ := by
  cases hspace : isSpace c with
  | true =>
      have htrim : trim [c] = [] := by
        rw [trim, List.dropWhile_cons_of_pos hspace]
        rfl
      rw [named, String.toList_ofList, htrim]
      rfl
  | false =>
      have hmark : c = byteOrderMark := by simpa [isBlank, hspace] using hc
      subst hmark
      rfl

/-! ## Names by parts -/

namespace MarkerParts

variable {text blanks gap body : List Char}

/-- What follows a marker behind blanks has parts. -/
theorem exists_of_blanks {rest : List Char} (hblanks : ∀ c ∈ blanks, isBlank c) :
    ∃ gap body, rest = gap ++ body ∧
      MarkerParts (blanks ++ markerChar :: rest) blanks gap body := by
  refine ⟨rest.takeWhile isBlank, rest.dropWhile isBlank, List.takeWhile_append_dropWhile.symm,
    by rw [List.takeWhile_append_dropWhile], hblanks, fun c hc => List.mem_takeWhile_imp hc, ?_⟩
  intro c hc
  have hhead := List.head?_dropWhile_not isBlank rest
  rw [Option.mem_def.mp hc] at hhead
  exact hhead

/-- A text is a section if its name is one, and starts at its marker. -/
theorem sectionOnLine?_eq (hparts : MarkerParts text blanks gap body) (line : Nat) :
    sectionOnLine? text line = (markerName? text).map fun name =>
      Section.named (String.ofList name) line blanks.length := by
  rw [sectionOnLine?, hparts.eq_append, charOffset_firstMarker hparts.blanks_blank]

/-- The name is the body, or the last of the blanks if there is no body. -/
theorem markerName?_eq (hparts : MarkerParts text blanks gap body) {name : List Char}
    (hname : (if body = [] then gap.getLast?.toList else body) = name) :
    markerName? text = if name = [] ∨ '\n' ∈ name then none else some name := by
  have hbody : (gap ++ body).dropWhile isBlank = body := by
    rw [List.dropWhile_append_of_pos hparts.gap_blank]
    cases body with
    | nil => rfl
    | cons c rest => rw [List.dropWhile_cons_of_neg (by simp [hparts.body_head c rfl])]
  have hread : (if body.isEmpty then (gap ++ body).getLast?.toList else body) = name := by
    rw [← hname]
    cases body <;> simp
  rw [markerName?, hparts.eq_append, dropWhile_isBlank hparts.blanks_blank]
  simp only [hbody, hread, true_and, ← not_or]
  exact ite_not _ _ _

theorem sectionOnLine?_of_body (hparts : MarkerParts text blanks gap body) (hbody : body ≠ [])
    (line : Nat) :
    sectionOnLine? text line = if '\n' ∈ body then none else
      some ⟨String.ofList (dropRightWhile isSpace body), line, blanks.length⟩ := by
  have hhead : ∀ c ∈ body.head?, isSpace c = false :=
    fun c hc => isSpace_eq_false_of_isBlank (hparts.body_head c hc)
  rw [hparts.sectionOnLine?_eq, hparts.markerName?_eq (if_neg hbody),
    ← Section.named_of_head? hbody hhead]
  by_cases hfeed : '\n' ∈ body
  · rw [if_pos (Or.inr hfeed), if_pos hfeed, Option.map_none]
  · rw [if_neg (not_or.mpr ⟨hbody, hfeed⟩), if_neg hfeed, Option.map_some]

theorem sectionOnLine?_of_last (hparts : MarkerParts text blanks gap []) {last : Char}
    (hlast : gap.getLast? = some last) (line : Nat) :
    sectionOnLine? text line = if last = '\n' then none else
      some ⟨if isSpace last then untitledName else String.ofList [byteOrderMark], line,
        blanks.length⟩ := by
  have hname : (if ([] : List Char) = [] then gap.getLast?.toList else []) = [last] := by
    rw [if_pos rfl, hlast, Option.toList_some]
  have hblank : isBlank last := hparts.gap_blank last (List.mem_of_getLast? hlast)
  rw [hparts.sectionOnLine?_eq, hparts.markerName?_eq hname, ← Section.named_blank hblank]
  by_cases hfeed : last = '\n'
  · rw [if_pos (Or.inr (List.mem_singleton.mpr hfeed.symm)), if_pos hfeed, Option.map_none]
  · have hkept : ¬ ([last] = [] ∨ '\n' ∈ [last]) := by simpa [eq_comm] using hfeed
    rw [if_neg hkept, if_neg hfeed, Option.map_some]

theorem sectionOnLine?_of_nothing (hparts : MarkerParts text blanks [] []) (line : Nat) :
    sectionOnLine? text line = none := by
  rw [hparts.sectionOnLine?_eq, hparts.markerName?_eq rfl]
  rfl

end MarkerParts

/-- What is read from a text with a marker, by its parts. Nothing is read unless something follows
the marker. A body gives a section if there is no line feed in it, and the section has its name
without the white space at the end. Blanks alone give a section if the last of them is no line feed,
and the section has the placeholder for a name if the last is white space, and the byte-order mark
if it is that. -/
theorem section_read_by_parts (text : List Char) (line : Nat) :
    ((sectionOnLine? text line).isSome →
      ∃ blanks rest, text = blanks ++ markerChar :: rest ∧ (∀ c ∈ blanks, isBlank c) ∧
        rest ≠ []) ∧
    (∀ blanks rest, text = blanks ++ markerChar :: rest → (∀ c ∈ blanks, isBlank c) →
      ∃ gap body, rest = gap ++ body ∧ MarkerParts text blanks gap body) ∧
    ∀ blanks gap body, MarkerParts text blanks gap body →
      (body ≠ [] → ((sectionOnLine? text line).isSome ↔ '\n' ∉ body)) ∧
      (body = [] → ((sectionOnLine? text line).isSome ↔ ∃ last ∈ gap.getLast?, last ≠ '\n')) ∧
      ∀ s ∈ sectionOnLine? text line, s.line = line ∧ s.column = blanks.length ∧
        (body ≠ [] → ∃ name, IsWrittenAs name body ∧ s.name = String.ofList name) ∧
        (body = [] → ∀ last ∈ gap.getLast?,
          s.name = if isSpace last then untitledName else String.ofList [byteOrderMark]) := by
  refine ⟨?_, ?_, ?_⟩
  · intro hsome
    obtain ⟨s, hs⟩ := Option.isSome_iff_exists.mp hsome
    obtain ⟨_, blanks, rest, htext, hblanks, _, hrest⟩ := opensSectionAt_of_sectionOnLine? hs
    exact ⟨blanks, rest, htext, hblanks, hrest⟩
  · rintro blanks rest rfl hblanks
    exact MarkerParts.exists_of_blanks hblanks
  · intro blanks gap body hparts
    by_cases hbody : body = []
    · subst hbody
      cases hlast : gap.getLast? with
      | none =>
          obtain rfl := List.getLast?_eq_none_iff.mp hlast
          simp [hparts.sectionOnLine?_of_nothing line]
      | some last =>
          rw [hparts.sectionOnLine?_of_last hlast line]
          by_cases hfeed : last = '\n' <;> simp [hfeed]
    · rw [hparts.sectionOnLine?_of_body hbody line]
      by_cases hfeed : '\n' ∈ body
      · simp [hfeed, hbody]
      · rw [if_neg hfeed]
        refine ⟨fun _ => by simp [hfeed], fun hnil => absurd hnil hbody, ?_⟩
        intro s hs
        obtain rfl := Option.mem_some_iff.mp hs
        exact ⟨rfl, rfl, fun _ => ⟨_, isWrittenAs_dropRightWhile body, rfl⟩,
          fun hnil => absurd hnil hbody⟩

end DialogueIndex
