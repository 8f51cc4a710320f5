import DialogueIndex.Section

/-! # Name resolution

A target is looked up in two tiers. The first compares keys. Only if it finds nothing, the second
takes the lower-case target for the beginning of a lower-case name, with white space as it is
written. In each tier the first section in the given order wins.
-/

namespace DialogueIndex

/-- The tier that found a section. -/
inductive MatchKind where
  | exact
  | leading
deriving DecidableEq, Repr

def MatchKind.label : MatchKind → String
  | .exact => "exact"
  | .leading => "prefix"

def lowered (text : String) : String := String.ofList (lowercase text.toList)

/-- A section that a target was resolved to. -/
structure Resolution where
  target : Section
  kind : MatchKind
deriving DecidableEq, Repr

/-- The first section with the same key as the target. -/
def exactMatch? (target : String) (sections : List Section) : Option Section :=
  let key := nameKey target
  sections.find? (·.key == key)

/-- The first section whose name begins with the target, both in lower case. -/
def leadingMatch? (target : String) (sections : List Section) : Option Section :=
  let start := lowercase target.toList
  sections.find? fun s => start.isPrefixOf (lowercase s.name.toList)

/-- Resolves a target among sections. -/
def resolve (target : String) (sections : List Section) : Option Resolution :=
  match exactMatch? target sections with
  | some s => some ⟨s, .exact⟩
  | none => (leadingMatch? target sections).map (⟨·, .leading⟩)

end DialogueIndex
