import DialogueIndex.Path
import DialogueIndex.Reference

/-! # Definitions

A definition says which section of a file a name or a reference leads to.
-/

namespace DialogueIndex

/-- Where a token of a file leads. -/
structure Definition where
  path : Path
  token : String
  sectionName : String
  kind : MatchKind
  target : Position
deriving DecidableEq, Repr

/-- The definition that a resolution gives for a token of a file. -/
def Resolution.toDefinition (r : Resolution) (path : Path) (token : String) : Definition where
  path := path
  token := token
  sectionName := r.target.name
  kind := r.kind
  target := r.target.position

end DialogueIndex
