/-! # Positions and spans

Lines and characters are counted from zero.
-/

namespace DialogueIndex

/-- A character of a document, or the end of one of its lines. -/
structure Position where
  line : Nat
  character : Nat
deriving DecidableEq, Repr

namespace Position

/-- Document order: by line, then by character. -/
def Before (p q : Position) : Prop :=
  p.line < q.line ∨ p.line = q.line ∧ p.character < q.character

end Position

/-- The text from one position to another. -/
structure Span where
  start : Position
  stop : Position
deriving DecidableEq, Repr

namespace Span

/-- The span without text at a position. -/
def point (p : Position) : Span := ⟨p, p⟩

def isEmpty (span : Span) : Bool := span.start == span.stop

end Span

end DialogueIndex
