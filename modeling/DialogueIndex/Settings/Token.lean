import DialogueIndex.Text.Blank

/-! # Tokens of settings texts

A settings text is made of words, quoted texts and a few signs. Quotation marks allow escapes,
apostrophes do not; three of either enclose a text that may reach over several lines. A hash begins
a comment.
-/

namespace DialogueIndex

namespace Settings

/-- What a settings text consists of. -/
inductive Token where
  | word (text : List Char)
  | quoted (text : List Char)
  /-- A quoted text that may hold several lines, and is no key. -/
  | block (text : List Char)
  | equals
  | openList
  | closeList
  | comma
  | newline
deriving DecidableEq, Repr

/-- Whether a character may stand in a comment, or in a quoted text unless it ends the text. -/
def isTextChar (c : Char) : Bool := c == '\t' || (0x20 ≤ c.toNat && c.toNat != 0x7F)

def isWordPart (c : Char) : Bool :=
  c.isAlphanum || c == '_' || c == '-' || c == '+' || c == '.' || c == ':'

def escapedChar? (c : Char) : Option Char :=
  match c with
  | 'b' => some '\x08'
  | 't' => some '\t'
  | 'n' => some '\n'
  | 'f' => some '\x0c'
  | 'r' => some '\r'
  | '"' => some '"'
  | '\\' => some '\\'
  | _ => none

def hexDigit? (c : Char) : Option Nat :=
  if c.isDigit then some (c.toNat - '0'.toNat)
  else if 'a' ≤ c ∧ c ≤ 'f' then some (c.toNat - 'a'.toNat + 10)
  else if 'A' ≤ c ∧ c ≤ 'F' then some (c.toNat - 'A'.toNat + 10)
  else none

def numberedChar? (digits : List Char) : Option Char := do
  let number ← digits.foldlM (fun n d => (hexDigit? d).map (16 * n + ·)) 0
  if h : number.isValidChar then some ⟨number.toUInt32, by
    rcases h with h | h <;> simp only [UInt32.isValidChar, Nat.isValidChar] <;>
      simp only [Nat.toUInt32_eq, UInt32.toNat_ofNat'] <;> omega⟩
  else none

/-- Whether only spaces and tabs stand before the end of the line. -/
def endsLine : List Char → Bool
  | ' ' :: rest => endsLine rest
  | '\t' :: rest => endsLine rest
  | '\n' :: _ => true
  | '\r' :: '\n' :: _ => true
  | _ => false

/-- Puts a character of a word in front of tokens. `joined` says that the word goes on. -/
def pushChar (c : Char) (joined : Bool) : List Token → List Token
  | .word text :: rest =>
    if joined then .word (c :: text) :: rest else .word [c] :: .word text :: rest
  | rest => .word [c] :: rest

mutual

def tokens : List Char → Option (List Token)
  | [] => some []
  | '\n' :: rest => (tokens rest).map (.newline :: ·)
  | '\r' :: '\n' :: rest => (tokens rest).map (.newline :: ·)
  | ' ' :: rest => tokens rest
  | '\t' :: rest => tokens rest
  | '#' :: rest => comment rest
  | '=' :: rest => (tokens rest).map (.equals :: ·)
  | '[' :: rest => (tokens rest).map (.openList :: ·)
  | ']' :: rest => (tokens rest).map (.closeList :: ·)
  | ',' :: rest => (tokens rest).map (.comma :: ·)
  | '"' :: '"' :: '"' :: '\n' :: rest => escapedBlock [] false rest
  | '"' :: '"' :: '"' :: '\r' :: '\n' :: rest => escapedBlock [] false rest
  | '"' :: '"' :: '"' :: rest => escapedBlock [] false rest
  | '"' :: rest => escapedText [] rest
  | '\'' :: '\'' :: '\'' :: '\n' :: rest => plainBlock [] rest
  | '\'' :: '\'' :: '\'' :: '\r' :: '\n' :: rest => plainBlock [] rest
  | '\'' :: '\'' :: '\'' :: rest => plainBlock [] rest
  | '\'' :: rest => plainText [] rest
  | c :: rest =>
    if isWordPart c then (tokens rest).map (pushChar c (rest.head?.any isWordPart)) else none
termination_by structural text => text

/-- The tokens from inside a comment on. -/
def comment : List Char → Option (List Token)
  | [] => some []
  | '\n' :: rest => (tokens rest).map (.newline :: ·)
  | '\r' :: '\n' :: rest => (tokens rest).map (.newline :: ·)
  | c :: rest => if isTextChar c then comment rest else none
termination_by structural text => text

/-- The tokens from inside quotation marks on. -/
def escapedText (current : List Char) : List Char → Option (List Token)
  | [] => none
  | '"' :: rest => (tokens rest).map (.quoted current.reverse :: ·)
  | '\\' :: 'u' :: a :: b :: c :: d :: rest => do
    escapedText ((← numberedChar? [a, b, c, d]) :: current) rest
  | '\\' :: 'U' :: a :: b :: c :: d :: e :: f :: g :: h :: rest => do
    escapedText ((← numberedChar? [a, b, c, d, e, f, g, h]) :: current) rest
  | '\\' :: c :: rest => do escapedText ((← escapedChar? c) :: current) rest
  | c :: rest => if isTextChar c ∧ c ≠ '\\' then escapedText (c :: current) rest else none
termination_by structural text => text

/-- The tokens from between apostrophes on. -/
def plainText (current : List Char) : List Char → Option (List Token)
  | [] => none
  | '\'' :: rest => (tokens rest).map (.quoted current.reverse :: ·)
  | c :: rest => if isTextChar c then plainText (c :: current) rest else none
termination_by structural text => text

/-- The tokens from inside three quotation marks on. A backslash at the end of a line takes away
all space up to the next character; `skipping` says that this is under way. Up to two quotation
marks may stand right before the closing ones. -/
def escapedBlock (current : List Char) (skipping : Bool) : List Char → Option (List Token)
  | [] => none
  | '"' :: '"' :: '"' :: '"' :: '"' :: rest =>
    (tokens rest).map (.block ('"' :: '"' :: current).reverse :: ·)
  | '"' :: '"' :: '"' :: '"' :: rest => (tokens rest).map (.block ('"' :: current).reverse :: ·)
  | '"' :: '"' :: '"' :: rest => (tokens rest).map (.block current.reverse :: ·)
  | '\\' :: 'u' :: a :: b :: c :: d :: rest => do
    escapedBlock ((← numberedChar? [a, b, c, d]) :: current) false rest
  | '\\' :: 'U' :: a :: b :: c :: d :: e :: f :: g :: h :: rest => do
    escapedBlock ((← numberedChar? [a, b, c, d, e, f, g, h]) :: current) false rest
  | '\\' :: c :: rest =>
    if endsLine (c :: rest) then escapedBlock current true (c :: rest)
    else do escapedBlock ((← escapedChar? c) :: current) false rest
  | '\r' :: '\n' :: rest =>
    if skipping then escapedBlock current true rest
    else escapedBlock ('\n' :: current) false rest
  | c :: rest =>
    if skipping ∧ (c = ' ' ∨ c = '\t' ∨ c = '\n') then escapedBlock current true rest
    else if (isTextChar c ∧ c ≠ '\\') ∨ c = '\n' then escapedBlock (c :: current) false rest
    else none
termination_by structural text => text

/-- The tokens from between three apostrophes on. -/
def plainBlock (current : List Char) : List Char → Option (List Token)
  | [] => none
  | '\'' :: '\'' :: '\'' :: '\'' :: '\'' :: rest =>
    (tokens rest).map (.block ('\'' :: '\'' :: current).reverse :: ·)
  | '\'' :: '\'' :: '\'' :: '\'' :: rest =>
    (tokens rest).map (.block ('\'' :: current).reverse :: ·)
  | '\'' :: '\'' :: '\'' :: rest => (tokens rest).map (.block current.reverse :: ·)
  | '\r' :: '\n' :: rest => plainBlock ('\n' :: current) rest
  | c :: rest => if isTextChar c ∨ c = '\n' then plainBlock (c :: current) rest else none
termination_by structural text => text

end

end Settings

end DialogueIndex
