import DialogueIndex.Number.Binary64

/-! # Data

The values that reports are made of and that text formats carry: counts, measured numbers, texts,
lists, and records whose fields keep their order.
-/

namespace DialogueIndex

/-- A value of a text format. -/
inductive Data where
  | null
  | bool (value : Bool)
  | nat (value : Nat)
  | number (value : Binary64)
  | text (value : String)
  | list (items : List Data)
  | record (fields : List (String × Data))
deriving Inhabited

namespace Data

def lastField? (name : String) : List (String × Data) → Option Data
  | [] => none
  | (key, value) :: rest =>
    match lastField? name rest with
    | some later => some later
    | none => if key = name then some value else none

def field? (name : String) : Data → Option Data
  | record fields => lastField? name fields
  | _ => none

def asText? : Data → Option String
  | text value => some value
  | _ => none

/-- The count that a value is: a whole number of at most 64 bits. -/
def asCount? : Data → Option Nat
  | nat value => if value < Nat.pow 2 64 then some value else none
  | _ => none

def asNumber? : Data → Option Binary64
  | nat value => Binary64.ofRatio? false value 1
  | number value => some value
  | _ => none

def asBool? : Data → Option Bool
  | bool value => some value
  | _ => none

def asList? : Data → Option (List Data)
  | list items => some items
  | _ => none

/-- The values of exactly the named fields, in the given order. A record may have more fields; a
list stands for a record when it has one item for each name. -/
def fieldsOf? (names : List String) : Data → Option (List Data)
  | record fields => names.mapM (lastField? · fields)
  | list items => if items.length = names.length then some items else none
  | _ => none

/-- The label that a value stands for: a text, or a record of one empty field with that name. -/
def asLabel? : Data → Option String
  | text value => some value
  | record [(label, null)] => some label
  | _ => none

end Data

end DialogueIndex
