import GraphSchema.Text.Digits

/-!
What an options document says, whatever its notation: leaves, lists and records. A leaf keeps as
much of its spelling as its notation lets a reader take into account, and what a field may take from
it is said here once. Absent members take their default.
-/

namespace GraphSchema

inductive Leaf
  | text (value : String)
  /-- A text without quotes, which may also be read as another kind of value. -/
  | plain (value : String)
  | flag (value : Bool)
  | integer (value : Int)
  | null
  /-- A value that no option takes, such as a number with a fraction. -/
  | other
  deriving DecidableEq

namespace Leaf

def magnitude? : List Char → Option Nat
  | '0' :: 'x' :: digits => Text.number? 16 digits
  | '0' :: 'o' :: digits => Text.number? 8 digits
  | '0' :: 'b' :: digits => Text.number? 2 digits
  | ['0'] => some 0
  | '0' :: _ => none
  | digits => Text.number? 10 digits

def plainInteger? (text : List Char) : Option Int :=
  match text with
  | '-' :: digits => (magnitude? digits).map fun number => -(number : Int)
  | '+' :: digits => (magnitude? digits).map Int.ofNat
  | digits => (magnitude? digits).map Int.ofNat

def text? : Leaf → Option String
  | text value => some value
  | plain value => some value
  | _ => none

def flag? : Leaf → Option Bool
  | flag value => some value
  | plain value =>
      if ["true", "True", "TRUE"].contains value then some true
      else if ["false", "False", "FALSE"].contains value then some false
      else none
  | _ => none

def integer? : Leaf → Option Int
  | integer value => some value
  | plain value => plainInteger? value.toList
  | _ => none

def isNull : Leaf → Bool
  | null => true
  | plain value => ["", "~", "null", "Null", "NULL"].contains value
  | _ => false

def isBlank : Leaf → Bool
  | plain value => value = ""
  | _ => false

end Leaf

/-- A document, or a part of it. The key of a member is absent when it spells no text. -/
inductive Datum
  | leaf (value : Leaf)
  | list (items : List Datum)
  | record (entries : List (Option String × Datum))

namespace Datum

def ofText (value : String) : Datum := .leaf (.text value)

def ofFlag (value : Bool) : Datum := .leaf (.flag value)

def ofInteger (value : Int) : Datum := .leaf (.integer value)

def text? : Datum → Option String
  | leaf value => value.text?
  | _ => none

def flag? : Datum → Option Bool
  | leaf value => value.flag?
  | _ => none

def int32? : Datum → Option Int32
  | leaf value => do
      let number ← value.integer?
      if -2147483648 ≤ number && number ≤ 2147483647 then some (Int32.ofInt number) else none
  | _ => none

def items? : Datum → Option (List Datum)
  | list items => some items
  | leaf value => if value.isBlank then some [] else none
  | record _ => none

def listOf? {α : Type} (read : Datum → Option α) (datum : Datum) : Option (List α) := do
  (← datum.items?).mapM read

def optional? {α : Type} (read : Datum → Option α) : Datum → Option (Option α)
  | leaf value => if value.isNull then some none else (read (leaf value)).map some
  | datum => (read datum).map some

def memberOr? {α : Type} (default : α) (read : Datum → Option α) : Option Datum → Option α
  | none => some default
  | some datum => read datum

abbrev Spellings := List String

/-- The member that goes by one of the names; two such members are an error. -/
def member? (names : Spellings) (entries : List (Option String × Datum)) :
    Option (Option Datum) :=
  match entries.filter fun entry => entry.1.any names.contains with
  | [] => some none
  | [entry] => some (some entry.2)
  | _ => none

/-- Whether a list may give the members of a record by their order. -/
inductive Positional
  | refused
  /-- The list has no more items than the record has members. -/
  | bounded
  /-- Items behind the last member are left unread. -/
  | unbounded

/-- The members of a record in the order of a layout; what the layout does not name is skipped. A
list gives the first members in order, where one may stand for a record. -/
def members? (positional : Positional) (layout : List Spellings) :
    Datum → Option (List (Option Datum))
  | record entries =>
      if entries.all (·.1.isSome) then layout.mapM (member? · entries) else none
  | list items =>
      let inOrder := items.map some ++ List.replicate (layout.length - items.length) none
      match positional with
      | .refused => none
      | .bounded => if items.length ≤ layout.length then some inOrder else none
      | .unbounded => some (inOrder.take layout.length)
  | leaf value => if value.isBlank then some (layout.map fun _ => none) else none

end Datum

end GraphSchema
