import GraphSchema.Options.Renames
import GraphSchema.Text.Alphanumeric
import GraphSchema.Text.Casing
import GraphSchema.Text.Segments

/-!
The spellings of names. Types and fields are PascalCase, arguments are lowerCamel with `id` spelled
`ID`, and stored names are snake_case. An exact-name replacement goes before the PascalCase rule.
-/

namespace GraphSchema.Naming

open Text

def pascalWords (name : List Char) : List Char :=
  (segments '_' (name.map fun c => if isAlphanumeric c then c else '_')).flatMap upperFirstChars

def guardDigit : List Char → List Char
  | [] => []
  | c :: rest => if c.isDigit then '_' :: c :: rest else c :: rest

def pascalCase (name : String) : String := String.ofList (guardDigit (pascalWords name.toList))

def structName (renames : Renames) (name : String) : String :=
  (renames.replacement? name).getD (pascalCase name)

def laterWord (word : List Char) : List Char :=
  if word = ['i', 'd'] then ['I', 'D'] else upperFirstChars word

def argumentChars (name : List Char) : List Char :=
  match segments '_' name with
  | [] => []
  | word :: words => lowerChars word ++ words.flatMap laterWord

/-- The name of an argument: `author_id` becomes `authorID`. -/
def argumentName (name : String) : String := String.ofList (argumentChars name.toList)

def capitalsBehind? (c : Char) (rest : List Char) : Option Nat :=
  let capitals := rest.takeWhile Char.isUpper
  if c.isUpper || capitals.isEmpty then none else some capitals.length

/-- Writes an underscore before each run of ASCII capitals, unless the name begins with it. -/
def markBoundaries (name : List Char) : List Char :=
  replaceMatches capitalsBehind? (fun c capitals => c :: '_' :: capitals) 0 name

def snakeChars (name : List Char) : List Char :=
  if '_' ∈ name then lowerChars name else lowerChars (markBoundaries name)

/-- The stored spelling of a type name; a name with an underscore is only put in lower case. -/
def snakeCase (name : String) : String := String.ofList (snakeChars name.toList)

/-- The part of an enum value that may stand in a name: `-`, `:` and `/` become underscores, and
what is neither an ASCII letter, a digit nor an underscore is left out. -/
def valueLabel (value : String) : String :=
  String.ofList <| (value.toList.map fun c => if ['-', ':', '/'].contains c then '_' else c).filter
    fun c => c.isAlphanum || c = '_'

def columnLabel (name : String) (position : Nat) : String :=
  if name = "" then "column_" ++ (position + 1).repr else name

def parameterLabel (name : String) (number : Int) : String :=
  if name = "" then "dollar_" ++ number.repr else argumentName name

end GraphSchema.Naming
