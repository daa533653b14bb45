import GraphSchema.Inflection.Ending
import GraphSchema.Text.Casing
import GraphSchema.Text.Segments
import GraphSchema.Text.Utf8

/-!
The English singular of table names. Uncountable words stay, irregular plurals are found as whole
words at the end of a name, and otherwise the first rule that applies to the word gives its
singular.
-/

namespace GraphSchema.Inflection

open Text

def uncountable : List String :=
  ["equipment", "information", "rice", "money", "species", "series", "fish", "sheep", "jeans",
    "police"]

def irregular : List (String × String) :=
  [("people", "person"), ("men", "man"), ("children", "child"), ("sexes", "sex"),
    ("moves", "move"), ("zombies", "zombie")]

/-- The ending rules, from the most specific to the most general. -/
def rules : List Rule := [
  .ending { kept := [word "database"], dropped := ["s"], put := "" },
  .ending { kept := [word "quiz"], dropped := ["zes"], put := "" },
  .ending { kept := [word "matr"], dropped := ["ices"], put := "ix" },
  .ending { kept := [word "vert", word "ind"], dropped := ["ices"], put := "ex" },
  .opening "ox" "en",
  .ending { kept := [word "alias", word "status"], dropped := ["es", ""], put := "" },
  .ending { kept := [word "octop", word "vir"], dropped := ["us", "i"], put := "us" },
  .ending { kept := [word "a"], dropped := ["xis", "xes"], put := "xis", whole := true },
  .ending { kept := [word "cris", word "test"], dropped := ["is", "es"], put := "is" },
  .ending { kept := [word "shoe"], dropped := ["s"], put := "" },
  .ending { kept := [word "o"], dropped := ["es"], put := "" },
  .ending { kept := [word "bus"], dropped := ["es", ""], put := "" },
  .ending { kept := [word "m", word "l"], dropped := ["ice"], put := "ouse", whole := true },
  .ending { kept := [word "x", word "ch", word "ss", word "sh"], dropped := ["es"], put := "" },
  .ending { kept := [word "m"], dropped := ["ovies"], put := "ovie" },
  .ending { kept := [word "s"], dropped := ["eries"], put := "eries" },
  .ending {
    kept := [[.noneOf ['a', 'e', 'i', 'o', 'u', 'y']], word "qu"], dropped := ["ies"], put := "y" },
  .ending { kept := [word "l", word "r"], dropped := ["ves"], put := "f" },
  .ending { kept := [word "tive"], dropped := ["s"], put := "" },
  .ending { kept := [word "hive"], dropped := ["s"], put := "" },
  .ending { kept := [[.noneOf ['f']]], dropped := ["ves"], put := "fe" },
  .ending { kept := [word "analy"], dropped := ["sis", "ses"], put := "sis", whole := true },
  .ending {
    kept := ["analy", "ba", "diagno", "parenthe", "progno", "synop", "the"].map word
    dropped := ["sis", "ses"], put := "sis" },
  .ending { kept := [word "t", word "i"], dropped := ["a"], put := "um" },
  .ending { kept := [word "n"], dropped := ["ews"], put := "ews" },
  .ending { kept := [word "ss"], dropped := [""], put := "" },
  .ending { kept := [[]], dropped := ["s"], put := "" }]

/-- The byte at which the last characters of a text begin, as many as a plural has bytes. -/
def pluralStart? (text plural : String) : Option Nat :=
  match plural.utf8ByteSize with
  | 0 => none
  | behind + 1 => (charStarts 0 text.toList).reverse[behind]?

def irregularStem? (text plural : String) : Option String := do
  let start ← pluralStart? text plural
  let (stem, tail) ← cutAtByte? start text.toList
  if stem.getLast? = some '_' && tail.map Char.toLower == plural.toList.map Char.toLower then
    some (String.ofList stem)
  else none

def irregularSingular? (text : String) : Option String :=
  irregular.findSome? fun (plural, single) =>
    if lowercase text = plural then some single
    else (irregularStem? text plural).map (· ++ single)

def singularWord (text : String) : String :=
  if uncountable.any (endsWith (lowercase text)) then text
  else
    match irregularSingular? text with
    | some single => single
    | none =>
        match rules.findSome? (Rule.singular? text.toList) with
        | some single => String.ofList single
        | none => text

def singular (exclusions : List String) (name : String) : String :=
  if exclusions.any (sameIgnoringCase name) then name
  else if lowercase name = "campus" || lowercase name = "meta" then name
  else if lowercase name = "calories" then "calorie"
  else singularWord name

end GraphSchema.Inflection
