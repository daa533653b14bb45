/-!
Rules on the endings of plural words. A rule names what must stay in front, what is taken off and
what is put in its place. Letters match without regard to case, where the long s counts as an s and
the Kelvin sign as a k.
-/

namespace GraphSchema.Inflection

def foldLetter (c : Char) : Char :=
  if c = 'ſ' then 's' else if c.toNat = 0x212a then 'k' else c.toLower

inductive Letter
  | is (c : Char)
  | noneOf (excluded : List Char)

def Letter.accepts : Letter → Char → Bool
  | .is wanted, c => foldLetter c = wanted
  | .noneOf excluded, c => !excluded.contains (foldLetter c)

def spells : List Letter → List Char → Bool
  | [], [] => true
  | letter :: letters, c :: rest => letter.accepts c && spells letters rest
  | _, _ => false

def word (text : String) : List Letter := text.toList.map .is

/-- A rule on the end of a word: one of `kept` stays, one of `dropped` after it gives way to
`put`. With `whole` set, what stays is all the rest of the word. -/
structure Ending where
  kept : List (List Letter)
  dropped : List String
  put : String
  whole : Bool := false

def Ending.keeps (rule : Ending) (stem : List Char) : Bool :=
  rule.kept.any fun letters =>
    if rule.whole then spells letters stem
    else letters.length ≤ stem.length && spells letters (stem.drop (stem.length - letters.length))

def Ending.singular? (rule : Ending) (text : List Char) : Option (List Char) :=
  rule.dropped.findSome? fun tail =>
    let stem := text.take (text.length - tail.length)
    if tail.length ≤ text.length && spells (word tail) (text.drop stem.length) &&
        rule.keeps stem then
      some (stem ++ rule.put.toList)
    else none

/-- A rule of the singular: on the end of a word, or on its beginning. -/
inductive Rule
  | ending (rule : Ending)
  | opening (kept dropped : String)

def Rule.singular? (text : List Char) : Rule → Option (List Char)
  | .ending rule => rule.singular? text
  | .opening kept dropped =>
      let front := kept.length + dropped.length
      if spells (word (kept ++ dropped)) (text.take front) then
        some (text.take kept.length ++ text.drop front)
      else none

end GraphSchema.Inflection
