/-!
Cutting a text into tokens. A scanner reads tokens off the front of a text and says what is left;
it is applied until nothing is left. As every application reads at least one character, the length
of the text bounds their number.
-/

namespace GraphSchema

abbrev Scanner (Token : Type) := List Char → Option (List Token × List Char)

/-- The tokens of a text that the scanner reads in at most `steps` applications, behind those that
are `done`, last one first. -/
def Scanner.within {Token : Type} (scan : Scanner Token) (done : List Token) :
    Nat → List Char → Option (List Token)
  | _, [] => some done.reverse
  | 0, _ :: _ => none
  | steps + 1, c :: text =>
      match scan (c :: text) with
      | none => none
      | some (tokens, rest) => Scanner.within scan (tokens.reverse ++ done) steps rest

def Scanner.all {Token : Type} (scan : Scanner Token) (text : List Char) : Option (List Token) :=
  scan.within [] text.length text

end GraphSchema
