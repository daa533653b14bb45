/-!
The characters of a YAML text with their places. Lines end at five characters; the two that end a
paragraph keep their own spelling, and every other end of a line counts as one line feed.
-/

namespace GraphSchema.Yaml

def isSpace (c : Char) : Bool := c = ' ' || c = '\t'

def isBreak (c : Char) : Bool := ['\n', '\r', '\u0085', '\u2028', '\u2029'].contains c

/-- Whether a text may hold a character. Control characters other than tabs and ends of lines are
not allowed, nor are the last two code points of the basic plane. -/
def isAllowed (c : Char) : Bool :=
  [0x9, 0xa, 0xd, 0x85].contains c.toNat || (0x20 ≤ c.toNat && c.toNat ≤ 0x7e) ||
    (0xa0 ≤ c.toNat && c.toNat ≤ 0xfffd) || 0x10000 ≤ c.toNat

/-- A character and where it stands: its line, its place on the line, and the number of bytes
before it. -/
structure Glyph where
  char : Char
  line : Nat
  column : Nat
  offset : Nat

def lineEnd (c : Char) : Char := if c = '\r' || c = '\u0085' then '\n' else c

def placedFrom (line column offset : Nat) : List Char → List Glyph
  | [] => []
  | '\r' :: '\n' :: rest =>
      ⟨'\n', line, column, offset⟩ :: placedFrom (line + 1) 0 (offset + 2) rest
  | c :: rest =>
      if isBreak c then
        ⟨lineEnd c, line, column, offset⟩ :: placedFrom (line + 1) 0 (offset + c.utf8Size) rest
      else ⟨c, line, column, offset⟩ :: placedFrom line (column + 1) (offset + c.utf8Size) rest

def placed (text : List Char) : List Glyph := placedFrom 0 0 0 text

/-- Whether a line begins with a byte order mark, which takes a place and says nothing. -/
def isOrderMark (glyph : Glyph) : Bool := glyph.column = 0 && glyph.char = '\ufeff'

def endsWord : List Glyph → Bool
  | [] => true
  | glyph :: _ => isSpace glyph.char || isBreak glyph.char

def isMarker : List Glyph → Bool
  | first :: second :: third :: rest =>
      first.column = 0 && (first.char = '-' || first.char = '.') && second.char = first.char &&
        third.char = first.char && endsWord rest
  | _ => false

end GraphSchema.Yaml
