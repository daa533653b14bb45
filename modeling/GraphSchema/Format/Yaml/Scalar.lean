import GraphSchema.Format.Yaml.Glyph
import GraphSchema.Text.Digits

/-!
Scalars, plain and in quotes. What parts two words of a scalar is kept until the next word comes:
spaces stay as they are, a single line feed becomes a space, and of several the first one is lost.
-/

namespace GraphSchema.Yaml

open Text

/-- What stands between two words of a scalar: spaces of one line, or ends of lines, last one first.
There is no first end of a line where a backslash takes it away. -/
inductive Gap
  | spaces (text : List Char)
  | breaks (first later : List Char)

namespace Gap

def empty : Gap := spaces []

def isEmpty : Gap → Bool
  | spaces text => text.isEmpty
  | breaks .. => false

def hasBreak : Gap → Bool
  | spaces _ => false
  | breaks .. => true

def addSpace (c : Char) : Gap → Gap
  | spaces text => spaces (c :: text)
  | breaks first later => breaks first later

def addBreak (c : Char) : Gap → Gap
  | spaces _ => breaks [c] []
  | breaks first later => breaks first (c :: later)

def text : Gap → List Char
  | spaces text => text.reverse
  | breaks ['\n'] [] => [' ']
  | breaks ['\n'] later => later.reverse
  | breaks first later => first ++ later.reverse

end Gap

def isFlowMark (c : Char) : Bool := [',', '[', ']', '\x7b', '\x7d'].contains c

def refusesColon (c : Char) : Bool := isFlowMark c || c = '?'

/-- Reads a plain scalar on from a gap, up to the gap behind it. Outside brackets it ends where a
line begins before the margin. -/
def plain (flow : Bool) (margin : Nat) (gap : Gap) :
    List Glyph → Option (List Char × Gap × List Glyph)
  | [] => some ([], gap, [])
  | glyph :: rest =>
      let c := glyph.char
      if isSpace c then
        if gap.hasBreak && c = '\t' && glyph.column < margin then none
        else plain flow margin (gap.addSpace c) rest
      else if isBreak c then plain flow margin (gap.addBreak c) rest
      else if !gap.isEmpty &&
          (c = '#' || isMarker (glyph :: rest) || (!flow && glyph.column < margin)) then
        some ([], gap, glyph :: rest)
      else if c = ':' && flow && rest.head?.any (refusesColon ·.char) then none
      else if (c = ':' && endsWord rest) || (flow && isFlowMark c) then
        some ([], gap, glyph :: rest)
      else do
        let (value, last, after) ← plain flow margin .empty rest
        return (gap.text ++ c :: value, last, after)

def escapes : List (Char × Nat) :=
  [('0', 0), ('a', 7), ('b', 8), ('t', 9), ('\t', 9), ('n', 10), ('v', 11), ('f', 12), ('r', 13),
    ('e', 27), (' ', 32), ('"', 34), ('/', 47), ('\\', 92), ('N', 0x85), ('_', 0xa0),
    ('L', 0x2028), ('P', 0x2029)]

def escape? : List Char → Option (Char × Nat)
  | 'x' :: a :: b :: _ => (charOfHex? [a, b]).map (·, 3)
  | 'u' :: a :: b :: c :: d :: _ => (charOfHex? [a, b, c, d]).map (·, 5)
  | 'U' :: a :: b :: c :: d :: e :: f :: g :: h :: _ =>
      (charOfHex? [a, b, c, d, e, f, g, h]).map (·, 9)
  | c :: _ => (escapes.lookup c).map fun code => (Char.ofNat code, 1)
  | [] => none

/-- What the front of a text says between quotes: the characters it stands for, how many further
ones it takes, and the gap it begins. A backslash at the end of a line takes the line end away. -/
def spelled? (quote c : Char) (rest : List Glyph) : Option (List Char × Nat × Gap) :=
  if c = quote then some ([c], 1, .empty)
  else if quote = '"' && c = '\\' then
    if rest.head?.any (isBreak ·.char) then some ([], 1, .breaks [] [])
    else (escape? ((rest.take 9).map Glyph.char)).map fun (value, length) =>
      ([value], length, .empty)
  else some ([c], 0, .empty)

/-- Reads a scalar in quotes on from a gap, up to the quote that closes it, once the next `taken`
characters are passed over. A single quote inside is written twice. -/
def quoted (quote : Char) (taken : Nat) (gap : Gap) : List Glyph → Option (List Char × List Glyph)
  | [] => none
  | glyph :: rest =>
      let c := glyph.char
      if taken ≠ 0 then quoted quote (taken - 1) gap rest
      else if isSpace c then quoted quote 0 (gap.addSpace c) rest
      else if isBreak c then quoted quote 0 (gap.addBreak c) rest
      else if isMarker (glyph :: rest) then none
      else if c = quote && (quote = '"' || !rest.head?.any (·.char = quote)) then
        some (gap.text, rest)
      else do
        let (front, taken, next) ← spelled? quote c rest
        let (value, after) ← quoted quote taken next rest
        return (gap.text ++ front ++ value, after)

end GraphSchema.Yaml
