import GraphSchema.Format.Nesting
import GraphSchema.Format.Scan
import GraphSchema.Text.Utf8

/-!
JSON, read from bytes. Every byte of the grammar is ASCII, so a byte is read as the character of its
number; what quotes hold is taken back to bytes and must then be UTF-8. A value whose string is no
text is still a value, which only an option cannot take.
-/

namespace GraphSchema.Json

/-- A part of a string: a byte as it stands, or a UTF-16 unit that an escape gives by number. -/
inductive Unit
  | byte (value : UInt8)
  | escaped (unit : Nat)

def scanString : List Char → Option (List Unit × List Char)
  | [] => none
  | '"' :: rest => some ([], rest)
  | '\\' :: 'u' :: a :: b :: c :: d :: rest => do
      let unit ← Text.number? 16 [a, b, c, d]
      let (units, after) ← scanString rest
      return (.escaped unit :: units, after)
  | '\\' :: c :: rest => do
      let code ← [('"', 0x22), ('\\', 0x5c), ('/', 0x2f), ('b', 8), ('f', 12), ('n', 10),
        ('r', 13), ('t', 9)].lookup c
      let (units, after) ← scanString rest
      return (.escaped code :: units, after)
  | c :: rest => do
      if c = '\\' || c.toNat < 0x20 then none
      let (units, after) ← scanString rest
      return (.byte c.toNat.toUInt8 :: units, after)

/-- The UTF-8 of the units. Two units that make a pair give one character; any other surrogate has
no UTF-8, and the byte 255, which UTF-8 never holds, takes its place. -/
def encodeUnits : List Unit → List UInt8
  | [] => []
  | .byte value :: rest => value :: encodeUnits rest
  | .escaped high :: .escaped low :: rest =>
      if 0xd800 ≤ high && high < 0xdc00 && 0xdc00 ≤ low && low < 0xe000 then
        String.utf8EncodeChar (Char.ofNat (0x10000 + (high - 0xd800) * 0x400 + (low - 0xdc00))) ++
          encodeUnits rest
      else single high ++ encodeUnits (.escaped low :: rest)
  | .escaped unit :: rest => single unit ++ encodeUnits rest
where
  single (unit : Nat) : List UInt8 :=
    match Text.charOfCode? unit with
    | some c => String.utf8EncodeChar c
    | none => [255]

def isNumberChar (c : Char) : Bool := c.isDigit || ['+', '-', '.', 'e', 'E'].contains c

def isWhole : List Char → Bool
  | ['0'] => true
  | '0' :: _ => false
  | digits => !digits.isEmpty && digits.all Char.isDigit

def isExponent : List Char → Bool
  | '+' :: digits => !digits.isEmpty && digits.all Char.isDigit
  | '-' :: digits => !digits.isEmpty && digits.all Char.isDigit
  | digits => !digits.isEmpty && digits.all Char.isDigit

def isTail : List Char → Bool
  | '.' :: rest =>
      let digits := rest.takeWhile Char.isDigit
      let after := rest.dropWhile Char.isDigit
      !digits.isEmpty &&
        match after with
        | [] => true
        | mark :: exponent => (mark = 'e' || mark = 'E') && isExponent exponent
  | mark :: exponent => (mark = 'e' || mark = 'E') && isExponent exponent
  | [] => true

/-- A number. Only a whole number written as such is an integer, and minus zero is none. -/
def number? (text : List Char) : Option Leaf :=
  let (negative, body) :=
    match text with
    | '-' :: rest => (true, rest)
    | _ => (false, text)
  let whole := body.takeWhile Char.isDigit
  let tail := body.dropWhile Char.isDigit
  if !isWhole whole || !isTail tail then none
  else if !tail.isEmpty || (negative && whole = ['0']) then some .other
  else (Text.number? 10 whole).map fun number =>
    .integer (if negative then -(number : Int) else number)

def isSpace (c : Char) : Bool := [' ', '\t', '\n', '\r'].contains c

def scan : Scanner Nesting.Token
  | [] => none
  | '[' :: rest => some ([.openList], rest)
  | ']' :: rest => some ([.closeList], rest)
  | '\x7b' :: rest => some ([.openRecord], rest)
  | '\x7d' :: rest => some ([.closeRecord], rest)
  | ',' :: rest => some ([.comma], rest)
  | ':' :: rest => some ([.colon], rest)
  | '"' :: rest => do
      let (units, after) ← scanString rest
      return ([.quoted (Text.ofUtf8? (encodeUnits units))], after)
  | 't' :: 'r' :: 'u' :: 'e' :: rest => some ([.bare (.flag true)], rest)
  | 'f' :: 'a' :: 'l' :: 's' :: 'e' :: rest => some ([.bare (.flag false)], rest)
  | 'n' :: 'u' :: 'l' :: 'l' :: rest => some ([.bare .null], rest)
  | c :: rest =>
      if isSpace c then some ([], rest)
      else do
        let value ← number? ((c :: rest).takeWhile isNumberChar)
        return ([.bare value], (c :: rest).dropWhile isNumberChar)

def read? (bytes : List UInt8) : Option Datum := do
  let tokens ← Scanner.all scan (bytes.map fun byte => Char.ofNat byte.toNat)
  Nesting.read? tokens

end GraphSchema.Json
