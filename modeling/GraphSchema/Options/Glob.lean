import GraphSchema.Options.Error
import GraphSchema.Text.Utf8

/-!
Globs on the bytes of a text. A question mark is one byte and a star any number of them; square
brackets hold a class of bytes and curly brackets alternatives. Two stars that fill a path component
also stand for no component at all, or for several. A glob matches whole texts only.
-/

namespace GraphSchema

structure ByteClass where
  negated : Bool
  ranges : List (UInt8 × UInt8)

def ByteClass.holds (byteClass : ByteClass) (byte : UInt8) : Bool :=
  byteClass.negated != byteClass.ranges.any fun range => range.1 ≤ byte && byte ≤ range.2

inductive Glob
  | empty
  | inClass (byteClass : ByteClass)
  | anything
  | followedBy (first second : Glob)
  | either (first second : Glob)

namespace Glob

def anyByte : Glob := .inClass ⟨true, []⟩

def exactly (byte : UInt8) : Glob := .inClass ⟨false, [(byte, byte)]⟩

def slash : Glob := exactly 0x2f

def spread (marked : Bool) : List Bool → List Bool
  | [] => []
  | mark :: marks => (marked || mark) :: spread (marked || mark) marks

/-- The places of a text where a match ends that begins at a marked place. A text has a place before
each byte and one at its end. -/
def ends (bytes : List UInt8) : Glob → List Bool → List Bool
  | empty, marks => marks
  | inClass byteClass, marks =>
      false :: List.zipWith (fun mark byte => mark && byteClass.holds byte) marks bytes
  | anything, marks => spread false marks
  | followedBy first second, marks => second.ends bytes (first.ends bytes marks)
  | either first second, marks =>
      List.zipWith (· || ·) (first.ends bytes marks) (second.ends bytes marks)

def matchesBytes (glob : Glob) (bytes : List UInt8) : Bool :=
  (glob.ends bytes (true :: bytes.map fun _ => false)).getLast? = some true

def accepts (glob : Glob) (text : String) : Bool := glob.matchesBytes (Text.utf8 text)

def append : Glob → Glob → Glob
  | empty, second => second
  | first, empty => first
  | first, second => followedBy first second

/-- The alternatives of a group; one that is empty is no alternative. -/
def oneOf : List Glob → Glob
  | [] => empty
  | empty :: alternatives => oneOf alternatives
  | alternative :: alternatives =>
      match oneOf alternatives with
      | empty => alternative
      | others => either alternative others

inductive Piece
  | literal (c : Char)
  | anyByte
  | many
  /-- Two stars as the first path component. -/
  | leading
  /-- Two stars as the last path component, with the slash before them. -/
  | trailing
  /-- Two stars as a path component inside, with the slashes around them. -/
  | between
  | inClass (byteClass : ByteClass)
  | group (glob : Glob)

def Piece.glob : Piece → Glob
  | literal c => (String.utf8EncodeChar c).foldr (fun byte => append (exactly byte)) empty
  | anyByte => Glob.anyByte
  | many => anything
  | leading => either empty (either slash (followedBy anything slash))
  | trailing => followedBy slash anything
  | between => either slash (followedBy slash (followedBy anything slash))
  | inClass byteClass => Glob.inClass byteClass
  | group glob => glob

def ofPieces (pieces : List Piece) : Glob :=
  pieces.foldr (fun piece => append piece.glob) empty

structure OpenClass where
  negated : Bool := false
  ranges : List (Char × Char) := []
  /-- Nothing has been read yet, so that a negation may come. -/
  atStart : Bool := true
  /-- No member has been read yet, so that a closing bracket is a member. -/
  isFirst : Bool := true
  inRange : Bool := false

namespace OpenClass

/-- The bytes of a range of characters: an end that takes several bytes gives each of them, and the
range runs from the last byte of its low end to the first byte of its high end. -/
def byteRanges (range : Char × Char) : List (UInt8 × UInt8) :=
  let low := String.utf8EncodeChar range.1
  let high := String.utf8EncodeChar range.2
  if range.1 = range.2 then low.map fun byte => (byte, byte)
  else
    (low.dropLast.map fun byte => (byte, byte)) ++ [(low.getLastD 0, high.headD 0)] ++
      (high.tail.map fun byte => (byte, byte))

def byteClass (cls : OpenClass) : ByteClass where
  negated := cls.negated
  ranges := (if cls.inRange then ('-', '-') :: cls.ranges else cls.ranges).flatMap byteRanges

def add (cls : OpenClass) (c : Char) : OpenClass :=
  { cls with ranges := (c, c) :: cls.ranges, atStart := false, isFirst := false, inRange := false }

def close (cls : OpenClass) (c : Char) : Except GlobError OpenClass :=
  match cls.ranges with
  | [] => .ok (cls.add c)
  | (low, _) :: ranges =>
      if c < low then .error (.invalidRange low c)
      else .ok { cls with
        ranges := (low, c) :: ranges, atStart := false, isFirst := false, inRange := false }

def read (cls : OpenClass) (c : Char) : Except GlobError OpenClass :=
  if cls.atStart && (c = '!' || c = '^') then .ok { cls with negated := true, atStart := false }
  else if c = '-' && !cls.isFirst && !cls.inRange then .ok { cls with inRange := true }
  else if cls.inRange then cls.close c
  else .ok (cls.add c)

end OpenClass

/-- What has been read of a pattern: the pieces of the current branch, last one first, and for each
group that is open, inmost first, the branch around it and the branches it has ended. -/
structure Reading where
  current : List Piece := []
  outer : List (List Piece × List (List Piece)) := []

namespace Reading

def push (reading : Reading) (piece : Piece) : Reading :=
  { reading with current := piece :: reading.current }

def pushStars (reading : Reading) : Reading := (reading.push .many).push .many

/-- Reads two stars after a slash; they stand for the slash too. -/
def pushComponent (reading : Reading) (piece : Piece) : Reading :=
  match reading.current with
  | [] => reading.push piece
  | .leading :: _ => reading
  | .trailing :: _ => reading
  | _ :: pieces => { reading with current := piece :: pieces }

def atComponent (reading : Reading) (previous : Option Char) : Bool :=
  previous = some '/' ||
    (!reading.outer.isEmpty && (previous = some ',' || previous = some '\x7b'))

def openGroup (reading : Reading) : Reading where
  current := []
  outer := (reading.current, []) :: reading.outer

def nextBranch (reading : Reading) : Reading :=
  match reading.outer with
  | [] => reading.push (.literal ',')
  | (around, ended) :: outer =>
      { current := [], outer := (around, reading.current :: ended) :: outer }

def closeGroup (reading : Reading) : Except GlobError Reading :=
  match reading.outer with
  | [] => .error .unopenedGroup
  | (around, ended) :: outer =>
      let branches := (reading.current :: ended).reverse
      let group := oneOf (branches.map fun pieces => ofPieces pieces.reverse)
      .ok { current := .group group :: around, outer }

end Reading

/-- Reads the rest of a pattern, where `previous` is the character before it and `open?` the class
that it begins in. -/
def readFrom (open? : Option OpenClass) (previous : Option Char) (reading : Reading) :
    List Char → Except GlobError Reading
  | [] => if open?.isSome then .error .unclosedClass else .ok reading
  | c :: rest =>
      match open? with
      | some cls =>
          if c = ']' && !cls.isFirst then
            readFrom none (some c) (reading.push (.inClass cls.byteClass)) rest
          else do
            let cls ← cls.read c
            readFrom (some cls) (some c) reading rest
      | none =>
          match c, rest with
          | '*', '*' :: '/' :: after =>
              if reading.current.isEmpty then
                readFrom none (some '/') (reading.push .leading) after
              else if reading.atComponent previous then
                readFrom none (some '/') (reading.pushComponent .between) after
              else readFrom none (some '*') reading.pushStars ('/' :: after)
          | '*', '*' :: after =>
              let ends := after.isEmpty ||
                (!reading.outer.isEmpty && (after.head? = some ',' || after.head? = some '\x7d'))
              if reading.current.isEmpty then
                readFrom none (some '*')
                  (if after.isEmpty then reading.push .leading else reading.pushStars) after
              else if reading.atComponent previous && ends then
                readFrom none (some '*') (reading.pushComponent .trailing) after
              else readFrom none (some '*') reading.pushStars after
          | '*', after => readFrom none (some '*') (reading.push .many) after
          | '?', after => readFrom none (some '?') (reading.push .anyByte) after
          | '[', after => readFrom (some {}) (some '[') reading after
          | '\x7b', after => readFrom none (some '\x7b') reading.openGroup after
          | '\x7d', after => do
              let reading ← reading.closeGroup
              readFrom none (some '\x7d') reading after
          | ',', after => readFrom none (some ',') reading.nextBranch after
          | '\\', [] => .error .danglingEscape
          | '\\', c :: after => readFrom none (some c) (reading.push (.literal c)) after
          | c, after => readFrom none (some c) (reading.push (.literal c)) after

/-- Compiles a pattern. A pattern of two stars alone matches every text. -/
def compile (pattern : String) : Except GlobError Glob := do
  let reading ← readFrom none none {} pattern.toList
  if !reading.outer.isEmpty then throw .unclosedGroup
  match reading.current with
  | [.leading] => return anything
  | pieces => return ofPieces pieces.reverse

end Glob

end GraphSchema
