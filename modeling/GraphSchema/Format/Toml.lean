import GraphSchema.Format.Datum
import GraphSchema.Format.Scan
import GraphSchema.Text.Segments

/-!
The part of TOML that options documents use: keys and dotted keys, strings on one line, integers,
booleans, arrays, inline tables, tables and arrays of tables. A statement is a line with the lines
that its brackets go on to. A table is opened once by its header, and what a dotted key or an inline
table makes is not opened again. Brackets and dotted keys go to a limited depth.
-/

namespace GraphSchema.Toml

open Text

/-- How many brackets may be open at once, and how many names a dotted key may have. -/
def depthLimit : Nat := 80

inductive Token
  | newline
  | blank
  | openList
  | closeList
  | openRecord
  | closeRecord
  | comma
  | equals
  | bare (text : List Char)
  | quoted (text : String)

def isBareChar (c : Char) : Bool := c.isAlphanum || ['_', '-', '+', '.'].contains c

def isRaw (c : Char) : Bool := c = '\t' || (0x20 ≤ c.toNat && c.toNat ≠ 0x7f)

def basicString : List Char → Option (List Char × List Char)
  | [] => none
  | '"' :: rest => some ([], rest)
  | '\\' :: 'x' :: a :: b :: rest => do
      let c ← charOfHex? [a, b]
      let (value, after) ← basicString rest
      return (c :: value, after)
  | '\\' :: 'u' :: a :: b :: c :: d :: rest => do
      let c ← charOfHex? [a, b, c, d]
      let (value, after) ← basicString rest
      return (c :: value, after)
  | '\\' :: 'U' :: a :: b :: c :: d :: e :: f :: g :: h :: rest => do
      let c ← charOfHex? [a, b, c, d, e, f, g, h]
      let (value, after) ← basicString rest
      return (c :: value, after)
  | '\\' :: c :: rest => do
      let code ← [('"', 34), ('\\', 92), ('b', 8), ('e', 27), ('f', 12), ('n', 10),
        ('r', 13), ('t', 9)].lookup c
      let (value, after) ← basicString rest
      return (Char.ofNat code :: value, after)
  | c :: rest => do
      if c = '\\' || !isRaw c then none
      let (value, after) ← basicString rest
      return (c :: value, after)

def literalString : List Char → Option (List Char × List Char)
  | [] => none
  | '\'' :: rest => some ([], rest)
  | c :: rest => do
      if !isRaw c then none
      let (value, after) ← literalString rest
      return (c :: value, after)

def scan : Scanner Token
  | [] => none
  | '\n' :: rest => some ([.newline], rest)
  | '\r' :: '\n' :: rest => some ([.newline], rest)
  | '[' :: rest => some ([.openList], rest)
  | ']' :: rest => some ([.closeList], rest)
  | '\x7b' :: rest => some ([.openRecord], rest)
  | '\x7d' :: rest => some ([.closeRecord], rest)
  | ',' :: rest => some ([.comma], rest)
  | '=' :: rest => some ([.equals], rest)
  | '"' :: rest => do
      let (value, after) ← basicString rest
      return ([.quoted (String.ofList value)], after)
  | '\'' :: rest => do
      let (value, after) ← literalString rest
      return ([.quoted (String.ofList value)], after)
  | '#' :: rest =>
      let after := rest.dropWhile isRaw
      if after.head?.all fun c => c = '\n' || c = '\r' then some ([], after) else none
  | c :: rest =>
      if c = ' ' || c = '\t' then some ([.blank], rest)
      else if isBareChar c then
        some ([.bare ((c :: rest).takeWhile isBareChar)], (c :: rest).dropWhile isBareChar)
      else none

inductive KeyPart
  | name (text : String)
  | dot

def bareParts (text : List Char) : List KeyPart :=
  let names := (segments '.' text).map fun name =>
    if name = [] then [] else [KeyPart.name (String.ofList name)]
  [KeyPart.dot].intercalate names

def keyParts? : Token → Option (List KeyPart)
  | .bare text => if text.contains '+' then none else some (bareParts text)
  | .quoted text => some [.name text]
  | _ => none

def path? : List KeyPart → Option (List String)
  | [.name text] => some [text]
  | .name text :: .dot :: rest => (path? rest).map (text :: ·)
  | _ => none

def isBlank : Token → Bool
  | .blank => true
  | _ => false

def keyPath? (tokens : List Token) : Option (List String) := do
  let path ← path? (← (tokens.filter (!isBlank ·)).mapM keyParts?).flatten
  if path.length ≤ depthLimit then some path else none

/-- Digits, with an underscore only between two of them. -/
def digits? : List Char → Option (List Char)
  | [] => none
  | [c] => if c = '_' then none else some [c]
  | c :: '_' :: rest => if c = '_' then none else (digits? rest).map (c :: ·)
  | c :: rest => if c = '_' then none else (digits? rest).map (c :: ·)

def decimal? (text : List Char) : Option Nat := do
  let digits ← digits? text
  if digits.head? = some '0' && digits.length ≠ 1 then none
  number? 10 digits

def magnitude? : List Char → Option Nat
  | '0' :: 'x' :: text => (digits? text).bind (number? 16)
  | '0' :: 'o' :: text => (digits? text).bind (number? 8)
  | '0' :: 'b' :: text => (digits? text).bind (number? 2)
  | text => decimal? text

def integer? : List Char → Option Int
  | '+' :: text => (decimal? text).map Int.ofNat
  | '-' :: text => (decimal? text).map fun number => -(number : Int)
  | text => (magnitude? text).map Int.ofNat

def isExponent : List Char → Bool
  | '+' :: text => (digits? text).any (·.all Char.isDigit)
  | '-' :: text => (digits? text).any (·.all Char.isDigit)
  | text => (digits? text).any (·.all Char.isDigit)

/-- Whether a text is a number with a fraction or an exponent, or no finite number at all. -/
def isFraction (text : List Char) : Bool :=
  let body :=
    match text with
    | '+' :: rest => rest
    | '-' :: rest => rest
    | _ => text
  let isMark (c : Char) : Bool := c = 'e' || c = 'E'
  let mantissa := body.takeWhile (!isMark ·)
  let exponent := (body.dropWhile (!isMark ·)).drop 1
  let exponentHolds := mantissa.length = body.length || isExponent exponent
  body = ['i', 'n', 'f'] || body = ['n', 'a', 'n'] ||
    match splitFirst '.' mantissa with
    | some (whole, places) =>
        (decimal? whole).isSome && (digits? places).any (·.all Char.isDigit) && exponentHolds
    | none => (decimal? mantissa).isSome && mantissa.length ≠ body.length && exponentHolds

/-- Whether an integer has a place among the signed or the unsigned integers of 128 bits. -/
def isHeld (number : Int) : Bool :=
  -170141183460469231731687303715884105728 ≤ number &&
    number ≤ 340282366920938463463374607431768211455

def bareValue? (text : List Char) : Option Leaf :=
  if text = "true".toList then some (.flag true)
  else if text = "false".toList then some (.flag false)
  else
    match integer? text with
    | some number => if isHeld number then some (.integer number) else none
    | none => if isFraction text then some .other else none

inductive Origin
  /-- A header names a table inside it. -/
  | implied
  | header
  | dotted
  deriving DecidableEq

/-- What a key stands for. The tables of an array are listed last one first. -/
inductive Node
  | value (datum : Datum)
  | table (origin : Origin) (entries : List (String × Node))
  | tables (elements : List (List (String × Node)))

abbrev Table := List (String × Node)

mutual

def Node.datum : Node → Datum
  | .value datum => datum
  | .table _ entries => .record (members entries)
  | .tables elements => .list (records elements).reverse

def members : List (String × Node) → List (Option String × Datum)
  | [] => []
  | (key, node) :: rest => (some key, node.datum) :: members rest

def records : List (List (String × Node)) → List Datum
  | [] => []
  | entries :: rest => .record (members entries) :: records rest

end

def put (key : String) (node : Node) : Table → Table
  | [] => [(key, node)]
  | (other, old) :: rest =>
      if other = key then (key, node) :: rest else (other, old) :: put key node rest

/-- Gives a value to a dotted key. The names before the last may lead through tables that no header
has opened and into the last table of an array, but the table that takes the value is one that
dotted keys have made. -/
def assign (value : Datum) : List String → Table → Option Table
  | [], _ => none
  | [key], table => if (table.lookup key).isSome then none else some (put key (.value value) table)
  | key :: path, table =>
      match table.lookup key with
      | none => (assign value path []).map fun entries => put key (.table .dotted entries) table
      | some (.table .dotted inner) =>
          (assign value path inner).map fun entries => put key (.table .dotted entries) table
      | some (.table .implied inner) =>
          if path.length < 2 then none
          else (assign value path inner).map fun entries => put key (.table .implied entries) table
      | some (.tables (last :: earlier)) =>
          if path.length < 2 then none
          else do
            let entries ← assign value path last
            return put key (.tables (entries :: earlier)) table
      | some _ => none

/-- Changes the table that a header's path leads to. -/
def descend (edit : Table → Option Table) : List String → Table → Option Table
  | [], table => edit table
  | key :: path, table =>
      match table.lookup key with
      | none =>
          (descend edit path []).map fun entries => put key (.table .implied entries) table
      | some (.table origin inner) =>
          (descend edit path inner).map fun entries => put key (.table origin entries) table
      | some (.tables (last :: earlier)) =>
          (descend edit path last).map fun entries => put key (.tables (entries :: earlier)) table
      | some _ => none

def openTable (key : String) (table : Table) : Option Table :=
  match table.lookup key with
  | none => some (put key (.table .header []) table)
  | some (.table .implied entries) => some (put key (.table .header entries) table)
  | some _ => none

def openElement (key : String) (table : Table) : Option Table :=
  match table.lookup key with
  | none => some (put key (.tables [[]]) table)
  | some (.tables elements) => some (put key (.tables ([] :: elements)) table)
  | some _ => none

inductive Frame
  | list (items : List Datum)
  | member (entries : Table) (path : List String)

/-- What may come next in a value, with the brackets still open, inmost first. -/
inductive State
  | value (outer : List Frame)
  | item (items : List Datum) (outer : List Frame)
  | itemEnd (items : List Datum) (outer : List Frame)
  | key (entries : Table) (parts : List Token) (outer : List Frame)
  | keyEnd (entries : Table) (path : List String) (outer : List Frame)
  | memberEnd (entries : Table) (outer : List Frame)
  | done (datum : Datum)

def give (datum : Datum) : List Frame → Option State
  | [] => some (.done datum)
  | .list items :: outer => some (.itemEnd (datum :: items) outer)
  | .member entries path :: outer =>
      (assign datum path entries).map fun entries => .memberEnd entries outer

def begin (outer : List Frame) : Token → Option State
  | .openList => if outer.length < depthLimit then some (.item [] outer) else none
  | .openRecord => if outer.length < depthLimit then some (.key [] [] outer) else none
  | .quoted text => give (.ofText text) outer
  | .bare text => (bareValue? text).bind fun value => give (.leaf value) outer
  | _ => none

/-- One token of a value. Lines may end between any two tokens but those of a key. -/
def step : State → Token → Option State
  | .value outer, .newline => some (.value outer)
  | .value outer, token => begin outer token
  | .item items outer, .newline => some (.item items outer)
  | .item items outer, .closeList => give (.list items.reverse) outer
  | .item items outer, token => begin (.list items :: outer) token
  | .itemEnd items outer, .newline => some (.itemEnd items outer)
  | .itemEnd items outer, .comma => some (.item items outer)
  | .itemEnd items outer, .closeList => give (.list items.reverse) outer
  | .key entries [] outer, .newline => some (.key entries [] outer)
  | .key entries [] outer, .closeRecord => give (.record (members entries)) outer
  | .key entries parts outer, .newline => do
      return .keyEnd entries (← keyPath? parts.reverse) outer
  | .key entries parts outer, .equals => do
      let path ← keyPath? parts.reverse
      return .value (.member entries path :: outer)
  | .key entries parts outer, .bare text => some (.key entries (.bare text :: parts) outer)
  | .key entries parts outer, .quoted text => some (.key entries (.quoted text :: parts) outer)
  | .keyEnd entries path outer, .newline => some (.keyEnd entries path outer)
  | .keyEnd entries path outer, .equals => some (.value (.member entries path :: outer))
  | .memberEnd entries outer, .newline => some (.memberEnd entries outer)
  | .memberEnd entries outer, .comma => some (.key entries [] outer)
  | .memberEnd entries outer, .closeRecord => give (.record (members entries)) outer
  | _, _ => none

def value? (tokens : List Token) : Option Datum :=
  match (tokens.filter (!isBlank ·)).foldlM step (.value []) with
  | some (.done datum) => some datum
  | _ => none

/-- The tokens of each statement; a line that ends inside brackets goes on. -/
def statementsFrom (depth : Nat) (current : List Token) : List Token → List (List Token)
  | [] => [current.reverse]
  | .newline :: rest =>
      if depth = 0 then current.reverse :: statementsFrom 0 [] rest
      else statementsFrom depth (.newline :: current) rest
  | token :: rest =>
      let depth :=
        match token with
        | .openList | .openRecord => depth + 1
        | .closeList | .closeRecord => depth - 1
        | _ => depth
      statementsFrom depth (token :: current) rest

inductive Statement
  | openTable (path : List String)
  | openElement (path : List String)
  | assign (path : List String) (value : Datum)

def isEquals : Token → Bool
  | .equals => true
  | _ => false

def isCloseList : Token → Bool
  | .closeList => true
  | _ => false

/-- Reads the tokens of a statement. The two brackets on either side of an array's header stand
close together. -/
def statement? (tokens : List Token) : Option Statement :=
  match tokens.dropWhile isBlank with
  | .openList :: .openList :: rest =>
      match rest.dropWhile (!isCloseList ·) with
      | .closeList :: .closeList :: after =>
          if after.all isBlank then
            (keyPath? (rest.takeWhile (!isCloseList ·))).map .openElement
          else none
      | _ => none
  | .openList :: rest =>
      match rest.dropWhile (!isCloseList ·) with
      | .closeList :: after =>
          if after.all isBlank then (keyPath? (rest.takeWhile (!isCloseList ·))).map .openTable
          else none
      | _ => none
  | tokens =>
      match tokens.dropWhile (!isEquals ·) with
      | [] => none
      | _ :: value => do
          return .assign (← keyPath? (tokens.takeWhile (!isEquals ·))) (← value? value)

/-- The document so far and the table that its last header has opened. -/
structure Progress where
  root : Table := []
  current : List String := []

def Progress.next? (progress : Progress) : Statement → Option Progress
  | .assign path value => do
      return { progress with root := ← descend (assign value path) progress.current progress.root }
  | .openTable path => do
      let key ← path.getLast?
      return { root := ← descend (openTable key) path.dropLast progress.root, current := path }
  | .openElement path => do
      let key ← path.getLast?
      return { root := ← descend (openElement key) path.dropLast progress.root, current := path }

def withoutMark : List Char → List Char
  | '\ufeff' :: rest => rest
  | text => text

def read? (text : String) : Option Datum := do
  let tokens ← Scanner.all scan (withoutMark text.toList)
  let statements ← ((statementsFrom 0 [] tokens).filter (!·.all isBlank)).mapM statement?
  let progress ← statements.foldlM Progress.next? {}
  return .record (members progress.root)

end GraphSchema.Toml
