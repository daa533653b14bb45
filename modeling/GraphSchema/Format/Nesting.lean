import GraphSchema.Format.Datum

/-!
Bracketed documents: lists in square brackets, records in curly ones. The tokens drive a machine
that keeps the brackets still open, so that any depth of nesting is read in one pass. A value stands
after every colon and before and after every comma.
-/

namespace GraphSchema.Nesting

inductive Token
  | openList
  | closeList
  | openRecord
  | closeRecord
  | comma
  | colon
  /-- A text in quotes, absent when what the quotes hold is no text. -/
  | quoted (value : Option String)
  | bare (value : Leaf)

/-- A list that is being read, last item first, or a record, last member first, that waits for the
value of a key. -/
inductive Frame
  | list (items : List Datum)
  | member (entries : List (Option String × Datum)) (key : Option String)

/-- What may come next, with the brackets still open, inmost first. -/
inductive State
  | value (outer : List Frame)
  | item (items : List Datum) (outer : List Frame)
  | itemEnd (items : List Datum) (outer : List Frame)
  | key (entries : List (Option String × Datum)) (outer : List Frame)
  | keyEnd (entries : List (Option String × Datum)) (key : Option String) (outer : List Frame)
  | memberEnd (entries : List (Option String × Datum)) (outer : List Frame)
  | done (datum : Datum)

def give (datum : Datum) : List Frame → State
  | [] => .done datum
  | .list items :: outer => .itemEnd (datum :: items) outer
  | .member entries key :: outer => .memberEnd ((key, datum) :: entries) outer

def endList (items : List Datum) (outer : List Frame) : State :=
  give (.list items.reverse) outer

def endRecord (entries : List (Option String × Datum)) (outer : List Frame) : State :=
  give (.record entries.reverse) outer

def quotedLeaf : Option String → Leaf
  | some value => .text value
  | none => .other

def begin (outer : List Frame) : Token → Option State
  | .openList => some (.item [] outer)
  | .openRecord => some (.key [] outer)
  | .quoted value => some (give (.leaf (quotedLeaf value)) outer)
  | .bare value => some (give (.leaf value) outer)
  | _ => none

def step : State → Token → Option State
  | .value outer, token => begin outer token
  | .item items outer, .closeList => if items.isEmpty then some (endList items outer) else none
  | .item items outer, token => begin (.list items :: outer) token
  | .itemEnd items outer, .comma => some (.item items outer)
  | .itemEnd items outer, .closeList => some (endList items outer)
  | .key entries outer, .closeRecord =>
      if entries.isEmpty then some (endRecord entries outer) else none
  | .key entries outer, .quoted key => some (.keyEnd entries key outer)
  | .keyEnd entries key outer, .colon => some (.value (.member entries key :: outer))
  | .memberEnd entries outer, .comma => some (.key entries outer)
  | .memberEnd entries outer, .closeRecord => some (endRecord entries outer)
  | _, _ => none

def read? (tokens : List Token) : Option Datum :=
  match tokens.foldlM step (.value []) with
  | some (.done datum) => some datum
  | _ => none

end GraphSchema.Nesting
