import GraphSchema.Format.Yaml.Token

/-!
Documents from tokens. A stack holds what is being read, inmost first, and each of its slots says
what may come next there. A place where a value may stand and none does holds a blank one. The items
of a list may stand at the column of the key that they belong to, and then no token ends the list.
-/

namespace GraphSchema.Yaml

def blank : Datum := .leaf (.plain "")

abbrev Entries := List (Option String × Datum)

inductive Slot
  | root
  /-- The document behind its mark. -/
  | content
  | done (datum : Datum)
  | dash (items : List Datum)
  | item (items : List Datum)
  /-- The next item of a list at the column of its key. -/
  | looseDash (items : List Datum)
  | looseItem (items : List Datum)
  | key (entries : Entries)
  | keyNode (entries : Entries)
  | colon (entries : Entries) (key : Option String)
  | member (entries : Entries) (key : Option String)
  | flowItem (items : List Datum)
  | flowItemEnd (items : List Datum)
  /-- The key of a record with one member, which needs no brackets of its own. -/
  | pairKey (items : List Datum)
  | pairColon (items : List Datum) (key : Option String)
  | pairMember (items : List Datum) (key : Option String)
  | flowKey (entries : Entries)
  | flowKeyNode (entries : Entries)
  | flowColon (entries : Entries) (key : Option String)
  | flowMember (entries : Entries) (key : Option String)
  | flowMemberEnd (entries : Entries)

def keyText : Datum → Option String := Datum.text?

def pair (key : Option String) (datum : Datum) : Datum := .record [(key, datum)]

def give (datum : Datum) : List Slot → Option (List Slot)
  | .root :: outer => some (.done datum :: outer)
  | .content :: outer => some (.done datum :: outer)
  | .item items :: outer => some (.dash (datum :: items) :: outer)
  | .looseItem items :: outer => some (.looseDash (datum :: items) :: outer)
  | .keyNode entries :: outer => some (.colon entries (keyText datum) :: outer)
  | .member entries key :: outer => some (.key ((key, datum) :: entries) :: outer)
  | .flowItem items :: outer => some (.flowItemEnd (datum :: items) :: outer)
  | .pairKey items :: outer => some (.pairColon items (keyText datum) :: outer)
  | .pairMember items key :: outer => some (.flowItemEnd (pair key datum :: items) :: outer)
  | .flowKey entries :: outer => some (.flowMemberEnd ((keyText datum, blank) :: entries) :: outer)
  | .flowKeyNode entries :: outer => some (.flowColon entries (keyText datum) :: outer)
  | .flowMember entries key :: outer => some (.flowMemberEnd ((key, datum) :: entries) :: outer)
  | _ => none

/-- Whether a token shows that nothing is written in a slot. -/
def leavesBlank : Slot → Token → Bool
  | .item _, .dash | .item _, .endBlock => true
  | .looseItem _, .dash | .looseItem _, .key | .looseItem _, .value => true
  | .looseItem _, .endBlock => true
  | .keyNode _, .key | .keyNode _, .value | .keyNode _, .endBlock => true
  | .member .., .key | .member .., .value | .member .., .endBlock => true
  | .pairMember .., .comma | .pairMember .., .closeList => true
  | .flowKeyNode _, .value | .flowKeyNode _, .comma | .flowKeyNode _, .closeRecord => true
  | .flowMember .., .comma | .flowMember .., .closeRecord => true
  | _, _ => false

def fill (token : Token) : List Slot → Option (List Slot)
  | [] => some []
  | slot :: outer =>
      if leavesBlank slot token then give blank (slot :: outer) else some (slot :: outer)

/-- Ends a list at the column of its key, which goes on with hyphens alone. -/
def endLoose (token : Token) : List Slot → Option (List Slot)
  | .looseDash items :: outer =>
      match token with
      | .dash => some (.looseDash items :: outer)
      | _ => give (.list items.reverse) outer
  | slots => some slots

/-- Completes a key that no colon follows. -/
def endKey (token : Token) : List Slot → List Slot
  | slots =>
      match token, slots with
      | .value, _ => slots
      | _, .colon entries key :: outer => .key ((key, blank) :: entries) :: outer
      | _, .pairColon items key :: outer => .flowItemEnd (pair key blank :: items) :: outer
      | _, .flowColon entries key :: outer => .flowMemberEnd ((key, blank) :: entries) :: outer
      | _, _ => slots

/-- Begins a value in the inmost slot; a block only where blocks may stand. -/
def begin (block : Bool) (token : Token) (slots : List Slot) : Option (List Slot) :=
  match token with
  | .scalar leaf => give (.leaf leaf) slots
  | .openList => some (.flowItem [] :: slots)
  | .openRecord => some (.flowKey [] :: slots)
  | .beginList => if block then some (.dash [] :: slots) else none
  | .beginRecord => if block then some (.key [] :: slots) else none
  | _ => none

def beginMember (token : Token) (slots : List Slot) : Option (List Slot) :=
  match token with
  | .dash => some (.looseItem [] :: slots)
  | token => begin true token slots

def advance (token : Token) : List Slot → Option (List Slot)
  | [] => none
  | slot :: outer =>
      match slot, token with
      | .root, .documentStart => some (.content :: outer)
      | .content, .documentEnd => some (.done blank :: outer)
      | .root, _ | .content, _ | .item _, _ | .looseItem _, _ => begin true token (slot :: outer)
      | .done datum, .documentEnd => some (.done datum :: outer)
      | .dash items, .dash => some (.item items :: outer)
      | .dash items, .endBlock => give (.list items.reverse) outer
      | .looseDash items, .dash => some (.looseItem items :: outer)
      | .key entries, .key => some (.keyNode entries :: outer)
      | .key entries, .endBlock => give (.record entries.reverse) outer
      | .keyNode _, _ | .member .., _ => beginMember token (slot :: outer)
      | .colon entries key, .value => some (.member entries key :: outer)
      | .flowItem items, .closeList => give (.list items.reverse) outer
      | .flowItem items, .key => some (.pairKey items :: outer)
      | .flowItemEnd items, .comma => some (.flowItem items :: outer)
      | .flowItemEnd items, .closeList => give (.list items.reverse) outer
      | .pairColon items key, .value => some (.pairMember items key :: outer)
      | .flowKey entries, .closeRecord => give (.record entries.reverse) outer
      | .flowKey entries, .key => some (.flowKeyNode entries :: outer)
      | .flowColon entries key, .value => some (.flowMember entries key :: outer)
      | .flowMemberEnd entries, .comma => some (.flowKey entries :: outer)
      | .flowMemberEnd entries, .closeRecord => give (.record entries.reverse) outer
      | .flowItem _, _ | .pairKey _, _ | .pairMember .., _ => begin false token (slot :: outer)
      | .flowKey _, _ | .flowKeyNode _, _ | .flowMember .., _ => begin false token (slot :: outer)
      | _, _ => none

def step (slots : List Slot) (token : Token) : Option (List Slot) := do
  let slots ← fill token slots
  let slots ← endLoose token slots
  advance token (endKey token slots)

def ofTokens? (tokens : List Token) : Option Datum := do
  match ← tokens.foldlM step [.root] with
  | [.root] | [.content] => some blank
  | [.done datum] => some datum
  | _ => none

end GraphSchema.Yaml
