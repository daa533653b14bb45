import GraphSchema.Format.Datum
import GraphSchema.Format.Yaml.Scalar

/-!
The tokens of a YAML text. Where a block begins and ends follows from columns. A key shows itself
only by the colon behind it: the place where a key may begin is kept, and the colon puts the token
of the key there, with the beginning of the block if the key is the first one of a record. A key
stays on one line and within 1024 bytes.
-/

namespace GraphSchema.Yaml

inductive Token
  | documentStart
  | documentEnd
  | beginList
  | beginRecord
  | endBlock
  | openList
  | closeList
  | openRecord
  | closeRecord
  | comma
  | dash
  | key
  | value
  | scalar (leaf : Leaf)

/-- A place where a key may begin, with the number of tokens before it. Where a line of a record
begins it has to be one. -/
structure Candidate where
  required : Bool
  line : Nat
  column : Nat
  offset : Nat
  position : Nat

def Candidate.isOver (candidate : Candidate) (glyph : Glyph) : Bool :=
  candidate.line < glyph.line || candidate.offset + 1024 < glyph.offset

/-- The tokens so far, last one first, and what the next ones depend on. -/
structure Layout where
  tokens : List Token := []
  count : Nat := 0
  blocks : List Nat := []
  candidate : Option Candidate := none
  outer : List (Option Candidate) := []
  keyAllowed : Bool := true

namespace Layout

def inFlow (layout : Layout) : Bool := !layout.outer.isEmpty

/-- The first column that belongs to the inmost block. -/
def margin (layout : Layout) : Nat :=
  match layout.blocks with
  | [] => 0
  | column :: _ => column + 1

def insert (layout : Layout) (position : Nat) (tokens : List Token) : Layout :=
  let later := layout.count - position
  { layout with
    tokens := layout.tokens.take later ++ tokens.reverse ++ layout.tokens.drop later
    count := layout.count + tokens.length }

def push (layout : Layout) (token : Token) : Layout :=
  { layout with tokens := token :: layout.tokens, count := layout.count + 1 }

/-- Opens a block at a column, unless the inmost one goes on there, behind the first `position`
tokens. -/
def openBlock (layout : Layout) (column position : Nat) (token : Token) : Layout :=
  if !layout.inFlow && layout.margin ≤ column then
    { layout.insert position [token] with blocks := column :: layout.blocks }
  else layout

def closeBlocks (layout : Layout) (closes : Nat → Bool) : Layout :=
  if layout.inFlow then layout
  else
    let ended := layout.blocks.takeWhile closes
    { layout with
      tokens := ended.map (fun _ => Token.endBlock) ++ layout.tokens
      count := layout.count + ended.length
      blocks := layout.blocks.dropWhile closes }

/-- Gives up a candidate; where a key is required that is an error. -/
def giveUp : Option Candidate → Option (Option Candidate)
  | some candidate => if candidate.required then none else some none
  | none => some none

def withoutCandidate (layout : Layout) : Option Layout := do
  return { layout with candidate := ← giveUp layout.candidate }

def withCandidate (layout : Layout) (glyph : Glyph) : Option Layout := do
  if layout.keyAllowed then
    let layout ← layout.withoutCandidate
    return { layout with
      candidate := some {
        required := !layout.inFlow && layout.blocks.head? = some glyph.column
        line := glyph.line
        column := glyph.column
        offset := glyph.offset
        position := layout.count } }
  else return layout

def openBracket (layout : Layout) (glyph : Glyph) (token : Token) : Option Layout := do
  let layout ← layout.withCandidate glyph
  return { layout.push token with
    candidate := none
    outer := layout.candidate :: layout.outer
    keyAllowed := true }

def closeBracket (layout : Layout) (token : Token) : Option Layout := do
  let layout ← layout.withoutCandidate
  let layout := layout.push token
  match layout.outer with
  | [] => return { layout with keyAllowed := false }
  | candidate :: outer => return { layout with candidate, outer, keyAllowed := false }

def comma (layout : Layout) : Option Layout := do
  let layout ← layout.withoutCandidate
  return { layout.push .comma with keyAllowed := true }

def indicator (layout : Layout) (glyph : Glyph) (block token : Token) (allowsKey : Bool) :
    Option Layout := do
  if !layout.inFlow && !layout.keyAllowed then none
  let layout ← (layout.openBlock glyph.column layout.count block).withoutCandidate
  return { layout.push token with keyAllowed := allowsKey }

def colon (layout : Layout) (glyph : Glyph) : Option Layout := do
  let isOver := layout.candidate.any (·.isOver glyph)
  match ← if isOver then giveUp layout.candidate else some layout.candidate with
  | some candidate =>
      let layout := layout.insert candidate.position [.key]
      let layout := layout.openBlock candidate.column candidate.position .beginRecord
      return { layout.push .value with candidate := none, keyAllowed := false }
  | none =>
      if !layout.inFlow && !layout.keyAllowed then none
      let layout := layout.openBlock glyph.column layout.count .beginRecord
      return { layout.push .value with candidate := none, keyAllowed := !layout.inFlow }

def marker (layout : Layout) (token : Token) : Option Layout := do
  let layout ← (layout.closeBlocks fun _ => true).withoutCandidate
  return { layout.push token with keyAllowed := false }

def scalar (layout : Layout) (glyph : Glyph) (leaf : Leaf) (keyAllowed : Bool) :
    Option Layout := do
  let layout ← layout.withCandidate glyph
  return { layout.push (.scalar leaf) with keyAllowed }

def opensPlain (layout : Layout) (c : Char) (rest : List Glyph) : Bool :=
  if c = '-' then !rest.head?.any (isSpace ·.char)
  else if c = '?' || c = ':' then !layout.inFlow && !endsWord rest
  else !isSpace c && !isFlowMark c &&
    !(['#', '&', '*', '!', '|', '>', '\'', '"', '%', '@', '\x60'].contains c)

def token? (layout : Layout) (glyph : Glyph) (rest : List Glyph) :
    Option (Layout × List Glyph) :=
  let follows := layout.inFlow || endsWord rest
  if isMarker (glyph :: rest) then
    (layout.marker (if glyph.char = '-' then .documentStart else .documentEnd)).map (·, rest.drop 2)
  else
    match glyph.char with
    | '[' => (layout.openBracket glyph .openList).map (·, rest)
    | '\x7b' => (layout.openBracket glyph .openRecord).map (·, rest)
    | ']' => (layout.closeBracket .closeList).map (·, rest)
    | '\x7d' => (layout.closeBracket .closeRecord).map (·, rest)
    | ',' => layout.comma.map (·, rest)
    | c =>
        if c = '-' && endsWord rest then
          (layout.indicator glyph .beginList .dash true).map (·, rest)
        else if c = '?' && follows then
          (layout.indicator glyph .beginRecord .key !layout.inFlow).map (·, rest)
        else if c = ':' && follows then (layout.colon glyph).map (·, rest)
        else if c = '\'' || c = '"' then do
          let (value, after) ← quoted c 0 .empty rest
          return (← layout.scalar glyph (.text (String.ofList value)) false, after)
        else if layout.opensPlain c rest then do
          let (value, gap, after) ← plain layout.inFlow layout.margin .empty (glyph :: rest)
          return (← layout.scalar glyph (.plain (String.ofList value)) gap.hasBreak, after)
        else none

/-- Passes over spaces, comments and ends of lines. Outside brackets a tab is no space where a key
may begin, and a key may begin on every line. -/
def skip (layout : Layout) (inComment : Bool) : List Glyph → Layout × List Glyph
  | [] => (layout, [])
  | glyph :: rest =>
      if isBreak glyph.char then
        { layout with keyAllowed := layout.keyAllowed || !layout.inFlow }.skip false rest
      else if inComment || glyph.char = '#' then layout.skip true rest
      else if glyph.char = ' ' || isOrderMark glyph ||
          (glyph.char = '\t' && (layout.inFlow || !layout.keyAllowed)) then layout.skip false rest
      else (layout, glyph :: rest)

def tokensWithin (layout : Layout) (steps : Nat) (text : List Glyph) : Option (List Token) :=
  match steps, layout.skip false text with
  | _, (layout, []) =>
      if layout.inFlow then none
      else do return (← (layout.closeBlocks fun _ => true).withoutCandidate).tokens.reverse
  | 0, (_, _ :: _) => none
  | steps + 1, (layout, glyph :: rest) => do
      let (layout, after) ← (layout.closeBlocks (glyph.column < ·)).token? glyph rest
      layout.tokensWithin steps after

end Layout

/-- The tokens of a text; every token takes at least one character. -/
def tokens? (text : String) : Option (List Token) :=
  if text.toList.all isAllowed then
    Layout.tokensWithin {} text.length (placed text.toList)
  else none

end GraphSchema.Yaml
