import GraphSchema.Text.Blank
import GraphSchema.Text.Segments

/-!
The annotations in the comments of a query. The first line that opens with `gql` and a colon binds
the query to a field of an operation type; the first other line that starts with `paginated` asks
for pages. Both lines are taken out of the comments, and nothing else is.
-/

namespace GraphSchema

inductive Pagination
  | offset
  | cursor
  deriving DecidableEq

/-- The types that a paginated result needs beside its own, the result type first. -/
def Pagination.companionNames (mode : Pagination) (paged : String) : List String :=
  match mode with
  | .offset => [paged ++ "Page"]
  | .cursor => [paged ++ "Connection", paged ++ "Edge"]

structure ResolverBinding where
  operation : String
  resolver : String
  returnType : Option String
  directive : Option String
  deriving DecidableEq

structure Annotations where
  binding : Option ResolverBinding
  pagination : Option Pagination
  comments : List String

namespace Annotations

open Text

def isBindingLine (line : String) : Bool :=
  match trimStart line.toList with
  | 'g' :: 'q' :: 'l' :: rest => (trimStart rest).head? = some ':'
  | _ => false

def isPaginationLine (line : String) : Bool := "paginated".toList.isPrefixOf (trim line.toList)

def paginationOf (line : String) : Pagination :=
  if contains "cursor".toList line.toList then .cursor else .offset

/-- The operation and the resolver of a target; the resolver may be left out. -/
def readTarget (target : List Char) : List Char × List Char :=
  match splitFirst '.' target with
  | some (operation, resolver) => (trim operation, trim resolver)
  | none => (target, [])

/-- The return type and the directive of a hint; the directive begins at the first `@`. -/
def readHint (hint : List Char) : List Char × Option String :=
  match splitFirst '@' hint with
  | some (returnType, directive) => (trim returnType, some (String.ofList ('@' :: directive)))
  | none => (hint, none)

def readBinding? (defaultResolver : String) (text : List Char) : Option ResolverBinding :=
  let (target, hint) := (splitFirst ':' text).getD (text, [])
  let (operation, resolver) := readTarget (trim target)
  let (returnType, directive) := readHint (trim hint)
  if operation = [] then none
  else some {
    operation := String.ofList operation
    resolver := if resolver = [] then defaultResolver else String.ofList resolver
    returnType := if returnType = [] then none else some (String.ofList returnType)
    directive }

def bindingOf? (defaultResolver line : String) : Option ResolverBinding := do
  let (_, text) ← splitFirst ':' line.toList
  readBinding? defaultResolver text

def extract (property : String → Bool) (lines : List String) : Option String × List String :=
  (lines.find? property, lines.eraseP property)

/-- Reads the annotations of a query; a binding without a resolver takes the default one. -/
def ofComments (defaultResolver : String) (comments : List String) : Annotations :=
  let (bindingLine, afterBinding) := extract isBindingLine comments
  let (paginationLine, remaining) := extract isPaginationLine afterBinding
  { binding := bindingLine.bind (bindingOf? defaultResolver)
    pagination := paginationLine.map paginationOf
    comments := remaining }

end Annotations

end GraphSchema
