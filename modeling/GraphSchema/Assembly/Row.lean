import GraphSchema.Assembly.Error
import GraphSchema.Assembly.Models

/-!
Structs made from columns: the parameters or the result of a query. A repeated name gets a number,
and a parameter that occurs again gets the number that it had; a named parameter gets no number of
its own. A field of unknown type takes the type of a field that has the same name before numbering.
Two fields of one name must then have one type.
-/

namespace GraphSchema

structure FieldSource where
  /-- The number of the parameter, or the position in the result. It has no bound here, and stands
  for a number of 32 bits up to 2147483647. -/
  id : Int
  column : Column
  type : TypeRef
  embed : Option EmbeddedModel := none

namespace FieldSource

def label (source : FieldSource) (position : Nat) : String :=
  match source.embed with
  | some model => model.name
  | none => Naming.columnLabel source.column.name position

def dbName (source : FieldSource) (position : Nat) : String :=
  match source.embed with
  | some model => Naming.snakeCase model.name
  | none => Naming.columnLabel source.column.name position

/-- The type before any field takes another's. -/
def ownType (source : FieldSource) : TypeRef :=
  match source.embed with
  | some model => { scalar := .named model.name }
  | none => source.type

def embedded (source : FieldSource) : List PlainField :=
  match source.embed with
  | some model => model.fields
  | none => []

end FieldSource

structure NamedSource where
  source : FieldSource
  base : String
  dbName : String

def NamedSource.typed (named : NamedSource) : String × TypeRef := (named.base, named.source.ownType)

/-- The numbers of the fields, zero for none, where `given` holds the numbers given so far and
`seen` the names that have come. -/
def fieldNumbers (given : List (Int × Nat)) (seen : List String) : List NamedSource → List Nat
  | [] => []
  | named :: rest =>
      let earlier := seen.count named.base
      let number :=
        match given.lookup named.source.id with
        | some number => number
        | none => if 0 < earlier && !named.source.column.isNamedParam then earlier + 1 else 0
      number :: fieldNumbers ((named.source.id, number) :: given) (named.base :: seen) rest

def numberedName (base : String) (number : Nat) : String :=
  if number = 0 then base else base ++ "_" ++ number.repr

def knownType? (typed : List (String × TypeRef)) (base : String) : Option TypeRef :=
  typed.findSome? fun (other, type) =>
    if other = base && !type.isUnknown then some type else none

/-- Settles the types of fields, each beside its base name, from left to right: one that is unknown
becomes the first known type of its base name among the others, where `settled` holds those before
it as they have become. -/
def settleTypes (settled : List (String × TypeRef)) : List (String × TypeRef) → List TypeRef
  | [] => []
  | (base, type) :: rest =>
      let becomes :=
        if type.isUnknown then (knownType? (settled ++ rest) base).getD type else type
      becomes :: settleTypes (settled ++ [(base, becomes)]) rest

/-- The first field with another type than the first field of its name, where `firsts` holds the
types of the names that have come. -/
def conflictAfter (firsts : List (String × TypeRef)) :
    List Field → Option (String × TypeRef × TypeRef)
  | [] => none
  | field :: rest =>
      match firsts.lookup field.name with
      | some first =>
          if first = field.type then conflictAfter firsts rest
          else some (field.name, first, field.type)
      | none => conflictAfter ((field.name, field.type) :: firsts) rest

def typeConflict? (fields : List Field) : Option (String × TypeRef × TypeRef) :=
  conflictAfter [] fields

namespace Scope

def nameSources (scope : Scope) (position : Nat) : List FieldSource → List NamedSource
  | [] => []
  | source :: rest =>
      { source
        base := scope.structName (source.label position)
        dbName := source.dbName position } :: scope.nameSources (position + 1) rest

def rowField (scope : Scope) (struct : String) (named : NamedSource) (number : Nat)
    (type : TypeRef) : Field :=
  let name := numberedName named.base number
  { name
    dbName := named.dbName
    type
    comment := named.source.column.comment
    column := some named.source.column
    directive := scope.directives struct name
    embedded := named.source.embedded }

def rowFields (scope : Scope) (struct : String) (sources : List FieldSource) : List Field :=
  let named := scope.nameSources 0 sources
  let types := settleTypes [] (named.map NamedSource.typed)
  ((named.zip types).zip (fieldNumbers [] [] named)).map fun ((source, type), number) =>
    scope.rowField struct source number type

def row (scope : Scope) (name modelPath : String) (sources : List FieldSource) :
    Except GenerateError Struct :=
  let fields := scope.rowFields name sources
  match typeConflict? fields with
  | some (field, first, second) => .error (.incompatibleFieldTypes name field first second)
  | none => .ok { name, fields, directive := scope.directives name "", modelPath }

end Scope

end GraphSchema
