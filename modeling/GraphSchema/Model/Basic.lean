import GraphSchema.Annotation.Binding
import GraphSchema.Model.TypeRef
import GraphSchema.Request
import GraphSchema.Text.Casing

/-!
The GraphQL model: enums, structs and the queries bound to fields. A struct belongs to a table or is
made for the arguments, the rows or the pages of a query.
-/

namespace GraphSchema

structure EnumConstant where
  name : String
  value : String
  typeName : String
  deriving DecidableEq

structure EnumType where
  name : String
  comment : String
  directive : Option String
  constants : List EnumConstant
  deriving DecidableEq

structure PlainField where
  name : String
  dbName : String := ""
  type : TypeRef
  comment : String := ""
  column : Option Column := none
  directive : Option String := none
  deriving DecidableEq

/-- A field of a struct; one that stands for the whole row of a model has the model's fields. -/
structure Field extends PlainField where
  embedded : List PlainField := []
  deriving DecidableEq

def PlainField.graphqlName (field : PlainField) : String := Text.lowerFirst field.name

structure Struct where
  /-- The table that the struct is the model of. -/
  table : Option Identifier := none
  name : String
  fields : List Field
  comment : String := ""
  directive : Option String := none
  /-- The host type that the struct is bound to. -/
  modelPath : String
  deriving DecidableEq

def Struct.shape (struct : Struct) : List (String × TypeRef) :=
  struct.fields.map fun field => (field.name, field.type)

def Struct.sameShape (struct other : Struct) : Bool := struct.shape = other.shape

structure ScalarBinding where
  name : String
  dbName : String
  type : TypeRef
  column : Column
  modelPath : Option String
  deriving DecidableEq

structure StructBinding where
  name : String
  struct : Struct
  /-- Whether the struct is written as a type of its own. -/
  emit : Bool
  modelPath : String
  deriving DecidableEq

inductive Binding
  | scalar (binding : ScalarBinding)
  | struct (binding : StructBinding)
  deriving DecidableEq

namespace Binding

def type : Binding → TypeRef
  | scalar binding => binding.type
  | struct binding => .named binding.struct.name

def struct? : Binding → Option Struct
  | scalar _ => none
  | struct binding => some binding.struct

def mapStruct (change : Struct → Struct) : Binding → Binding
  | scalar binding => scalar binding
  | struct binding => struct { binding with struct := change binding.struct }

end Binding

structure BoundQuery where
  command : Command
  comments : List String
  methodName : String
  sourceName : String
  extendedType : String
  resolverName : String
  directive : Option String
  pagination : Option Pagination
  argument : Option Binding
  result : Option Binding
  deriving DecidableEq

namespace BoundQuery

def resultStruct? (query : BoundQuery) : Option Struct := query.result.bind Binding.struct?

/-- The type of the field: pages of a struct, a list for several rows, or the result itself. -/
def returnType? (query : BoundQuery) : Option TypeRef :=
  query.result.bind fun result =>
    match query.pagination, result.struct? with
    | some mode, some paged => (mode.companionNames paged.name).head?.map TypeRef.named
    | _, _ =>
        if query.command.returnsMany then some { result.type with list := true }
        else some result.type

end BoundQuery

end GraphSchema
