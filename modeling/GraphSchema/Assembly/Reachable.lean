import GraphSchema.Model.Basic

/-!
The types that queries reach, and the model without the others. A query reaches the types of its
argument and its result, of their fields and of the fields of embedded models, and its companions.
-/

namespace GraphSchema

def Field.reached (field : Field) : List String :=
  field.type.baseName :: field.embedded.map (·.type.baseName)

def Binding.reached (binding : Binding) : List String :=
  binding.type.baseName ::
    match binding.struct? with
    | some found => found.fields.flatMap Field.reached
    | none => []

def BoundQuery.reached (query : BoundQuery) : List String :=
  let bindings := query.argument.toList ++ query.result.toList
  bindings.flatMap Binding.reached ++
    match query.pagination, query.resultStruct? with
    | some mode, some paged => mode.companionNames paged.name
    | _, _ => []

def reachedNames (queries : List BoundQuery) : List String := queries.flatMap BoundQuery.reached

/-- Whether an enum is reached, by its name or that of its nullable wrapper. -/
def EnumType.isReached (names : List String) (enumeration : EnumType) : Bool :=
  names.contains enumeration.name || names.contains ("Null" ++ enumeration.name)

def reachableEnums (queries : List BoundQuery) (enums : List EnumType) : List EnumType :=
  enums.filter (EnumType.isReached (reachedNames queries))

def reachableStructs (queries : List BoundQuery) (structs : List Struct) : List Struct :=
  structs.filter fun struct => (reachedNames queries).contains struct.name

end GraphSchema
