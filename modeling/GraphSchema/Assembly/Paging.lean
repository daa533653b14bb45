import GraphSchema.Assembly.Row

/-!
Pages of a result. A paginated query takes two parameters more, which are never null, and its rows
come in a struct of their own: a page, or a connection with edges.
-/

namespace GraphSchema

def pageParameter (number : Int) (name nativeType : String) (scalar : Scalar) : FieldSource where
  id := number
  column := {
    name
    notNull := true
    isNamedParam := true
    nativeType := some { name := nativeType } }
  type := { scalar, nonNull := true }

/-- The two parameters of a mode, numbered from `next` on. -/
def Pagination.parameters (mode : Pagination) (next : Int) : List FieldSource :=
  match mode with
  | .cursor =>
      [pageParameter next "first" "integer" .int, pageParameter (next + 1) "after" "text" .string]
  | .offset =>
      [pageParameter next "limit" "integer" .int, pageParameter (next + 1) "offset" "integer" .int]

def aliasOf? (field : String) : Option String :=
  if field = "First" then some "limit" else if field = "After" then some "cursor" else none

/-- Gives a field its alias, unless a directive of its own does. -/
def withAlias (field : Field) : Field :=
  match aliasOf? field.name with
  | none => field
  | some name =>
      if field.directive.any fun text => Text.contains "@goField".toList text.toList then field
      else
        { field with
          directive :=
            joinDirectives field.directive (some ("@goField(name: \"" ++ name ++ "\")")) }

def companion (directives : DirectiveRules) (name modelPath : String)
    (fields : List (String × TypeRef)) : Struct where
  name := name
  fields := fields.map fun (field, type) =>
    { name := field, type, directive := directives.lookup name field }
  directive := directives.lookup name ""
  modelPath := modelPath

def Pagination.companions (mode : Pagination) (directives : DirectiveRules) (paged : Struct) :
    List Struct :=
  let name := paged.name
  let path := paged.modelPath
  match mode with
  | .offset =>
      [companion directives (name ++ "Page") (path ++ "Page") [
        ("Items", .listOf name),
        ("Total", { scalar := .int, nonNull := true }),
        ("HasNext", { scalar := .boolean, nonNull := true })]]
  | .cursor =>
      [companion directives (name ++ "Connection") (path ++ "Connection") [
          ("Edges", .listOf (name ++ "Edge")),
          ("PageInfo", .named "PageInfo")],
        companion directives (name ++ "Edge") (path ++ "Edge") [
          ("Node", .named name),
          ("Cursor", { scalar := .string, nonNull := true })]]

/-- Adds a struct, unless one of its name is there, which must then have its shape. -/
def pushStruct (structs : List Struct) (candidate : Struct) : Except GenerateError (List Struct) :=
  match structs.find? (·.name = candidate.name) with
  | some existing =>
      if existing.sameShape candidate then .ok structs
      else .error (.duplicateStruct candidate.name)
  | none => .ok (structs ++ [candidate])

def BoundQuery.addedStructs (directives : DirectiveRules) (query : BoundQuery) : List Struct :=
  match query.result with
  | some (.struct binding) =>
      (if binding.emit then [binding.struct] else []) ++
        match query.pagination with
        | some mode => mode.companions directives binding.struct
        | none => []
  | _ => []

def addResultStructs (directives : DirectiveRules) (queries : List BoundQuery)
    (structs : List Struct) : Except GenerateError (List Struct) :=
  (queries.flatMap (·.addedStructs directives)).foldlM pushStruct structs

end GraphSchema
