import GraphSchema.Assembly.Paging

/-!
Queries bound to fields. A lone parameter is a scalar argument where the limit admits one, and
parameters are otherwise the fields of an input struct. A lone column is a scalar result; several
are a model where they match one, and otherwise a row of their own.
-/

namespace GraphSchema

/-- A query that is to be bound: it has a command, a name and a binding. -/
structure AnnotatedQuery where
  query : Query
  command : Command
  binding : ResolverBinding
  pagination : Option Pagination
  comments : List String

def AnnotatedQuery.ofQuery? (query : Query) : Option AnnotatedQuery := do
  let command ← query.command
  if query.name = "" then none
  let annotations := Annotations.ofComments query.name query.comments
  let binding ← annotations.binding
  return {
    query, command, binding
    pagination := annotations.pagination
    comments := annotations.comments }

/-- The number after all the parameters' numbers; where there are none it is one. It has no bound
here: in 32 bits there is room for it and for the one after it if the parameters' numbers are below
2147483646. -/
def nextNumber (params : List Parameter) : Int :=
  ((params.map Parameter.number).max?).getD 0 + 1

namespace Scope

def parameterSource (scope : Scope) (parameter : Parameter) : FieldSource where
  id := parameter.number
  column := parameter.column
  type := scope.typeOf parameter.column

def argumentSources (scope : Scope) (annotated : AnnotatedQuery) : List FieldSource :=
  let params := annotated.query.params
  params.map scope.parameterSource ++
    match annotated.pagination with
    | some mode => mode.parameters (nextNumber params)
    | none => []

def inputName (annotated : AnnotatedQuery) : String :=
  Text.upperFirst annotated.binding.resolver ++ "Input"

def structArgument (scope : Scope) (annotated : AnnotatedQuery) :
    Except GenerateError StructBinding := do
  let sources := scope.argumentSources annotated
  let input ← scope.row (inputName annotated)
    (scope.modelPath (annotated.query.name ++ "Params")) sources
  let fields := if annotated.pagination.isSome then input.fields.map withAlias else input.fields
  return {
    name := "request"
    struct := { input with fields }
    emit := scope.options.queryParameterLimit < sources.length
    modelPath := input.modelPath }

def scalarArgument (scope : Scope) (parameter : Parameter) : ScalarBinding where
  name := Naming.parameterLabel parameter.column.name parameter.number
  dbName := parameter.column.name
  type := scope.typeOf parameter.column
  column := parameter.column
  modelPath := none

def argument (scope : Scope) (annotated : AnnotatedQuery) :
    Except GenerateError (Option Binding) :=
  match annotated.pagination, annotated.query.params with
  | none, [] => .ok none
  | none, [parameter] =>
      if scope.options.queryParameterLimit = 0 then
        (scope.structArgument annotated).map fun binding => some (.struct binding)
      else .ok (some (.scalar (scope.scalarArgument parameter)))
  | _, _ => (scope.structArgument annotated).map fun binding => some (.struct binding)

def resultSources (scope : Scope) (structs : List Struct) (position : Nat) :
    List Column → List FieldSource
  | [] => []
  | column :: columns =>
      { id := position
        column
        type := scope.typeOf column
        embed := column.embedTable.bind (scope.embeddedModel? structs) } ::
        scope.resultSources structs (position + 1) columns

def scalarResult (scope : Scope) (query : Query) (column : Column) : ScalarBinding :=
  let name := String.ofList <|
    (Naming.columnLabel column.name 0).toList.map fun c => if c = '$' then '_' else c
  { name
    dbName := name
    type := scope.typeOf column
    column
    modelPath := some (scope.modelPath query.name) }

/-- The result that is the row of a model; the query's copy goes by the query's own path. -/
def modelResult (scope : Scope) (query : Query) (model : Struct) : StructBinding where
  name := "item"
  struct := { model with modelPath := scope.modelPath query.name }
  emit := false
  modelPath := scope.modelPath query.name

def rowResult (scope : Scope) (structs : List Struct) (annotated : AnnotatedQuery) :
    Except GenerateError StructBinding := do
  let query := annotated.query
  let name := annotated.binding.returnType.getD (query.name ++ "Row")
  let row ← scope.row name (scope.modelPath (query.name ++ "Row"))
    (scope.resultSources structs 0 query.columns)
  return { name := "item", struct := row, emit := true, modelPath := row.modelPath }

def structResult (scope : Scope) (structs : List Struct) (annotated : AnnotatedQuery) :
    Except GenerateError StructBinding :=
  match scope.matchingModel? structs annotated.query.columns with
  | some model => .ok (scope.modelResult annotated.query model)
  | none => scope.rowResult structs annotated

def result (scope : Scope) (structs : List Struct) (annotated : AnnotatedQuery) :
    Except GenerateError (Option Binding) :=
  match annotated.query.columns with
  | [] => .ok none
  | [column] =>
      if column.embedTable.isNone then
        .ok (some (.scalar (scope.scalarResult annotated.query column)))
      else (scope.structResult structs annotated).map fun binding => some (.struct binding)
  | _ => (scope.structResult structs annotated).map fun binding => some (.struct binding)

def bind (scope : Scope) (structs : List Struct) (annotated : AnnotatedQuery) :
    Except GenerateError BoundQuery := do
  let binding := annotated.binding
  let argument ← scope.argument annotated
  let result ←
    if annotated.command.returnsRows then scope.result structs annotated else pure none
  return {
    command := annotated.command
    comments := annotated.comments
    methodName := annotated.query.name
    sourceName := annotated.query.filename
    extendedType := binding.operation
    resolverName := binding.resolver
    directive := joinDirectives binding.directive
      (scope.directives binding.operation binding.resolver)
    pagination := annotated.pagination
    argument
    result }

/-- The bound queries in the order of their names; the first that fails decides the error. -/
def bindQueries (scope : Scope) (structs : List Struct) (queries : List Query) :
    Except GenerateError (List BoundQuery) := do
  let bound ← (queries.filterMap AnnotatedQuery.ofQuery?).mapM (scope.bind structs)
  return Text.sortBy BoundQuery.methodName bound

end Scope

end GraphSchema
