import GraphSchema.Assembly.Enums
import GraphSchema.Assembly.Plan
import GraphSchema.Assembly.Queries
import GraphSchema.Assembly.Reachable
import GraphSchema.Options.Decode

/-!
A whole generation. The model is assembled from the catalog and the queries, what no query reaches
is left out if the options say so, and the names are checked before the documents are planned.
-/

namespace GraphSchema

structure Model where
  enums : List EnumType
  structs : List Struct
  queries : List BoundQuery

structure Output extends Model where
  documents : List PlannedDocument

namespace Model

def assemble (request : Request) (options : ResolvedOptions) : Except GenerateError Model := do
  let scope := Scope.ofRequest request options
  let models := scope.models
  let queries ← scope.bindQueries models request.queries
  let structs ← addResultStructs options.directives queries models
  return {
    enums := scope.enums
    structs := Text.sortBy Struct.name structs
    queries }

/-- The model without the types that no query reaches. -/
def pruned (model : Model) : Model :=
  { model with
    enums := reachableEnums model.queries model.enums
    structs := reachableStructs model.queries model.structs }

/-- The names that no struct may have. -/
def reservedNames (model : Model) : List String :=
  model.enums.flatMap fun enumeration => [enumeration.name, "Null" ++ enumeration.name]

def check (model : Model) : Except GenerateError Unit :=
  match model.structs.find? fun struct => model.reservedNames.contains struct.name with
  | some struct => .error (.nameConflict struct.name)
  | none => .ok ()

end Model

def generateWith (request : Request) (options : ResolvedOptions) :
    Except GenerateError Output := do
  let assembled ← Model.assemble request options
  let model := if options.omitUnusedStructs then assembled.pruned else assembled
  model.check
  return {
    model with
    documents :=
      options.planDocuments request.toolVersion model.enums model.structs model.queries }

def generate (request : Request) : Except GenerateError Output := do
  let options ← (resolveBlocks request.pluginOptions request.globalOptions).mapError .options
  generateWith request options

end GraphSchema
