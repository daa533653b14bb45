import GraphSchema.Annotation.PublicComments
import GraphSchema.Model.Basic
import GraphSchema.Options.Resolve
import GraphSchema.Text.Sorting

/-!
The plan of the documents to be written: one with all enums and structs, one that names the extended
operation types if that is asked for, and one for each source of queries. Hidden fields are left out
of every struct, and of a query's comments only the published ones are kept.
-/

namespace GraphSchema

inductive PlannedKind
  | schema
  | common
  | queries
  deriving DecidableEq

structure PlannedDocument where
  name : String
  kind : PlannedKind
  modelPackage : String
  toolVersion : Option String
  enums : List EnumType := []
  structs : List Struct := []
  queries : List BoundQuery := []
  /-- The operation types that the queries extend, in order and each once. -/
  extendedTypes : List String := []

def documentName (source : String) : String :=
  if Text.endsWith source ".graphql" then source
  else (Text.dropEnd? source ".sql").getD source ++ ".graphql"

def ExcludeRules.visible (rules : ExcludeRules) (struct : Struct) : Struct :=
  { struct with
    fields := struct.fields.filter fun field => !rules.isExcluded struct.name field.graphqlName }

def ExcludeRules.visibleQuery (rules : ExcludeRules) (query : BoundQuery) : BoundQuery :=
  { query with
    comments := PublicComments.published query.comments
    argument := query.argument.map (·.mapStruct rules.visible)
    result := query.result.map (·.mapStruct rules.visible) }

def sortedDistinct (texts : List String) : List String := Text.sortBy id texts.eraseDups

def extendedTypes (queries : List BoundQuery) : List String :=
  sortedDistinct (queries.map BoundQuery.extendedType)

namespace ResolvedOptions

def emptyDocument (options : ResolvedOptions) (toolVersion name : String) (kind : PlannedKind) :
    PlannedDocument where
  name := name
  kind := kind
  modelPackage := options.package
  toolVersion := if options.omitToolVersion then none else some toolVersion

def schemaDocument (options : ResolvedOptions) (toolVersion : String) (enums : List EnumType)
    (structs : List Struct) : PlannedDocument :=
  { options.emptyDocument toolVersion "schema.graphql" .schema with
    enums
    structs := structs.map options.exclude.visible }

def commonDocument (options : ResolvedOptions) (toolVersion : String)
    (queries : List BoundQuery) : PlannedDocument :=
  { options.emptyDocument toolVersion "common.graphql" .common with
    extendedTypes := extendedTypes queries }

def sourceDocument (options : ResolvedOptions) (toolVersion : String) (queries : List BoundQuery)
    (source : String) : PlannedDocument :=
  let own := queries.filter (·.sourceName = source)
  { options.emptyDocument toolVersion (documentName source) .queries with
    queries := own.map options.exclude.visibleQuery
    extendedTypes := extendedTypes own }

/-- All documents, those of the sources in the order of the sources' names. -/
def planDocuments (options : ResolvedOptions) (toolVersion : String) (enums : List EnumType)
    (structs : List Struct) (queries : List BoundQuery) : List PlannedDocument :=
  options.schemaDocument toolVersion enums structs ::
    ((if options.genCommonParts then [options.commonDocument toolVersion queries] else []) ++
      (sortedDistinct (queries.map BoundQuery.sourceName)).map
        (options.sourceDocument toolVersion queries))

end ResolvedOptions

end GraphSchema
