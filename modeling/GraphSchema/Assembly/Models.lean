import GraphSchema.Assembly.Scope
import GraphSchema.Inflection.Singular
import GraphSchema.Model.Basic
import GraphSchema.Text.Sorting

/-!
The model structs, one for each table of the catalog, and the two ways of finding one again: by the
table whose row a column stands for, and by the columns of a whole result.
-/

namespace GraphSchema

structure EmbeddedModel where
  name : String
  fields : List PlainField

namespace Scope

/-- The name that a table gives its model, before it is spelled as a type. -/
def tableName (scope : Scope) (schema : Schema) (table : Table) : String :=
  let qualified := scope.qualify schema.name table.rel.name
  if scope.options.emitExactTableNames then qualified
  else Inflection.singular scope.options.inflectionExcludeTableNames qualified

def modelField (scope : Scope) (struct : String) (column : Column) : Field :=
  let name := scope.structName column.name
  { name
    dbName := column.name
    type := scope.typeOf column
    comment := column.comment
    column := some column
    directive := scope.directives struct name }

def model (scope : Scope) (schema : Schema) (table : Table) : Struct :=
  let name := scope.structName (scope.tableName schema table)
  { table := some { schema := schema.name, name := table.rel.name }
    name
    fields := table.columns.map (scope.modelField name)
    comment := table.comment
    directive := scope.directives name ""
    modelPath := scope.modelPath name }

def catalogModels (scope : Scope) : List Struct :=
  scope.catalog.userSchemas.flatMap fun schema => schema.tables.map (scope.model schema)

def models (scope : Scope) : List Struct := Text.sortBy Struct.name scope.catalogModels

def embeddedModel? (scope : Scope) (structs : List Struct) (table : Identifier) :
    Option EmbeddedModel :=
  (structs.find? fun struct => struct.table.any (table.sameTable · scope.defaultSchema)).map
    fun struct => { name := struct.name, fields := struct.fields.map Field.toPlainField }

/-- Whether a column of a result, at a position, is the field of a table's model. -/
def columnFits (scope : Scope) (table : Identifier) (position : Nat) (field : Field)
    (column : Column) : Bool :=
  field.name = scope.structName (Naming.columnLabel column.name position) &&
    field.type = scope.typeOf column &&
    column.table.any (·.sameTable table scope.defaultSchema)

def columnsFit (scope : Scope) (table : Identifier) : Nat → List Field → List Column → Bool
  | _, [], [] => true
  | position, field :: fields, column :: columns =>
      scope.columnFits table position field column &&
        scope.columnsFit table (position + 1) fields columns
  | _, _, _ => false

def matchingModel? (scope : Scope) (structs : List Struct) (columns : List Column) :
    Option Struct :=
  structs.find? fun struct =>
    struct.table.any fun table => scope.columnsFit table 0 struct.fields columns

end Scope

end GraphSchema
