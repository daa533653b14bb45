/-!
The database catalog: schemas with their tables, enums and composite types, and the columns that
tables, query results and parameters are made of.
-/

namespace GraphSchema

/-- The possibly qualified name of a table or a type. -/
structure Identifier where
  catalog : String := ""
  schema : String := ""
  name : String := ""
  deriving DecidableEq

namespace Identifier

def dataType (identifier : Identifier) : String :=
  if identifier.schema = "" then identifier.name
  else identifier.schema ++ "." ++ identifier.name

def schemaOr (identifier : Identifier) (defaultSchema : String) : String :=
  if identifier.schema = "" then defaultSchema else identifier.schema

/-- Whether two names are the same table, where the first may leave out the default schema. -/
def sameTable (identifier other : Identifier) (defaultSchema : String) : Bool :=
  identifier.catalog = other.catalog && identifier.schemaOr defaultSchema = other.schema &&
    identifier.name = other.name

end Identifier

/-- A column of a table or a query result, or the column that a parameter stands for. -/
structure Column where
  name : String := ""
  unaliasedName : String := ""
  notNull : Bool := false
  unsigned : Bool := false
  isArray : Bool := false
  arrayDims : Int := 0
  comment : String := ""
  length : Int := 0
  isNamedParam : Bool := false
  isFuncCall : Bool := false
  scope : String := ""
  table : Option Identifier := none
  tableAlias : String := ""
  nativeType : Option Identifier := none
  isSlice : Bool := false
  /-- The table whose whole row the column stands for. -/
  embedTable : Option Identifier := none
  deriving DecidableEq

namespace Column

def dataType (column : Column) : String := (column.nativeType.map Identifier.dataType).getD ""

def matchName (column : Column) : String :=
  if column.unaliasedName = "" then column.name else column.unaliasedName

/-- Whether the column is held without a nullable wrapper; an array always is. -/
def mapsNotNull (column : Column) : Bool := column.notNull || column.isArray

end Column

structure Table where
  rel : Identifier := {}
  columns : List Column := []
  comment : String := ""

structure CatalogEnum where
  name : String := ""
  values : List String := []
  comment : String := ""

structure CompositeType where
  name : String := ""
  comment : String := ""

structure Schema where
  name : String := ""
  comment : String := ""
  tables : List Table := []
  enums : List CatalogEnum := []
  compositeTypes : List CompositeType := []

def systemSchemas : List String := ["pg_catalog", "information_schema"]

def Schema.isSystem (schema : Schema) : Bool := systemSchemas.contains schema.name

structure Catalog where
  comment : String := ""
  defaultSchema : String := ""
  name : String := ""
  schemas : List Schema := []

def Catalog.userSchemas (catalog : Catalog) : List Schema :=
  catalog.schemas.filter (!·.isSystem)

end GraphSchema
