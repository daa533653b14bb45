import GraphSchema.Dialect.Native
import GraphSchema.Model.TypeRef
import GraphSchema.Naming
import GraphSchema.Options.Resolve
import GraphSchema.Request

/-!
The scope of a generation: the engine, the catalog, the options and the default schema, which decide
together how things are named and typed. The host type of a column depends on its nullability
through overrides alone; the marks of its GraphQL type depend on nothing but the column.
-/

namespace GraphSchema

structure Scope where
  engine : Engine
  catalog : Catalog
  options : ResolvedOptions
  /-- The schema whose types go without a prefix. -/
  defaultSchema : String

namespace Scope

/-- The scope of a request; configured options go before the catalog's default schema. -/
def ofRequest (request : Request) (options : ResolvedOptions) : Scope where
  engine := request.engine
  catalog := request.catalog
  options := options
  defaultSchema :=
    (options.defaultSchema.filter (· ≠ "")).getD request.catalog.defaultSchema

def structName (scope : Scope) (name : String) : String :=
  Naming.structName scope.options.rename name

def directives (scope : Scope) (typeName field : String) : Option String :=
  scope.options.directives.lookup typeName field

def modelPath (scope : Scope) (name : String) : String := scope.options.package ++ "." ++ name

def qualify (scope : Scope) (schema name : String) : String :=
  if schema = scope.defaultSchema then name else schema ++ "_" ++ name

def probe (scope : Scope) (column : Column) : ColumnProbe where
  columnName := column.matchName
  table := column.table
  typeSchema := (column.nativeType.map Identifier.schema).getD ""
  typeName := (column.nativeType.map Identifier.name).getD ""
  nullable := !column.mapsNotNull
  unsigned := column.unsigned
  defaultSchema := scope.defaultSchema

def schemasNamed (scope : Scope) (name : String) : List Schema :=
  scope.catalog.userSchemas.filter (·.name = name)

def enumHost? (scope : Scope) (schema name : String) : Option HostType :=
  (scope.schemasNamed schema).findSome? fun found =>
    (found.enums.find? (·.name = name)).map fun enumeration =>
      .enumeration (scope.structName (scope.qualify found.name enumeration.name))

def hasComposite (scope : Scope) (schema name : String) : Bool :=
  (scope.schemasNamed schema).any fun found => found.compositeTypes.any (·.name = name)

/-- A type that the catalog declares: an enum, or a composite type, which travels as text. -/
def declaredStorage (scope : Scope) (nativeType : Identifier) : Storage :=
  let schema := nativeType.schemaOr scope.defaultSchema
  match scope.enumHost? schema nativeType.name with
  | some host => .wrapped host
  | none =>
      if scope.hasComposite schema nativeType.name then .wrapped .text else .unmapped

/-- An enum of any schema, for an engine whose types have no schemas. -/
def enumStorage (scope : Scope) (nativeType : Identifier) : Storage :=
  match scope.catalog.userSchemas.findSome? fun schema =>
      scope.enumHost? schema.name nativeType.name with
  | some host => .wrapped host
  | none => .unmapped

def storage (scope : Scope) (column : Column) : Storage :=
  match scope.engine with
  | .postgresql =>
      match Dialect.postgres.find? column.dataType with
      | some storage => storage
      | none => (column.nativeType.map scope.declaredStorage).getD .unmapped
  | .mysql =>
      match Dialect.mysql.find? (Text.lowercase column.dataType) with
      | some storage => storage column
      | none => (column.nativeType.map scope.enumStorage).getD .unmapped
  | .sqlite =>
      let name := Text.lowercase column.dataType
      match Dialect.sqlite.find? name with
      | some storage => storage
      | none =>
          match Dialect.sqliteOpenings.find? fun opening => Text.startsWith name opening.1 with
          | some opening => opening.2
          | none => .unmapped
  | .unsupported => .unmapped

/-- The host type of a column; an override goes before everything else. -/
def target (scope : Scope) (column : Column) : TargetType :=
  match scope.options.overrides.find? (scope.probe column) with
  | some rule => (Storage.wrapped (.override rule.gqlType)).target column.mapsNotNull
  | none => (scope.storage column).target column.mapsNotNull

def typeOf (scope : Scope) (column : Column) : TypeRef where
  scalar := Scalar.ofHost (scope.target column).host
  nonNull := column.notNull
  list := column.isSlice || column.isArray

end Scope

end GraphSchema
