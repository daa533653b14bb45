import GraphSchema.Catalog
import GraphSchema.Options.Glob
import GraphSchema.Text.Blank
import GraphSchema.Text.Segments

/-!
Overrides put a GraphQL type of the user's choice in the place of the one that a column would get.
An entry names a native type or a column; the segments of a column are globs. A rule for a column
goes before every rule for a type, and within each kind the first one that matches wins.
-/

namespace GraphSchema

structure Override where
  dbType : String := ""
  column : String := ""
  gqlType : String := ""
  nullable : Option Bool := none
  unsigned : Option Bool := none
  deriving DecidableEq

structure ColumnProbe where
  columnName : String := ""
  table : Option Identifier := none
  typeSchema : String := ""
  typeName : String := ""
  nullable : Bool := false
  unsigned : Bool := false
  defaultSchema : String := ""

/-- What the segments of a column are compiled to, and what they accept then. -/
class SegmentMatcher (Segment : Type) where
  compile : String → Except GlobError Segment
  accepts : Segment → String → Bool

@[default_instance]
instance : SegmentMatcher Glob := ⟨Glob.compile, Glob.accepts⟩

structure ColumnPattern (Segment : Type := Glob) where
  spec : String
  catalog : Option Segment
  schema : Option Segment
  table : Segment
  column : Segment

inductive OverrideTarget (Segment : Type := Glob)
  | dbType (schema : Option String) (name : String)
  | column (pattern : ColumnPattern Segment)

structure OverrideRule (Segment : Type := Glob) where
  gqlType : String
  target : OverrideTarget Segment
  nullable : Option Bool
  unsigned : Option Bool

variable {Segment : Type}

namespace ColumnPattern

variable [SegmentMatcher Segment]

def segment (pattern : String) : Except OptionsError Segment :=
  (SegmentMatcher.compile pattern).mapError (.invalidPattern pattern)

def optionalSegment (pattern : Option String) : Except OptionsError (Option Segment) :=
  match pattern with
  | none => .ok none
  | some pattern => (segment pattern).map some

def ofSegments (spec : String) (catalog schema : Option String) (table column : String) :
    Except OptionsError (ColumnPattern Segment) := do
  if table = "" || column = "" then throw (.invalidOverride spec .emptySegment)
  let catalog ← optionalSegment catalog
  let schema ← optionalSegment schema
  let table ← segment table
  let column ← segment column
  return { spec, catalog, schema, table, column }

/-- Compiles `table.column`, with a schema or a catalog and a schema in front. -/
def compile (spec : String) : Except OptionsError (ColumnPattern Segment) :=
  match Text.fields '.' spec with
  | [table, column] => ofSegments spec none none table column
  | [schema, table, column] => ofSegments spec none (some schema) table column
  | [catalog, schema, table, column] => ofSegments spec (some catalog) (some schema) table column
  | _ => .error (.invalidOverride spec .malformedColumn)

/-- Whether the pattern matches a column of a table. A pattern without a schema holds for the
default schema alone. -/
def matchesTable (pattern : ColumnPattern Segment) (probe : ColumnProbe) (table : Identifier) :
    Bool :=
  let schema := table.schemaOr probe.defaultSchema
  SegmentMatcher.accepts pattern.column probe.columnName &&
    pattern.catalog.all (SegmentMatcher.accepts · table.catalog) &&
    (match pattern.schema with
      | some segment => SegmentMatcher.accepts segment schema
      | none => schema = probe.defaultSchema) &&
    SegmentMatcher.accepts pattern.table table.name

def hits (pattern : ColumnPattern Segment) (probe : ColumnProbe) : Bool :=
  probe.table.any (pattern.matchesTable probe)

end ColumnPattern

def Override.spec (entry : Override) : String :=
  if entry.dbType ≠ "" then entry.dbType
  else if entry.column ≠ "" then entry.column
  else "<empty>"

namespace OverrideTarget

/-- Compiles a native type, with its schema in front or without. -/
def ofDbType (spec : String) : Except OptionsError (OverrideTarget Segment) :=
  match Text.fields '.' spec with
  | [name] => .ok (.dbType none name)
  | [schema, name] => .ok (.dbType (some schema) name)
  | _ => .error (.invalidOverride spec .malformedType)

variable [SegmentMatcher Segment]

def ofEntry (entry : Override) : Except OptionsError (OverrideTarget Segment) :=
  if entry.dbType ≠ "" then
    if entry.column ≠ "" then .error (.invalidOverride entry.spec .twoTargets)
    else ofDbType entry.dbType
  else if entry.column ≠ "" then (ColumnPattern.compile entry.column).map .column
  else .error (.invalidOverride entry.spec .noTarget)

end OverrideTarget

namespace OverrideRule

def isColumnScoped (rule : OverrideRule Segment) : Bool :=
  match rule.target with
  | .column _ => true
  | .dbType .. => false

variable [SegmentMatcher Segment]

def compile (entry : Override) : Except OptionsError (OverrideRule Segment) := do
  let gqlType := Text.trimmed entry.gqlType
  if gqlType = "" then throw (.invalidOverride entry.spec .missingReplacement)
  let target ← OverrideTarget.ofEntry entry
  return { gqlType, target, nullable := entry.nullable, unsigned := entry.unsigned }

/-- Whether the rule applies to a column. Nullability and signedness restrict rules for types. -/
def hits (rule : OverrideRule Segment) (probe : ColumnProbe) : Bool :=
  match rule.target with
  | .column pattern => pattern.hits probe
  | .dbType schema name =>
      name = probe.typeName && schema.getD "" = probe.typeSchema &&
        rule.nullable.all (· = probe.nullable) && rule.unsigned.all (· = probe.unsigned)

end OverrideRule

structure OverrideSet where
  rules : List OverrideRule := []

namespace OverrideSet

def compile (entries : List Override) : Except OptionsError OverrideSet := do
  return { rules := ← entries.mapM OverrideRule.compile }

/-- The first rule for a column that matches, else the first rule for a type. -/
def find? (overrides : OverrideSet) (probe : ColumnProbe) : Option OverrideRule :=
  (overrides.rules.find? fun rule => rule.isColumnScoped && rule.hits probe).or
    (overrides.rules.find? fun rule => !rule.isColumnScoped && rule.hits probe)

end OverrideSet

end GraphSchema
