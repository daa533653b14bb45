import GraphSchema.Proofs.GlobTexts
import GraphSchema.Proofs.MergedOptions

/-!
Which columns an override for columns is about. A table without a schema belongs to the default
schema, and a spec without a schema means the default schema; so naming that schema in a spec or
leaving it out makes no difference, whatever globs stand for the table and the column. Where all
segments mean themselves, a spec is about the one column that it names. Nothing else is asked of
the globs, so any other matcher of segments would do as well.
-/

namespace GraphSchema

open Text

/-- A column as a spec names it: by its table, and perhaps by its schema or by both its catalog and
its schema. -/
structure ColumnName where
  catalog : Option String := none
  schema : Option String := none
  table : String
  column : String
  hasSchema : catalog.isSome → schema.isSome := by simp

namespace ColumnName

def segments (name : ColumnName) : List String :=
  name.catalog.toList ++ name.schema.toList ++ [name.table, name.column]

def spec (name : ColumnName) : String := ".".intercalate name.segments

/-- Whether a probe is about the named column. A table without a schema has the default schema, and
so has a name without one. -/
def Names (name : ColumnName) (probe : ColumnProbe) : Prop :=
  ∃ owner, probe.table = some owner ∧
    probe.columnName = name.column ∧ owner.name = name.table ∧
    owner.schemaOr probe.defaultSchema = name.schema.getD probe.defaultSchema ∧
    ∀ catalog ∈ name.catalog, owner.catalog = catalog

/-- A segment that means itself. -/
structure Literal (segment : String) : Prop where
  nonempty : segment ≠ ""
  plain : Glob.Plain segment
  unbroken : '.' ∉ segment.toList

theorem mem_segments_iff {name : ColumnName} {segment : String} :
    segment ∈ name.segments ↔
      segment ∈ name.catalog ∨ segment ∈ name.schema ∨ segment = name.table ∨
        segment = name.column := by
  simp [segments]

theorem spec_ne_empty (name : ColumnName) : name.spec ≠ "" := by
  have ⟨catalog, schema, table, column, _⟩ := name
  intro empty
  have chars := congrArg String.toList empty
  cases catalog <;> cases schema <;> simp [spec, segments] at chars

theorem fields_of_spec {name : ColumnName}
    (unbroken : ∀ segment ∈ name.segments, '.' ∉ segment.toList) :
    fields '.' name.spec = name.segments :=
  fields_intercalate unbroken (by simp [segments])

end ColumnName

def SegmentMatcher.AcceptsOnly {Segment : Type} [SegmentMatcher Segment] (segment : Segment)
    (name : String) : Prop :=
  ∀ text, accepts segment text = true ↔ text = name

/-- A matcher with which a segment that means itself compiles, and accepts itself alone. -/
class LiteralMatcher (Segment : Type) [SegmentMatcher Segment] : Prop where
  accepts_itself : ∀ name, Glob.Plain name →
    ∃ segment : Segment, SegmentMatcher.compile name = .ok segment ∧
      SegmentMatcher.AcceptsOnly segment name

instance : LiteralMatcher Glob := ⟨fun _ plain => Glob.plain_accepts_itself plain⟩

variable {Segment : Type} [SegmentMatcher Segment]

open SegmentMatcher (accepts AcceptsOnly)

namespace ColumnPattern

theorem compile_spec {name : ColumnName}
    (unbroken : ∀ segment ∈ name.segments, '.' ∉ segment.toList) :
    (compile name.spec : Except OptionsError (ColumnPattern Segment)) =
      ofSegments name.spec name.catalog name.schema name.table name.column := by
  rw [compile, ColumnName.fields_of_spec unbroken]
  have ⟨catalog, schema, table, column, hasSchema⟩ := name
  cases catalog with
  | none => cases schema <;> rfl
  | some catalog =>
      cases schema with
      | none => cases hasSchema rfl
      | some schema => rfl

theorem of_segments_ok_iff {spec table column : String} {catalog schema : Option String}
    {pattern : ColumnPattern Segment} :
    ofSegments spec catalog schema table column = .ok pattern ↔
      (table ≠ "" ∧ column ≠ "") ∧ pattern.spec = spec ∧
        optionalSegment catalog = .ok pattern.catalog ∧
        optionalSegment schema = .ok pattern.schema ∧
        segment table = .ok pattern.table ∧ segment column = .ok pattern.column := by
  by_cases empty : table = "" ∨ column = ""
  · have unnamed : ¬(table ≠ "" ∧ column ≠ "") := by
      intro named
      exact empty.elim named.1 named.2
    have refused : (ofSegments spec catalog schema table column :
        Except OptionsError (ColumnPattern Segment)) =
          .error (.invalidOverride spec .emptySegment) := by
      rw [ofSegments, if_pos (by simpa using empty)]
      rfl
    simp [refused, unnamed]
  · have named : table ≠ "" ∧ column ≠ "" := not_or.1 empty
    have made : (ofSegments spec catalog schema table column :
        Except OptionsError (ColumnPattern Segment)) = (do
        let catalog ← optionalSegment catalog
        let schema ← optionalSegment schema
        let table ← segment table
        let column ← segment column
        return { spec, catalog, schema, table, column }) := by
      rw [ofSegments, if_neg (by simpa using empty)]
    rw [made]
    constructor
    · intro compiled
      have ⟨catalogGlob, catalogMade, afterCatalog⟩ := Outcome.bind_ok compiled
      have ⟨schemaGlob, schemaMade, afterSchema⟩ := Outcome.bind_ok afterCatalog
      have ⟨tableGlob, tableMade, afterTable⟩ := Outcome.bind_ok afterSchema
      have ⟨columnGlob, columnMade, assembled⟩ := Outcome.bind_ok afterTable
      cases assembled
      exact ⟨named, rfl, catalogMade, schemaMade, tableMade, columnMade⟩
    · intro parts
      have ⟨_, same, catalogMade, schemaMade, tableMade, columnMade⟩ := parts
      rw [catalogMade, schemaMade, tableMade, columnMade, ← same]
      rfl

/-- Whether the segment of a pattern for the schema admits one; without a segment the default alone
is admitted. -/
def AdmitsSchema (own : Option Segment) (defaultSchema schema : String) : Prop :=
  match own with
  | some segment => accepts segment schema = true
  | none => schema = defaultSchema

theorem hits_iff {pattern : ColumnPattern Segment} {probe : ColumnProbe} :
    pattern.hits probe = true ↔
      ∃ owner, probe.table = some owner ∧
        accepts pattern.column probe.columnName = true ∧
        (∀ segment ∈ pattern.catalog, accepts segment owner.catalog = true) ∧
        AdmitsSchema pattern.schema probe.defaultSchema (owner.schemaOr probe.defaultSchema) ∧
        accepts pattern.table owner.name = true := by
  rw [hits]
  cases probe.table with
  | none => simp
  | some owner =>
      simp only [Option.any_some, matchesTable, Bool.and_eq_true, and_assoc, Option.all_eq_true,
        Option.some.injEq, exists_eq_left']
      cases pattern.schema <;> simp [AdmitsSchema]

theorem accepts_catalog_iff {own : Option Segment} {name : Option String}
    (named : Option.Rel AcceptsOnly own name) (catalog : String) :
    (∀ segment ∈ own, accepts segment catalog = true) ↔ ∀ text ∈ name, catalog = text := by
  cases named with
  | none => simp
  | some only => simpa using only catalog

theorem admits_schema_iff {own : Option Segment} {name : Option String}
    (named : Option.Rel AcceptsOnly own name) (defaultSchema schema : String) :
    AdmitsSchema own defaultSchema schema ↔ schema = name.getD defaultSchema := by
  cases named with
  | none => exact Iff.rfl
  | some only => exact only schema

theorem hits_iff_names {pattern : ColumnPattern Segment} {name : ColumnName}
    (catalog : Option.Rel AcceptsOnly pattern.catalog name.catalog)
    (schema : Option.Rel AcceptsOnly pattern.schema name.schema)
    (table : AcceptsOnly pattern.table name.table)
    (column : AcceptsOnly pattern.column name.column) (probe : ColumnProbe) :
    pattern.hits probe = true ↔ name.Names probe := by
  rw [hits_iff, ColumnName.Names]
  apply exists_congr
  intro owner
  rw [column, table, accepts_catalog_iff catalog, admits_schema_iff schema]
  tauto

section Literal

variable [LiteralMatcher Segment]

variable (Segment) in
theorem segment_of_plain {name : String} (plain : Glob.Plain name) :
    ∃ own : Segment, segment name = .ok own ∧ AcceptsOnly own name := by
  have ⟨own, compiled, only⟩ := @LiteralMatcher.accepts_itself Segment _ _ name plain
  refine ⟨own, ?_, only⟩
  rw [segment, compiled]
  rfl

variable (Segment) in
theorem optional_segment_of_plain {name : Option String} (plain : ∀ text ∈ name, Glob.Plain text) :
    ∃ own : Option Segment, optionalSegment name = .ok own ∧ Option.Rel AcceptsOnly own name := by
  cases name with
  | none => exact ⟨none, rfl, .none⟩
  | some name =>
      have ⟨own, made, only⟩ := segment_of_plain Segment (plain name rfl)
      refine ⟨some own, ?_, .some only⟩
      rw [optionalSegment, made]
      rfl

theorem literal_pattern {name : ColumnName}
    (literal : ∀ segment ∈ name.segments, ColumnName.Literal segment) :
    ∃ pattern : ColumnPattern Segment, compile name.spec = .ok pattern ∧
      ∀ probe, pattern.hits probe = true ↔ name.Names probe := by
  have ofCatalog (text : String) (member : text ∈ name.catalog) : ColumnName.Literal text :=
    literal text (ColumnName.mem_segments_iff.2 (Or.inl member))
  have ofSchema (text : String) (member : text ∈ name.schema) : ColumnName.Literal text :=
    literal text (ColumnName.mem_segments_iff.2 (Or.inr (Or.inl member)))
  have ofTable : ColumnName.Literal name.table :=
    literal _ (ColumnName.mem_segments_iff.2 (by simp))
  have ofColumn : ColumnName.Literal name.column :=
    literal _ (ColumnName.mem_segments_iff.2 (by simp))
  have ⟨catalog, catalogMade, catalogNamed⟩ :=
    optional_segment_of_plain Segment fun text member => (ofCatalog text member).plain
  have ⟨schema, schemaMade, schemaNamed⟩ :=
    optional_segment_of_plain Segment fun text member => (ofSchema text member).plain
  have ⟨table, tableMade, tableNamed⟩ := segment_of_plain Segment ofTable.plain
  have ⟨column, columnMade, columnNamed⟩ := segment_of_plain Segment ofColumn.plain
  refine ⟨{ spec := name.spec, catalog, schema, table, column }, ?_,
    hits_iff_names catalogNamed schemaNamed tableNamed columnNamed⟩
  rw [compile_spec fun segment member => (literal segment member).unbroken]
  exact of_segments_ok_iff.2 ⟨⟨ofTable.nonempty, ofColumn.nonempty⟩, rfl, catalogMade, schemaMade,
    tableMade, columnMade⟩

variable {schema table column : String}

theorem of_segments_with_schema (plain : Glob.Plain schema) (spec qualifiedSpec : String) :
    (∃ pattern : ColumnPattern Segment, ofSegments spec none none table column = .ok pattern) ↔
      ∃ pattern : ColumnPattern Segment,
        ofSegments qualifiedSpec none (some schema) table column = .ok pattern := by
  constructor
  · intro compiles
    have ⟨pattern, made⟩ := compiles
    have ⟨named, _, catalogMade, _, tableMade, columnMade⟩ := of_segments_ok_iff.1 made
    have ⟨own, schemaMade, _⟩ :=
      @optional_segment_of_plain Segment _ _ (some schema) (by simpa using plain)
    exact ⟨{ pattern with spec := qualifiedSpec, schema := own }, of_segments_ok_iff.2
      ⟨named, rfl, catalogMade, schemaMade, tableMade, columnMade⟩⟩
  · intro compiles
    have ⟨pattern, made⟩ := compiles
    have ⟨named, _, catalogMade, _, tableMade, columnMade⟩ := of_segments_ok_iff.1 made
    exact ⟨{ pattern with spec, schema := none }, of_segments_ok_iff.2
      ⟨named, rfl, catalogMade, rfl, tableMade, columnMade⟩⟩

theorem hits_with_schema (plain : Glob.Plain schema) {spec qualifiedSpec : String}
    {pattern qualified : ColumnPattern Segment}
    (made : ofSegments spec none none table column = .ok pattern)
    (qualifiedMade : ofSegments qualifiedSpec none (some schema) table column = .ok qualified)
    {probe : ColumnProbe} (default : probe.defaultSchema = schema) :
    pattern.hits probe = qualified.hits probe := by
  have ⟨_, _, catalogMade, schemaMade, tableMade, columnMade⟩ := of_segments_ok_iff.1 made
  have ⟨_, _, sameCatalog, qualifiedSchema, sameTable, sameColumn⟩ :=
    of_segments_ok_iff.1 qualifiedMade
  rw [catalogMade] at sameCatalog
  rw [tableMade] at sameTable
  rw [columnMade] at sameColumn
  have ⟨own, segmentMade, only⟩ := segment_of_plain Segment plain
  have schemaless : pattern.schema = none := (Except.ok.inj schemaMade).symm
  have schemaNamed : qualified.schema = some own := by
    rw [optionalSegment, segmentMade] at qualifiedSchema
    exact (Except.ok.inj qualifiedSchema).symm
  rw [Bool.eq_iff_iff, hits_iff, hits_iff, Except.ok.inj sameCatalog, Except.ok.inj sameTable,
    Except.ok.inj sameColumn]
  simp only [schemaless, schemaNamed, AdmitsSchema, only _, default]

end Literal

end ColumnPattern

namespace OverrideRule

theorem compile_of_column_iff (entry : Override) {spec : String} (named : spec ≠ "")
    {rule : OverrideRule Segment} :
    compile { entry with column := spec } = .ok rule ↔
      (trimmed entry.gqlType ≠ "" ∧ entry.dbType = "") ∧
        ∃ pattern, ColumnPattern.compile spec = .ok pattern ∧
          ⟨trimmed entry.gqlType, .column pattern, entry.nullable, entry.unsigned⟩ = rule := by
  rw [compile]
  by_cases blank : trimmed entry.gqlType = ""
  · rw [if_pos blank]
    simp [blank, throw, throwThe, MonadExceptOf.throw, bind, Except.bind]
  · by_cases typed : entry.dbType = ""
    · simp only [OverrideTarget.ofEntry]
      cases made : (ColumnPattern.compile spec : Except OptionsError (ColumnPattern Segment)) with
      | error failure => simp [blank, typed, named, Except.map, bind, Except.bind]
      | ok pattern => simp [blank, typed, named, Except.map, bind, Except.bind, pure, Except.pure]
    · simp [blank, OverrideTarget.ofEntry, typed, named, bind, Except.bind]

theorem compile_of_name_iff (entry : Override) {name : ColumnName}
    (unbroken : ∀ segment ∈ name.segments, '.' ∉ segment.toList) {rule : OverrideRule Segment} :
    compile { entry with column := name.spec } = .ok rule ↔
      (trimmed entry.gqlType ≠ "" ∧ entry.dbType = "") ∧
        ∃ pattern, ColumnPattern.ofSegments name.spec name.catalog name.schema name.table
            name.column = .ok pattern ∧
          ⟨trimmed entry.gqlType, .column pattern, entry.nullable, entry.unsigned⟩ = rule := by
  rw [compile_of_column_iff entry name.spec_ne_empty, ColumnPattern.compile_spec unbroken]

theorem compiles_iff (entry : Override) {name : ColumnName}
    (unbroken : ∀ segment ∈ name.segments, '.' ∉ segment.toList) :
    (∃ rule : OverrideRule Segment, compile { entry with column := name.spec } = .ok rule) ↔
      (trimmed entry.gqlType ≠ "" ∧ entry.dbType = "") ∧
        ∃ pattern : ColumnPattern Segment,
          ColumnPattern.ofSegments name.spec name.catalog name.schema name.table name.column =
            .ok pattern := by
  constructor
  · intro compiles
    have ⟨rule, compiled⟩ := compiles
    have ⟨usable, pattern, made, _⟩ := (compile_of_name_iff entry unbroken).1 compiled
    exact ⟨usable, pattern, made⟩
  · intro parts
    have ⟨usable, pattern, made⟩ := parts
    exact ⟨_, (compile_of_name_iff entry unbroken).2 ⟨usable, pattern, made, rfl⟩⟩

section Literal

variable [LiteralMatcher Segment] (entry : Override)

section Qualified

variable {schema table column : String} (literal : ColumnName.Literal schema)
  (unbroken : ∀ segment ∈ [table, column], '.' ∉ segment.toList)
include literal unbroken

variable (Segment) in
theorem compiles_with_schema_iff :
    (∃ rule : OverrideRule Segment,
        compile { entry with column := table ++ "." ++ column } = .ok rule) ↔
      ∃ rule : OverrideRule Segment,
        compile { entry with column := schema ++ "." ++ table ++ "." ++ column } = .ok rule := by
  have short := @compiles_iff Segment _ entry { table, column } unbroken
  have long := @compiles_iff Segment _ entry { schema := some schema, table, column }
    (List.forall_mem_cons.2 ⟨literal.unbroken, unbroken⟩)
  apply short.trans (Iff.trans _ long.symm)
  exact and_congr_right fun _ => ColumnPattern.of_segments_with_schema literal.plain _ _

theorem hits_with_schema {rule qualified : OverrideRule Segment}
    (compiled : compile { entry with column := table ++ "." ++ column } = .ok rule)
    (qualifiedCompiled :
      compile { entry with column := schema ++ "." ++ table ++ "." ++ column } = .ok qualified)
    {probe : ColumnProbe} (default : probe.defaultSchema = schema) :
    rule.hits probe = qualified.hits probe := by
  have short := @compile_of_name_iff Segment _ entry { table, column } unbroken rule
  have long := @compile_of_name_iff Segment _ entry { schema := some schema, table, column }
    (List.forall_mem_cons.2 ⟨literal.unbroken, unbroken⟩) qualified
  have ⟨_, pattern, made, own⟩ := short.1 compiled
  have ⟨_, qualifiedPattern, qualifiedMade, qualifiedOwn⟩ := long.1 qualifiedCompiled
  rw [← own, ← qualifiedOwn]
  exact ColumnPattern.hits_with_schema literal.plain made qualifiedMade default

end Qualified

theorem literal_rule {name : ColumnName}
    (literal : ∀ segment ∈ name.segments, ColumnName.Literal segment)
    (untyped : entry.dbType = "") (replaced : trimmed entry.gqlType ≠ "") :
    ∃ rule : OverrideRule Segment, compile { entry with column := name.spec } = .ok rule ∧
      ∀ probe, rule.hits probe = true ↔ name.Names probe := by
  have ⟨pattern, compiled, names⟩ := @ColumnPattern.literal_pattern Segment _ _ _ literal
  refine ⟨⟨trimmed entry.gqlType, .column pattern, entry.nullable, entry.unsigned⟩, ?_, names⟩
  apply (compile_of_column_iff entry name.spec_ne_empty).2
  exact ⟨⟨replaced, untyped⟩, pattern, compiled, rfl⟩

/-- An override for the columns of a table says the same of the default schema whether it names that
schema or not: it compiles with the schema in front just if it compiles without, and then applies to
the same columns of databases with this default. An override whose segments all mean themselves
applies to the column that they name. So it is with any matcher of segments that accepts a segment
of this kind alone. -/
theorem column_rules_of_matcher (Segment : Type) [SegmentMatcher Segment]
    [LiteralMatcher Segment] (entry : Override) :
    (∀ schema table column : String, ColumnName.Literal schema →
      (∀ segment ∈ [table, column], '.' ∉ segment.toList) →
      ((∃ rule : OverrideRule Segment,
          compile { entry with column := table ++ "." ++ column } = .ok rule) ↔
        ∃ rule : OverrideRule Segment,
          compile { entry with column := schema ++ "." ++ table ++ "." ++ column } = .ok rule) ∧
      ∀ rule qualified : OverrideRule Segment,
        compile { entry with column := table ++ "." ++ column } = .ok rule →
        compile { entry with column := schema ++ "." ++ table ++ "." ++ column } = .ok qualified →
        ∀ probe, probe.defaultSchema = schema → rule.hits probe = qualified.hits probe) ∧
    ∀ name : ColumnName, (∀ segment ∈ name.segments, ColumnName.Literal segment) →
      entry.dbType = "" → trimmed entry.gqlType ≠ "" →
      ∃ rule : OverrideRule Segment, compile { entry with column := name.spec } = .ok rule ∧
        ∀ probe, rule.hits probe = true ↔ name.Names probe := by
  constructor
  · intro schema table column literal unbroken
    constructor
    · exact compiles_with_schema_iff Segment entry literal unbroken
    · intro rule qualified compiled qualifiedCompiled probe default
      exact hits_with_schema entry literal unbroken compiled qualifiedCompiled default
  · intro name literal untyped replaced
    exact literal_rule entry literal untyped replaced

end Literal

/-- Globs accept a segment that means itself alone, and so overrides with globs go by the names of
columns. -/
theorem column_rules_go_by_names (entry : Override) :
    (∀ schema table column : String, ColumnName.Literal schema →
      (∀ segment ∈ [table, column], '.' ∉ segment.toList) →
      ((∃ rule, compile { entry with column := table ++ "." ++ column } = .ok rule) ↔
        ∃ rule, compile { entry with column := schema ++ "." ++ table ++ "." ++ column } =
          .ok rule) ∧
      ∀ rule qualified,
        compile { entry with column := table ++ "." ++ column } = .ok rule →
        compile { entry with column := schema ++ "." ++ table ++ "." ++ column } = .ok qualified →
        ∀ probe, probe.defaultSchema = schema → rule.hits probe = qualified.hits probe) ∧
    ∀ name : ColumnName, (∀ segment ∈ name.segments, ColumnName.Literal segment) →
      entry.dbType = "" → trimmed entry.gqlType ≠ "" →
      ∃ rule, compile { entry with column := name.spec } = .ok rule ∧
        ∀ probe, rule.hits probe = true ↔ name.Names probe :=
  column_rules_of_matcher Glob entry

def authorNames : ColumnName where
  catalog := some "shop"
  schema := some "public"
  table := "authors"
  column := "name"

/-- Times of authors and of the like are the same with the schema in front or without, and a full
name is about one column, wherever the default schema is the one it gives. -/
theorem public_authors_go_by_names :
    ∃ rule qualified,
      compile { column := "author*.*_at", gqlType := "Time" } = .ok rule ∧
      compile { column := "public.author*.*_at", gqlType := "Time" } = .ok qualified ∧
      (∀ probe, probe.defaultSchema = "public" → rule.hits probe = qualified.hits probe) ∧
      ∃ named, compile { column := "shop.public.authors.name", gqlType := "Time" } = .ok named ∧
        named.hits {
          columnName := "name", table := some { catalog := "shop", name := "authors" },
          defaultSchema := "public" } = true ∧
        named.hits {
          columnName := "name", table := some { catalog := "shop", name := "authors" },
          defaultSchema := "audit" } = false := by
  have ⟨qualifies, names⟩ := column_rules_go_by_names { gqlType := "Time" }
  have ⟨compiles, agree⟩ := qualifies "public" "author*" "*_at"
    ⟨by decide, by decide, by decide⟩ (by decide)
  have alone : (compile { column := "author*.*_at", gqlType := "Time" }).toOption.isSome =
      true := by decide +kernel
  have ⟨rule, compiled⟩ := Outcome.succeeds_of_to_option alone
  have ⟨qualified, qualifiedCompiled⟩ := compiles.1 ⟨rule, compiled⟩
  have literal : ∀ segment ∈ authorNames.segments, ColumnName.Literal segment := by
    have all : ∀ segment ∈ authorNames.segments,
        segment ≠ "" ∧ Glob.Plain segment ∧ '.' ∉ segment.toList := by decide
    exact fun segment member => ⟨(all segment member).1, (all segment member).2.1,
      (all segment member).2.2⟩
  have ⟨named, namedCompiled, hits⟩ := names authorNames literal rfl (by decide)
  refine ⟨rule, qualified, compiled, qualifiedCompiled,
    agree rule qualified compiled qualifiedCompiled, named, namedCompiled, ?_, ?_⟩
  · rw [hits]
    exact ⟨_, rfl, rfl, rfl, rfl, by decide⟩
  · rw [Bool.eq_false_iff, ne_eq, hits]
    intro owned
    have ⟨owner, same, _, _, schema, _⟩ := owned
    cases same
    exact absurd schema (by decide)

end OverrideRule

end GraphSchema
