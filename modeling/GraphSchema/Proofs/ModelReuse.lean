import GraphSchema.Proofs.Declarations
import GraphSchema.Proofs.FieldNumbers
import GraphSchema.Proofs.Generation

/-!
Results that reuse a model. A model is reused where its fields have the names and types that the
columns of the result have, position by position, and all the columns are of its table. So a query
that selects the whole row of a table always reuses a model of that table, and then it feeds no
struct back. What is reused is also what would have been made: a row struct of the same columns has
the shape of the model, for no field gets a number and none takes another's type.
-/

namespace GraphSchema

theorem same_table_iff {identifier other : Identifier} {defaultSchema : String} :
    identifier.sameTable other defaultSchema = true ↔
      identifier.catalog = other.catalog ∧ identifier.schemaOr defaultSchema = other.schema ∧
        identifier.name = other.name := by
  simp [Identifier.sameTable, and_assoc]

namespace Scope

variable {scope : Scope} {structs : List Struct}

def columnShape (scope : Scope) (position : Nat) : List Column → List (String × TypeRef)
  | [] => []
  | column :: columns =>
      (scope.structName (Naming.columnLabel column.name position), scope.typeOf column) ::
        scope.columnShape (position + 1) columns

theorem column_shape_of_named {columns : List Column} (named : ∀ column ∈ columns, column.name ≠ "")
    (position : Nat) :
    scope.columnShape position columns =
      columns.map fun column => (scope.structName column.name, scope.typeOf column) := by
  induction columns generalizing position with
  | nil => rfl
  | cons column rest ih =>
      obtain ⟨own, others⟩ := List.forall_mem_cons.1 named
      have label : Naming.columnLabel column.name position = column.name := if_neg own
      rw [columnShape, label, ih others, List.map_cons]

theorem columns_fit_iff {table : Identifier} {position : Nat} {fields : List Field}
    {columns : List Column} :
    scope.columnsFit table position fields columns = true ↔
      fields.map (fun field => (field.name, field.type)) = scope.columnShape position columns ∧
        ∀ column ∈ columns, column.table.any (·.sameTable table scope.defaultSchema) = true := by
  induction fields generalizing position columns with
  | nil => cases columns <;> simp [columnsFit, columnShape]
  | cons field fields ih =>
      cases columns with
      | nil => simp [columnsFit, columnShape]
      | cons column columns =>
          simp only [columnsFit, columnFits, columnShape, Bool.and_eq_true, decide_eq_true_eq, ih,
            List.map_cons, List.cons.injEq, Prod.mk.injEq, List.forall_mem_cons]
          constructor
          · rintro ⟨⟨⟨name, type⟩, owner⟩, shape, owners⟩
            exact ⟨⟨⟨name, type⟩, shape⟩, owner, owners⟩
          · rintro ⟨⟨⟨name, type⟩, shape⟩, owner, owners⟩
            exact ⟨⟨⟨name, type⟩, owner⟩, shape, owners⟩

/-- What it takes for a model to be the row that a result's columns make. -/
structure Fits (scope : Scope) (columns : List Column) (model : Struct) : Prop where
  shape : model.shape = scope.columnShape 0 columns
  owner : ∃ table, model.table = some table ∧
    ∀ column ∈ columns, column.table.any (·.sameTable table scope.defaultSchema) = true

theorem fits_iff {columns : List Column} {model : Struct} :
    scope.Fits columns model ↔
      model.table.any (fun table => scope.columnsFit table 0 model.fields columns) = true := by
  rw [Option.any_eq_true]
  constructor
  · rintro ⟨shape, table, owned, owners⟩
    exact ⟨table, owned, columns_fit_iff.2 ⟨shape, owners⟩⟩
  · rintro ⟨table, owned, fit⟩
    obtain ⟨shape, owners⟩ := columns_fit_iff.1 fit
    exact ⟨shape, table, owned, owners⟩

theorem matching_model_fits {columns : List Column} {model : Struct}
    (matched : scope.matchingModel? structs columns = some model) :
    model ∈ structs ∧ scope.Fits columns model := by
  have fit := List.find?_some matched
  exact ⟨List.mem_of_find?_eq_some matched, fits_iff.2 fit⟩

theorem matching_model_exists {columns : List Column} {model : Struct} (member : model ∈ structs)
    (fits : scope.Fits columns model) :
    ∃ found, scope.matchingModel? structs columns = some found := by
  apply Option.isSome_iff_exists.1
  exact List.find?_isSome.2 ⟨model, member, fits_iff.1 fits⟩

theorem model_shape (scope : Scope) (schema : Schema) (table : Table) :
    (scope.model schema table).shape =
      table.columns.map fun column => (scope.structName column.name, scope.typeOf column) := by
  simp [Struct.shape, model, modelField]

/-- A column by which a query selects from a table: it has a name, and it says which table it is of,
where the default schema need not be written. -/
structure SelectsFrom (scope : Scope) (schema : Schema) (table : Table) (column : Column) :
    Prop where
  named : column.name ≠ ""
  owner : ∃ owner, column.table = some owner ∧ owner.catalog = "" ∧ owner.name = table.rel.name ∧
    (owner.schema = schema.name ∨ (schema.name = scope.defaultSchema ∧ owner.schema = ""))

theorem SelectsFrom.owner_iff {schema : Schema} {table : Table} {column : Column}
    (selects : scope.SelectsFrom schema table column) (schemaNamed : schema.name ≠ "")
    (other : Identifier) :
    column.table.any (·.sameTable other scope.defaultSchema) = true ↔
      other = { schema := schema.name, name := table.rel.name } := by
  obtain ⟨owner, found, catalog, name, place⟩ := selects.owner
  have qualified : owner.schemaOr scope.defaultSchema = schema.name := by
    rcases place with written | ⟨default, unwritten⟩
    · rw [Identifier.schemaOr, if_neg (written ▸ schemaNamed), written]
    · rw [Identifier.schemaOr, if_pos unwritten, default]
  rw [found, Option.any_some, same_table_iff, catalog, qualified, name]
  constructor
  · rintro ⟨sameCatalog, sameSchema, sameName⟩
    cases other
    simp_all
  · rintro rfl
    exact ⟨rfl, rfl, rfl⟩

theorem whole_row_matches {schema : Schema} {table : Table}
    (schemaMember : schema ∈ scope.catalog.userSchemas) (schemaNamed : schema.name ≠ "")
    (tableMember : table ∈ schema.tables) (inhabited : table.columns ≠ [])
    (selects : ∀ column ∈ table.columns, scope.SelectsFrom schema table column) :
    ∃ model, scope.matchingModel? scope.models table.columns = some model ∧
      model.table = some { schema := schema.name, name := table.rel.name } ∧
      model.shape = (scope.model schema table).shape := by
  have ownShape : (scope.model schema table).shape = scope.columnShape 0 table.columns := by
    rw [model_shape, column_shape_of_named fun column member => (selects column member).named]
  have ownFits : scope.Fits table.columns (scope.model schema table) := by
    refine ⟨ownShape, _, rfl, ?_⟩
    intro column member
    exact ((selects column member).owner_iff schemaNamed _).2 rfl
  have declared : scope.model schema table ∈ scope.models :=
    mem_models_iff.2 ⟨schema, schemaMember, table, tableMember, rfl⟩
  obtain ⟨found, matched⟩ := matching_model_exists declared ownFits
  obtain ⟨_, shape, identity, owned, owners⟩ := matching_model_fits matched
  obtain ⟨first, member⟩ := List.exists_mem_of_ne_nil _ inhabited
  have sameTable := ((selects first member).owner_iff schemaNamed identity).1 (owners first member)
  exact ⟨found, matched, sameTable ▸ owned, shape.trans ownShape.symm⟩

theorem result_of_matching {annotated : AnnotatedQuery} {model : Struct}
    (several : 2 ≤ annotated.query.columns.length)
    (matched : scope.matchingModel? structs annotated.query.columns = some model) :
    scope.result structs annotated =
      .ok (some (.struct (scope.modelResult annotated.query model))) := by
  have reused : scope.structResult structs annotated =
      .ok (scope.modelResult annotated.query model) := by
    rw [structResult, matched]
  unfold Scope.result
  split
  · rename_i empty
    simp [empty] at several
  · rename_i column lone
    simp [lone] at several
  · rw [reused]
    rfl

end Scope

theorem added_structs_of_reuse {directives : DirectiveRules} {query : BoundQuery}
    {binding : StructBinding} (found : query.result = some (.struct binding))
    (unemitted : binding.emit = false) (unpaginated : query.pagination = none) :
    query.addedStructs directives = [] := by
  simp [BoundQuery.addedStructs, found, unemitted, unpaginated]

theorem annotated_query_eq {query : Query} {annotated : AnnotatedQuery}
    (annotates : AnnotatedQuery.ofQuery? query = some annotated) : annotated.query = query := by
  obtain ⟨command, _, remaining⟩ := Option.bind_eq_some_iff.1 annotates
  split at remaining
  · cases remaining
  · obtain ⟨binding, _, made⟩ := Option.bind_eq_some_iff.1 remaining
    cases made
    rfl

theorem add_result_structs_without {directives : DirectiveRules} {query : BoundQuery}
    (nothing : query.addedStructs directives = []) (earlier later : List BoundQuery)
    (structs : List Struct) :
    addResultStructs directives (earlier ++ query :: later) structs =
      addResultStructs directives (earlier ++ later) structs := by
  simp [addResultStructs, nothing]

/-- A query of several columns that selects the whole row of a table, annotated to return whatever
it will, has for its result a struct of that table with the fields of the table's model. It is not
emitted, and unless the query is paginated nothing is fed back for it. -/
theorem whole_rows_reuse_a_model {request : Request} {options : ResolvedOptions}
    {bound : List BoundQuery} {schema : Schema} {table : Table} {query : Query}
    {annotated : AnnotatedQuery}
    (succeeded : (Scope.ofRequest request options).bindQueries
      (Scope.ofRequest request options).models request.queries = .ok bound)
    (schemaMember : schema ∈ request.catalog.userSchemas) (schemaNamed : schema.name ≠ "")
    (tableMember : table ∈ schema.tables) (several : 2 ≤ table.columns.length)
    (selects : ∀ column ∈ table.columns,
      (Scope.ofRequest request options).SelectsFrom schema table column)
    (queryMember : query ∈ request.queries)
    (annotates : AnnotatedQuery.ofQuery? query = some annotated)
    (rows : annotated.command.returnsRows = true) (whole : query.columns = table.columns) :
    ∃ made ∈ bound, (Scope.ofRequest request options).bind
        (Scope.ofRequest request options).models annotated = .ok made ∧
      ∃ binding, made.result = some (.struct binding) ∧ binding.emit = false ∧
        binding.struct.table = some { schema := schema.name, name := table.rel.name } ∧
        binding.struct.shape = ((Scope.ofRequest request options).model schema table).shape ∧
        (made.pagination = none → ∀ earlier later structs,
          addResultStructs options.directives (earlier ++ made :: later) structs =
            addResultStructs options.directives (earlier ++ later) structs) := by
  have inhabited : table.columns ≠ [] := by
    intro empty
    simp [empty] at several
  obtain ⟨model, matched, owned, shape⟩ :=
    Scope.whole_row_matches schemaMember schemaNamed tableMember inhabited selects
  have columns : annotated.query.columns = table.columns := by
    rw [annotated_query_eq annotates, whole]
  rw [← columns] at several matched
  have reused := Scope.result_of_matching several matched
  have among : annotated ∈ annotatedQueries request.queries :=
    List.mem_filterMap.2 ⟨query, queryMember, annotates⟩
  obtain ⟨made, member, binds⟩ := Scope.annotated_query_made succeeded among
  have result : made.result =
      some (.struct ((Scope.ofRequest request options).modelResult annotated.query model)) := by
    rcases (Scope.binds_to_of_bind binds).result with ⟨rowless, _⟩ | ⟨_, same⟩
    · rw [rows] at rowless
      cases rowless
    · rw [reused] at same
      exact (Except.ok.inj same).symm
  refine ⟨made, member, binds, _, result, rfl, owned, shape, ?_⟩
  intro unpaginated
  exact add_result_structs_without (added_structs_of_reuse result rfl unpaginated)

theorem library_search_returns_books :
    ∃ bound, (Scope.ofRequest library libraryOptions).bindQueries
        (Scope.ofRequest library libraryOptions).models library.queries = .ok bound ∧
      ∃ made ∈ bound, ∃ binding, made.result = some (.struct binding) ∧ binding.emit = false ∧
        binding.struct.table = some { schema := "public", name := "books" } := by
  have bindable : ((Scope.ofRequest library libraryOptions).bindQueries
      (Scope.ofRequest library libraryOptions).models library.queries).toOption.isSome = true := by
    decide +kernel
  have searches : (AnnotatedQuery.ofQuery? searchBooks).map
      (fun annotated => annotated.command.returnsRows) = some true := by
    decide +kernel
  obtain ⟨bound, found⟩ := Option.isSome_iff_exists.1 bindable
  obtain ⟨annotated, annotates, rows⟩ := Option.map_eq_some_iff.1 searches
  have succeeded := Outcome.ok_of_to_option found
  have selects : ∀ column ∈ libraryBooks.columns,
      (Scope.ofRequest library libraryOptions).SelectsFrom librarySchema libraryBooks column := by
    have owner : ∃ owner : Identifier, some { name := "books" } = some owner ∧
        owner.catalog = "" ∧ owner.name = "books" ∧
        (owner.schema = "public" ∨ ("public" = "public" ∧ owner.schema = "")) :=
      ⟨_, rfl, rfl, rfl, Or.inr ⟨rfl, rfl⟩⟩
    intro column member
    simp only [libraryBooks, List.mem_cons, List.not_mem_nil, or_false] at member
    rcases member with rfl | rfl | rfl
    · exact ⟨by decide, owner⟩
    · exact ⟨by decide, owner⟩
    · exact ⟨by decide, owner⟩
  obtain ⟨made, member, _, binding, result, unemitted, owned, _⟩ :=
    whole_rows_reuse_a_model succeeded
      (List.mem_filter.2 ⟨List.mem_singleton.2 rfl, by decide⟩ :
        librarySchema ∈ library.catalog.userSchemas)
      (by decide) (.tail _ List.mem_cons_self : libraryBooks ∈ librarySchema.tables) (by decide)
      selects (.tail _ List.mem_cons_self : searchBooks ∈ library.queries) annotates rows rfl
  exact ⟨bound, succeeded, made, member, binding, result, unemitted, owned⟩

theorem final_type_of_distinct {named : List NamedSource}
    (names : (named.map NamedSource.base).Nodup) {source : NamedSource}
    (member : source ∈ named) : source.finalType named = source.source.ownType := by
  unfold NamedSource.finalType
  split
  · rename_i unknown
    have alone : knownType? (named.map NamedSource.typed) source.base = none := by
      refine List.findSome?_eq_none_iff.2 fun entry entryMember => ?_
      obtain ⟨other, among, rfl⟩ := List.mem_map.1 entryMember
      apply if_neg
      intro known
      simp only [Bool.and_eq_true, decide_eq_true_eq, Bool.not_eq_true'] at known
      have same : other = source := List.inj_on_of_nodup_map names among member known.1
      rw [same, unknown] at known
      cases known.2
    rw [alone, Option.getD_none]
  · rfl

namespace Scope

variable {scope : Scope} {structs : List Struct}

theorem result_source_ids (position : Nat) (columns : List Column) :
    (scope.nameSources position (scope.resultSources structs position columns)).map
        (fun named => named.source.id) =
      (List.range' position columns.length).map fun index : Nat => (index : Int) := by
  induction columns generalizing position with
  | nil => rfl
  | cons column rest ih => simp [resultSources, nameSources, List.range'_succ, ih]

theorem result_source_shape (scope : Scope) (structs : List Struct) {columns : List Column}
    (plain : ∀ column ∈ columns, column.embedTable = none) (position : Nat) :
    (scope.nameSources position (scope.resultSources structs position columns)).map
        (fun named => (named.base, named.source.ownType)) =
      scope.columnShape position columns := by
  induction columns generalizing position with
  | nil => rfl
  | cons column rest ih =>
      obtain ⟨own, others⟩ := List.forall_mem_cons.1 plain
      rw [resultSources, nameSources, List.map_cons, ih others, columnShape]
      simp [FieldSource.label, FieldSource.ownType, own]

theorem row_fields_of_distinct {sources : List FieldSource}
    (ids : ((scope.nameSources 0 sources).map fun named => named.source.id).Nodup)
    (names : ((scope.nameSources 0 sources).map NamedSource.base).Nodup) (name : String) :
    (scope.rowFields name sources).map (fun field => (field.name, field.type)) =
      (scope.nameSources 0 sources).map fun named => (named.base, named.source.ownType) := by
  rw [row_fields_eq, List.map_map]
  refine List.map_congr_left fun named member => ?_
  have number := field_number_of_distinct ids names member
  have type := final_type_of_distinct names member
  simp [rowField, numberedName, number, type]

/-- Under any name, the row struct of columns that match a model can be made and has the shape of
the model, if none of the columns embeds a row and the fields of the model have distinct names. -/
theorem reuse_agrees_with_row (scope : Scope) (structs : List Struct) {columns : List Column}
    {model : Struct} (plain : ∀ column ∈ columns, column.embedTable = none)
    (matched : scope.matchingModel? structs columns = some model)
    (distinct : (model.fields.map fun field => field.name).Nodup) (name modelPath : String) :
    ∃ struct, scope.row name modelPath (scope.resultSources structs 0 columns) = .ok struct ∧
      struct.name = name ∧ struct.sameShape model = true := by
  obtain ⟨_, fits⟩ := matching_model_fits matched
  have sources := (scope.result_source_shape structs plain 0).trans fits.shape.symm
  have ids : ((scope.nameSources 0 (scope.resultSources structs 0 columns)).map
      fun named => named.source.id).Nodup := by
    have injective : Function.Injective fun index : Nat => (index : Int) :=
      fun _ _ => Int.ofNat.inj
    rw [result_source_ids]
    exact (List.nodup_range' 1).map injective
  have names : ((scope.nameSources 0 (scope.resultSources structs 0 columns)).map
      NamedSource.base).Nodup := by
    have modelNames := congrArg (List.map Prod.fst) sources
    rw [List.map_map, Struct.shape, List.map_map] at modelNames
    exact (modelNames ▸ distinct :)
  have fields := (row_fields_of_distinct ids names name).trans sources
  have free : typeConflict? (scope.rowFields name (scope.resultSources structs 0 columns)) =
      none := by
    apply type_conflict_none_of_distinct
    have rowNames := congrArg (List.map Prod.fst) fields
    rw [List.map_map, Struct.shape, List.map_map] at rowNames
    exact (rowNames ▸ distinct :)
  simp only [row, free]
  exact ⟨_, rfl, rfl, (same_shape_iff _ _).2 fields⟩

theorem library_hits_are_books :
    ∃ book, (Scope.ofRequest library libraryOptions).matchingModel?
        (Scope.ofRequest library libraryOptions).models searchBooks.columns = some book ∧
      ∃ hit, (Scope.ofRequest library libraryOptions).row "Hit" "db.Hit"
          ((Scope.ofRequest library libraryOptions).resultSources
            (Scope.ofRequest library libraryOptions).models 0 searchBooks.columns) = .ok hit ∧
        hit.name = "Hit" ∧ hit.sameShape book = true := by
  have books : ((Scope.ofRequest library libraryOptions).matchingModel?
      (Scope.ofRequest library libraryOptions).models searchBooks.columns).map
        (fun book => decide (book.fields.map fun field => field.name).Nodup) = some true := by
    decide +kernel
  obtain ⟨book, matched, distinct⟩ := Option.map_eq_some_iff.1 books
  refine ⟨book, matched, ?_⟩
  exact reuse_agrees_with_row _ _ (by decide) matched (of_decide_eq_true distinct) "Hit" "db.Hit"

end Scope

end GraphSchema
