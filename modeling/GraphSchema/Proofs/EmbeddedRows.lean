import GraphSchema.Proofs.ModelReuse
import GraphSchema.Proofs.PrunedReferences
import GraphSchema.Proofs.RowFields

/-!
Rows that embed the rows of tables. A column of a result may stand for all the columns of a table,
which it names with its schema or, in the default schema, without. Its field in a row of the query's
own then bears the type of the table's model and has a copy of the model's fields; the other fields
are those of single columns. Pruning follows the copies, so it keeps the model and its enums.
-/

namespace GraphSchema

namespace Scope

variable {scope : Scope} {column : Column} {schema : Schema} {table : Table}

/-- A column stands for the rows of a table of the catalog. -/
structure EmbedsRows (scope : Scope) (column : Column) (schema : Schema) (table : Table) :
    Prop where
  schemaMember : schema ∈ scope.catalog.userSchemas
  tableMember : table ∈ schema.tables
  named : ∃ name, column.embedTable = some name ∧ name.catalog = "" ∧
    name.schemaOr scope.defaultSchema = schema.name ∧ name.name = table.rel.name

def columnModel? (scope : Scope) (column : Column) : Option EmbeddedModel :=
  column.embedTable.bind (scope.embeddedModel? scope.models)

theorem column_model_origin {embedded : EmbeddedModel}
    (found : scope.columnModel? column = some embedded) :
    ∃ schema table, scope.EmbedsRows column schema table ∧
      embedded.name = (scope.model schema table).name ∧
      embedded.fields = (scope.model schema table).fields.map Field.toPlainField := by
  obtain ⟨name, named, located⟩ := Option.bind_eq_some_iff.1 found
  obtain ⟨struct, selected, rfl⟩ := Option.map_eq_some_iff.1 located
  obtain ⟨schema, schemaMember, table, tableMember, rfl⟩ :=
    mem_models_iff.1 (List.mem_of_find?_eq_some selected)
  have same := List.find?_some selected
  obtain ⟨catalog, qualified, own⟩ := same_table_iff.1 same
  exact ⟨schema, table, ⟨schemaMember, tableMember, name, named, catalog, qualified, own⟩, rfl, rfl⟩

theorem column_model_of_embedded (embeds : scope.EmbedsRows column schema table) :
    ∃ model ∈ scope.models, model.table = some { schema := schema.name, name := table.rel.name } ∧
      scope.columnModel? column =
        some { name := model.name, fields := model.fields.map Field.toPlainField } := by
  obtain ⟨name, named, catalog, qualified, own⟩ := embeds.named
  have declared : scope.model schema table ∈ scope.models :=
    mem_models_iff.2 ⟨schema, embeds.schemaMember, table, embeds.tableMember, rfl⟩
  have fits : (scope.model schema table).table.any (name.sameTable · scope.defaultSchema) = true :=
    same_table_iff.2 ⟨catalog, qualified, own⟩
  cases selected : scope.models.find? fun struct =>
      struct.table.any (name.sameTable · scope.defaultSchema) with
  | none => exact absurd fits (List.find?_eq_none.1 selected _ declared)
  | some model =>
      have member := List.mem_of_find?_eq_some selected
      obtain ⟨other, _, owner, _, rfl⟩ := mem_models_iff.1 member
      have same := List.find?_some selected
      obtain ⟨_, sameSchema, sameName⟩ := same_table_iff.1 same
      have identity : (scope.model other owner).table =
          some { schema := schema.name, name := table.rel.name } := by
        rw [← qualified, ← own, sameSchema, sameName]
        rfl
      refine ⟨_, member, identity, ?_⟩
      rw [columnModel?, named, Option.bind_some, embeddedModel?, selected, Option.map_some]

theorem column_model_eq_none (nowhere : ¬∃ schema table, scope.EmbedsRows column schema table) :
    scope.columnModel? column = none := by
  cases found : scope.columnModel? column with
  | none => rfl
  | some embedded =>
      obtain ⟨schema, table, embeds, _⟩ := column_model_origin found
      exact absurd ⟨schema, table, embeds⟩ nowhere

def resultSource (scope : Scope) (position : Nat) (column : Column) : FieldSource where
  id := position
  column := column
  type := scope.typeOf column
  embed := scope.columnModel? column

theorem result_sources_at (start position : Nat) (columns : List Column) :
    (scope.resultSources scope.models start columns)[position]? =
      columns[position]?.map (scope.resultSource (start + position)) := by
  induction columns generalizing start position with
  | nil => rfl
  | cons column rest ih =>
      cases position with
      | zero => rfl
      | succ position =>
          simp only [resultSources, List.getElem?_cons_succ, ih]
          rw [Nat.add_right_comm, Nat.add_assoc]

theorem result_sources_length (structs : List Struct) (start : Nat) (columns : List Column) :
    (scope.resultSources structs start columns).length = columns.length := by
  induction columns generalizing start with
  | nil => rfl
  | cons column rest ih => exact congrArg (· + 1) (ih _)

theorem model_fields_of_copies {model : Struct} (declared : model ∈ scope.models) :
    model.fields = (model.fields.map Field.toPlainField).map
      fun part => { toPlainField := part } := by
  obtain ⟨schema, _, table, _, rfl⟩ := mem_models_iff.1 declared
  rw [List.map_map, model, List.map_map]
  rfl

variable {annotated : AnnotatedQuery} {binding : StructBinding}

theorem emitted_result_fields
    (made : scope.result scope.models annotated = .ok (some (.struct binding)))
    (emitted : binding.emit = true) :
    ∃ name, binding.struct.fields =
      scope.rowFields name (scope.resultSources scope.models 0 annotated.query.columns) := by
  rcases struct_result_cases (struct_result_made made) with ⟨model, _, rfl⟩ | ⟨_, ofRow⟩
  · cases emitted
  · obtain ⟨name, _, row⟩ := row_result_ok ofRow
    obtain ⟨_, same⟩ := row_ok row
    exact ⟨name, congrArg Struct.fields same⟩

theorem embedding_field {name : String} {sources : List FieldSource} {position : Nat}
    (embeds : scope.EmbedsRows column schema table) :
    ∃ model ∈ scope.models, model.table = some { schema := schema.name, name := table.rel.name } ∧
      (scope.fieldAt name sources position (scope.resultSource position column)).type =
        { scalar := .named model.name } ∧
      model.fields =
        (scope.fieldAt name sources position (scope.resultSource position column)).embedded.map
          fun part => { toPlainField := part } := by
  obtain ⟨model, declared, identity, found⟩ := column_model_of_embedded embeds
  have own : (scope.resultSource position column).ownType = { scalar := .named model.name } := by
    rw [FieldSource.ownType, resultSource, found]
  have copied :
      (scope.fieldAt name sources position (scope.resultSource position column)).embedded =
        model.fields.map Field.toPlainField := by
    show (scope.resultSource position column).embedded = _
    rw [FieldSource.embedded, resultSource, found]
  refine ⟨model, declared, identity, ?_, ?_⟩
  · rw [field_type_of_known (by rw [own]; rfl), own]
  · rw [copied]
    exact model_fields_of_copies declared

theorem plain_field {name : String} {sources : List FieldSource} {position : Nat}
    (nowhere : ¬∃ schema table, scope.EmbedsRows column schema table) :
    (scope.fieldAt name sources position (scope.resultSource position column)).embedded = [] ∧
      ((scope.typeOf column).isUnknown = false →
        (scope.fieldAt name sources position (scope.resultSource position column)).type =
          scope.typeOf column) := by
  have absent := column_model_eq_none nowhere
  have own : (scope.resultSource position column).ownType = scope.typeOf column := by
    rw [FieldSource.ownType, resultSource, absent]
  constructor
  · show (scope.resultSource position column).embedded = _
    rw [FieldSource.embedded, resultSource, absent]
  · intro known
    rw [field_type_of_known (by rwa [own]), own]

end Scope

/-- A model and the enums that its fields refer to. -/
structure Output.KeepsModel (output : Output) (scope : Scope) (model : Struct) : Prop where
  struct : model ∈ output.structs
  enums : ∀ field ∈ model.fields, ∀ enumeration ∈ scope.enums,
    enumeration.name = field.type.baseName → enumeration ∈ output.enums
  hosts : ∀ field ∈ model.fields, ∀ column, field.column = some column → ∀ name,
    (scope.target column).host = .enumeration name →
      ∃ enumeration ∈ output.enums, enumeration.name = name

section Kept

variable {request : Request} {options : ResolvedOptions} {annotated : AnnotatedQuery}
  {binding : StructBinding} {field : Field}

theorem result_field_reached {model : Model}
    (assembled : Model.assemble request options = .ok model)
    (among : annotated ∈ annotatedQueries request.queries)
    (rows : annotated.command.returnsRows = true)
    (made : (Scope.ofRequest request options).result (Scope.ofRequest request options).models
      annotated = .ok (some (.struct binding)))
    (member : field ∈ binding.struct.fields) {name : String} (reached : name ∈ field.reached) :
    name ∈ reachedNames model.queries := by
  obtain ⟨_, bound, _⟩ := assemble_ok assembled
  obtain ⟨query, queryMember, binds⟩ := Scope.annotated_query_bound bound among
  rcases binds.result with ⟨unread, _⟩ | ⟨_, result⟩
  · rw [rows] at unread
    cases unread
  · have found : query.result = some (.struct binding) :=
      Except.ok.inj (result.symm.trans made)
    refine List.mem_flatMap.2 ⟨query, queryMember, ?_⟩
    exact BoundQuery.reached_of_binding (Or.inr found) (binding_reaches_fields rfl member reached)

/-- Pruning follows a field that stands for the row of a model: into the model's own fields. -/
theorem pruning_keeps_model {output : Output} {model : Struct}
    (omitting : options.omitUnusedStructs = true)
    (success : generateWith request options = .ok output)
    (among : annotated ∈ annotatedQueries request.queries)
    (rows : annotated.command.returnsRows = true)
    (made : (Scope.ofRequest request options).result (Scope.ofRequest request options).models
      annotated = .ok (some (.struct binding)))
    (member : field ∈ binding.struct.fields)
    (declared : model ∈ (Scope.ofRequest request options).models)
    (typed : field.type = { scalar := .named model.name })
    (copied : model.fields = field.embedded.map fun part => { toPlainField := part }) :
    output.KeepsModel (Scope.ofRequest request options) model := by
  obtain ⟨assembled, built, left, _⟩ := generate_with_ok success
  obtain ⟨_, _, _, catalogEnums, _⟩ := assemble_ok built
  rw [if_pos omitting] at left
  have structName : model.name ∈ field.reached := by
    rw [Field.reached, typed]
    exact List.mem_cons_self
  have partName : ∀ part ∈ model.fields, part.type.baseName ∈ field.reached := by
    intro part partMember
    rw [copied] at partMember
    obtain ⟨copy, copyMember, rfl⟩ := List.mem_map.1 partMember
    exact List.mem_cons_of_mem _ (List.mem_map_of_mem copyMember)
  have keeps : ∀ part ∈ model.fields, ∀ enumeration ∈ (Scope.ofRequest request options).enums,
      enumeration.name = part.type.baseName → enumeration ∈ output.enums := by
    intro part partMember enumeration enumMember same
    have reached := result_field_reached built among rows made member (partName part partMember)
    obtain ⟨retained, _⟩ := Model.retains_of_reached reached
    rw [left]
    exact retained enumeration (catalogEnums ▸ enumMember) same
  refine ⟨?_, keeps, ?_⟩
  · have reached := result_field_reached built among rows made member structName
    obtain ⟨_, retained⟩ := Model.retains_of_reached reached
    rw [left]
    exact retained model (assembled_models built declared) rfl
  · intro part partMember column backed name host
    obtain ⟨schema, _, table, _, rfl⟩ := Scope.mem_models_iff.1 declared
    obtain ⟨own, ownMember, rfl⟩ := List.mem_map.1 partMember
    obtain rfl : own = column := Option.some.inj backed
    have named := (Scope.enum_names_perm (Scope.ofRequest request options)).mem_iff.2
      (Scope.target_enumeration_declared host)
    obtain ⟨enumeration, enumMember, rfl⟩ := List.mem_map.1 named
    have refers : ((Scope.ofRequest request options).typeOf own).baseName = enumeration.name := by
      rw [TypeRef.baseName, Scope.typeOf, host]
      rfl
    exact ⟨enumeration, keeps _ partMember enumeration enumMember refers.symm, rfl⟩

end Kept

/-- The row that is made for the columns of a query has one field for each column. A column that
stands for the rows of a table has a field of the type of a model of that table, nullable and no
list, which embeds the model's fields; any other column embeds nothing and has its own type where
that is known. Where unused types are left out, such a model stays, and so do its enums. -/
theorem rows_embed_models {request : Request} {options : ResolvedOptions} {scope : Scope}
    {annotated : AnnotatedQuery} {binding : StructBinding}
    (ofRequest : scope = Scope.ofRequest request options)
    (among : annotated ∈ annotatedQueries request.queries)
    (rows : annotated.command.returnsRows = true)
    (made : scope.result scope.models annotated = .ok (some (.struct binding)))
    (emitted : binding.emit = true) :
    binding.struct.fields.length = annotated.query.columns.length ∧
    ∀ (position : Nat) (column : Column), annotated.query.columns[position]? = some column →
      ∃ field, binding.struct.fields[position]? = some field ∧ field.column = some column ∧
        (∀ schema table, scope.EmbedsRows column schema table →
          ∃ model ∈ scope.models,
            model.table = some { schema := schema.name, name := table.rel.name } ∧
            field.type = { scalar := .named model.name } ∧
            model.fields = field.embedded.map (fun part => { toPlainField := part }) ∧
            ∀ output, options.omitUnusedStructs = true → generateWith request options = .ok output →
              output.KeepsModel scope model) ∧
        ((¬∃ schema table, scope.EmbedsRows column schema table) →
          field.embedded = [] ∧
            ((scope.typeOf column).isUnknown = false → field.type = scope.typeOf column)) := by
  obtain ⟨name, fields⟩ := Scope.emitted_result_fields made emitted
  constructor
  · rw [fields, Scope.row_fields_length, Scope.result_sources_length]
  · intro position column located
    have source : (scope.resultSources scope.models 0 annotated.query.columns)[position]? =
        some (scope.resultSource position column) := by
      rw [Scope.result_sources_at, located, Option.map_some, Nat.zero_add]
    have place : binding.struct.fields[position]? =
        some (scope.fieldAt name (scope.resultSources scope.models 0 annotated.query.columns)
          position (scope.resultSource position column)) := by
      rw [fields, Scope.row_fields_at, source, Option.map_some]
    refine ⟨_, place, rfl, ?_, Scope.plain_field⟩
    intro schema table embeds
    obtain ⟨model, declared, identity, typed, copied⟩ := Scope.embedding_field embeds
    refine ⟨model, declared, identity, typed, copied, ?_⟩
    intro output omitting success
    subst ofRequest
    exact pruning_keeps_model omitting success among rows made (List.mem_of_getElem? place) declared
      typed copied

def Scope.emittedRow? (scope : Scope) (query : Query) : Option Struct := do
  let annotated ← AnnotatedQuery.ofQuery? query
  let result ← (scope.result scope.models annotated).toOption
  let binding ← result
  match binding with
  | .struct binding =>
      if annotated.command.returnsRows && binding.emit then some binding.struct else none
  | .scalar _ => none

theorem Scope.emitted_row_made {scope : Scope} {query : Query} {row : Struct}
    (emitted : scope.emittedRow? query = some row) :
    ∃ annotated binding, AnnotatedQuery.ofQuery? query = some annotated ∧
      annotated.command.returnsRows = true ∧
      scope.result scope.models annotated = .ok (some (.struct binding)) ∧
      binding.emit = true ∧ binding.struct = row := by
  obtain ⟨annotated, annotates, found⟩ := Option.bind_eq_some_iff.1 emitted
  obtain ⟨result, succeeded, inResult⟩ := Option.bind_eq_some_iff.1 found
  obtain ⟨binding, rfl, inBinding⟩ := Option.bind_eq_some_iff.1 inResult
  cases binding with
  | scalar _ => cases inBinding
  | struct binding =>
      simp only [Option.ite_none_right_eq_some, Bool.and_eq_true, Option.some.injEq] at inBinding
      obtain ⟨⟨rows, written⟩, same⟩ := inBinding
      exact ⟨annotated, binding, annotates, rows, Outcome.ok_of_to_option succeeded, written, same⟩

/-- The credits of books, where authors and editors are whole rows of one table and printers are
rows of no table that the library has. -/
def listCredits : Query where
  name := "ListCredits"
  command := some .many
  columns := [
    plainColumn (some { name := "books" }) "title" "text",
    { name := "author", embedTable := some { name := "authors" } },
    { name := "editor", embedTable := some { schema := "public", name := "authors" } },
    { name := "printer", embedTable := some { name := "printers" } }]
  comments := ["gql: Query.credits"]

def creditLibrary : Request := { library with queries := [listCredits] }

theorem credits_embed_authors :
    ∃ output row, generateWith creditLibrary libraryOptions = .ok output ∧
      (Scope.ofRequest creditLibrary libraryOptions).emittedRow? listCredits = some row ∧
      (row.fields.map fun field => (field.name, field.type.baseName, field.embedded.length)) =
        [("Title", "String", 0), ("Author", "Author", 2), ("Author_2", "Author", 2),
          ("Printer", "Unknown", 0)] ∧
      ∃ model, output.KeepsModel (Scope.ofRequest creditLibrary libraryOptions) model ∧
        model.table = some { schema := "public", name := "authors" } ∧
        row.fields[2]?.map (fun field => field.type) = some { scalar := .named model.name } := by
  have generated : (generateWith creditLibrary libraryOptions).toOption.isSome = true := by
    decide +kernel
  obtain ⟨output, found⟩ := Option.isSome_iff_exists.1 generated
  have fields : ((Scope.ofRequest creditLibrary libraryOptions).emittedRow? listCredits).map
      (fun row => row.fields.map fun field =>
        (field.name, field.type.baseName, field.embedded.length)) =
      some [("Title", "String", 0), ("Author", "Author", 2), ("Author_2", "Author", 2),
        ("Printer", "Unknown", 0)] := by
    decide +kernel
  obtain ⟨row, emittedRow, shape⟩ := Option.map_eq_some_iff.1 fields
  obtain ⟨annotated, binding, annotates, rows, made, emitted, rfl⟩ :=
    Scope.emitted_row_made emittedRow
  have among : annotated ∈ annotatedQueries creditLibrary.queries :=
    List.mem_filterMap.2 ⟨listCredits, List.mem_singleton_self _, annotates⟩
  have editor : annotated.query.columns[2]? =
      some { name := "editor", embedTable := some { schema := "public", name := "authors" } } := by
    rw [annotated_query_eq annotates]
    rfl
  obtain ⟨_, fieldsOf⟩ := rows_embed_models rfl among rows made emitted
  obtain ⟨field, place, _, embedding, _⟩ := fieldsOf 2 _ editor
  obtain ⟨authors, member, named⟩ :
      ∃ table ∈ librarySchema.tables, table.rel = { name := "authors" } :=
    ⟨_, List.mem_cons_self, rfl⟩
  have embeds : (Scope.ofRequest creditLibrary libraryOptions).EmbedsRows
      { name := "editor", embedTable := some { schema := "public", name := "authors" } }
      librarySchema authors :=
    ⟨List.mem_cons_self, member, _, rfl, rfl, rfl, by rw [named]⟩
  obtain ⟨model, _, identity, typed, _, kept⟩ := embedding _ _ embeds
  rw [named] at identity
  have success := Outcome.ok_of_to_option found
  refine ⟨output, binding.struct, success, emittedRow, shape, model, kept output rfl success,
    identity, ?_⟩
  rw [place, Option.map_some, typed]

end GraphSchema
