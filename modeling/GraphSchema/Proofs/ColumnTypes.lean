import GraphSchema.Proofs.InputStructs
import GraphSchema.Proofs.PrunedReferences
import GraphSchema.Proofs.RowFields

/-!
Which types the columns of a generation have in its output. A lone parameter or column, the model of
a table and what is embedded of one take the types that the mapper gives. So does a struct that is
made from columns of a query, except that a field whose type the mapper does not know may borrow
one. The argument is by position: the field at a position comes from the source there, and what is
borrowed comes from another source, whose field has it as well.
-/

namespace GraphSchema

namespace Scope

/-- The model whose whole row a column stands for: one that a query returns may stand for one, while
those of a model itself do not. -/
def rowModel? (scope : Scope) (struct : Struct) (column : Column) : Option EmbeddedModel :=
  match struct.table with
  | some _ => none
  | none => column.embedTable.bind (scope.embeddedModel? scope.models)

def baseName (scope : Scope) (rowModel : Option EmbeddedModel) (position : Nat)
    (column : Column) : String :=
  match rowModel with
  | some model => scope.structName model.name
  | none => scope.structName (Naming.columnLabel column.name position)

end Scope

/-- The types that a column may have at a position: its own, or, where that is unknown, the known
type of another field with its base name. Only structs that belong to no table borrow types. -/
inductive ColumnType (scope : Scope) (rowModel : Column → Option EmbeddedModel) (struct : Struct)
    (position : Nat) (column : Column) (type : TypeRef) : Prop
  | own (same : type = scope.typeOf column)
  | borrowed {other : Nat} {lender : Field} {source : Column} (unowned : struct.table = none)
      (unknown : (scope.typeOf column).isUnknown = true) (elsewhere : other ≠ position)
      (place : struct.fields[other]? = some lender) (backed : lender.column = some source)
      (sameBase : scope.baseName (rowModel source) other source =
        scope.baseName (rowModel column) position column)
      (same : type = lender.type) (known : type.isUnknown = false)

/-- A field is backed by a column, is none of the last `added` and stands for no model. -/
structure Struct.HasColumnField (struct : Struct) (rowModel : Column → Option EmbeddedModel)
    (added position : Nat) (field : Field) (column : Column) : Prop where
  place : struct.fields[position]? = some field
  requested : position + added < struct.fields.length
  backed : field.column = some column
  itself : rowModel column = none

/-- All fields of a struct are backed by columns, which decide their types, save those of the last
`added` fields. -/
structure TypedByColumns (scope : Scope) (rowModel : Column → Option EmbeddedModel) (added : Nat)
    (struct : Struct) : Prop where
  backed : ∀ field ∈ struct.fields, field.column.isSome
  typed : ∀ position field column, struct.HasColumnField rowModel added position field column →
    ColumnType scope rowModel struct position column field.type
  overridden : ∀ position field column rule,
    struct.HasColumnField rowModel added position field column →
    scope.options.overrides.find? (scope.probe column) = some rule →
      field.type.scalar = .named rule.gqlType
  embedded : ∀ field ∈ struct.fields, ∀ part ∈ field.embedded,
    ∃ column, part.column = some column ∧ part.type = scope.typeOf column

def BoundQuery.addedParameters (query : BoundQuery) : Nat :=
  if query.pagination.isSome then 2 else 0

namespace Scope

variable {scope : Scope}

theorem type_of_overridden {column : Column} {rule : OverrideRule}
    (matched : scope.options.overrides.find? (scope.probe column) = some rule) :
    (scope.typeOf column).scalar = .named rule.gqlType := by
  simp [typeOf, target, matched, Storage.target, Scalar.ofHost]

end Scope

variable {scope : Scope} {rowModel : Column → Option EmbeddedModel} {added : Nat} {struct : Struct}

theorem ColumnType.scalar_of_override {position : Nat} {column : Column} {type : TypeRef}
    (typed : ColumnType scope rowModel struct position column type) {rule : OverrideRule}
    (matched : scope.options.overrides.find? (scope.probe column) = some rule) :
    type.scalar = .named rule.gqlType := by
  have scalar := Scope.type_of_overridden matched
  cases typed with
  | own same => rw [same, scalar]
  | borrowed _ unknown =>
      rw [TypeRef.isUnknown, scalar] at unknown
      cases of_decide_eq_true unknown

theorem typed_by_columns (backed : ∀ field ∈ struct.fields, field.column.isSome)
    (typed : ∀ position field column, struct.HasColumnField rowModel added position field column →
      ColumnType scope rowModel struct position column field.type)
    (embedded : ∀ field ∈ struct.fields, ∀ part ∈ field.embedded,
      ∃ column, part.column = some column ∧ part.type = scope.typeOf column) :
    TypedByColumns scope rowModel added struct where
  backed := backed
  typed := typed
  overridden position field column _ found matched :=
    (typed position field column found).scalar_of_override matched
  embedded := embedded

theorem TypedByColumns.with_aliases (typed : TypedByColumns scope rowModel added struct) :
    TypedByColumns scope rowModel added
      { struct with fields := struct.fields.map withAlias } := by
  apply typed_by_columns
  · intro field member
    obtain ⟨plain, plainMember, rfl⟩ := List.mem_map.1 member
    obtain ⟨directive, same⟩ := with_alias_directive plain
    rw [same]
    exact typed.backed plain plainMember
  · rintro position field column ⟨place, requested, backed, itself⟩
    simp only [List.getElem?_map, Option.map_eq_some_iff] at place
    obtain ⟨plain, plainPlace, rfl⟩ := place
    obtain ⟨directive, same⟩ := with_alias_directive plain
    rw [same] at backed ⊢
    have found : struct.HasColumnField rowModel added position plain column :=
      ⟨plainPlace, by simpa using requested, backed, itself⟩
    cases typed.typed position plain column found with
    | own same => exact .own same
    | @borrowed other lender source unowned unknown elsewhere lenderPlace lenderBacked sameBase
        sameType known =>
        have aliasedPlace : (struct.fields.map withAlias)[other]? = some (withAlias lender) := by
          rw [List.getElem?_map, lenderPlace, Option.map_some]
        obtain ⟨lenderDirective, lenderSame⟩ := with_alias_directive lender
        refine .borrowed unowned unknown elsewhere aliasedPlace ?_ sameBase ?_ known
        · rw [lenderSame, lenderBacked]
        · rw [lenderSame, sameType]
  · intro field member part among
    obtain ⟨plain, plainMember, rfl⟩ := List.mem_map.1 member
    obtain ⟨directive, same⟩ := with_alias_directive plain
    rw [same] at among
    exact typed.embedded plain plainMember part among

namespace Scope

theorem row_field_type_cases {sources : List FieldSource} {position : Nat} {source : FieldSource}
    (located : sources[position]? = some source) (name : String) :
    (scope.fieldAt name sources position source).type = source.ownType ∨
      source.ownType.isUnknown = true ∧ ∃ other lender,
        other ≠ position ∧ sources[other]? = some lender ∧
          scope.structName (lender.label other) = scope.structName (source.label position) ∧
          (scope.fieldAt name sources position source).type =
            (scope.fieldAt name sources other lender).type ∧
          (scope.fieldAt name sources position source).type.isUnknown = false := by
  rcases final_type_cases (scope.nameSources 0 sources) (scope.nameSource position source) with
    own | ⟨unknown, named, among, sameBase, known, adopted⟩
  · exact Or.inl own
  · obtain ⟨other, otherNamed⟩ := List.mem_iff_getElem?.1 among
    rw [name_sources_at, Nat.zero_add] at otherNamed
    obtain ⟨lender, otherLocated, rfl⟩ := Option.map_eq_some_iff.1 otherNamed
    have elsewhere : other ≠ position := by
      rintro rfl
      obtain rfl := Option.some.inj (otherLocated.symm.trans located)
      exact absurd (known.symm.trans unknown) (by decide)
    have lent : (scope.fieldAt name sources other lender).type = lender.ownType :=
      field_type_of_known known name sources other
    have sameType : (scope.fieldAt name sources position source).type = lender.ownType := adopted
    refine Or.inr ⟨unknown, other, lender, elsewhere, otherLocated, sameBase, ?_, ?_⟩
    · rw [sameType, lent]
    · rw [sameType]
      exact known

theorem base_name_of_source (source : FieldSource) (position : Nat) :
    scope.baseName source.embed position source.column =
      scope.structName (source.label position) := by
  unfold baseName FieldSource.label
  cases source.embed with
  | none => rfl
  | some model => rfl

theorem embedded_parts_typed {table : Identifier} {model : EmbeddedModel}
    (found : scope.embeddedModel? scope.models table = some model) :
    ∀ part ∈ model.fields, ∃ column, part.column = some column ∧ part.type = scope.typeOf column := by
  obtain ⟨struct, declared, _, fields⟩ := embedded_model_origin found
  obtain ⟨schema, _, origin, _, rfl⟩ := mem_models_iff.1 declared
  rw [fields]
  intro part among
  obtain ⟨field, fieldMember, rfl⟩ := List.mem_map.1 among
  obtain ⟨column, _, rfl⟩ := List.mem_map.1 fieldMember
  exact ⟨column, rfl, rfl⟩

/-- A row is typed by its columns if its sources are, but for the last `added`. -/
theorem row_typed {name modelPath : String} {sources : List FieldSource} {struct : Struct}
    (made : scope.row name modelPath sources = .ok struct)
    (embeds : ∀ source ∈ sources, source.embed = rowModel source.column)
    (ofModels : ∀ column model, rowModel column = some model →
      ∃ table, scope.embeddedModel? scope.models table = some model)
    (typed : ∀ position source, sources[position]? = some source →
      position + added < sources.length → source.type = scope.typeOf source.column) :
    TypedByColumns scope rowModel added struct := by
  obtain ⟨_, rfl⟩ := row_ok made
  apply typed_by_columns
  · intro field member
    obtain ⟨_, _, rfl⟩ := List.mem_map.1 member
    rfl
  · rintro position field column ⟨place, requested, backed, itself⟩
    rw [row_fields_at] at place
    obtain ⟨source, located, rfl⟩ := Option.map_eq_some_iff.1 place
    obtain rfl : source.column = column := Option.some.inj backed
    have embed : source.embed = none := (embeds source (List.mem_of_getElem? located)).trans itself
    have requestedSource : position + added < sources.length := by
      simpa only [row_fields_length] using requested
    have ownType : source.ownType = scope.typeOf source.column := by
      rw [FieldSource.ownType, embed]
      exact typed position source located requestedSource
    rcases row_field_type_cases located name with
      own | ⟨unknown, other, lender, elsewhere, lenderLocated, sameBase, sameType, known⟩
    · exact .own (own.trans ownType)
    · have lenderEmbed := embeds lender (List.mem_of_getElem? lenderLocated)
      have lenderPlace := scope.row_field_of_source lenderLocated name
      have lenderBacked : (scope.fieldAt name sources other lender).column =
          some lender.column := rfl
      refine .borrowed rfl (ownType ▸ unknown) elsewhere lenderPlace lenderBacked ?_ sameType known
      rw [← lenderEmbed, itself, ← embed, base_name_of_source, base_name_of_source, sameBase]
  · intro field member part among
    obtain ⟨source, sourceMember, copied, _⟩ := row_field_origin member
    rw [copied, FieldSource.embedded] at among
    cases embed : source.embed with
    | none =>
        rw [embed] at among
        cases among
    | some model =>
        rw [embed] at among
        obtain ⟨table, located⟩ :=
          ofModels source.column model ((embeds source sourceMember).symm.trans embed)
        exact embedded_parts_typed located part among

theorem model_fields_typed {model : Struct} (declared : model ∈ scope.models)
    (same : struct.fields = model.fields) : TypedByColumns scope rowModel added struct := by
  obtain ⟨schema, _, table, _, rfl⟩ := mem_models_iff.1 declared
  apply typed_by_columns
  · intro field member
    rw [same] at member
    obtain ⟨origin, _, rfl⟩ := List.mem_map.1 member
    rfl
  · rintro position field column ⟨place, _, backed, _⟩
    have member := List.mem_of_getElem? place
    rw [same] at member
    obtain ⟨origin, _, rfl⟩ := List.mem_map.1 member
    obtain rfl : origin = column := Option.some.inj backed
    exact .own rfl
  · intro field member part among
    rw [same] at member
    obtain ⟨origin, _, rfl⟩ := List.mem_map.1 member
    cases among

theorem companion_fields_plain {mode : Pagination} {directives : DirectiveRules}
    {paged page : Struct} (member : page ∈ mode.companions directives paged) :
    page.table = none ∧ ∀ field ∈ page.fields, field.column = none ∧ field.embedded = [] := by
  obtain ⟨_, _, fields, rfl, _⟩ := companion_of_mem member
  refine ⟨rfl, ?_⟩
  intro field fieldMember
  obtain ⟨_, _, rfl⟩ := List.mem_map.1 fieldMember
  exact ⟨rfl, rfl⟩

variable {annotated : AnnotatedQuery}

theorem scalar_argument_typed {binding : ScalarBinding}
    (made : scope.argument annotated = .ok (some (.scalar binding))) :
    binding.type = scope.typeOf binding.column := by
  rcases argument_cases made with ⟨_, _, absent⟩ | ⟨parameter, _, _, _, lone⟩ | ⟨_, _, built⟩
  · cases absent
  · cases lone
    rfl
  · cases built

theorem scalar_result_typed {binding : ScalarBinding}
    (made : scope.result scope.models annotated = .ok (some (.scalar binding))) :
    binding.type = scope.typeOf binding.column := by
  rcases result_cases made with ⟨_, absent⟩ | ⟨column, _, _, lone⟩ | ⟨_, _, built⟩
  · cases absent
  · cases lone
    rfl
  · cases built

theorem requested_argument_source {position : Nat} {source : FieldSource}
    (located : (scope.argumentSources annotated)[position]? = some source)
    (requested : position + (if annotated.pagination.isSome then 2 else 0) <
      (scope.argumentSources annotated).length) :
    source.type = scope.typeOf source.column := by
  rw [argument_sources_length] at requested
  have ofParams : position < (annotated.query.params.map scope.parameterSource).length := by
    rw [List.length_map]
    omega
  rw [argumentSources, List.getElem?_append_left ofParams, List.getElem?_map] at located
  obtain ⟨parameter, _, rfl⟩ := Option.map_eq_some_iff.1 located
  rfl

theorem struct_argument_typed {binding : StructBinding}
    (made : scope.argument annotated = .ok (some (.struct binding))) :
    TypedByColumns scope (fun _ => none) (if annotated.pagination.isSome then 2 else 0)
      binding.struct := by
  obtain ⟨row, rowMade, assembled⟩ := Outcome.bind_ok (struct_argument_made made)
  cases assembled
  have typed : TypedByColumns scope (fun _ => none)
      (if annotated.pagination.isSome then 2 else 0) row := by
    apply row_typed rowMade
    · intro source member
      exact argument_source_embeds_nothing member
    · intro column model embeds
      cases embeds
    · intro position source located requested
      exact requested_argument_source located requested
  by_cases paginated : annotated.pagination.isSome
  · rw [if_pos paginated] at typed ⊢
    simpa only [paginated, if_true] using typed.with_aliases
  · rw [if_neg paginated] at typed ⊢
    simpa only [paginated, Bool.false_eq_true, if_false] using typed

theorem struct_result_typed {binding : StructBinding}
    (made : scope.result scope.models annotated = .ok (some (.struct binding))) :
    TypedByColumns scope (scope.rowModel? binding.struct) 0 binding.struct := by
  rcases struct_result_cases (struct_result_made made) with ⟨model, matched, rfl⟩ | ⟨_, ofRow⟩
  · exact model_fields_typed (List.mem_of_find?_eq_some matched) rfl
  · obtain ⟨name, _, row⟩ := row_result_ok ofRow
    have unowned : binding.struct.table = none := by
      obtain ⟨_, made⟩ := row_ok row
      rw [made]
    have ofColumns : scope.rowModel? binding.struct = fun column =>
        column.embedTable.bind (scope.embeddedModel? scope.models) := by
      funext column
      rw [rowModel?, unowned]
    rw [ofColumns]
    apply row_typed row
    · intro source member
      exact (result_source_origin member).2.2
    · intro column model embeds
      obtain ⟨table, _, located⟩ := Option.bind_eq_some_iff.1 embeds
      exact ⟨table, located⟩
    · intro position source located _
      exact (result_source_origin (List.mem_of_getElem? located)).2.1

end Scope

/-- Whenever a generation succeeds, what is backed by a column has the type that the mapper gives the
column, in scalar bindings, in models, in rows and what they embed, and in inputs but for the
parameters that pagination adds; the fields of companions alone are backed by none. Where the mapper
gives no known type, a field of a row or an input may have that of another field with its base name.
An override that a column matches therefore decides the base type of all its fields. -/
theorem columns_have_one_type {request : Request} {options : ResolvedOptions} {output : Output}
    (success : generateWith request options = .ok output) :
    let scope := Scope.ofRequest request options
    (∀ query ∈ output.queries, ∀ binding,
      query.argument = some (.scalar binding) ∨ query.result = some (.scalar binding) →
        binding.type = scope.typeOf binding.column) ∧
    (∀ struct ∈ output.structs, TypedByColumns scope (scope.rowModel? struct) 0 struct ∨
      struct.table = none ∧ ∀ field ∈ struct.fields, field.column = none ∧ field.embedded = []) ∧
    (∀ query ∈ output.queries, ∀ struct, query.resultStruct? = some struct →
      TypedByColumns scope (scope.rowModel? struct) 0 struct) ∧
    (∀ query ∈ output.queries, ∀ struct, query.inputStruct? = some struct →
      TypedByColumns scope (fun _ => none) query.addedParameters struct) ∧
    ∀ column rule, options.overrides.find? (scope.probe column) = some rule →
      (scope.typeOf column).scalar = .named rule.gqlType := by
  obtain ⟨fed, generated⟩ := generated_of_success success
  have results : ∀ query ∈ output.queries, ∀ binding, query.result = some (.struct binding) →
      TypedByColumns (Scope.ofRequest request options)
        ((Scope.ofRequest request options).rowModel? binding.struct) 0 binding.struct := by
    intro query member binding found
    obtain ⟨annotated, _, made⟩ := Scope.bound_result_origin generated.bound member found
    exact Scope.struct_result_typed made
  refine ⟨?_, ?_, ?_, ?_, ?_⟩
  · rintro query member binding (argument | result)
    · obtain ⟨annotated, _, binds⟩ := Scope.bound_query_origin generated.bound member
      exact Scope.scalar_argument_typed (argument ▸ binds.argument)
    · obtain ⟨annotated, _, made⟩ := Scope.bound_result_origin generated.bound member result
      exact Scope.scalar_result_typed made
  · intro struct member
    rcases generated.struct_cases member with declared | ⟨query, queryMember, fedBack⟩
    · exact Or.inl (Scope.model_fields_typed declared rfl)
    · obtain ⟨binding, found, ⟨_, rfl⟩ | ⟨mode, _, page⟩⟩ := mem_added_structs_iff.1 fedBack
      · exact Or.inl (results query queryMember binding found)
      · exact Or.inr (Scope.companion_fields_plain page)
  · intro query member struct found
    obtain ⟨binding, result, rfl⟩ := result_struct_eq_some_iff.1 found
    exact results query member binding result
  · intro query member struct found
    obtain ⟨annotated, _, binds⟩ := Scope.bound_query_origin generated.bound member
    obtain ⟨binding, argument, inStruct⟩ := Option.bind_eq_some_iff.1 found
    cases binding with
    | scalar binding => cases inStruct
    | struct binding =>
        obtain rfl := Option.some.inj inStruct
        rw [BoundQuery.addedParameters, binds.pagination]
        exact Scope.struct_argument_typed (argument ▸ binds.argument)
  · intro column rule matched
    exact Scope.type_of_overridden matched

def wordsRule : OverrideRule where
  gqlType := "Words"
  target := .dbType none "text"
  nullable := none
  unsigned := none

def wordyOptions : ResolvedOptions where
  package := "shop"
  overrides := { rules := [wordsRule] }

theorem texts_are_words_everywhere :
    ∃ output, generateWith bookshop wordyOptions = .ok output ∧
      (∀ struct ∈ output.structs, ∀ position field column,
        struct.HasColumnField ((Scope.ofRequest bookshop wordyOptions).rowModel? struct) 0
            position field column →
          column.nativeType = some { name := "text" } → field.type.scalar = .named "Words") ∧
      ∃ query ∈ output.queries, ∃ input, query.inputStruct? = some input ∧ ∃ field,
        input.HasColumnField (fun _ => none) query.addedParameters 1 field
            (plainColumn none "name" "text") ∧
          field.type.scalar = .named "Words" := by
  have inputs : (generateWith bookshop wordyOptions).toOption.map (fun output =>
      decide (∃ query ∈ output.queries, ∃ input ∈ query.inputStruct?.toList,
        ∃ field ∈ input.fields, input.fields[1]? = some field ∧
          1 + query.addedParameters < input.fields.length ∧
          field.column = some (plainColumn none "name" "text"))) = some true := by
    decide +kernel
  obtain ⟨output, found, holds⟩ := Option.map_eq_some_iff.1 inputs
  obtain ⟨query, queryMember, input, inQuery, field, _, place, requested, backed⟩ :=
    of_decide_eq_true holds
  have success := Outcome.ok_of_to_option found
  have matched : ∀ column : Column, column.nativeType = some { name := "text" } →
      wordyOptions.overrides.find? ((Scope.ofRequest bookshop wordyOptions).probe column) =
        some wordsRule := by
    intro column native
    simp [wordyOptions, wordsRule, OverrideSet.find?, OverrideRule.isColumnScoped,
      OverrideRule.hits, Scope.probe, native]
  obtain ⟨_, ofStructs, _, ofInputs, _⟩ := columns_have_one_type success
  refine ⟨output, success, ?_, query, queryMember, input, Option.mem_toList.1 inQuery, field, ?_⟩
  · intro struct member position field column own native
    rcases ofStructs struct member with typed | ⟨_, plain⟩
    · exact typed.overridden position field column wordsRule own (matched column native)
    · obtain ⟨unbacked, _⟩ := plain field (List.mem_of_getElem? own.place)
      rw [own.backed] at unbacked
      cases unbacked
  · have own : input.HasColumnField (fun _ => none) query.addedParameters 1 field
        (plainColumn none "name" "text") := ⟨place, requested, backed, rfl⟩
    have typed := ofInputs query queryMember input (Option.mem_toList.1 inQuery)
    exact ⟨own, typed.overridden 1 field _ wordsRule own (matched _ rfl)⟩

end GraphSchema
