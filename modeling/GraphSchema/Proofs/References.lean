import GraphSchema.Proofs.Declarations
import GraphSchema.Proofs.Generation
import GraphSchema.Proofs.SettledTypes

/-!
Where the named types of a model lead. Each field of a struct that is made from columns takes its
type, and its embedded fields theirs, from one of the sources; the sources take theirs from columns
and from the models of the catalog; and companions name the struct that they page, each other, and
`PageInfo`. Since results and companions are fed back, every name that occurs in an unpruned model
is declared in it, is external, or was asked for by an override.
-/

namespace GraphSchema

/-- A property of the name that a type bears, if it bears one. -/
def TypeRef.Bears (type : TypeRef) (property : String → Prop) : Prop :=
  ∀ name, type.scalar = .named name → property name

theorem TypeRef.Bears.imp {type : TypeRef} {property weaker : String → Prop}
    (bears : type.Bears property) (implies : ∀ name, property name → weaker name) :
    type.Bears weaker :=
  fun name named => implies name (bears name named)

def Field.types (field : Field) : List TypeRef := field.type :: field.embedded.map PlainField.type

def Struct.types (struct : Struct) : List TypeRef := struct.fields.flatMap Field.types

def Binding.types : Binding → List TypeRef
  | scalar binding => [binding.type]
  | struct binding => binding.struct.types

def BoundQuery.types (query : BoundQuery) : List TypeRef :=
  query.argument.toList.flatMap Binding.types ++ query.result.toList.flatMap Binding.types ++
    query.returnType?.toList

def Model.types (model : Model) : List TypeRef :=
  model.structs.flatMap Struct.types ++ model.queries.flatMap BoundQuery.types

def FieldSource.types (source : FieldSource) : List TypeRef :=
  source.ownType :: source.embedded.map PlainField.type

namespace Scope

variable {scope : Scope}

theorem named_source_mem {position : Nat} {sources : List FieldSource} {named : NamedSource}
    (member : named ∈ scope.nameSources position sources) : named.source ∈ sources := by
  induction sources generalizing position with
  | nil => cases member
  | cons source rest ih =>
      rcases List.mem_cons.1 member with rfl | later
      · exact List.mem_cons_self
      · exact List.mem_cons_of_mem _ (ih later)

/-- A source keeps its own type, unless that is unknown and another of its base knows one. -/
theorem final_type_cases (sources : List NamedSource) (named : NamedSource) :
    named.finalType sources = named.source.ownType ∨
      named.source.ownType.isUnknown = true ∧
        ∃ other ∈ sources, other.base = named.base ∧ other.source.ownType.isUnknown = false ∧
          named.finalType sources = other.source.ownType := by
  unfold NamedSource.finalType
  split
  · rename_i unknown
    cases adopted : knownType? (sources.map NamedSource.typed) named.base with
    | none => exact Or.inl rfl
    | some type =>
        obtain ⟨entry, entryMember, selected⟩ := List.exists_of_findSome?_eq_some adopted
        obtain ⟨other, among, rfl⟩ := List.mem_map.1 entryMember
        simp only [Option.ite_none_right_eq_some, Bool.and_eq_true, decide_eq_true_eq,
          Bool.not_eq_true'] at selected
        obtain ⟨⟨sameBase, known⟩, same⟩ := selected
        exact Or.inr ⟨unknown, other, among, sameBase, known, (Option.some.inj same).symm⟩
  · exact Or.inl rfl

theorem final_type_own {sources : List NamedSource} {named : NamedSource}
    (member : named ∈ sources) :
    ∃ other ∈ sources, named.finalType sources = other.source.ownType := by
  rcases final_type_cases sources named with own | ⟨_, other, among, _, _, adopted⟩
  · exact ⟨named, member, own⟩
  · exact ⟨other, among, adopted⟩

theorem row_field_types {name : String} {sources : List FieldSource} {field : Field}
    (member : field ∈ scope.rowFields name sources) :
    ∀ type ∈ field.types, ∃ source ∈ sources, type ∈ source.types := by
  rw [row_fields_settled] at member
  obtain ⟨⟨named, number⟩, paired, rfl⟩ := List.mem_map.1 member
  have among := (List.of_mem_zip paired).1
  intro type typeMember
  rcases List.mem_cons.1 typeMember with rfl | embedded
  · obtain ⟨other, otherMember, same⟩ := final_type_own among
    exact ⟨other.source, named_source_mem otherMember, List.mem_cons.2 (Or.inl same)⟩
  · exact ⟨named.source, named_source_mem among, List.mem_cons_of_mem _ embedded⟩

/-- A field embeds what its source embeds, and has its source's own type where that is known. -/
theorem row_field_origin {name : String} {sources : List FieldSource} {field : Field}
    (member : field ∈ scope.rowFields name sources) :
    ∃ source ∈ sources, field.embedded = source.embedded ∧
      (source.ownType.isUnknown = false → field.type = source.ownType) := by
  rw [row_fields_settled] at member
  obtain ⟨⟨named, number⟩, paired, rfl⟩ := List.mem_map.1 member
  have among := (List.of_mem_zip paired).1
  refine ⟨named.source, named_source_mem among, rfl, ?_⟩
  intro known
  simp [rowField, NamedSource.finalType, known]

theorem row_types {name modelPath : String} {sources : List FieldSource} {struct : Struct}
    (made : scope.row name modelPath sources = .ok struct) :
    ∀ type ∈ struct.types, ∃ source ∈ sources, type ∈ source.types := by
  obtain ⟨_, rfl⟩ := row_ok made
  intro type member
  obtain ⟨field, fieldMember, typeMember⟩ := List.mem_flatMap.1 member
  exact row_field_types fieldMember type typeMember

theorem column_type_bears (scope : Scope) (column : Column) :
    (scope.typeOf column).Bears scope.ColumnTypeName :=
  fun _ named => type_of_named named

theorem model_types_bear {struct : Struct} (member : struct ∈ scope.models) :
    ∀ type ∈ struct.types, type.Bears scope.ColumnTypeName := by
  obtain ⟨schema, _, table, _, rfl⟩ := mem_models_iff.1 member
  intro type typeMember
  obtain ⟨field, fieldMember, among⟩ := List.mem_flatMap.1 typeMember
  obtain ⟨column, _, rfl⟩ := List.mem_map.1 fieldMember
  have own : type = scope.typeOf column := by simpa [Field.types, modelField] using among
  exact own ▸ scope.column_type_bears column

theorem page_parameter_types {mode : Pagination} {next : Int} {source : FieldSource}
    (member : source ∈ mode.parameters next) :
    source.types = [{ scalar := .int, nonNull := true }] ∨
      source.types = [{ scalar := .string, nonNull := true }] := by
  cases mode with
  | offset =>
      simp only [Pagination.parameters, List.mem_cons, List.not_mem_nil, or_false] at member
      rcases member with rfl | rfl
      · exact Or.inl rfl
      · exact Or.inl rfl
  | cursor =>
      simp only [Pagination.parameters, List.mem_cons, List.not_mem_nil, or_false] at member
      rcases member with rfl | rfl
      · exact Or.inl rfl
      · exact Or.inr rfl

theorem page_parameter_types_bear {mode : Pagination} {next : Int} {source : FieldSource}
    (member : source ∈ mode.parameters next) (property : String → Prop) :
    ∀ type ∈ source.types, type.Bears property := by
  intro type typeMember name named
  rcases page_parameter_types member with types | types
  · rw [types, List.mem_singleton] at typeMember
    rw [typeMember] at named
    cases named
  · rw [types, List.mem_singleton] at typeMember
    rw [typeMember] at named
    cases named

theorem argument_source_types_bear {annotated : AnnotatedQuery} {source : FieldSource}
    (member : source ∈ scope.argumentSources annotated) :
    ∀ type ∈ source.types, type.Bears scope.ColumnTypeName := by
  rcases List.mem_append.1 member with real | added
  · obtain ⟨parameter, _, rfl⟩ := List.mem_map.1 real
    intro type typeMember
    have own : type = scope.typeOf parameter.column := by
      simpa [FieldSource.types, FieldSource.ownType, FieldSource.embedded, parameterSource]
        using typeMember
    exact own ▸ scope.column_type_bears parameter.column
  · cases paginated : annotated.pagination with
    | none => simp [paginated] at added
    | some mode =>
        rw [paginated] at added
        exact page_parameter_types_bear added _

/-- What the columns of a query can name: what columns name, and the models that they embed. -/
def ResultTypeName (scope : Scope) (name : String) : Prop :=
  scope.ColumnTypeName name ∨ name ∈ scope.models.map Struct.name

theorem result_source_origin {structs : List Struct} {position : Nat} {columns : List Column}
    {source : FieldSource} (member : source ∈ scope.resultSources structs position columns) :
    source.column ∈ columns ∧ source.type = scope.typeOf source.column ∧
      source.embed = source.column.embedTable.bind (scope.embeddedModel? structs) := by
  induction columns generalizing position with
  | nil => cases member
  | cons column rest ih =>
      rcases List.mem_cons.1 member with rfl | later
      · exact ⟨List.mem_cons_self, rfl, rfl⟩
      · obtain ⟨among, found⟩ := ih later
        exact ⟨List.mem_cons_of_mem _ among, found⟩

theorem embedded_model_origin {structs : List Struct} {table : Identifier} {model : EmbeddedModel}
    (found : scope.embeddedModel? structs table = some model) :
    ∃ struct ∈ structs, model.name = struct.name ∧
      model.fields = struct.fields.map Field.toPlainField := by
  obtain ⟨struct, selected, rfl⟩ := Option.map_eq_some_iff.1 found
  exact ⟨struct, List.mem_of_find?_eq_some selected, rfl, rfl⟩

theorem result_source_types_bear {position : Nat} {columns : List Column} {source : FieldSource}
    (member : source ∈ scope.resultSources scope.models position columns) :
    ∀ type ∈ source.types, type.Bears scope.ResultTypeName := by
  obtain ⟨_, type, embed⟩ := result_source_origin member
  intro found typeMember
  cases embedded : source.embed with
  | none =>
      have own : found = scope.typeOf source.column := by
        simpa [FieldSource.types, FieldSource.ownType, FieldSource.embedded, embedded, type]
          using typeMember
      exact own ▸ (scope.column_type_bears source.column).imp fun _ => Or.inl
  | some model =>
      rw [embedded] at embed
      obtain ⟨table, _, located⟩ := Option.bind_eq_some_iff.1 embed.symm
      obtain ⟨struct, among, name, fields⟩ := embedded_model_origin located
      simp only [FieldSource.types, FieldSource.ownType, FieldSource.embedded, embedded,
        List.mem_cons] at typeMember
      rcases typeMember with rfl | copied
      · intro other named
        rw [← Scalar.named.inj named, name]
        exact Or.inr (List.mem_map_of_mem among)
      · rw [fields, List.map_map] at copied
        obtain ⟨field, fieldMember, rfl⟩ := List.mem_map.1 copied
        have own : field.type ∈ struct.types :=
          List.mem_flatMap.2 ⟨field, fieldMember, List.mem_cons_self⟩
        exact (model_types_bear among _ own).imp fun _ => Or.inl

theorem with_alias_types (field : Field) : (withAlias field).types = field.types := by
  obtain ⟨directive, same⟩ := with_alias_directive field
  rw [same]
  rfl

theorem input_field_types {annotated : AnnotatedQuery} {field : Field}
    (member : field ∈ scope.inputFields annotated) :
    ∀ type ∈ field.types, ∃ source ∈ scope.argumentSources annotated, type ∈ source.types := by
  unfold inputFields at member
  split at member
  · obtain ⟨plain, plainMember, rfl⟩ := List.mem_map.1 member
    rw [with_alias_types]
    exact row_field_types plainMember
  · exact row_field_types member

theorem argument_types_bear {annotated : AnnotatedQuery} {binding : Binding}
    (made : scope.argument annotated = .ok (some binding)) :
    ∀ type ∈ binding.types, type.Bears scope.ColumnTypeName := by
  intro type member
  rcases argument_cases made with ⟨_, _, absent⟩ | ⟨parameter, _, _, _, lone⟩ |
    ⟨input, built, found⟩
  · cases absent
  · cases lone
    have own : type = scope.typeOf parameter.column := List.mem_singleton.1 member
    exact own ▸ scope.column_type_bears parameter.column
  · cases found
    obtain ⟨_, rfl⟩ := struct_argument_ok built
    obtain ⟨field, fieldMember, typeMember⟩ := List.mem_flatMap.1 member
    obtain ⟨source, sourceMember, among⟩ := input_field_types fieldMember type typeMember
    exact argument_source_types_bear sourceMember type among

theorem struct_result_types_bear {annotated : AnnotatedQuery} {binding : StructBinding}
    (made : scope.structResult scope.models annotated = .ok binding) :
    ∀ type ∈ binding.struct.types, type.Bears scope.ResultTypeName := by
  intro type member
  rcases struct_result_cases made with ⟨model, matched, rfl⟩ | ⟨_, ofRow⟩
  · have declared : model ∈ scope.models := List.mem_of_find?_eq_some matched
    exact (model_types_bear declared type member).imp fun _ => Or.inl
  · obtain ⟨name, _, row⟩ := row_result_ok ofRow
    obtain ⟨source, sourceMember, among⟩ := row_types row type member
    exact result_source_types_bear sourceMember type among

theorem result_types_bear {annotated : AnnotatedQuery} {binding : Binding}
    (made : scope.result scope.models annotated = .ok (some binding)) :
    ∀ type ∈ binding.types, type.Bears scope.ResultTypeName := by
  intro type member
  rcases result_cases made with ⟨_, absent⟩ | ⟨column, _, _, lone⟩ | ⟨found, built, same⟩
  · cases absent
  · cases lone
    have own : type = scope.typeOf column := List.mem_singleton.1 member
    exact own ▸ (scope.column_type_bears column).imp fun _ => Or.inl
  · cases same
    exact struct_result_types_bear built type member

/-- A result that is not emitted is a copy of a model. -/
theorem unemitted_result_copies {annotated : AnnotatedQuery} {binding : StructBinding}
    (made : scope.result scope.models annotated = .ok (some (.struct binding)))
    (unemitted : binding.emit = false) :
    ∃ model ∈ scope.models, binding = scope.modelResult annotated.query model := by
  rcases struct_result_cases (struct_result_made made) with ⟨model, matched, copied⟩ | ⟨_, ofRow⟩
  · exact ⟨model, List.mem_of_find?_eq_some matched, copied⟩
  · obtain ⟨_, emitted, _⟩ := row_result_ok ofRow
    rw [emitted] at unemitted
    cases unemitted

end Scope

theorem companion_names (mode : Pagination) (directives : DirectiveRules) (paged : Struct) :
    (mode.companions directives paged).map Struct.name = mode.companionNames paged.name := by
  cases mode <;> rfl

/-- Companions are made alike, of fields with names of their own. -/
theorem companion_of_mem {mode : Pagination} {directives : DirectiveRules} {paged page : Struct}
    (member : page ∈ mode.companions directives paged) :
    ∃ name modelPath fields, page = companion directives name modelPath fields ∧
      (fields.map Prod.fst).Nodup := by
  cases mode with
  | offset =>
      obtain rfl := List.mem_singleton.1 member
      exact ⟨_, _, _, rfl, by simp⟩
  | cursor =>
      simp only [Pagination.companions, List.mem_cons, List.not_mem_nil, or_false] at member
      rcases member with rfl | rfl
      · exact ⟨_, _, _, rfl, by simp⟩
      · exact ⟨_, _, _, rfl, by simp⟩

theorem companion_types (directives : DirectiveRules) (name modelPath : String)
    (fields : List (String × TypeRef)) :
    (companion directives name modelPath fields).types = fields.map Prod.snd := by
  induction fields with
  | nil => rfl
  | cons field rest ih => exact congrArg (field.2 :: ·) ih

/-- Companions name the struct that they page, one another, and `PageInfo`. -/
theorem companion_types_bear {mode : Pagination} {directives : DirectiveRules}
    {paged page : Struct} (member : page ∈ mode.companions directives paged) :
    ∀ type ∈ page.types, type.Bears fun name =>
      name = paged.name ∨ name ∈ mode.companionNames paged.name ∨ name = "PageInfo" := by
  intro type typeMember name named
  cases mode with
  | offset =>
      obtain rfl := List.mem_singleton.1 member
      simp only [companion_types, List.map_cons, List.map_nil, List.mem_cons, List.not_mem_nil,
        or_false] at typeMember
      rcases typeMember with rfl | rfl | rfl
      · exact Or.inl (Scalar.named.inj named).symm
      · cases named
      · cases named
  | cursor =>
      simp only [Pagination.companions, List.mem_cons, List.not_mem_nil, or_false] at member
      rcases member with rfl | rfl
      · simp only [companion_types, List.map_cons, List.map_nil, List.mem_cons, List.not_mem_nil,
          or_false] at typeMember
        rcases typeMember with rfl | rfl
        · have edge : name = paged.name ++ "Edge" := (Scalar.named.inj named).symm
          exact Or.inr (Or.inl (List.mem_cons_of_mem _ (List.mem_singleton.2 edge)))
        · exact Or.inr (Or.inr (Scalar.named.inj named).symm)
      · simp only [companion_types, List.map_cons, List.map_nil, List.mem_cons, List.not_mem_nil,
          or_false] at typeMember
        rcases typeMember with rfl | rfl
        · exact Or.inl (Scalar.named.inj named).symm
        · cases named

/-- What a named type of a model may refer to: an enum or a struct of the model, the page
information or the library type that come from elsewhere, or what an override asked for. -/
def Model.Declares (model : Model) (overrides : OverrideSet) (name : String) : Prop :=
  name ∈ model.enums.map EnumType.name ∨ name ∈ model.structs.map Struct.name ∨
    name = "PageInfo" ∨ name = "Uint32" ∨ ∃ rule ∈ overrides.rules, rule.gqlType = name

namespace Generated

variable {request : Request} {options : ResolvedOptions} {fed : List Struct} {output : Output}

theorem unfiltered_enums (generated : Generated request options fed output)
    (unfiltered : options.omitUnusedStructs = false) :
    output.enums = (Scope.ofRequest request options).enums := by
  rw [generated.enums]
  simp [ResolvedOptions.keepsEnum, ResolvedOptions.keepsStruct, unfiltered]

theorem mem_unfiltered_structs_iff (generated : Generated request options fed output)
    (unfiltered : options.omitUnusedStructs = false) (struct : Struct) :
    struct ∈ output.structs ↔ struct ∈ fed := by
  rw [generated.mem_structs_iff]
  simp [ResolvedOptions.keepsStruct, unfiltered]

theorem mem_unfiltered_names_iff (generated : Generated request options fed output)
    (unfiltered : options.omitUnusedStructs = false) (name : String) :
    name ∈ output.structs.map Struct.name ↔
      name ∈ (Scope.ofRequest request options).models.map Struct.name ∨
        name ∈ (GraphSchema.fedBack options.directives output.queries).map Struct.name := by
  rw [← generated.extends_models.mem_names_iff name, List.mem_map, List.mem_map]
  simp only [generated.mem_unfiltered_structs_iff unfiltered]

theorem declares_column_name (generated : Generated request options fed output)
    (unfiltered : options.omitUnusedStructs = false) {name : String}
    (named : (Scope.ofRequest request options).ColumnTypeName name) :
    output.toModel.Declares options.overrides name := by
  rcases named with declared | native | overridden
  · refine Or.inl ?_
    rw [generated.unfiltered_enums unfiltered]
    exact (Scope.enum_names_perm _).mem_iff.2 declared
  · exact Or.inr (Or.inr (Or.inr (Or.inl native)))
  · exact Or.inr (Or.inr (Or.inr (Or.inr overridden)))

theorem declares_result_name (generated : Generated request options fed output)
    (unfiltered : options.omitUnusedStructs = false) {name : String}
    (named : (Scope.ofRequest request options).ResultTypeName name) :
    output.toModel.Declares options.overrides name := by
  rcases named with column | model
  · exact generated.declares_column_name unfiltered column
  · exact Or.inr (Or.inl ((generated.mem_unfiltered_names_iff unfiltered name).2 (Or.inl model)))

theorem result_binding_types_bear (generated : Generated request options fed output)
    {query : BoundQuery} (member : query ∈ output.queries) {binding : Binding}
    (found : query.result = some binding) :
    ∀ type ∈ binding.types, type.Bears (Scope.ofRequest request options).ResultTypeName := by
  obtain ⟨annotated, _, made⟩ := Scope.bound_result_origin generated.bound member found
  exact Scope.result_types_bear made

theorem argument_binding_types_bear (generated : Generated request options fed output)
    {query : BoundQuery} (member : query ∈ output.queries) {binding : Binding}
    (found : query.argument = some binding) :
    ∀ type ∈ binding.types, type.Bears (Scope.ofRequest request options).ColumnTypeName := by
  obtain ⟨annotated, _, binds⟩ := Scope.bound_query_origin generated.bound member
  have made := binds.argument
  rw [found] at made
  exact Scope.argument_types_bear made

theorem result_struct_declared (generated : Generated request options fed output)
    (unfiltered : options.omitUnusedStructs = false) {query : BoundQuery}
    (member : query ∈ output.queries) {binding : StructBinding}
    (found : query.result = some (.struct binding)) :
    binding.struct.name ∈ output.structs.map Struct.name := by
  rw [generated.mem_unfiltered_names_iff unfiltered]
  cases emitted : binding.emit with
  | true =>
      refine Or.inr (List.mem_map.2 ⟨binding.struct, ?_, rfl⟩)
      refine List.mem_flatMap.2 ⟨query, member, ?_⟩
      exact mem_added_structs_iff.2 ⟨binding, found, Or.inl ⟨emitted, rfl⟩⟩
  | false =>
      obtain ⟨annotated, _, made⟩ := Scope.bound_result_origin generated.bound member found
      obtain ⟨model, declared, rfl⟩ := Scope.unemitted_result_copies made emitted
      exact Or.inl (List.mem_map.2 ⟨model, declared, rfl⟩)

theorem companion_declared (generated : Generated request options fed output)
    (unfiltered : options.omitUnusedStructs = false) {query : BoundQuery}
    (member : query ∈ output.queries) {binding : StructBinding}
    (found : query.result = some (.struct binding)) {mode : Pagination}
    (paginated : query.pagination = some mode) {name : String}
    (named : name ∈ mode.companionNames binding.struct.name) :
    name ∈ output.structs.map Struct.name := by
  rw [generated.mem_unfiltered_names_iff unfiltered]
  rw [← companion_names mode options.directives binding.struct] at named
  obtain ⟨page, among, rfl⟩ := List.mem_map.1 named
  refine Or.inr (List.mem_map.2 ⟨page, List.mem_flatMap.2 ⟨query, member, ?_⟩, rfl⟩)
  exact mem_added_structs_iff.2 ⟨binding, found, Or.inr ⟨mode, paginated, among⟩⟩

theorem struct_types_declared (generated : Generated request options fed output)
    (unfiltered : options.omitUnusedStructs = false) {struct : Struct}
    (member : struct ∈ output.structs) :
    ∀ type ∈ struct.types, type.Bears (output.toModel.Declares options.overrides) := by
  intro type typeMember
  rcases generated.struct_cases member with model | ⟨query, queryMember, fedBack⟩
  · exact (Scope.model_types_bear model type typeMember).imp fun _ =>
      generated.declares_column_name unfiltered
  · obtain ⟨binding, found, ⟨_, rfl⟩ | ⟨mode, paginated, page⟩⟩ := mem_added_structs_iff.1 fedBack
    · exact (generated.result_binding_types_bear queryMember found type typeMember).imp fun _ =>
        generated.declares_result_name unfiltered
    · refine (companion_types_bear page type typeMember).imp fun name named => ?_
      rcases named with rfl | companion | information
      · exact Or.inr (Or.inl (generated.result_struct_declared unfiltered queryMember found))
      · exact Or.inr (Or.inl
          (generated.companion_declared unfiltered queryMember found paginated companion))
      · exact Or.inr (Or.inr (Or.inl information))

theorem return_type_declared (generated : Generated request options fed output)
    (unfiltered : options.omitUnusedStructs = false) {query : BoundQuery}
    (member : query ∈ output.queries) {type : TypeRef} (returned : query.returnType? = some type) :
    type.Bears (output.toModel.Declares options.overrides) := by
  obtain ⟨binding, found, wrapped⟩ := Option.bind_eq_some_iff.1 returned
  have plain : binding.type.Bears (output.toModel.Declares options.overrides) := by
    cases binding with
    | scalar binding =>
        exact (generated.result_binding_types_bear member found _ List.mem_cons_self).imp fun _ =>
          generated.declares_result_name unfiltered
    | struct binding =>
        intro name named
        obtain rfl := Scalar.named.inj named
        exact Or.inr (Or.inl (generated.result_struct_declared unfiltered member found))
  split at wrapped
  · rename_i mode paged paginated inStruct
    cases binding with
    | scalar binding => cases inStruct
    | struct binding =>
        obtain rfl := Option.some.inj inStruct
        obtain ⟨first, head, rfl⟩ := Option.map_eq_some_iff.1 wrapped
        intro name named
        obtain rfl := Scalar.named.inj named
        exact Or.inr (Or.inl (generated.companion_declared unfiltered member found paginated
          (List.mem_of_head? head)))
  · split at wrapped
    · exact Option.some.inj wrapped ▸ plain
    · exact Option.some.inj wrapped ▸ plain

end Generated

/-- Whenever a generation that leaves nothing out succeeds, every type that is named in a struct, in
an argument, in a result or as what a field returns is declared; and the enums that columns are
mapped to are all in the output. -/
theorem every_named_type_is_declared {request : Request} {options : ResolvedOptions}
    {output : Output} (unfiltered : options.omitUnusedStructs = false)
    (success : generateWith request options = .ok output) :
    (∀ type ∈ output.types, type.Bears (output.toModel.Declares options.overrides)) ∧
    ∀ column name, ((Scope.ofRequest request options).target column).host = .enumeration name →
      name ∈ output.enums.map EnumType.name := by
  obtain ⟨fed, generated⟩ := generated_of_success success
  constructor
  · intro type member
    rcases List.mem_append.1 member with inStructs | inQueries
    · obtain ⟨struct, structMember, typeMember⟩ := List.mem_flatMap.1 inStructs
      exact generated.struct_types_declared unfiltered structMember type typeMember
    · obtain ⟨query, queryMember, typeMember⟩ := List.mem_flatMap.1 inQueries
      rcases List.mem_append.1 typeMember with inBindings | returned
      · rcases List.mem_append.1 inBindings with inArgument | inResult
        · obtain ⟨binding, found, among⟩ := List.mem_flatMap.1 inArgument
          exact (generated.argument_binding_types_bear queryMember (Option.mem_toList.1 found)
            type among).imp fun _ => generated.declares_column_name unfiltered
        · obtain ⟨binding, found, among⟩ := List.mem_flatMap.1 inResult
          exact (generated.result_binding_types_bear queryMember (Option.mem_toList.1 found)
            type among).imp fun _ => generated.declares_result_name unfiltered
      · exact generated.return_type_declared unfiltered queryMember (Option.mem_toList.1 returned)
  · intro column name host
    rw [generated.unfiltered_enums unfiltered]
    exact (Scope.enum_names_perm _).mem_iff.2 (Scope.target_enumeration_declared host)

/-- The bookshop names the connection of its books, and every name in it is one of its own. -/
theorem bookshop_types_are_declared :
    ∃ output, generateWith bookshop { package := "shop" } = .ok output ∧
      TypeRef.named "BookConnection" ∈ output.types ∧
      ∀ type ∈ output.types, type.Bears fun name =>
        name = "Genre" ∨ name ∈ ["Author", "Book", "BookConnection", "BookEdge", "FindTitlesRow"] ∨
          name = "PageInfo" ∨ name = "Uint32" := by
  obtain ⟨output, success, enums, structs⟩ := bookshop_generates
  refine ⟨output, success, ?_, ?_⟩
  · have paged : (generateWith bookshop { package := "shop" }).toOption.map
        (fun output => decide (TypeRef.named "BookConnection" ∈ output.types)) = some true := by
      decide +kernel
    rw [success] at paged
    exact of_decide_eq_true (Option.some.inj paged)
  · intro type member
    refine ((every_named_type_is_declared rfl success).1 type member).imp fun name declared => ?_
    rw [Model.Declares, enums, structs] at declared
    simpa using declared

end GraphSchema
