import GraphSchema.Proofs.Pruning

/-!
Whether pruning leaves a field without its type. Pruning looks into the fields of the structs that
queries bind and of the models that they embed, and no further. Such a struct keeps all that its
fields name, and so does a page, but for page information and scalars. A struct that is kept for its
name alone, because an override replaced the type of some column by that name, keeps only itself.
-/

namespace GraphSchema

namespace Model

variable {model : Model}

/-- Whatever has the name is still there once the model has been pruned. -/
def Retains (model : Model) (name : String) : Prop :=
  (∀ enumeration ∈ model.enums, enumeration.name = name → enumeration ∈ model.pruned.enums) ∧
    ∀ struct ∈ model.structs, struct.name = name → struct ∈ model.pruned.structs

instance (model : Model) (name : String) : Decidable (model.Retains name) :=
  inferInstanceAs (Decidable (_ ∧ _))

def PrunesClosed (model : Model) : Prop :=
  ∀ struct ∈ model.pruned.structs, ∀ field ∈ struct.fields, model.Retains field.type.baseName

instance (model : Model) : Decidable model.PrunesClosed :=
  inferInstanceAs (Decidable (∀ struct ∈ model.pruned.structs, _))

theorem retains_of_reached {name : String} (reached : name ∈ reachedNames model.queries) :
    model.Retains name := by
  constructor
  · intro enumeration member same
    exact mem_pruned_enums_iff.2 ⟨member, Or.inl (same ▸ reached)⟩
  · intro struct member same
    exact mem_pruned_structs_iff.2 ⟨member, same ▸ reached⟩

end Model

def Field.embeddedShape (field : Field) : List (String × TypeRef) :=
  field.embedded.map fun part => (part.name, part.type)

/-- A field stands for the row of a model: its type bears the model's name, and it embeds the fields
of the model. -/
structure Field.StandsFor (field : Field) (model : Struct) : Prop where
  named : field.type.baseName = model.name
  parts : field.embedded = model.fields.map Field.toPlainField

instance (field : Field) (model : Struct) : Decidable (field.StandsFor model) :=
  decidable_of_iff (field.type.baseName = model.name ∧
      field.embedded = model.fields.map Field.toPlainField)
    ⟨fun ⟨named, parts⟩ => ⟨named, parts⟩, fun ⟨named, parts⟩ => ⟨named, parts⟩⟩

theorem Field.StandsFor.shape {field : Field} {model : Struct} (stands : field.StandsFor model) :
    field.embeddedShape = model.shape := by
  rw [Field.embeddedShape, stands.parts, List.map_map]
  rfl

/-- A query looks into the fields of a struct: it binds the struct, or embeds it in one that it
binds. Names and shapes decide, since a query has copies of the structs. -/
inductive BoundQuery.Follows (query : BoundQuery) (struct : Struct) : Prop
  | bound {binding : Binding} {found : Struct}
      (place : query.argument = some binding ∨ query.result = some binding)
      (inStruct : binding.struct? = some found)
      (sameName : found.name = struct.name) (sameShape : found.shape = struct.shape)
  | embedded {binding : Binding} {found : Struct} {field : Field}
      (place : query.argument = some binding ∨ query.result = some binding)
      (inStruct : binding.struct? = some found) (member : field ∈ found.fields)
      (sameName : field.type.baseName = struct.name)
      (sameShape : field.embeddedShape = struct.shape)

def BoundQuery.Pages (directives : DirectiveRules) (query : BoundQuery) (struct : Struct) : Prop :=
  ∃ page ∈ query.pages directives, page.name = struct.name ∧ page.shape = struct.shape

/-- What pages name besides the struct that they hold and one another. -/
def pageExternals : List String := ["PageInfo", "Int", "Boolean", "String"]

theorem field_of_same_shape {struct other : Struct} (same : other.shape = struct.shape)
    {field : Field} (member : field ∈ struct.fields) :
    ∃ counterpart ∈ other.fields, counterpart.type = field.type := by
  have inShape : (field.name, field.type) ∈ struct.shape :=
    List.mem_map.2 ⟨field, member, rfl⟩
  rw [← same] at inShape
  obtain ⟨counterpart, among, equal⟩ := List.mem_map.1 inShape
  exact ⟨counterpart, among, (Prod.mk.inj equal).2⟩

theorem binding_reaches_fields {binding : Binding} {found : Struct}
    (inStruct : binding.struct? = some found) {field : Field} (member : field ∈ found.fields)
    {name : String} (among : name ∈ field.reached) : name ∈ binding.reached := by
  simp only [Binding.reached, inStruct]
  exact List.mem_cons_of_mem _ (List.mem_flatMap.2 ⟨field, member, among⟩)

theorem page_types_named {mode : Pagination} {directives : DirectiveRules} {paged page : Struct}
    (member : page ∈ mode.companions directives paged) :
    ∀ type ∈ page.types, type.baseName = paged.name ∨
      type.baseName ∈ mode.companionNames paged.name ∨ type.baseName ∈ pageExternals := by
  cases mode with
  | offset =>
      obtain rfl := List.mem_singleton.1 member
      simp [companion_types, TypeRef.baseName, TypeRef.listOf, TypeRef.named, Scalar.name,
        pageExternals]
  | cursor =>
      simp only [Pagination.companions, List.mem_cons, List.not_mem_nil, or_false] at member
      rcases member with rfl | rfl
      · simp [companion_types, TypeRef.baseName, TypeRef.listOf, TypeRef.named, Scalar.name,
          pageExternals, Pagination.companionNames]
      · simp [companion_types, TypeRef.baseName, TypeRef.named, Scalar.name, pageExternals]

namespace BoundQuery

variable {query : BoundQuery} {struct : Struct}

theorem Follows.reached (followed : query.Follows struct) {field : Field}
    (member : field ∈ struct.fields) : field.type.baseName ∈ query.reached := by
  cases followed with
  | bound place inStruct _ sameShape =>
      obtain ⟨counterpart, among, same⟩ := field_of_same_shape sameShape member
      have own : field.type.baseName ∈ counterpart.reached := by
        rw [← same]
        exact List.mem_cons_self
      exact reached_of_binding place (binding_reaches_fields inStruct among own)
  | @embedded _ _ whole place inStruct among _ sameShape =>
      have inShape : (field.name, field.type) ∈ whole.embeddedShape := by
        rw [sameShape]
        exact List.mem_map.2 ⟨field, member, rfl⟩
      obtain ⟨part, partMember, equal⟩ := List.mem_map.1 inShape
      have own : field.type.baseName ∈ whole.reached := by
        rw [← (Prod.mk.inj equal).2]
        exact List.mem_cons_of_mem _ (List.mem_map.2 ⟨part, partMember, rfl⟩)
      exact reached_of_binding place (binding_reaches_fields inStruct among own)

theorem Pages.reached {directives : DirectiveRules} (paging : query.Pages directives struct)
    {field : Field} (member : field ∈ struct.fields) :
    field.type.baseName ∈ query.reached ∨ field.type.baseName ∈ pageExternals := by
  obtain ⟨page, among, _, sameShape⟩ := paging
  obtain ⟨counterpart, counterpartMember, same⟩ := field_of_same_shape sameShape member
  have typeMember : field.type ∈ page.types :=
    List.mem_flatMap.2 ⟨counterpart, counterpartMember, same ▸ List.mem_cons_self⟩
  unfold pages at among
  split at among
  · rename_i mode paged paginated resultStruct
    rcases page_types_named among _ typeMember with held | companion | external
    · rw [held]
      exact Or.inl (reached_of_needed directives (result_name_needed directives resultStruct))
    · refine Or.inl (reached_of_needed directives (List.mem_append_right _ ?_))
      rw [page_names_eq, paginated, resultStruct]
      exact companion
    · exact Or.inr external
  · cases among

end BoundQuery

/-- The names of a field's types, save that of a model which the field embeds. -/
def Field.mentionedNames (field : Field) : List String :=
  match field.embedded with
  | [] => [field.type.baseName]
  | parts => parts.map (·.type.baseName)

def Binding.mentionedNames : Binding → List String
  | scalar binding => [binding.type.baseName]
  | struct binding => binding.struct.fields.flatMap Field.mentionedNames

/-- The names of the types of columns, where pruning looks no further. -/
def Model.mentionedNames (model : Model) : List String :=
  model.queries.flatMap fun query =>
    (query.argument.toList ++ query.result.toList).flatMap Binding.mentionedNames

theorem field_reached_cases {field : Field} {name : String} (among : name ∈ field.reached) :
    name ∈ field.mentionedNames ∨ (field.embedded ≠ [] ∧ field.type.baseName = name) := by
  unfold Field.reached at among
  unfold Field.mentionedNames
  cases embedded : field.embedded with
  | nil =>
      rw [embedded] at among
      exact Or.inl among
  | cons part parts =>
      rw [embedded] at among
      rcases List.mem_cons.1 among with own | later
      · exact Or.inr ⟨List.cons_ne_nil _ _, own.symm⟩
      · exact Or.inl later

/-- A name is reached from a binding as the type of a column, or as that of a struct that is looked
into. -/
theorem binding_reached_cases {binding : Binding} {name : String}
    (among : name ∈ binding.reached) :
    name ∈ binding.mentionedNames ∨ ∃ found, binding.struct? = some found ∧
      (found.name = name ∨
        ∃ field ∈ found.fields, field.embedded ≠ [] ∧ field.type.baseName = name) := by
  cases binding with
  | scalar binding => exact Or.inl among
  | struct binding =>
      rcases List.mem_cons.1 among with own | inFields
      · exact Or.inr ⟨binding.struct, rfl, Or.inl own.symm⟩
      · obtain ⟨field, member, inField⟩ := List.mem_flatMap.1 inFields
        rcases field_reached_cases inField with mentioned | embeds
        · exact Or.inl (List.mem_flatMap.2 ⟨field, member, mentioned⟩)
        · exact Or.inr ⟨binding.struct, rfl, Or.inr ⟨field, member, embeds⟩⟩

namespace Scope

variable {scope : Scope} {annotated : AnnotatedQuery} {binding : Binding} {found : Struct}
  {field : Field}

theorem argument_source_embeds_nothing {source : FieldSource}
    (member : source ∈ scope.argumentSources annotated) : source.embed = none := by
  rcases List.mem_append.1 member with real | added
  · obtain ⟨parameter, _, rfl⟩ := List.mem_map.1 real
    rfl
  · cases paginated : annotated.pagination with
    | none => simp [paginated] at added
    | some mode =>
        rw [paginated] at added
        cases mode <;>
          · simp only [Pagination.parameters, List.mem_cons, List.not_mem_nil, or_false] at added
            rcases added with rfl | rfl <;> rfl

theorem argument_field_embeds_nothing
    (made : scope.argument annotated = .ok (some binding)) (inStruct : binding.struct? = some found)
    (member : field ∈ found.fields) : field.embedded = [] := by
  rcases argument_cases made with ⟨_, _, absent⟩ | ⟨parameter, _, _, _, lone⟩ |
    ⟨input, built, same⟩
  · cases absent
  · cases lone
    cases inStruct
  · cases same
    obtain ⟨_, rfl⟩ := struct_argument_ok built
    obtain rfl := Option.some.inj inStruct
    have ofRow : ∃ plain ∈ scope.rowFields (inputName annotated) (scope.argumentSources annotated),
        field.embedded = plain.embedded := by
      simp only [inputFields] at member
      split at member
      · obtain ⟨plain, plainMember, rfl⟩ := List.mem_map.1 member
        obtain ⟨directive, same⟩ := with_alias_directive plain
        exact ⟨plain, plainMember, by rw [same]⟩
      · exact ⟨field, member, rfl⟩
    obtain ⟨plain, plainMember, same⟩ := ofRow
    obtain ⟨source, sourceMember, embedded, _⟩ := row_field_origin plainMember
    rw [same, embedded, FieldSource.embedded, argument_source_embeds_nothing sourceMember]

theorem model_field_embeds_nothing {model : Struct} (declared : model ∈ scope.models)
    (member : field ∈ model.fields) : field.embedded = [] := by
  obtain ⟨schema, _, table, _, rfl⟩ := mem_models_iff.1 declared
  obtain ⟨column, _, rfl⟩ := List.mem_map.1 member
  rfl

theorem embedding_field_origin
    (made : scope.result scope.models annotated = .ok (some binding))
    (inStruct : binding.struct? = some found) (member : field ∈ found.fields)
    (embeds : field.embedded ≠ []) :
    ∃ model ∈ scope.models, field.StandsFor model := by
  rcases result_cases made with ⟨_, absent⟩ | ⟨column, _, _, lone⟩ | ⟨struct, built, same⟩
  · cases absent
  · cases lone
    cases inStruct
  · cases same
    obtain rfl := Option.some.inj inStruct
    rcases struct_result_cases built with ⟨model, matched, rfl⟩ | ⟨_, ofRow⟩
    · have declared : model ∈ scope.models := List.mem_of_find?_eq_some matched
      exact absurd (model_field_embeds_nothing declared member) embeds
    · obtain ⟨name, _, row⟩ := row_result_ok ofRow
      obtain ⟨_, fields⟩ := row_ok row
      rw [fields] at member
      obtain ⟨source, sourceMember, copied, typed⟩ := row_field_origin member
      obtain ⟨_, _, embed⟩ := result_source_origin sourceMember
      cases embedded : source.embed with
      | none =>
          rw [copied, FieldSource.embedded, embedded] at embeds
          exact absurd rfl embeds
      | some model =>
          rw [embedded] at embed
          obtain ⟨table, _, located⟩ := Option.bind_eq_some_iff.1 embed.symm
          obtain ⟨struct, declared, sameName, parts⟩ := embedded_model_origin located
          have ownType : source.ownType = { scalar := .named model.name } := by
            rw [FieldSource.ownType, embedded]
          have known : source.ownType.isUnknown = false := by
            rw [ownType]
            rfl
          refine ⟨struct, declared, ?_, ?_⟩
          · rw [typed known, ownType, ← sameName]
            rfl
          · rw [copied, FieldSource.embedded, embedded]
            exact parts

end Scope

theorem result_struct_eq_some_iff {query : BoundQuery} {struct : Struct} :
    query.resultStruct? = some struct ↔
      ∃ binding, query.result = some (.struct binding) ∧ binding.struct = struct := by
  unfold BoundQuery.resultStruct?
  cases query.result with
  | none => simp
  | some binding => cases binding <;> simp [Binding.struct?]

theorem page_added {directives : DirectiveRules} {query : BoundQuery} {page : Struct}
    (member : page ∈ query.pages directives) : page ∈ query.addedStructs directives := by
  unfold BoundQuery.pages at member
  split at member
  · rename_i mode paged paginated resultStruct
    obtain ⟨binding, found, rfl⟩ := result_struct_eq_some_iff.1 resultStruct
    exact mem_added_structs_iff.2 ⟨binding, found, Or.inr ⟨mode, paginated, member⟩⟩
  · cases member

section Assembled

variable {request : Request} {options : ResolvedOptions} {model : Model}

theorem assembled_models (assembled : Model.assemble request options = .ok model)
    {struct : Struct} (declared : struct ∈ (Scope.ofRequest request options).models) :
    struct ∈ model.structs := by
  obtain ⟨fed, _, added, _, structs⟩ := assemble_ok assembled
  obtain ⟨appended, split, _⟩ := (add_result_structs_extends added).appended
  rw [structs, (Text.perm_sortBy Struct.name fed).mem_iff, split]
  exact List.mem_append_left _ declared

theorem assembled_provides (assembled : Model.assemble request options = .ok model)
    {query : BoundQuery} (member : query ∈ model.queries) {candidate : Struct}
    (fedBack : candidate ∈ query.addedStructs options.directives) :
    ∃ struct ∈ model.structs, struct.name = candidate.name ∧ struct.shape = candidate.shape := by
  obtain ⟨fed, _, added, _, structs⟩ := assemble_ok assembled
  have among : candidate ∈ GraphSchema.fedBack options.directives model.queries :=
    List.mem_flatMap.2 ⟨query, member, fedBack⟩
  obtain ⟨first, found, shape⟩ := (add_result_structs_extends added).provided candidate among
  have named : first.name = candidate.name := by simpa using List.find?_some found
  refine ⟨first, ?_, named, shape⟩
  rw [structs, (Text.perm_sortBy Struct.name fed).mem_iff]
  exact List.mem_of_find?_eq_some found

theorem assembled_results (assembled : Model.assemble request options = .ok model)
    {query : BoundQuery} (member : query ∈ model.queries) {paged : Struct}
    (found : query.resultStruct? = some paged) :
    ∃ struct ∈ model.structs, struct.name = paged.name ∧ struct.shape = paged.shape := by
  obtain ⟨binding, result, rfl⟩ := result_struct_eq_some_iff.1 found
  cases emitted : binding.emit with
  | true =>
      apply assembled_provides assembled member
      exact mem_added_structs_iff.2 ⟨binding, result, Or.inl ⟨emitted, rfl⟩⟩
  | false =>
      obtain ⟨_, bound, _⟩ := assemble_ok assembled
      obtain ⟨annotated, _, made⟩ := Scope.bound_result_origin bound member result
      obtain ⟨copied, declared, rfl⟩ := Scope.unemitted_result_copies made emitted
      exact ⟨copied, assembled_models assembled declared, rfl, rfl⟩

theorem follows_of_bound (assembled : Model.assemble request options = .ok model)
    {struct : Struct} (unrivalled : ∀ other ∈ model.structs ++ model.inputStructs,
      other.name = struct.name → other.shape = struct.shape)
    {query : BoundQuery} (member : query ∈ model.queries) {binding : Binding} {found : Struct}
    (place : query.argument = some binding ∨ query.result = some binding)
    (inStruct : binding.struct? = some found) (sameName : found.name = struct.name) :
    query.Follows struct := by
  obtain ⟨amongStructs, amongInputs⟩ := List.forall_mem_append.1 unrivalled
  rcases place with argument | result
  · have input : found ∈ model.inputStructs := List.mem_flatMap.2 ⟨query, member,
      Option.mem_toList.2 (BoundQuery.input_struct_of_argument argument inStruct)⟩
    exact .bound (Or.inl argument) inStruct sameName (amongInputs found input sameName)
  · have made := BoundQuery.result_struct_of_result result inStruct
    obtain ⟨other, otherMember, otherName, otherShape⟩ := assembled_results assembled member made
    have sameShape := amongStructs other otherMember (otherName.trans sameName)
    exact .bound (Or.inr result) inStruct sameName (otherShape.symm.trans sameShape)

theorem follows_of_embedding (assembled : Model.assemble request options = .ok model)
    {struct : Struct} (unrivalled : ∀ other ∈ model.structs,
      other.name = struct.name → other.shape = struct.shape)
    {query : BoundQuery} (member : query ∈ model.queries) {binding : Binding} {found : Struct}
    (place : query.argument = some binding ∨ query.result = some binding)
    (inStruct : binding.struct? = some found) {field : Field} (inFields : field ∈ found.fields)
    (embeds : field.embedded ≠ []) (sameName : field.type.baseName = struct.name) :
    query.Follows struct := by
  obtain ⟨_, bound, _⟩ := assemble_ok assembled
  rcases place with argument | result
  · obtain ⟨annotated, _, binds⟩ := Scope.bound_query_origin bound member
    have made := binds.argument
    rw [argument] at made
    exact absurd (Scope.argument_field_embeds_nothing made inStruct inFields) embeds
  · obtain ⟨annotated, _, made⟩ := Scope.bound_result_origin bound member result
    obtain ⟨whole, declared, stands⟩ :=
      Scope.embedding_field_origin made inStruct inFields embeds
    have sameShape := unrivalled whole (assembled_models assembled declared)
      (stands.named.symm.trans sameName)
    exact .embedded (Or.inr result) inStruct inFields sameName (stands.shape.trans sameShape)

theorem pages_of_page (assembled : Model.assemble request options = .ok model)
    {struct : Struct} (unrivalled : ∀ other ∈ model.structs,
      other.name = struct.name → other.shape = struct.shape)
    {query : BoundQuery} (member : query ∈ model.queries)
    (paging : struct.name ∈ (query.pages options.directives).map Struct.name) :
    query.Pages options.directives struct := by
  obtain ⟨page, among, sameName⟩ := List.mem_map.1 paging
  obtain ⟨other, otherMember, otherName, otherShape⟩ :=
    assembled_provides assembled member (page_added among)
  have sameShape := unrivalled other otherMember (otherName.trans sameName)
  exact ⟨page, among, sameName, otherShape.symm.trans sameShape⟩

/-- A kept struct is there for the type of a column, unless a query follows it or pages by it; that
is, where no other struct and no input of its name has another shape. -/
theorem kept_struct_cases (assembled : Model.assemble request options = .ok model)
    {struct : Struct} (kept : struct ∈ model.pruned.structs)
    (unrivalled : ∀ other ∈ model.structs ++ model.inputStructs,
      other.name = struct.name → other.shape = struct.shape) :
    struct.name ∈ model.mentionedNames ∨ (∃ query ∈ model.queries, query.Follows struct) ∨
      ∃ query ∈ model.queries, query.Pages options.directives struct := by
  obtain ⟨amongStructs, _⟩ := List.forall_mem_append.1 unrivalled
  obtain ⟨_, reached⟩ := Model.mem_pruned_structs_iff.1 kept
  obtain ⟨query, member, among⟩ := List.mem_flatMap.1 reached
  rcases (BoundQuery.mem_reached_iff options.directives).1 among with
    ⟨binding, place, inBinding⟩ | inPages
  · rcases binding_reached_cases inBinding with
      mentioned | ⟨found, inStruct, sameName | ⟨field, inFields, embeds, sameName⟩⟩
    · have bindingMember : binding ∈ query.argument.toList ++ query.result.toList := by
        simpa using place
      have mentions := List.mem_flatMap.2 ⟨binding, bindingMember, mentioned⟩
      exact Or.inl (List.mem_flatMap.2 ⟨query, member, mentions⟩)
    · have followed := follows_of_bound assembled unrivalled member place inStruct sameName
      exact Or.inr (Or.inl ⟨query, member, followed⟩)
    · have followed := follows_of_embedding assembled amongStructs member place inStruct inFields
        embeds sameName
      exact Or.inr (Or.inl ⟨query, member, followed⟩)
  · have paging := pages_of_page assembled amongStructs member inPages
    exact Or.inr (Or.inr ⟨query, member, paging⟩)

/-- What a struct that is kept by pruning keeps of the types that its fields name: all of them, if a
query follows the struct into its fields; all but page information and scalars, if a query pages by
it. A kept struct that is neither has the name of a column's type, or that of a struct or an input
of another shape. -/
theorem kept_structs_keep_what_they_name (assembled : Model.assemble request options = .ok model)
    {struct : Struct} (kept : struct ∈ model.pruned.structs) :
    ((∃ query ∈ model.queries, query.Follows struct) →
      ∀ field ∈ struct.fields, model.Retains field.type.baseName) ∧
    ((∃ query ∈ model.queries, query.Pages options.directives struct) →
      ∀ field ∈ struct.fields, field.type.baseName ∉ pageExternals →
        model.Retains field.type.baseName) ∧
    (struct.name ∉ model.mentionedNames →
      (∀ other ∈ model.structs ++ model.inputStructs,
        other.name = struct.name → other.shape = struct.shape) →
      (∃ query ∈ model.queries, query.Follows struct) ∨
        ∃ query ∈ model.queries, query.Pages options.directives struct) := by
  refine ⟨?_, ?_, ?_⟩
  · rintro ⟨query, member, followed⟩ field fieldMember
    apply Model.retains_of_reached
    exact List.mem_flatMap.2 ⟨query, member, followed.reached fieldMember⟩
  · rintro ⟨query, member, paging⟩ field fieldMember internal
    apply Model.retains_of_reached
    rcases paging.reached fieldMember with reached | external
    · exact List.mem_flatMap.2 ⟨query, member, reached⟩
    · exact absurd external internal
  · intro unmentioned unrivalled
    exact (kept_struct_cases assembled kept unrivalled).resolve_left unmentioned

end Assembled

theorem library_books_keep_their_authors :
    ∃ model, Model.assemble library libraryOptions = .ok model ∧
      ∃ book ∈ model.pruned.structs, book.name = "Book" ∧ book.name ∉ model.mentionedNames ∧
        ∃ field ∈ book.fields, field.type.baseName = "Author" ∧ model.Retains "Author" := by
  have books : (Model.assemble library libraryOptions).toOption.map (fun model =>
      decide (∃ book ∈ model.pruned.structs, book.name = "Book" ∧
        book.name ∉ model.mentionedNames ∧
        (∀ other ∈ model.structs ++ model.inputStructs,
          other.name = book.name → other.shape = book.shape) ∧
        ∃ field ∈ book.fields, field.type.baseName = "Author")) = some true := by
    decide +kernel
  obtain ⟨model, found, holds⟩ := Option.map_eq_some_iff.1 books
  obtain ⟨book, kept, named, unmentioned, unrivalled, field, member, author⟩ :=
    of_decide_eq_true holds
  have assembled := Outcome.ok_of_to_option found
  obtain ⟨ofFollowed, ofPaging, either⟩ := kept_structs_keep_what_they_name assembled kept
  have retained : model.Retains field.type.baseName := by
    rcases either unmentioned unrivalled with followed | paging
    · exact ofFollowed followed field member
    · exact ofPaging paging field member (by rw [author]; decide)
  exact ⟨model, assembled, book, kept, named, unmentioned, field, member, author,
    author ▸ retained⟩

/-- In the library, authors are kept for their name alone and lose their moods, and pages lose their
page information, which is a table's there. -/
theorem names_alone_dangle :
    ∃ model, Model.assemble library libraryOptions = .ok model ∧
      ¬model.Retains "Mood" ∧ ¬model.Retains "PageInfo" ∧ ¬model.PrunesClosed := by
  have lost : (Model.assemble library libraryOptions).toOption.map
      (fun model => (decide (model.Retains "Mood"), decide (model.Retains "PageInfo"),
        decide model.PrunesClosed)) = some (false, false, false) := by
    decide +kernel
  obtain ⟨model, found, same⟩ := Option.map_eq_some_iff.1 lost
  obtain ⟨mood, others⟩ := Prod.mk.inj same
  obtain ⟨information, closed⟩ := Prod.mk.inj others
  exact ⟨model, Outcome.ok_of_to_option found, of_decide_eq_false mood,
    of_decide_eq_false information, of_decide_eq_false closed⟩

end GraphSchema
