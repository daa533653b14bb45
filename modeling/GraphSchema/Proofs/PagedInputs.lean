import GraphSchema.Proofs.ParameterFields

/-!
The input of a paginated query. Pagination puts two named parameters behind those of the query and
numbers them past all of theirs, so that the two never get or change a number. They do take part in
settling the types: a field whose type is unknown takes the type of one of them where the two share
a base name. The main result says that nothing else comes of it.
-/

namespace GraphSchema

def Pagination.pageFields : Pagination → List (String × TypeRef)
  | .offset =>
      [("Limit", { scalar := .int, nonNull := true }),
        ("Offset", { scalar := .int, nonNull := true })]
  | .cursor =>
      [("First", { scalar := .int, nonNull := true }),
        ("After", { scalar := .string, nonNull := true })]

theorem Pagination.page_fields_known (mode : Pagination) :
    ∀ entry ∈ mode.pageFields, entry.2.isUnknown = false := by
  cases mode <;> decide

/-- The type of a field beside those of a mode: one that is unknown alone takes the type that the
mode gives to its base name. -/
def Pagination.typeBeside (mode : Pagination) (base : String) (lone : TypeRef) : TypeRef :=
  if lone.isUnknown then (mode.pageFields.lookup base).getD lone else lone

/-- The field names of pagination are spelled as they stand. -/
def Renames.SparesPages (renames : Renames) : Prop :=
  ∀ name ∈ ["first", "after", "limit", "offset"], renames.replacement? name = none

theorem number_lt_next {params : List Parameter} {parameter : Parameter}
    (member : parameter ∈ params) : parameter.number < nextNumber params := by
  have among : parameter.number ∈ params.map Parameter.number := List.mem_map_of_mem member
  unfold nextNumber
  cases greatest : (params.map Parameter.number).max? with
  | none =>
      rw [List.max?_eq_none_iff.1 greatest] at among
      cases among
  | some number =>
      have bound := (List.max?_eq_some_iff.1 greatest).2 parameter.number among
      rw [Option.getD_some]
      omega

theorem next_number_le {params : List Parameter} {bound : Int} (positive : 0 < bound)
    (below : ∀ parameter ∈ params, parameter.number < bound) : nextNumber params ≤ bound := by
  unfold nextNumber
  cases greatest : (params.map Parameter.number).max? with
  | none =>
      rw [Option.getD_none]
      omega
  | some number =>
      obtain ⟨parameter, member, rfl⟩ :=
        List.mem_map.1 (List.max?_eq_some_iff.1 greatest).1
      have bounded := below parameter member
      rw [Option.getD_some]
      omega

theorem page_parameter_of_mem {mode : Pagination} {next : Int} {page : FieldSource}
    (member : page ∈ mode.parameters next) :
    (page.id = next ∨ page.id = next + 1) ∧ page.column.isNamedParam = true ∧
      page.ownType.isUnknown = false := by
  cases mode with
  | offset =>
      simp only [Pagination.parameters, List.mem_cons, List.not_mem_nil, or_false] at member
      rcases member with rfl | rfl
      · exact ⟨Or.inl rfl, rfl, rfl⟩
      · exact ⟨Or.inr rfl, rfl, rfl⟩
  | cursor =>
      simp only [Pagination.parameters, List.mem_cons, List.not_mem_nil, or_false] at member
      rcases member with rfl | rfl
      · exact ⟨Or.inl rfl, rfl, rfl⟩
      · exact ⟨Or.inr rfl, rfl, rfl⟩

/-- A named parameter of a number past all before it gets no number behind its name. -/
theorem field_number_of_fresh {passed rest : List NamedSource} {named : NamedSource}
    (fresh : ∀ earlier ∈ passed, earlier.source.id < named.source.id)
    (isNamed : named.source.column.isNamedParam = true) :
    fieldNumber (passed ++ named :: rest) named.source.id = 0 := by
  have new : firstUse? passed named.source.id = none := by
    apply List.find?_eq_none.2
    intro earlier member
    have less := fresh earlier member
    simp only [decide_eq_true_eq]
    omega
  rw [field_number_of_new new, NamedSource.numberBehind, isNamed]
  simp

/-- Sources behind change a final type only where it is unknown without them. -/
theorem final_type_append (sources more : List NamedSource) (named : NamedSource) :
    named.finalType (sources ++ more) =
      if (named.finalType sources).isUnknown then
        (knownType? (more.map NamedSource.typed) named.base).getD (named.finalType sources)
      else named.finalType sources := by
  unfold NamedSource.finalType
  rw [List.map_append, known_type_append]
  cases unknown : named.source.ownType.isUnknown with
  | false => simp [unknown]
  | true =>
      cases found : knownType? (sources.map NamedSource.typed) named.base with
      | none => simp [unknown]
      | some type => simp [known_type_known found]

theorem known_type_of_known {typed : List (String × TypeRef)}
    (known : ∀ entry ∈ typed, entry.2.isUnknown = false) (base : String) :
    knownType? typed base = typed.lookup base := by
  induction typed with
  | nil => rfl
  | cons entry rest ih =>
      have later := ih fun other member => known other (List.mem_cons_of_mem _ member)
      have own := known entry List.mem_cons_self
      obtain ⟨name, type⟩ := entry
      rw [List.lookup_cons]
      by_cases same : name = base
      · subst same
        simp [knownType?, own]
      · have other : (base == name) = false := beq_eq_false_iff_ne.2 (Ne.symm same)
        rw [known_type_past_other same, later, other]

namespace Scope

variable {scope : Scope} {annotated : AnnotatedQuery} {mode : Pagination}

def pageSources (scope : Scope) (mode : Pagination) (params : List Parameter) : List NamedSource :=
  scope.nameSources params.length (mode.parameters (nextNumber params))

theorem page_source_of_mem {params : List Parameter} {page : NamedSource}
    (member : page ∈ scope.pageSources mode params) :
    (page.source.id = nextNumber params ∨ page.source.id = nextNumber params + 1) ∧
      page.source.column.isNamedParam = true ∧ page.source.ownType.isUnknown = false :=
  page_parameter_of_mem (named_source_mem member)

theorem page_sources_typed (mode : Pagination) (spared : scope.options.rename.SparesPages)
    (params : List Parameter) :
    (scope.pageSources mode params).map NamedSource.typed = mode.pageFields := by
  have spelled : ∀ name ∈ ["first", "after", "limit", "offset"],
      scope.structName name = Naming.pascalCase name := by
    intro name member
    rw [structName, Naming.structName, spared name member, Option.getD_none]
  have first : scope.structName "first" = "First" := (spelled _ (by simp)).trans (by decide +kernel)
  have after : scope.structName "after" = "After" := (spelled _ (by simp)).trans (by decide +kernel)
  have limit : scope.structName "limit" = "Limit" := (spelled _ (by simp)).trans (by decide +kernel)
  have offset : scope.structName "offset" = "Offset" :=
    (spelled _ (by simp)).trans (by decide +kernel)
  cases mode with
  | offset =>
      change [(scope.structName "limit", _), (scope.structName "offset", _)] = _
      rw [limit, offset]
      rfl
  | cursor =>
      change [(scope.structName "first", _), (scope.structName "after", _)] = _
      rw [first, after]
      rfl

theorem paged_sources (paged : annotated.pagination = some mode) :
    scope.nameSources 0 (scope.argumentSources annotated) =
      scope.namedParameters annotated.query.params ++
        scope.pageSources mode annotated.query.params := by
  rw [argumentSources, paged, name_sources_append, List.length_map, Nat.zero_add]
  rfl

theorem page_sources_numbered (scope : Scope) (mode : Pagination) (params : List Parameter) :
    (scope.pageSources mode params).Pairwise
      fun earlier later => earlier.source.id < later.source.id := by
  cases mode with
  | offset =>
      simp only [pageSources, Pagination.parameters, nameSources, pageParameter,
        List.pairwise_pair]
      omega
  | cursor =>
      simp only [pageSources, Pagination.parameters, nameSources, pageParameter,
        List.pairwise_pair]
      omega

theorem named_parameter_number {named : NamedSource} {params : List Parameter}
    (member : named ∈ scope.namedParameters params) :
    ∃ parameter ∈ params, named.source.id = parameter.number := by
  obtain ⟨parameter, among, same⟩ := List.mem_map.1 (named_source_mem member)
  exact ⟨parameter, among, congrArg FieldSource.id same.symm⟩

theorem page_field_number {params : List Parameter} {page : NamedSource}
    (member : page ∈ scope.pageSources mode params) :
    fieldNumber (scope.namedParameters params ++ scope.pageSources mode params)
      page.source.id = 0 := by
  obtain ⟨id, isNamed, _⟩ := page_source_of_mem member
  have increasing := scope.page_sources_numbered mode params
  obtain ⟨before, after, split⟩ := List.append_of_mem member
  rw [split] at increasing ⊢
  rw [← List.append_assoc]
  apply field_number_of_fresh _ isNamed
  intro earlier among
  rcases List.mem_append.1 among with real | added
  · obtain ⟨parameter, inParams, same⟩ := named_parameter_number real
    have less := number_lt_next inParams
    omega
  · exact (List.pairwise_append.1 increasing).2.2 earlier added page List.mem_cons_self

/-- The fields that the input of a query would have without pagination. -/
def loneFields (scope : Scope) (annotated : AnnotatedQuery) : List Field :=
  scope.rowFields (inputName annotated) (annotated.query.params.map scope.parameterSource)

def pagedField (scope : Scope) (annotated : AnnotatedQuery) (named : NamedSource) : Field :=
  let all := scope.nameSources 0 (scope.argumentSources annotated)
  withAlias (scope.rowField (inputName annotated) named (fieldNumber all named.source.id)
    (named.finalType all))

theorem paged_argument {argument : Option Binding} (paged : annotated.pagination = some mode)
    (made : scope.argument annotated = .ok argument) :
    ∃ binding, argument = some (.struct binding) := by
  rcases argument_cases made with ⟨unpaged, _⟩ | ⟨_, unpaged, _⟩ | ⟨binding, _, same⟩
  · rw [unpaged] at paged
    cases paged
  · rw [unpaged] at paged
    cases paged
  · exact ⟨binding, same⟩

theorem paged_input_fields (paged : annotated.pagination = some mode) :
    scope.inputFields annotated =
      (scope.namedParameters annotated.query.params).map (scope.pagedField annotated) ++
        (scope.pageSources mode annotated.query.params).map (scope.pagedField annotated) := by
  rw [← List.map_append, ← paged_sources paged, inputFields, row_fields_eq, paged]
  exact List.map_map

theorem paged_field_shape (scope : Scope) (annotated : AnnotatedQuery) (named : NamedSource) :
    (scope.pagedField annotated named).column = some named.source.column ∧
      (scope.pagedField annotated named).name = numberedName named.base
        (fieldNumber (scope.nameSources 0 (scope.argumentSources annotated)) named.source.id) ∧
      (scope.pagedField annotated named).type =
        named.finalType (scope.nameSources 0 (scope.argumentSources annotated)) := by
  obtain ⟨directive, same⟩ := with_alias_directive
    (scope.rowField (inputName annotated) named
      (fieldNumber (scope.nameSources 0 (scope.argumentSources annotated)) named.source.id)
      (named.finalType (scope.nameSources 0 (scope.argumentSources annotated))))
  rw [pagedField, same]
  exact ⟨rfl, rfl, rfl⟩

theorem paged_field_at {place : Nat} {parameter : Parameter}
    (located : annotated.query.params[place]? = some parameter) :
    ((scope.namedParameters annotated.query.params).map (scope.pagedField annotated))[place]? =
      some (scope.pagedField annotated
        (scope.nameSource place (scope.parameterSource parameter))) := by
  rw [List.getElem?_map, named_parameter_at, located]
  rfl

theorem page_fields_of_paged (spared : scope.options.rename.SparesPages)
    (paged : annotated.pagination = some mode) :
    ((scope.pageSources mode annotated.query.params).map (scope.pagedField annotated)).map
      (fun field => (field.name, field.type)) = mode.pageFields := by
  rw [← page_sources_typed mode spared annotated.query.params, List.map_map]
  apply List.map_congr_left
  intro page member
  obtain ⟨_, _, known⟩ := page_source_of_mem member
  obtain ⟨_, name, type⟩ := scope.paged_field_shape annotated page
  rw [Function.comp_apply, name, type, paged_sources paged, page_field_number member]
  simp [NamedSource.finalType, NamedSource.typed, known, numberedName]

/-- The field of a parameter is the one that it has alone, but for an unknown type that pagination
knows. -/
theorem parameter_field_of_paged (spared : scope.options.rename.SparesPages)
    (paged : annotated.pagination = some mode) {place : Nat} {parameter : Parameter}
    (located : annotated.query.params[place]? = some parameter) :
    ∃ field lone : Field,
      ((scope.namedParameters annotated.query.params).map
        (scope.pagedField annotated))[place]? = some field ∧
      (scope.loneFields annotated)[place]? = some lone ∧
      field.column = some parameter.column ∧ field.name = lone.name ∧
      field.type = mode.typeBeside
        (scope.structName (Naming.columnLabel parameter.column.name place)) lone.type := by
  have source : (annotated.query.params.map scope.parameterSource)[place]? =
      some (scope.parameterSource parameter) := by
    rw [List.getElem?_map, located, Option.map_some]
  obtain ⟨column, name, type⟩ := scope.paged_field_shape annotated
    (scope.nameSource place (scope.parameterSource parameter))
  have typed := page_sources_typed mode spared annotated.query.params
  refine ⟨_, _, paged_field_at located, row_field_of_source source _, column, ?_, ?_⟩
  · have number := scope.parameter_field_number annotated (List.mem_of_getElem? located)
    exact name.trans (congrArg (numberedName _) number)
  · rw [type, paged_sources paged, final_type_append, typed,
      known_type_of_known mode.page_fields_known]
    rfl

/-- A paginated query takes an input of the parameters' fields and the two of pagination, whose
numbers are free and no larger than 32 bits allow. The two keep their names and types; the others
keep the names that they have alone, and the types unless they are unknown there. -/
theorem pagination_appends {argument : Option Binding} (paged : annotated.pagination = some mode)
    (spared : scope.options.rename.SparesPages)
    (small : ∀ parameter ∈ annotated.query.params, parameter.number < 2147483646)
    (made : scope.argument annotated = .ok argument) :
    (∀ page ∈ mode.parameters (nextNumber annotated.query.params), page.id ≤ 2147483647 ∧
      ∀ parameter ∈ annotated.query.params, parameter.number < page.id) ∧
    ∃ (binding : StructBinding) (real pages : List Field), argument = some (.struct binding) ∧
      binding.struct.fields = real ++ pages ∧
      (pages.map fun field => (field.name, field.type)) = mode.pageFields ∧
      real.length = annotated.query.params.length ∧
      ∀ (place : Nat) (parameter : Parameter), annotated.query.params[place]? = some parameter →
        ∃ field lone : Field, real[place]? = some field ∧
          (scope.loneFields annotated)[place]? = some lone ∧
          field.column = some parameter.column ∧ field.name = lone.name ∧
          field.type = mode.typeBeside
            (scope.structName (Naming.columnLabel parameter.column.name place)) lone.type := by
  constructor
  · intro page member
    obtain ⟨id, _, _⟩ := page_parameter_of_mem member
    have next := next_number_le (by decide) small
    constructor
    · omega
    · intro parameter among
      have less := number_lt_next among
      omega
  · obtain ⟨binding, rfl⟩ := paged_argument paged made
    obtain ⟨_, rfl⟩ := struct_argument_ok (struct_argument_made made)
    refine ⟨_, _, _, rfl, paged_input_fields paged, page_fields_of_paged spared paged, ?_, ?_⟩
    · rw [List.length_map, namedParameters, name_sources_length, List.length_map]
    · intro place parameter located
      exact parameter_field_of_paged spared paged located

/-- Pages of titles by name and rank. The limit's type is unknown to the catalog, the numbers of the
parameters fall, and two of them have one name. -/
def titlePages : AnnotatedQuery where
  query := {
    name := "TitlePages"
    command := some .many
    params := [
      { number := 2, column := plainColumn none "name" "text" },
      { number := 0, column := plainColumn none "name" "text" },
      { number := -1, column := plainColumn none "rank" "tsvector" },
      { number := 2, column := plainColumn none "limit" "tsvector" }]
    comments := ["gql: Query.titlePages", "paginated"] }
  command := .many
  binding := {
    operation := "Query"
    resolver := "titlePages"
    returnType := none
    directive := none }
  pagination := some .offset
  comments := []

theorem title_pages_appended :
    ∃ (binding : StructBinding) (real pages : List Field),
      (ofRequest {} { package := "db" }).argument titlePages = .ok (some (.struct binding)) ∧
      binding.struct.fields = real ++ pages ∧
      (real.map fun field => (field.name, field.type.render)) =
        [("Name", "String!"), ("Name_2", "String!"), ("Rank", "Unknown!"), ("Limit", "Int!")] ∧
      (pages.map fun field => (field.name, field.type.render)) =
        [("Limit", "Int!"), ("Offset", "Int!")] := by
  have shapes : ((ofRequest {} { package := "db" }).argument titlePages).toOption.map
      (fun argument => (argument.bind Binding.struct?).map fun input =>
        input.fields.map fun field => (field.name, field.type.render)) =
      some (some [("Name", "String!"), ("Name_2", "String!"), ("Rank", "Unknown!"),
        ("Limit", "Int!"), ("Limit", "Int!"), ("Offset", "Int!")]) := by
    decide +kernel
  obtain ⟨argument, succeeded, shaped⟩ := Option.map_eq_some_iff.1 shapes
  have made := Outcome.ok_of_to_option succeeded
  have paged : titlePages.pagination = some .offset := rfl
  obtain ⟨_, binding, real, pages, rfl, fields, _, length, _⟩ :=
    pagination_appends paged (fun _ _ => rfl) (by decide) made
  obtain ⟨input, bound, parted⟩ := Option.map_eq_some_iff.1 shaped
  obtain rfl := Option.some.inj bound
  rw [fields, List.map_append] at parted
  change _ = [("Name", "String!"), ("Name_2", "String!"), ("Rank", "Unknown!"),
    ("Limit", "Int!")] ++ _ at parted
  obtain ⟨first, second⟩ := List.append_inj parted ((List.length_map _).trans length)
  exact ⟨binding, real, pages, made, fields, first, second⟩

end Scope

end GraphSchema
