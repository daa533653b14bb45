import GraphSchema.Proofs.ColumnTypes
import GraphSchema.Proofs.FieldNumbers
import GraphSchema.Proofs.ModelReuse

/-!
Which parameters of a query share a field of its input. The number behind a field's name is found by
the number of the parameter alone, so a parameter that is used again under another name takes along
the number that it has, which may be that of another parameter of this name. The main result says
that this is the only way for two parameters to share a field.
-/

namespace GraphSchema

/-- The parameter's column names its field: it is no named parameter, and its name has a letter. -/
structure Parameter.NamesField (parameter : Parameter) : Prop where
  unnamed : parameter.column.isNamedParam = false
  lettered : ∃ c ∈ parameter.column.name.toList, c.isAlpha

theorem Parameter.NamesField.nonempty {parameter : Parameter} (names : parameter.NamesField) :
    parameter.column.name ≠ "" := by
  intro empty
  obtain ⟨c, member, _⟩ := names.lettered
  rw [empty] at member
  cases member

/-- Fields of one name come from parameters of one number, among those that name their fields. -/
def Struct.KeepsApart (input : Struct) (params : List Parameter) : Prop :=
  ∀ (leftPlace rightPlace : Nat) (left right : Parameter) (leftField rightField : Field),
    params[leftPlace]? = some left → params[rightPlace]? = some right →
    left.NamesField → right.NamesField →
    input.fields[leftPlace]? = some leftField → input.fields[rightPlace]? = some rightField →
    leftField.name = rightField.name → left.number = right.number

/-- Parameters of one number have one name in PascalCase, and all or none of them are named. -/
def SteadyNumbers (params : List Parameter) : Prop :=
  ∀ left ∈ params, ∀ right ∈ params, left.number = right.number →
    Naming.pascalCase left.column.name = Naming.pascalCase right.column.name ∧
      left.column.isNamedParam = right.column.isNamedParam

namespace Scope

variable {scope : Scope} {params : List Parameter} {parameter : Parameter}

theorem name_sources_append (start : Nat) (sources more : List FieldSource) :
    scope.nameSources start (sources ++ more) =
      scope.nameSources start sources ++ scope.nameSources (start + sources.length) more := by
  induction sources generalizing start with
  | nil => rfl
  | cons source rest ih =>
      rw [List.cons_append, nameSources, ih, nameSources, List.cons_append, List.length_cons,
        Nat.add_right_comm, Nat.add_assoc]

def namedParameters (scope : Scope) (params : List Parameter) : List NamedSource :=
  scope.nameSources 0 (params.map scope.parameterSource)

theorem named_parameter_at (place : Nat) :
    (scope.namedParameters params)[place]? =
      params[place]?.map fun parameter =>
        scope.nameSource place (scope.parameterSource parameter) := by
  rw [namedParameters, name_sources_at, List.getElem?_map, Option.map_map, Nat.zero_add]
  rfl

/-- The number of a parameter is first used by a named parameter, or under another name. -/
def Displaced (scope : Scope) (params : List Parameter) (parameter : Parameter) : Prop :=
  ∃ first, firstUse? (scope.namedParameters params) parameter.number = some first ∧
    (first.source.column.isNamedParam = true ∨
      first.base ≠ Naming.pascalCase parameter.column.name)

/-- A displaced parameter comes to the name and number of the field of another parameter. -/
structure TakesField (scope : Scope) (params : List Parameter) (displaced other : Parameter) :
    Prop where
  moved : scope.Displaced params displaced
  names : displaced.NamesField
  otherNames : other.NamesField
  sameName : Naming.pascalCase displaced.column.name = Naming.pascalCase other.column.name
  sameNumber : fieldNumber (scope.namedParameters params) displaced.number =
    fieldNumber (scope.namedParameters params) other.number
  differ : displaced.number ≠ other.number

theorem first_use_of_parameter (member : parameter ∈ params) :
    ∃ place first, params[place]? = some first ∧ first.number = parameter.number ∧
      firstUse? (scope.namedParameters params) parameter.number =
        some (scope.nameSource place (scope.parameterSource first)) := by
  obtain ⟨place, located⟩ := List.mem_iff_getElem?.1 member
  have among : scope.nameSource place (scope.parameterSource parameter) ∈
      scope.namedParameters params := by
    refine List.mem_iff_getElem?.2 ⟨place, ?_⟩
    rw [named_parameter_at, located, Option.map_some]
  cases used : firstUse? (scope.namedParameters params) parameter.number with
  | none => exact absurd (decide_eq_true rfl) (List.find?_eq_none.1 used _ among)
  | some named =>
      obtain ⟨firstPlace, firstNamed⟩ :=
        List.mem_iff_getElem?.1 (List.mem_of_find?_eq_some used)
      rw [named_parameter_at] at firstNamed
      obtain ⟨first, firstLocated, rfl⟩ := Option.map_eq_some_iff.1 firstNamed
      exact ⟨firstPlace, first, firstLocated, of_decide_eq_true (List.find?_some used :), rfl⟩

theorem parameter_field_number (annotated : AnnotatedQuery)
    (member : parameter ∈ annotated.query.params) :
    fieldNumber (scope.nameSources 0 (scope.argumentSources annotated)) parameter.number =
      fieldNumber (scope.namedParameters annotated.query.params) parameter.number := by
  obtain ⟨place, first, _, _, used⟩ := scope.first_use_of_parameter member
  rw [argumentSources, name_sources_append]
  exact field_number_append used _

theorem base_of_parameter (unrenamed : ∀ name, scope.options.rename.replacement? name = none)
    (nonempty : parameter.column.name ≠ "") (place : Nat) :
    (scope.nameSource place (scope.parameterSource parameter)).base =
      Naming.pascalCase parameter.column.name := by
  have label : Naming.columnLabel parameter.column.name place = parameter.column.name :=
    if_neg nonempty
  change scope.structName (Naming.columnLabel parameter.column.name place) = _
  rw [label, structName, Naming.structName, unrenamed, Option.getD_none]

theorem argument_source_of_parameter {annotated : AnnotatedQuery} {place : Nat}
    (located : annotated.query.params[place]? = some parameter) :
    (scope.argumentSources annotated)[place]? = some (scope.parameterSource parameter) := by
  have inParams : (annotated.query.params.map scope.parameterSource)[place]? =
      some (scope.parameterSource parameter) := by
    rw [List.getElem?_map, located, Option.map_some]
  rw [argumentSources, List.getElem?_append_left (List.getElem?_eq_some_iff.1 inParams).1]
  exact inParams

theorem input_field_of_parameter {annotated : AnnotatedQuery} {place : Nat}
    (unrenamed : ∀ name, scope.options.rename.replacement? name = none)
    (names : parameter.NamesField) (located : annotated.query.params[place]? = some parameter) :
    ∃ field, (scope.inputFields annotated)[place]? = some field ∧
      field.name = numberedName (Naming.pascalCase parameter.column.name)
        (fieldNumber (scope.namedParameters annotated.query.params) parameter.number) := by
  have shape := congrArg (·[place]?) (scope.input_fields_shape annotated)
  simp only [inputShape, row_fields_eq, List.getElem?_map, name_sources_at,
    argument_source_of_parameter located, Nat.zero_add, Option.map_some] at shape
  obtain ⟨field, stands, same⟩ := Option.map_eq_some_iff.1 shape
  refine ⟨field, stands, (Prod.mk.inj same).1.trans ?_⟩
  rw [← base_of_parameter unrenamed names.nonempty place,
    ← scope.parameter_field_number annotated (List.mem_of_getElem? located)]
  rfl

theorem keeps_apart_iff {annotated : AnnotatedQuery} {binding : StructBinding}
    (unrenamed : ∀ name, scope.options.rename.replacement? name = none)
    (made : scope.argument annotated = .ok (some (.struct binding))) :
    binding.struct.KeepsApart annotated.query.params ↔
      ∀ left ∈ annotated.query.params, ∀ right ∈ annotated.query.params,
        left.NamesField → right.NamesField →
        Naming.pascalCase left.column.name = Naming.pascalCase right.column.name →
        fieldNumber (scope.namedParameters annotated.query.params) left.number =
          fieldNumber (scope.namedParameters annotated.query.params) right.number →
        left.number = right.number := by
  obtain ⟨_, rfl⟩ := struct_argument_ok (struct_argument_made made)
  constructor
  · intro apart left leftMember right rightMember leftNames rightNames sameName sameNumber
    obtain ⟨leftPlace, leftLocated⟩ := List.mem_iff_getElem?.1 leftMember
    obtain ⟨rightPlace, rightLocated⟩ := List.mem_iff_getElem?.1 rightMember
    obtain ⟨leftField, leftStands, leftName⟩ :=
      input_field_of_parameter unrenamed leftNames leftLocated
    obtain ⟨rightField, rightStands, rightName⟩ :=
      input_field_of_parameter unrenamed rightNames rightLocated
    refine apart leftPlace rightPlace left right leftField rightField leftLocated rightLocated
      leftNames rightNames leftStands rightStands ?_
    rw [leftName, rightName, sameName, sameNumber]
  · intro apart leftPlace rightPlace left right leftField rightField leftLocated rightLocated
      leftNames rightNames leftStands rightStands shared
    obtain ⟨_, leftFound, leftName⟩ := input_field_of_parameter unrenamed leftNames leftLocated
    obtain ⟨_, rightFound, rightName⟩ := input_field_of_parameter unrenamed rightNames rightLocated
    obtain rfl := Option.some.inj (leftFound.symm.trans leftStands)
    obtain rfl := Option.some.inj (rightFound.symm.trans rightStands)
    rw [leftName, rightName] at shared
    obtain ⟨sameName, sameNumber⟩ := numbered_name_inj
      (Naming.numberable_of_letter leftNames.lettered)
      (Naming.numberable_of_letter rightNames.lettered) shared
    exact apart left (List.mem_of_getElem? leftLocated) right (List.mem_of_getElem? rightLocated)
      leftNames rightNames sameName sameNumber

/-- Where neither of two parameters is displaced, their numbers are first used under the name that
they share, so the later one counts the earlier. -/
theorem field_numbers_of_settled {left right : Parameter} (leftMember : left ∈ params)
    (rightMember : right ∈ params) (leftSettled : ¬scope.Displaced params left)
    (rightSettled : ¬scope.Displaced params right)
    (sameName : Naming.pascalCase left.column.name = Naming.pascalCase right.column.name)
    (sameNumber : fieldNumber (scope.namedParameters params) left.number =
      fieldNumber (scope.namedParameters params) right.number) : left.number = right.number := by
  obtain ⟨_, leftFirst, _, _, leftUsed⟩ := scope.first_use_of_parameter leftMember
  obtain ⟨_, rightFirst, _, _, rightUsed⟩ := scope.first_use_of_parameter rightMember
  have settled {parameter : Parameter} {first : NamedSource}
      (used : firstUse? (scope.namedParameters params) parameter.number = some first)
      (atHome : ¬scope.Displaced params parameter) :
      first.source.column.isNamedParam = false ∧
        first.base = Naming.pascalCase parameter.column.name := by
    simp only [Displaced, used, Option.some.injEq, exists_eq_left', not_or, not_not,
      Bool.not_eq_true] at atHome
    exact atHome
  obtain ⟨leftUnnamed, leftBase⟩ := settled leftUsed leftSettled
  obtain ⟨rightUnnamed, rightBase⟩ := settled rightUsed rightSettled
  by_contra differ
  have sameBase := leftBase.trans (sameName.trans rightBase.symm)
  exact field_numbers_differ differ leftUsed rightUsed leftUnnamed rightUnnamed sameBase sameNumber

theorem settled_of_steady (unrenamed : ∀ name, scope.options.rename.replacement? name = none)
    (steady : SteadyNumbers params) (member : parameter ∈ params) (names : parameter.NamesField) :
    ¬scope.Displaced params parameter := by
  rintro ⟨named, used, moved⟩
  obtain ⟨place, first, located, sameNumber, firstUsed⟩ := scope.first_use_of_parameter member
  obtain rfl := Option.some.inj (firstUsed.symm.trans used)
  obtain ⟨sameName, sameMark⟩ :=
    steady first (List.mem_of_getElem? located) parameter member sameNumber
  have nonempty : first.column.name ≠ "" := by
    intro empty
    have plain := (Naming.numberable_of_letter names.lettered).nonempty
    rw [← sameName, empty] at plain
    exact plain rfl
  rcases moved with marked | renamed
  · exact absurd (names.unnamed.symm.trans (sameMark.symm.trans marked)) (by decide)
  · exact renamed ((base_of_parameter unrenamed nonempty place).trans sameName)

/-- Without renames, the input of a query keeps its parameters apart unless a displaced one takes
the field of another, which does not happen where the numbers are steady. -/
theorem input_keeps_parameters_apart_iff {annotated : AnnotatedQuery} {binding : StructBinding}
    (unrenamed : ∀ name, scope.options.rename.replacement? name = none)
    (made : scope.argument annotated = .ok (some (.struct binding))) :
    (binding.struct.KeepsApart annotated.query.params ↔
      ∀ displaced ∈ annotated.query.params, ∀ other ∈ annotated.query.params,
        ¬scope.TakesField annotated.query.params displaced other) ∧
      (SteadyNumbers annotated.query.params →
        binding.struct.KeepsApart annotated.query.params) := by
  have apartIff : binding.struct.KeepsApart annotated.query.params ↔
      ∀ displaced ∈ annotated.query.params, ∀ other ∈ annotated.query.params,
        ¬scope.TakesField annotated.query.params displaced other := by
    rw [keeps_apart_iff unrenamed made]
    constructor
    · intro apart displaced member other otherMember takes
      exact takes.differ (apart displaced member other otherMember takes.names takes.otherNames
        takes.sameName takes.sameNumber)
    · intro clear left leftMember right rightMember leftNames rightNames sameName sameNumber
      by_contra differ
      have leftSettled : ¬scope.Displaced annotated.query.params left := fun moved =>
        clear left leftMember right rightMember
          ⟨moved, leftNames, rightNames, sameName, sameNumber, differ⟩
      have rightSettled : ¬scope.Displaced annotated.query.params right := fun moved =>
        clear right rightMember left leftMember
          ⟨moved, rightNames, leftNames, sameName.symm, sameNumber.symm, Ne.symm differ⟩
      exact differ (field_numbers_of_settled leftMember rightMember leftSettled rightSettled
        sameName sameNumber)
  refine ⟨apartIff, fun steady => apartIff.2 ?_⟩
  intro displaced member other _ takes
  exact settled_of_steady unrenamed steady member takes.names takes.moved

def inputNames? (scope : Scope) (query : Query) : Option (List String) := do
  let annotated ← AnnotatedQuery.ofQuery? query
  let argument ← (scope.argument annotated).toOption
  let input ← argument.bind Binding.struct?
  return input.fields.map fun field => field.name

theorem struct_argument_of_names {query : Query} {names : List String}
    (named : scope.inputNames? query = some names) :
    ∃ annotated binding, annotated.query = query ∧
      scope.argument annotated = .ok (some (.struct binding)) ∧
      (binding.struct.fields.map fun field => field.name) = names := by
  obtain ⟨annotated, annotates, taken⟩ := Option.bind_eq_some_iff.1 named
  obtain ⟨argument, succeeded, found⟩ := Option.bind_eq_some_iff.1 taken
  obtain ⟨input, bound, same⟩ := Option.bind_eq_some_iff.1 found
  obtain ⟨binding, rfl, asStruct⟩ := Option.bind_eq_some_iff.1 bound
  cases binding with
  | scalar _ => cases asStruct
  | struct binding =>
      cases asStruct
      exact ⟨annotated, binding, annotated_query_eq annotates, Outcome.ok_of_to_option succeeded,
        Option.some.inj same⟩

def searchNames : Query where
  name := "SearchNames"
  command := some .many
  params := [
    { number := 1, column := plainColumn none "name" "text" },
    { number := 2, column := plainColumn none "name" "text" },
    { number := 3, column := plainColumn none "title" "text" },
    { number := 2, column := plainColumn none "name" "text" }]
  comments := ["gql: Query.searchNames"]

theorem searched_names_stay_apart :
    ∃ annotated binding, annotated.query = searchNames ∧
      (ofRequest {} { package := "db" }).argument annotated = .ok (some (.struct binding)) ∧
      (binding.struct.fields.map fun field => field.name) =
        ["Name", "Name_2", "Title", "Name_2"] ∧
      binding.struct.KeepsApart searchNames.params := by
  have fields : (ofRequest {} { package := "db" }).inputNames? searchNames =
      some ["Name", "Name_2", "Title", "Name_2"] := by
    decide +kernel
  have steady : SteadyNumbers searchNames.params := by
    unfold SteadyNumbers
    decide +kernel
  obtain ⟨annotated, binding, same, made, names⟩ := struct_argument_of_names fields
  refine ⟨annotated, binding, same, made, names, ?_⟩
  rw [← same] at steady ⊢
  exact (input_keeps_parameters_apart_iff (fun _ => rfl) made).2 steady

def moveBooks : Query where
  name := "MoveBooks"
  command := some .exec
  params := [
    { number := 1, column := plainColumn none "source" "uuid" },
    { number := 2, column := plainColumn none "target" "uuid" },
    { number := 1, column := plainColumn none "target" "uuid" }]
  comments := ["gql: Mutation.moveBooks"]

theorem targets_share_a_field :
    (∀ name, (ofRequest {} { package := "db" }).options.rename.replacement? name = none) ∧
      ∃ annotated binding, annotated.query = moveBooks ∧
        (ofRequest {} { package := "db" }).argument annotated = .ok (some (.struct binding)) ∧
        ¬binding.struct.KeepsApart moveBooks.params := by
  have fields : (ofRequest {} { package := "db" }).inputNames? moveBooks =
      some ["Source", "Target", "Target"] := by
    decide +kernel
  obtain ⟨annotated, binding, same, made, names⟩ := struct_argument_of_names fields
  refine ⟨fun _ => rfl, annotated, binding, same, made, ?_⟩
  intro apart
  obtain ⟨source, _, split, _, later⟩ := List.map_eq_cons_iff.1 names
  obtain ⟨second, _, rest, secondName, last⟩ := List.map_eq_cons_iff.1 later
  obtain ⟨third, _, tail, thirdName, _⟩ := List.map_eq_cons_iff.1 last
  have letters : ∃ c ∈ "target".toList, c.isAlpha = true := ⟨'t', by decide, by decide⟩
  have numbers := apart 1 2 _ _ second third rfl rfl ⟨rfl, letters⟩ ⟨rfl, letters⟩
    (by rw [split, rest]; rfl) (by rw [split, rest, tail]; rfl) (secondName.trans thirdName.symm)
  exact absurd numbers (by decide)

end Scope

end GraphSchema
