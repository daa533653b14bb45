import GraphSchema.Proofs.ColumnTypes
import GraphSchema.Proofs.DocumentPlan
import GraphSchema.Proofs.FieldTypes
import GraphSchema.Proofs.PrunedReferences

/-!
What the documents show of fields that are to be hidden. Every struct is shown in them without its
hidden fields, whether it is one of the model's, an input or a result, and nothing else of it is
left out. But a field that stands for a row of a model has a copy of the model's fields, and rules
are not applied to the copy. The main result says which generations leak a field in this way: those
with a result that shows a field for a model with a hidden field.
-/

namespace GraphSchema

def BoundQuery.boundStructs (query : BoundQuery) : List Struct :=
  query.inputStruct?.toList ++ query.resultStruct?.toList

def PlannedDocument.shownStructs (document : PlannedDocument) : List Struct :=
  document.structs ++ document.queries.flatMap BoundQuery.boundStructs

namespace ExcludeRules

variable {rules : ExcludeRules} {struct shown : Struct} {model : Model}
  {documents : List PlannedDocument}

/-- None of the fields that a field has copies of is one to hide in the type that it stands for. -/
def HidesParts (rules : ExcludeRules) (field : Field) : Prop :=
  ∀ part ∈ field.embedded, rules.isExcluded field.type.baseName part.graphqlName = false

/-- Documents show the structs of a model in their order, and its queries in that of their sources,
without the fields that are to be hidden. -/
structure ShowsModel (rules : ExcludeRules) (model : Model) (documents : List PlannedDocument) :
    Prop where
  structs : List.Forall₂ rules.Shows model.structs (documents.flatMap PlannedDocument.structs)
  queries : List.Forall₂ rules.Publishes (Text.sortBy BoundQuery.sourceName model.queries)
    (documents.flatMap PlannedDocument.queries)

/-- The fields that a struct shows stand for models of which nothing is to be hidden. -/
def StandsForShown (rules : ExcludeRules) (models : List Struct) (struct : Struct) : Prop :=
  ∀ field ∈ struct.fields, rules.isExcluded struct.name field.graphqlName = false →
    ∀ model ∈ models, field.StandsFor model →
      ∀ own ∈ model.fields, rules.isExcluded model.name own.graphqlName = false

instance (models : List Struct) (struct : Struct) :
    Decidable (rules.StandsForShown models struct) :=
  inferInstanceAs (Decidable (∀ field ∈ struct.fields, _))

theorem Shows.mem_fields_iff (shows : rules.Shows struct shown) (field : Field) :
    field ∈ shown.fields ↔
      field ∈ struct.fields ∧ rules.isExcluded struct.name field.graphqlName = false := by
  rw [shows.fields, List.mem_filter, Bool.not_eq_true']

theorem Shows.hidden (shows : rules.Shows struct shown) {field : Field}
    (member : field ∈ shown.fields) : rules.isExcluded shown.name field.graphqlName = false := by
  have sameName : shown.name = struct.name := by rw [shows.rest]
  rw [sameName]
  exact ((shows.mem_fields_iff field).1 member).2

theorem ShowsBinding.structs {binding shown : Option Binding}
    (shows : rules.ShowsBinding binding shown) :
    List.Forall₂ rules.Shows (binding.bind Binding.struct?).toList
      (shown.bind Binding.struct?).toList := by
  cases shows with
  | absent => exact .nil
  | scalar binding => exact .nil
  | struct shows => exact .cons shows .nil

theorem Publishes.bound_structs {query shown : BoundQuery}
    (publishes : rules.Publishes query shown) :
    List.Forall₂ rules.Shows query.boundStructs shown.boundStructs :=
  List.rel_append publishes.argument.structs publishes.result.structs

theorem ShowsModel.origin (shows : rules.ShowsModel model documents) {document : PlannedDocument}
    (member : document ∈ documents) (among : shown ∈ document.shownStructs) :
    ∃ struct ∈ model.structs ++ model.boundStructs, rules.Shows struct shown := by
  rcases List.mem_append.1 among with own | bound
  · obtain ⟨struct, inModel, shownAs⟩ :=
      Outcome.exists_item shows.structs (List.mem_flatMap.2 ⟨document, member, own⟩)
    exact ⟨struct, List.mem_append_left _ inModel, shownAs⟩
  · obtain ⟨query, queryMember, ofQuery⟩ := List.mem_flatMap.1 bound
    obtain ⟨original, sorted, publishes⟩ :=
      Outcome.exists_item shows.queries (List.mem_flatMap.2 ⟨document, member, queryMember⟩)
    obtain ⟨struct, inOriginal, shownAs⟩ := Outcome.exists_item publishes.bound_structs ofQuery
    have inModel := (Text.perm_sortBy BoundQuery.sourceName model.queries).mem_iff.1 sorted
    have inBound := List.mem_flatMap.2 ⟨original, inModel, inOriginal⟩
    exact ⟨struct, List.mem_append_right _ inBound, shownAs⟩

theorem ShowsModel.image (shows : rules.ShowsModel model documents)
    (member : struct ∈ model.structs ++ model.boundStructs) :
    ∃ document ∈ documents, ∃ shown ∈ document.shownStructs, rules.Shows struct shown := by
  rcases List.mem_append.1 member with own | bound
  · obtain ⟨shown, among, shownAs⟩ := Outcome.exists_result shows.structs own
    obtain ⟨document, inDocuments, inStructs⟩ := List.mem_flatMap.1 among
    exact ⟨document, inDocuments, shown, List.mem_append_left _ inStructs, shownAs⟩
  · obtain ⟨query, queryMember, ofQuery⟩ := List.mem_flatMap.1 bound
    have sorted := (Text.perm_sortBy BoundQuery.sourceName model.queries).mem_iff.2 queryMember
    obtain ⟨published, among, publishes⟩ := Outcome.exists_result shows.queries sorted
    obtain ⟨document, inDocuments, inQueries⟩ := List.mem_flatMap.1 among
    obtain ⟨shown, inPublished, shownAs⟩ := Outcome.exists_result publishes.bound_structs ofQuery
    have inShown := List.mem_flatMap.2 ⟨published, inQueries, inPublished⟩
    exact ⟨document, inDocuments, shown, List.mem_append_right _ inShown, shownAs⟩

theorem plan_shows_model (options : ResolvedOptions) (toolVersion : String) (model : Model) :
    options.exclude.ShowsModel model
      (options.planDocuments toolVersion model.enums model.structs model.queries) := by
  have ascending := ascending_sorted_distinct (model.queries.map BoundQuery.sourceName)
  have noStructs (sources : List String) :
      (sources.map (options.sourceDocument toolVersion model.queries)).flatMap
        PlannedDocument.structs = [] :=
    List.flatMap_eq_nil_iff.2 (List.forall_mem_map.2 fun _ _ => rfl)
  have structs : (options.planDocuments toolVersion model.enums model.structs
      model.queries).flatMap PlannedDocument.structs =
        model.structs.map options.exclude.visible := by
    rw [ResolvedOptions.planDocuments, List.flatMap_cons, List.flatMap_append, noStructs,
      List.append_nil]
    split <;> exact List.append_nil _
  have queries : (options.planDocuments toolVersion model.enums model.structs
      model.queries).flatMap PlannedDocument.queries =
        (Text.sortBy BoundQuery.sourceName model.queries).map options.exclude.visibleQuery := by
    rw [ResolvedOptions.planDocuments, List.flatMap_cons, List.flatMap_append,
      options.source_documents_in_order toolVersion model.queries ascending]
    split <;> rfl
  constructor
  · rw [structs]
    exact forall₂_map_of_each options.exclude.shows_visible _
  · rw [queries]
    exact forall₂_map_of_each options.exclude.publishes_visible_query _

theorem ShowsModel.hides_parts_iff (shows : rules.ShowsModel model documents) :
    (∀ document ∈ documents, ∀ shown ∈ document.shownStructs, ∀ field ∈ shown.fields,
      rules.HidesParts field) ↔
    ∀ struct ∈ model.structs ++ model.boundStructs, ∀ field ∈ struct.fields,
      rules.isExcluded struct.name field.graphqlName = false → rules.HidesParts field := by
  constructor
  · intro hides struct member field inFields unhidden
    obtain ⟨document, inDocuments, shown, among, shownAs⟩ := shows.image member
    exact hides document inDocuments shown among field
      ((shownAs.mem_fields_iff field).2 ⟨inFields, unhidden⟩)
  · intro hides document inDocuments shown among field inShown
    obtain ⟨struct, member, shownAs⟩ := shows.origin inDocuments among
    obtain ⟨inFields, unhidden⟩ := (shownAs.mem_fields_iff field).1 inShown
    exact hides struct member field inFields unhidden

end ExcludeRules

namespace Generated

variable {request : Request} {options : ResolvedOptions} {fed : List Struct} {output : Output}

theorem embedding_struct_is_result (generated : Generated request options fed output)
    {struct : Struct} (member : struct ∈ output.structs ++ output.boundStructs) {field : Field}
    (inFields : field ∈ struct.fields) (embeds : field.embedded ≠ []) :
    ∃ query ∈ output.queries, query.resultStruct? = some struct := by
  rcases List.mem_append.1 member with own | bound
  · rcases generated.struct_cases own with declared | ⟨query, queryMember, added⟩
    · exact absurd (Scope.model_field_embeds_nothing declared inFields) embeds
    · obtain ⟨binding, found, ⟨_, rfl⟩ | ⟨mode, _, page⟩⟩ := mem_added_structs_iff.1 added
      · exact ⟨query, queryMember, result_struct_eq_some_iff.2 ⟨binding, found, rfl⟩⟩
      · have plain := (Scope.companion_fields_plain page).2 field inFields
        exact absurd plain.2 embeds
  · obtain ⟨query, queryMember, ofQuery⟩ := List.mem_flatMap.1 bound
    rcases List.mem_append.1 ofQuery with input | result
    · obtain ⟨binding, found, inStruct⟩ := Option.bind_eq_some_iff.1 (Option.mem_toList.1 input)
      obtain ⟨annotated, _, binds⟩ := Scope.bound_query_origin generated.bound queryMember
      have made := found ▸ binds.argument
      exact absurd (Scope.argument_field_embeds_nothing made inStruct inFields) embeds
    · exact ⟨query, queryMember, Option.mem_toList.1 result⟩

theorem result_field_origin (generated : Generated request options fed output) {query : BoundQuery}
    (queryMember : query ∈ output.queries) {row : Struct} (found : query.resultStruct? = some row)
    {field : Field} (inFields : field ∈ row.fields) (embeds : field.embedded ≠ []) :
    ∃ model ∈ (Scope.ofRequest request options).models, field.StandsFor model := by
  obtain ⟨binding, result, rfl⟩ := result_struct_eq_some_iff.1 found
  obtain ⟨annotated, _, made⟩ := Scope.bound_result_origin generated.bound queryMember result
  exact Scope.embedding_field_origin made rfl inFields embeds

/-- What embedded parts hide follows from what the models hide of which they are copies. -/
theorem hides_parts_iff (generated : Generated request options fed output) :
    (∀ struct ∈ output.structs ++ output.boundStructs, ∀ field ∈ struct.fields,
      options.exclude.isExcluded struct.name field.graphqlName = false →
        options.exclude.HidesParts field) ↔
    ∀ query ∈ output.queries, ∀ row, query.resultStruct? = some row →
      options.exclude.StandsForShown (Scope.ofRequest request options).models row := by
  constructor
  · intro hides query queryMember row found field inFields unhidden model declared stands own
      inModel
    have bound : row ∈ output.boundStructs := List.mem_flatMap.2
      ⟨query, queryMember, List.mem_append_right _ (Option.mem_toList.2 found)⟩
    have parts := hides row (List.mem_append_right _ bound) field inFields unhidden
    have copied : own.toPlainField ∈ field.embedded :=
      stands.parts ▸ List.mem_map_of_mem inModel
    exact stands.named ▸ parts own.toPlainField copied
  · intro reveals struct member field inFields unhidden part inParts
    have embeds : field.embedded ≠ [] := List.ne_nil_of_mem inParts
    obtain ⟨query, queryMember, found⟩ :=
      generated.embedding_struct_is_result member inFields embeds
    obtain ⟨model, declared, stands⟩ :=
      generated.result_field_origin queryMember found inFields embeds
    rw [stands.parts] at inParts
    obtain ⟨own, inModel, rfl⟩ := List.mem_map.1 inParts
    rw [stands.named]
    exact reveals query queryMember struct found field inFields unhidden model declared stands own
      inModel

end Generated

/-- The documents of a successful generation show the whole model without its hidden fields, and no
struct with one of them. The copies of fields that are embedded hide them as well exactly when no
result shows a field for a model that has a hidden field. -/
theorem documents_hide_fields_unless_embedded {request : Request} {options : ResolvedOptions}
    {output : Output} (success : generateWith request options = .ok output) :
    options.exclude.ShowsModel output.toModel output.documents ∧
    (∀ document ∈ output.documents, ∀ shown ∈ document.shownStructs, ∀ field ∈ shown.fields,
      options.exclude.isExcluded shown.name field.graphqlName = false) ∧
    ((∀ document ∈ output.documents, ∀ shown ∈ document.shownStructs, ∀ field ∈ shown.fields,
        options.exclude.HidesParts field) ↔
      ∀ query ∈ output.queries, ∀ row, query.resultStruct? = some row →
        options.exclude.StandsForShown (Scope.ofRequest request options).models row) := by
  obtain ⟨fed, generated⟩ := generated_of_success success
  have shows : options.exclude.ShowsModel output.toModel output.documents := by
    rw [generated.documents]
    exact ExcludeRules.plan_shows_model options request.toolVersion output.toModel
  refine ⟨shows, ?_, shows.hides_parts_iff.trans generated.hides_parts_iff⟩
  intro document inDocuments shown among field inShown
  obtain ⟨_, _, shownAs⟩ := shows.origin inDocuments among
  exact shownAs.hidden inShown

def discreetOptions : ResolvedOptions where
  package := "shop"
  exclude := { hidden := [("Author", "name"), ("FindTitlesRow", "author")] }

theorem discreet_bookshop_leaks_nothing :
    ∃ output, generateWith bookshop discreetOptions = .ok output ∧
      ∀ document ∈ output.documents, ∀ shown ∈ document.shownStructs, ∀ field ∈ shown.fields,
        discreetOptions.exclude.HidesParts field := by
  have rows : (generateWith bookshop discreetOptions).toOption.map (fun output =>
      decide (∀ query ∈ output.queries, ∀ row ∈ query.resultStruct?,
        discreetOptions.exclude.StandsForShown
          (Scope.ofRequest bookshop discreetOptions).models row)) = some true := by
    decide +kernel
  obtain ⟨output, found, holds⟩ := Option.map_eq_some_iff.1 rows
  have success := Outcome.ok_of_to_option found
  exact ⟨output, success,
    (documents_hide_fields_unless_embedded success).2.2.2 (of_decide_eq_true holds)⟩

def indiscreetOptions : ResolvedOptions where
  package := "shop"
  exclude := { hidden := [("Author", "name")] }

theorem embedded_author_shows_name :
    ∃ output, generateWith bookshop indiscreetOptions = .ok output ∧
      ∃ document ∈ output.documents, ∃ shown ∈ document.shownStructs, ∃ field ∈ shown.fields,
        ∃ part ∈ field.embedded,
          indiscreetOptions.exclude.isExcluded field.type.baseName part.graphqlName = true := by
  have leaks : (generateWith bookshop indiscreetOptions).toOption.map (fun output =>
      decide (∃ document ∈ output.documents, ∃ shown ∈ document.shownStructs,
        ∃ field ∈ shown.fields, ∃ part ∈ field.embedded,
          indiscreetOptions.exclude.isExcluded field.type.baseName part.graphqlName = true)) =
        some true := by
    decide +kernel
  obtain ⟨output, found, holds⟩ := Option.map_eq_some_iff.1 leaks
  exact ⟨output, Outcome.ok_of_to_option found, of_decide_eq_true holds⟩

end GraphSchema
