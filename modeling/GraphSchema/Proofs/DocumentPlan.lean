import GraphSchema.Assembly.Plan
import Mathlib.Data.List.Forall2
import Mathlib.Data.List.Nodup

/-!
How a plan shares a model out among documents. The types go to the first document and the queries to
one document for each source that they come from, in the order of the sources' names. Taking a
source's queries for every source in turn is sorting the queries by their sources, and no query is
lost, doubled or moved among those of its source. Each document lists the operation types of its own
queries, and the common one those of all.
-/

namespace GraphSchema

/-- A list has the texts of another, each once and in ascending order. -/
structure Ascending (texts listed : List String) : Prop where
  increasing : listed.Pairwise (· < ·)
  mem_iff : ∀ text, text ∈ listed ↔ text ∈ texts

theorem Ascending.nodup {texts listed : List String} (ascending : Ascending texts listed) :
    listed.Nodup :=
  ascending.increasing.imp Std.ne_of_lt

theorem nodup_erase_dups : ∀ texts : List String, texts.eraseDups.Nodup
  | [] => List.nodup_nil
  | text :: rest => by
      rw [List.eraseDups_cons, List.nodup_cons, List.mem_eraseDups]
      exact ⟨by simp, nodup_erase_dups _⟩
termination_by texts => texts.length
decreasing_by exact Nat.lt_succ_of_le (List.length_filter_le _ _)

theorem ascending_sorted_distinct (texts : List String) :
    Ascending texts (sortedDistinct texts) where
  increasing := by
    have distinct : (sortedDistinct texts).Nodup :=
      (Text.perm_sortBy id texts.eraseDups).nodup_iff.2 (nodup_erase_dups texts)
    have ordered := (Text.pairwise_sortBy id texts.eraseDups).and distinct
    exact ordered.imp fun both => Std.lt_of_le_of_ne both.1 both.2
  mem_iff text := by
    rw [sortedDistinct, (Text.perm_sortBy id texts.eraseDups).mem_iff, List.mem_eraseDups]

namespace ExcludeRules

/-- A struct is shown without the fields that the rules hide; the others keep their order, and all
else is as it was. -/
structure Shows (rules : ExcludeRules) (struct shown : Struct) : Prop where
  rest : shown = { struct with fields := shown.fields }
  fields : shown.fields =
    struct.fields.filter fun field => !rules.isExcluded struct.name field.graphqlName

inductive ShowsBinding (rules : ExcludeRules) : Option Binding → Option Binding → Prop
  | absent : ShowsBinding rules none none
  | scalar (binding : ScalarBinding) :
      ShowsBinding rules (some (.scalar binding)) (some (.scalar binding))
  | struct {binding : StructBinding} {shown : Struct} : rules.Shows binding.struct shown →
      ShowsBinding rules (some (.struct binding)) (some (.struct { binding with struct := shown }))

/-- A query is published with its public comments, and its structs without their hidden fields. -/
structure Publishes (rules : ExcludeRules) (query shown : BoundQuery) : Prop where
  rest : shown = { query with
    comments := shown.comments, argument := shown.argument, result := shown.result }
  comments : shown.comments = PublicComments.published query.comments
  argument : rules.ShowsBinding query.argument shown.argument
  result : rules.ShowsBinding query.result shown.result

theorem shows_visible (rules : ExcludeRules) (struct : Struct) :
    rules.Shows struct (rules.visible struct) :=
  ⟨rfl, rfl⟩

theorem shows_visible_binding (rules : ExcludeRules) (binding : Option Binding) :
    rules.ShowsBinding binding (binding.map (·.mapStruct rules.visible)) := by
  match binding with
  | none => exact .absent
  | some (.scalar binding) => exact .scalar binding
  | some (.struct binding) => exact .struct (rules.shows_visible binding.struct)

theorem publishes_visible_query (rules : ExcludeRules) (query : BoundQuery) :
    rules.Publishes query (rules.visibleQuery query) :=
  ⟨rfl, rfl, rules.shows_visible_binding query.argument, rules.shows_visible_binding query.result⟩

end ExcludeRules

theorem forall₂_map_of_each {Item Image : Type} {relation : Item → Image → Prop}
    {image : Item → Image} (each : ∀ item, relation item (image item)) (items : List Item) :
    List.Forall₂ relation items (items.map image) :=
  List.forall₂_map_right_iff.2 (List.forall₂_same.2 fun item _ => each item)

theorem filter_grouped {Item : Type} {key : Item → String} {items : List Item} (text : String)
    {keys : List String} (distinct : keys.Nodup) :
    (keys.flatMap fun other => items.filter (key · = other)).filter (key · = text) =
      if text ∈ keys then items.filter (key · = text) else [] := by
  induction keys with
  | nil => rfl
  | cons first rest ih =>
      obtain ⟨fresh, distinctRest⟩ := List.nodup_cons.1 distinct
      rw [List.flatMap_cons, List.filter_append, ih distinctRest, List.filter_filter]
      by_cases own : text = first
      · subst own
        simp [fresh]
      · have foreign : ∀ item, (key item = text ∧ key item = first) ↔ False := by
          intro item
          simp only [iff_false, not_and]
          exact fun same other => own (same.symm.trans other)
        simp [own, ← Bool.decide_and, foreign]

theorem grouped_eq_sortBy {Item : Type} {key : Item → String} {items : List Item}
    {keys : List String} (ascending : Ascending (items.map key) keys) :
    (keys.flatMap fun text => items.filter (key · = text)) = Text.sortBy key items := by
  refine Text.StableSort.unique ⟨?_, fun text => ?_⟩ (Text.sortBy_stable key items)
  · refine List.pairwise_flatMap.2 ⟨fun text _ => ?_, ?_⟩
    · refine List.pairwise_of_forall_mem_list fun left leftMember right rightMember => ?_
      have leftKey := of_decide_eq_true (List.mem_filter.1 leftMember).2
      have rightKey := of_decide_eq_true (List.mem_filter.1 rightMember).2
      exact leftKey ▸ rightKey ▸ String.le_refl _
    · refine ascending.increasing.imp fun before left leftMember right rightMember => ?_
      have leftKey := of_decide_eq_true (List.mem_filter.1 leftMember).2
      have rightKey := of_decide_eq_true (List.mem_filter.1 rightMember).2
      exact leftKey ▸ rightKey ▸ Std.le_of_lt before
  · rw [filter_grouped text ascending.nodup]
    split
    · rfl
    · rename_i absent
      rw [ascending.mem_iff] at absent
      refine (List.filter_eq_nil_iff.2 fun item member own => absent ?_).symm
      exact of_decide_eq_true own ▸ List.mem_map_of_mem member

/-- The document of a source: it holds the queries of the source, in the order that they had, and
lists the operation types of these. -/
structure IsSourceDocument (options : ResolvedOptions) (queries : List BoundQuery)
    (source : String) (document : PlannedDocument) : Prop where
  kind : document.kind = .queries
  name : document.name = documentName source
  noTypes : document.enums = [] ∧ document.structs = []
  published : List.Forall₂ options.exclude.Publishes
    (queries.filter fun query => query.sourceName = source) document.queries
  own : ∀ query ∈ document.queries, query.sourceName = source
  nonempty : document.queries ≠ []
  extendedTypes : Ascending (document.queries.map BoundQuery.extendedType) document.extendedTypes

/-- How a model is shared out among a document of types, a common document if there is to be one,
and the documents of the sources. -/
structure SharesOut (options : ResolvedOptions) (enums : List EnumType) (structs : List Struct)
    (queries : List BoundQuery) (sources : List String) (schema : PlannedDocument)
    (common bySource : List PlannedDocument) : Prop where
  schemaKind : schema.kind = .schema
  schemaEnums : schema.enums = enums
  schemaStructs : List.Forall₂ options.exclude.Shows structs schema.structs
  schemaQueries : schema.queries = []
  commonKinds : common.map PlannedDocument.kind = if options.genCommonParts then [.common] else []
  commonParts : ∀ document ∈ common, document.enums = [] ∧ document.structs = [] ∧
    document.queries = [] ∧
    Ascending (bySource.flatMap PlannedDocument.extendedTypes) document.extendedTypes
  eachSource : Ascending (queries.map BoundQuery.sourceName) sources
  eachDocument : List.Forall₂ (IsSourceDocument options queries) sources bySource
  inOrder : List.Forall₂ options.exclude.Publishes (Text.sortBy BoundQuery.sourceName queries)
    (bySource.flatMap PlannedDocument.queries)

namespace ResolvedOptions

variable (options : ResolvedOptions) (toolVersion : String) (queries : List BoundQuery)

theorem is_source_document {source : String}
    (member : source ∈ queries.map BoundQuery.sourceName) :
    IsSourceDocument options queries source
      (options.sourceDocument toolVersion queries source) where
  kind := rfl
  name := rfl
  noTypes := ⟨rfl, rfl⟩
  published := forall₂_map_of_each options.exclude.publishes_visible_query _
  own := by
    intro shown among
    obtain ⟨query, inSource, rfl⟩ := List.mem_map.1 among
    exact of_decide_eq_true (List.mem_filter.1 inSource).2
  nonempty := by
    obtain ⟨query, among, same⟩ := List.mem_map.1 member
    have inSource : query ∈ queries.filter fun query => query.sourceName = source :=
      List.mem_filter.2 ⟨among, decide_eq_true same⟩
    exact List.ne_nil_of_mem (List.mem_map_of_mem inSource)
  extendedTypes := by
    have sameTypes : (options.sourceDocument toolVersion queries source).queries.map
        BoundQuery.extendedType =
          (queries.filter fun query => query.sourceName = source).map BoundQuery.extendedType := by
      rw [sourceDocument, List.map_map]
      rfl
    rw [sameTypes]
    exact ascending_sorted_distinct _

theorem mem_extended_types_iff {sources : List String}
    (ascending : Ascending (queries.map BoundQuery.sourceName) sources) (type : String) :
    type ∈ (sources.map (options.sourceDocument toolVersion queries)).flatMap
        PlannedDocument.extendedTypes ↔
      type ∈ queries.map BoundQuery.extendedType := by
  have listed (source : String) :
      type ∈ (options.sourceDocument toolVersion queries source).extendedTypes ↔
        ∃ query ∈ queries, query.sourceName = source ∧ query.extendedType = type := by
    simp only [sourceDocument, extendedTypes, (ascending_sorted_distinct _).mem_iff,
      List.mem_map, List.mem_filter, decide_eq_true_eq, and_assoc]
  simp only [List.mem_flatMap, List.mem_map, exists_exists_and_eq_and, listed]
  constructor
  · rintro ⟨_, _, query, member, _, same⟩
    exact ⟨query, member, same⟩
  · rintro ⟨query, member, same⟩
    have inSources := (ascending.mem_iff query.sourceName).2 (List.mem_map_of_mem member)
    exact ⟨query.sourceName, inSources, query, member, rfl, same⟩

theorem source_documents_in_order {sources : List String}
    (ascending : Ascending (queries.map BoundQuery.sourceName) sources) :
    (sources.map (options.sourceDocument toolVersion queries)).flatMap PlannedDocument.queries =
      (Text.sortBy BoundQuery.sourceName queries).map options.exclude.visibleQuery := by
  rw [← grouped_eq_sortBy ascending, List.map_flatMap, List.flatMap_map]
  rfl

end ResolvedOptions

/-- Every plan is the document of types, the common document where the options ask for it, and one
document for each source of queries. -/
theorem plan_shares_out_model (options : ResolvedOptions) (toolVersion : String)
    (enums : List EnumType) (structs : List Struct) (queries : List BoundQuery) :
    ∃ sources schema common bySource,
      options.planDocuments toolVersion enums structs queries = schema :: (common ++ bySource) ∧
        SharesOut options enums structs queries sources schema common bySource := by
  have ascending := ascending_sorted_distinct (queries.map BoundQuery.sourceName)
  refine ⟨sortedDistinct (queries.map BoundQuery.sourceName), _, _, _, rfl, ?_⟩
  refine {
    schemaKind := rfl
    schemaEnums := rfl
    schemaStructs := forall₂_map_of_each options.exclude.shows_visible structs
    schemaQueries := rfl
    commonKinds := ?_
    commonParts := ?_
    eachSource := ascending
    eachDocument := ?_
    inOrder := ?_ }
  · split <;> rfl
  · intro document member
    have asked : document = options.commonDocument toolVersion queries := by
      split at member
      · exact List.mem_singleton.1 member
      · cases member
    obtain ⟨increasing, types⟩ := ascending_sorted_distinct (queries.map BoundQuery.extendedType)
    subst asked
    refine ⟨rfl, rfl, rfl, increasing, fun type => ?_⟩
    exact (types type).trans
      (options.mem_extended_types_iff toolVersion queries ascending type).symm
  · refine List.forall₂_map_right_iff.2 (List.forall₂_same.2 fun source member => ?_)
    exact options.is_source_document toolVersion queries ((ascending.mem_iff source).1 member)
  · rw [options.source_documents_in_order toolVersion queries ascending]
    exact forall₂_map_of_each options.exclude.publishes_visible_query _

end GraphSchema
