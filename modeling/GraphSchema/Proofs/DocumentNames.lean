import GraphSchema.Proofs.DocumentPlan
import GraphSchema.Proofs.Generation

/-!
When planned documents have names of their own. The document of a source is named by a stem, which
is the source's name without an ending; so three spellings lead to one name, and two stems are those
of the documents that do not come from sources. Nothing compares the names of documents. The main
result says that two documents share a name exactly when the sources of the queries use two
spellings of one stem, or a stem that is taken.
-/

namespace GraphSchema

namespace Text

theorem ends_with_iff {text mark : String} :
    endsWith text mark = true ↔ ∃ front, text = front ++ mark := by
  rw [endsWith, List.isSuffixOf_iff_suffix]
  constructor
  · rintro ⟨front, split⟩
    exact ⟨String.ofList front, by rw [← String.toList_inj]; simp [split]⟩
  · rintro ⟨front, rfl⟩
    exact ⟨front.toList, String.toList_append.symm⟩

theorem drop_end_append (front mark : String) : dropEnd? (front ++ mark) mark = some front := by
  rw [dropEnd?, if_pos (ends_with_iff.2 ⟨front, rfl⟩)]
  simp

theorem append_right_cancel {left right ending : String}
    (same : left ++ ending = right ++ ending) : left = right := by
  rw [← String.toList_inj, String.toList_append, String.toList_append] at same
  exact String.toList_inj.1 (List.append_cancel_right same)

end Text

/-- A source is spelled with a stem: it has one of two endings behind the stem, or none, where the
stem itself has neither ending. -/
def IsSpelling (stem source : String) : Prop :=
  source = stem ++ ".graphql" ∨ source = stem ++ ".sql" ∨
    (source = stem ∧ Text.endsWith stem ".graphql" = false ∧ Text.endsWith stem ".sql" = false)

theorem document_name_of_sql (stem : String) :
    documentName (stem ++ ".sql") = stem ++ ".graphql" := by
  have otherEnding : Text.endsWith (stem ++ ".sql") ".graphql" = false := by
    rw [Bool.eq_false_iff, ne_eq, Text.ends_with_iff]
    rintro ⟨front, same⟩
    rw [← String.toList_inj, String.toList_append, String.toList_append] at same
    have split : front.toList ++ ".graphql".toList =
        (front.toList ++ ".gra".toList) ++ "phql".toList := by simp
    rw [split] at same
    exact absurd (List.append_inj' same rfl).2 (by decide)
  rw [documentName, if_neg (by simp [otherEnding]), Text.drop_end_append]
  rfl

theorem document_name_cases (source : String) :
    ∃ stem, documentName source = stem ++ ".graphql" ∧ IsSpelling stem source := by
  by_cases planned : Text.endsWith source ".graphql" = true
  · obtain ⟨stem, rfl⟩ := Text.ends_with_iff.1 planned
    exact ⟨stem, by rw [documentName, if_pos planned], Or.inl rfl⟩
  · by_cases sql : Text.endsWith source ".sql" = true
    · obtain ⟨stem, rfl⟩ := Text.ends_with_iff.1 sql
      exact ⟨stem, document_name_of_sql stem, Or.inr (Or.inl rfl)⟩
    · refine ⟨source, ?_, Or.inr (Or.inr ⟨rfl, by simpa using planned, by simpa using sql⟩)⟩
      rw [documentName, if_neg planned, Text.dropEnd?, if_neg sql]
      rfl

theorem document_name_of_spelling {stem source : String} (spelling : IsSpelling stem source) :
    documentName source = stem ++ ".graphql" := by
  rcases spelling with rfl | rfl | ⟨rfl, planned, sql⟩
  · rw [documentName, if_pos (Text.ends_with_iff.2 ⟨stem, rfl⟩)]
  · exact document_name_of_sql stem
  · simp [documentName, planned, Text.dropEnd?, sql]

theorem document_name_eq_iff {stem source : String} :
    documentName source = stem ++ ".graphql" ↔ IsSpelling stem source := by
  refine ⟨fun named => ?_, document_name_of_spelling⟩
  obtain ⟨other, sameName, spelling⟩ := document_name_cases source
  rwa [Text.append_right_cancel (named.symm.trans sameName)]

/-- No source is spelled with the stem of a document that every plan has, and no two sources are
spelled with one stem. -/
structure SourcesApart (options : ResolvedOptions) (sources : List String) : Prop where
  besidesSchema : ∀ source ∈ sources, ¬IsSpelling "schema" source
  besidesCommon : options.genCommonParts = true → ∀ source ∈ sources, ¬IsSpelling "common" source
  oneSpelling : ∀ left ∈ sources, ∀ right ∈ sources, ∀ stem,
    IsSpelling stem left → IsSpelling stem right → left = right

theorem sources_apart_iff {options : ResolvedOptions} {sources : List String} :
    SourcesApart options sources ↔
      (∀ source ∈ sources, documentName source ≠ "schema.graphql") ∧
      (options.genCommonParts = true → ∀ source ∈ sources, documentName source ≠ "common.graphql") ∧
      ∀ left ∈ sources, ∀ right ∈ sources,
        documentName left = documentName right → left = right := by
  have schemaStem : "schema.graphql" = "schema" ++ ".graphql" := rfl
  have commonStem : "common.graphql" = "common" ++ ".graphql" := rfl
  simp only [schemaStem, commonStem, ne_eq, document_name_eq_iff]
  constructor
  · rintro ⟨schema, common, one⟩
    refine ⟨schema, common, fun left leftMember right rightMember same => ?_⟩
    obtain ⟨stem, named, spelling⟩ := document_name_cases left
    exact one left leftMember right rightMember stem spelling
      (document_name_eq_iff.1 (same.symm.trans named))
  · rintro ⟨schema, common, one⟩
    refine ⟨schema, common, fun left leftMember right rightMember stem leftSpelling
      rightSpelling => ?_⟩
    apply one left leftMember right rightMember
    rw [document_name_of_spelling leftSpelling, document_name_of_spelling rightSpelling]

theorem SourcesApart.congr {options : ResolvedOptions} {sources others : List String}
    (same : ∀ source, source ∈ sources ↔ source ∈ others) (apart : SourcesApart options sources) :
    SourcesApart options others where
  besidesSchema source member := apart.besidesSchema source ((same source).2 member)
  besidesCommon asked source member := apart.besidesCommon asked source ((same source).2 member)
  oneSpelling left leftMember right rightMember :=
    apart.oneSpelling left ((same left).2 leftMember) right ((same right).2 rightMember)

namespace ResolvedOptions

variable (options : ResolvedOptions) (toolVersion : String) (enums : List EnumType)
  (structs : List Struct) (queries : List BoundQuery)

theorem planned_names :
    (options.planDocuments toolVersion enums structs queries).map PlannedDocument.name =
      "schema.graphql" :: ((if options.genCommonParts then ["common.graphql"] else []) ++
        (sortedDistinct (queries.map BoundQuery.sourceName)).map documentName) := by
  simp only [planDocuments, List.map_cons, List.map_append, List.map_map]
  congr 2
  split <;> rfl

theorem planned_names_nodup_iff :
    ((options.planDocuments toolVersion enums structs queries).map PlannedDocument.name).Nodup ↔
      SourcesApart options (queries.map BoundQuery.sourceName) := by
  have ascending := ascending_sorted_distinct (queries.map BoundQuery.sourceName)
  have each : ((sortedDistinct (queries.map BoundQuery.sourceName)).map documentName).Nodup ↔
      ∀ left ∈ queries.map BoundQuery.sourceName, ∀ right ∈ queries.map BoundQuery.sourceName,
        documentName left = documentName right → left = right := by
    rw [List.nodup_map_iff_inj_on ascending.nodup]
    simp only [ascending.mem_iff]
  have free (name : String) :
      name ∉ (sortedDistinct (queries.map BoundQuery.sourceName)).map documentName ↔
        ∀ source ∈ queries.map BoundQuery.sourceName, documentName source ≠ name := by
    rw [List.mem_map]
    simp only [ascending.mem_iff, not_exists, not_and, ne_eq]
  rw [planned_names, sources_apart_iff]
  have stemsDiffer : "schema.graphql" ≠ "common.graphql" := by decide
  cases options.genCommonParts with
  | false =>
      simp only [Bool.false_eq_true, if_false, List.nil_append, List.nodup_cons, free, each,
        false_implies, true_and]
  | true =>
      simp only [if_true, List.singleton_append, List.nodup_cons, List.mem_cons, not_or, free, each,
        stemsDiffer, not_false_eq_true, true_and, true_implies]

end ResolvedOptions

theorem mem_source_names_iff {scope : Scope} {structs : List Struct} {queries : List Query}
    {bound : List BoundQuery} (succeeded : scope.bindQueries structs queries = .ok bound)
    (source : String) :
    source ∈ bound.map BoundQuery.sourceName ↔
      source ∈ (annotatedQueries queries).map fun annotated => annotated.query.filename := by
  constructor
  · intro member
    obtain ⟨query, among, rfl⟩ := List.mem_map.1 member
    obtain ⟨annotated, annotatedMember, binds⟩ := Scope.bound_query_origin succeeded among
    exact List.mem_map.2 ⟨annotated, annotatedMember, binds.sourceName.symm⟩
  · intro member
    obtain ⟨annotated, among, rfl⟩ := List.mem_map.1 member
    obtain ⟨query, queryMember, binds⟩ := Scope.annotated_query_bound succeeded among
    exact List.mem_map.2 ⟨query, queryMember, binds.sourceName⟩

/-- The documents of a successful generation have different names exactly when no two files of the
annotated queries are spelled with one stem, and none with the stem of a document that the plan has
anyway. -/
theorem document_names_distinct_iff_sources_apart {request : Request} {options : ResolvedOptions}
    {output : Output} (success : generateWith request options = .ok output) :
    (output.documents.map PlannedDocument.name).Nodup ↔
      SourcesApart options
        ((annotatedQueries request.queries).map fun annotated => annotated.query.filename) := by
  obtain ⟨fed, generated⟩ := generated_of_success success
  have sameSources := mem_source_names_iff generated.bound
  rw [generated.documents, ResolvedOptions.planned_names_nodup_iff]
  exact ⟨.congr sameSources, .congr fun source => (sameSources source).symm⟩

/-- The bookshop with its queries in three files, one of them called like a planned document but in
a folder of its own. -/
def filedBookshop : Request :=
  { bookshop with
    queries := (bookshop.queries.zip ["shop/schema.sql", "titles.graphql", "titles.sql.bak"]).map
      fun (query, filename) => { query with filename } }

theorem filed_bookshop_documents_are_distinct :
    ∃ output, generateWith filedBookshop { package := "shop", genCommonParts := true } =
        .ok output ∧ output.documents.length = 5 ∧
      (output.documents.map PlannedDocument.name).Nodup := by
  have documents : (generateWith filedBookshop
      { package := "shop", genCommonParts := true }).toOption.map
        (fun output => output.documents.length) = some 5 := by
    decide +kernel
  obtain ⟨output, found, length⟩ := Option.map_eq_some_iff.1 documents
  have success := Outcome.ok_of_to_option found
  have files : (annotatedQueries filedBookshop.queries).map
      (fun annotated => annotated.query.filename) =
        ["shop/schema.sql", "titles.graphql", "titles.sql.bak"] := by
    decide +kernel
  refine ⟨output, success, length, (document_names_distinct_iff_sources_apart success).2 ?_⟩
  rw [files, sources_apart_iff]
  decide +kernel

def schemaFile : Request where
  queries := [
    { name := "Ping"
      command := some .exec
      comments := ["gql: Mutation.ping"]
      filename := "schema.sql" }]

theorem schema_file_takes_a_planned_name :
    ∃ output, generateWith schemaFile { package := "db" } = .ok output ∧
      output.documents.map PlannedDocument.name = ["schema.graphql", "schema.graphql"] ∧
      ¬(output.documents.map PlannedDocument.name).Nodup := by
  have names : (generateWith schemaFile { package := "db" }).toOption.map
      (fun output => output.documents.map PlannedDocument.name) =
        some ["schema.graphql", "schema.graphql"] := by
    decide +kernel
  obtain ⟨output, found, same⟩ := Option.map_eq_some_iff.1 names
  refine ⟨output, Outcome.ok_of_to_option found, same, ?_⟩
  rw [same]
  decide

end GraphSchema
