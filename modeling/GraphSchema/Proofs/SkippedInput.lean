import GraphSchema.Proofs.AlikeScopes
import GraphSchema.Proofs.Generation

/-!
Input that is skipped. A query without a command, a name or a binding is not bound, and the schemas
of the database itself are not searched: neither for tables and enums to be emitted, nor for the
types of columns. The main result says that such input leaves no trace in a generation at all, be it
put in or taken out, and be the generation one that succeeds or one that fails.
-/

namespace GraphSchema

/-- Two lists that differ by items of a kind alone, wherever these stand in the one or the other. -/
inductive SameBut {Item : Type} (kind : Item → Prop) : List Item → List Item → Prop
  | nil : SameBut kind [] []
  | shared (item : Item) {left right : List Item} :
      SameBut kind left right → SameBut kind (item :: left) (item :: right)
  | onLeft {item : Item} {left right : List Item} :
      kind item → SameBut kind left right → SameBut kind (item :: left) right
  | onRight {item : Item} {left right : List Item} :
      kind item → SameBut kind left right → SameBut kind left (item :: right)

theorem SameBut.filter_map_eq {Item Image : Type} {kind : Item → Prop} {left right : List Item}
    (same : SameBut kind left right) {image? : Item → Option Image}
    (skipped : ∀ item, kind item → image? item = none) :
    left.filterMap image? = right.filterMap image? := by
  induction same with
  | nil => rfl
  | shared item _ ih => rw [List.filterMap_cons, List.filterMap_cons, ih]
  | onLeft ofKind _ ih => rw [List.filterMap_cons_none (skipped _ ofKind), ih]
  | onRight ofKind _ ih => rw [List.filterMap_cons_none (skipped _ ofKind), ih]

theorem SameBut.filter_eq {Item : Type} {kind : Item → Prop} {left right : List Item}
    (same : SameBut kind left right) {keep : Item → Bool}
    (skipped : ∀ item, kind item → keep item = false) : left.filter keep = right.filter keep := by
  rw [← List.filterMap_eq_filter]
  apply same.filter_map_eq
  intro item ofKind
  rw [Option.guard, skipped item ofKind]
  rfl

/-- A query that is to be bound to no field: it has no command, no name, or comments without a
binding. -/
def Query.IsSkipped (query : Query) : Prop :=
  query.command = none ∨ query.name = "" ∨
    (Annotations.ofComments query.name query.comments).binding = none

theorem of_query_eq_none_iff {query : Query} :
    AnnotatedQuery.ofQuery? query = none ↔ query.IsSkipped := by
  unfold AnnotatedQuery.ofQuery? Query.IsSkipped
  cases query.command with
  | none => simp
  | some command =>
      by_cases unnamed : query.name = ""
      · simp [unnamed]
      · cases found : (Annotations.ofComments query.name query.comments).binding <;>
          simp [unnamed, found]

def Schema.IsInternal (schema : Schema) : Prop :=
  schema.name = "pg_catalog" ∨ schema.name = "information_schema"

theorem is_system_iff {schema : Schema} : schema.isSystem = true ↔ schema.IsInternal := by
  simp [Schema.isSystem, systemSchemas, Schema.IsInternal]

/-- Two requests that differ by skipped queries and by the database's own schemas alone. -/
structure Request.SameBesidesSkipped (left right : Request) : Prop where
  engine : left.engine = right.engine
  defaultSchema : left.catalog.defaultSchema = right.catalog.defaultSchema
  schemas : SameBut Schema.IsInternal left.catalog.schemas right.catalog.schemas
  queries : SameBut Query.IsSkipped left.queries right.queries
  toolVersion : left.toolVersion = right.toolVersion

namespace Request.SameBesidesSkipped

variable {left right : Request} (same : left.SameBesidesSkipped right) (options : ResolvedOptions)

include same

theorem user_schemas : left.catalog.userSchemas = right.catalog.userSchemas := by
  apply same.schemas.filter_eq
  intro schema internal
  rw [is_system_iff.2 internal]
  rfl

theorem annotated_queries : annotatedQueries left.queries = annotatedQueries right.queries :=
  same.queries.filter_map_eq fun _ => of_query_eq_none_iff.2

theorem alike : (Scope.ofRequest left options).Alike (Scope.ofRequest right options) := by
  have sameTypes := Catalog.same_types_of_user_schemas same.user_schemas
  have defaultSchema : (Scope.ofRequest left options).defaultSchema =
      (Scope.ofRequest right options).defaultSchema := by
    simp only [Scope.ofRequest, same.defaultSchema]
  exact Scope.alike_of_same_types sameTypes rfl defaultSchema same.engine

theorem enums :
    (Scope.ofRequest left options).enums = (Scope.ofRequest right options).enums := by
  have schemas : (Scope.ofRequest left options).catalog.userSchemas =
      (Scope.ofRequest right options).catalog.userSchemas := same.user_schemas
  simp only [Scope.enums, Scope.catalogEnums, schemas, (same.alike options).enum_type]

theorem models :
    (Scope.ofRequest left options).models = (Scope.ofRequest right options).models := by
  have schemas : (Scope.ofRequest left options).catalog.userSchemas =
      (Scope.ofRequest right options).catalog.userSchemas := same.user_schemas
  simp only [Scope.models, Scope.catalogModels, schemas, (same.alike options).model]

theorem bound_queries (structs : List Struct) :
    (Scope.ofRequest left options).bindQueries structs left.queries =
      (Scope.ofRequest right options).bindQueries structs right.queries := by
  have annotated : left.queries.filterMap AnnotatedQuery.ofQuery? =
      right.queries.filterMap AnnotatedQuery.ofQuery? := same.annotated_queries
  simp only [Scope.bindQueries, annotated, (same.alike options).bind]

theorem assemblies : Model.assemble left options = Model.assemble right options := by
  simp only [Model.assemble, same.models options, same.enums options, same.bound_queries options]

end Request.SameBesidesSkipped

/-- Requests that differ by skipped input alone generate the same output, or fail with the same
error. -/
theorem skipped_input_leaves_no_trace {left right : Request} (options : ResolvedOptions)
    (same : left.SameBesidesSkipped right) :
    generateWith left options = generateWith right options := by
  simp only [generateWith, same.assemblies options, same.toolVersion]

/-- The bookshop, with tables and types of the database that have the names of its own, and with
queries for it that have no command, no name and no binding. -/
def clutteredBookshop : Request :=
  { bookshop with
    catalog := { bookshop.catalog with
      schemas :=
        { name := "pg_catalog"
          tables := [{ rel := { name := "books" }, columns := [plainColumn none "genre" "text"] }]
          enums := [{ name := "genre", values := ["poem"] }]
          compositeTypes := [{ name := "uuid" }] } ::
        bookshop.catalog.schemas ++
        [{ name := "information_schema"
           tables := [{ rel := { name := "authors" } }]
           enums := [{ name := "text" }] }] }
    queries :=
      { name := "ListBooks", comments := ["gql: Query.books"] } ::
      bookshop.queries ++
      [{ command := some .one, comments := ["gql: Query.books"] },
        { name := "FindTitles"
          command := some .many
          columns := [plainColumn none "title" "uuid", plainColumn none "title" "text"]
          comments := ["paginated", "gql:"] }] }

theorem bookshop_is_blind_to_clutter :
    ∃ output, generateWith bookshop { package := "shop" } = .ok output ∧
      generateWith clutteredBookshop { package := "shop" } = .ok output := by
  obtain ⟨output, success, _⟩ := bookshop_generates
  have same : bookshop.SameBesidesSkipped clutteredBookshop := by
    refine ⟨rfl, rfl, ?_, ?_, rfl⟩
    · exact .onRight (Or.inl rfl) (.shared _ (.onRight (Or.inr rfl) .nil))
    · refine .onRight (Or.inl rfl) (.shared _ (.shared _ (.shared _ ?_)))
      exact .onRight (Or.inr (Or.inl rfl)) (.onRight (Or.inr (Or.inr (by decide +kernel))) .nil)
  exact ⟨output, success, skipped_input_leaves_no_trace { package := "shop" } same ▸ success⟩

end GraphSchema
