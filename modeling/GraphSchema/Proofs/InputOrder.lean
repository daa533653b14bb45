import GraphSchema.Proofs.AlikeScopes
import GraphSchema.Proofs.Generation

/-!
The order in which a request lists its input. Enums, structs and queries are sorted by their names,
so that the order of the input can be seen only where names are shared. Between the input and the
output structs are looked up by the first one that fits, but in lists that are sorted by then; and a
column's type depends on which enums there are and not on where they stand. The main result says
that, where names are distinct, requests that list the same in other orders generate the same.
-/

namespace GraphSchema

/-- Items with different keys come out in one order, in whatever order they went in. -/
theorem Text.sortBy_eq_of_perm {Item : Type} {key : Item → String} {left right : List Item}
    (order : left.Perm right) (distinct : (left.map key).Nodup) :
    Text.sortBy key left = Text.sortBy key right := by
  have sameItems : (Text.sortBy key left).Perm (Text.sortBy key right) :=
    (Text.perm_sortBy key left).trans (order.trans (Text.perm_sortBy key right).symm)
  refine sameItems.eq_of_pairwise ?_ (Text.pairwise_sortBy key left)
    (Text.pairwise_sortBy key right)
  intro first second firstMember secondMember notAfter notBefore
  have firstAmong := (Text.perm_sortBy key left).mem_iff.1 firstMember
  have secondAmong := order.mem_iff.2 ((Text.perm_sortBy key right).mem_iff.1 secondMember)
  exact List.inj_on_of_nodup_map distinct firstAmong secondAmong
    (String.le_antisymm notAfter notBefore)

theorem flat_map_perm_of_paired {Left Right Item : Type} {paired : Left → Right → Prop}
    {lefts : List Left} {rights : List Right} (pairs : List.Forall₂ paired lefts rights)
    {ofLeft : Left → List Item} {ofRight : Right → List Item}
    (each : ∀ left right, paired left right → (ofLeft left).Perm (ofRight right)) :
    (lefts.flatMap ofLeft).Perm (rights.flatMap ofRight) := by
  induction pairs with
  | nil => exact List.Perm.refl _
  | cons related _ ih =>
      rw [List.flatMap_cons, List.flatMap_cons]
      exact (each _ _ related).append ih

/-- Two schemas of one name that list the same types and tables in whatever order. -/
structure Schema.Reordered (left right : Schema) : Prop where
  name : left.name = right.name
  tables : left.tables.Perm right.tables
  enums : left.enums.Perm right.enums
  compositeTypes : left.compositeTypes.Perm right.compositeTypes

theorem Schema.Reordered.symm {left right : Schema} (reordered : left.Reordered right) :
    right.Reordered left :=
  ⟨reordered.name.symm, reordered.tables.symm, reordered.enums.symm,
    reordered.compositeTypes.symm⟩

/-- Two requests that list the same queries, and in each schema the same types and tables, in
whatever order. -/
structure Request.Reordered (left right : Request) : Prop where
  engine : left.engine = right.engine
  defaultSchema : left.catalog.defaultSchema = right.catalog.defaultSchema
  schemas : List.Forall₂ Schema.Reordered left.catalog.schemas right.catalog.schemas
  queries : left.queries.Perm right.queries
  toolVersion : left.toolVersion = right.toolVersion

theorem Request.Reordered.symm {left right : Request} (reordered : left.Reordered right) :
    right.Reordered left where
  engine := reordered.engine.symm
  defaultSchema := reordered.defaultSchema.symm
  schemas := (reordered.schemas.imp fun _ _ => Schema.Reordered.symm).flip
  queries := reordered.queries.symm
  toolVersion := reordered.toolVersion.symm

/-- No two annotated queries, no two models and no two enums of a request share a name. -/
structure Request.NamesApart (request : Request) (options : ResolvedOptions) : Prop where
  queries : ((annotatedQueries request.queries).map fun annotated => annotated.query.name).Nodup
  structs : ((Scope.ofRequest request options).models.map Struct.name).Nodup
  enums : ((Scope.ofRequest request options).enums.map EnumType.name).Nodup

namespace Catalog

variable {left right : Catalog}

theorem user_schemas_reordered
    (reordered : List.Forall₂ Schema.Reordered left.schemas right.schemas) :
    List.Forall₂ Schema.Reordered left.userSchemas right.userSchemas := by
  refine List.rel_filter (fun first second related => ?_) reordered
  simp only [Schema.isSystem, related.name]

theorem DeclaresEnum.of_reordered
    (reordered : List.Forall₂ Schema.Reordered left.userSchemas right.userSchemas)
    {schema name : String} (declares : left.DeclaresEnum schema name) :
    right.DeclaresEnum schema name := by
  obtain ⟨found, member, named, inFound⟩ := declares
  obtain ⟨other, among, related⟩ := Outcome.exists_result reordered member
  exact ⟨other, among, related.name.symm.trans named, (related.enums.map _).mem_iff.1 inFound⟩

theorem DeclaresComposite.of_reordered
    (reordered : List.Forall₂ Schema.Reordered left.userSchemas right.userSchemas)
    {schema name : String} (declares : left.DeclaresComposite schema name) :
    right.DeclaresComposite schema name := by
  obtain ⟨found, member, named, inFound⟩ := declares
  obtain ⟨other, among, related⟩ := Outcome.exists_result reordered member
  exact ⟨other, among, related.name.symm.trans named,
    (related.compositeTypes.map _).mem_iff.1 inFound⟩

theorem same_types_of_reordered
    (reordered : List.Forall₂ Schema.Reordered left.userSchemas right.userSchemas) :
    left.SameTypes right := by
  have reversed : List.Forall₂ Schema.Reordered right.userSchemas left.userSchemas :=
    (reordered.imp fun _ _ => Schema.Reordered.symm).flip
  refine ⟨?_, fun _ _ => ⟨.of_reordered reordered, .of_reordered reversed⟩,
    fun _ _ => ⟨.of_reordered reordered, .of_reordered reversed⟩⟩
  rw [← List.forall₂_eq_eq_eq, List.forall₂_map_left_iff, List.forall₂_map_right_iff]
  exact reordered.imp fun _ _ => Schema.Reordered.name

end Catalog

namespace Scope

variable {left right : Scope}

theorem enums_eq_of_reordered (alike : left.Alike right)
    (reordered : List.Forall₂ Schema.Reordered left.catalog.userSchemas right.catalog.userSchemas)
    (distinct : (left.enums.map EnumType.name).Nodup) : left.enums = right.enums := by
  have sameEnums : left.catalogEnums.Perm right.catalogEnums := by
    refine flat_map_perm_of_paired reordered fun first second related => ?_
    have sameType : left.enumType first = right.enumType second := by
      funext source
      rw [alike.enum_type]
      simp only [enumType, related.name]
    rw [sameType]
    exact related.enums.map _
  have distinctSources : (left.catalogEnums.map EnumType.name).Nodup :=
    ((Text.perm_sortBy EnumType.name left.catalogEnums).map _).nodup_iff.1 distinct
  exact Text.sortBy_eq_of_perm sameEnums distinctSources

theorem models_eq_of_reordered (alike : left.Alike right)
    (reordered : List.Forall₂ Schema.Reordered left.catalog.userSchemas right.catalog.userSchemas)
    (distinct : (left.models.map Struct.name).Nodup) : left.models = right.models := by
  have sameModels : left.catalogModels.Perm right.catalogModels := by
    refine flat_map_perm_of_paired reordered fun first second related => ?_
    have sameModel : left.model first = right.model second := by
      funext table
      rw [alike.model]
      simp only [model, tableName, related.name]
    rw [sameModel]
    exact related.tables.map _
  have distinctSources : (left.catalogModels.map Struct.name).Nodup :=
    ((Text.perm_sortBy Struct.name left.catalogModels).map _).nodup_iff.1 distinct
  exact Text.sortBy_eq_of_perm sameModels distinctSources

theorem bind_queries_of_reordered {scope : Scope} {structs : List Struct}
    {queries reordered : List Query} (order : queries.Perm reordered)
    (distinct : ((annotatedQueries queries).map fun annotated => annotated.query.name).Nodup)
    {bound : List BoundQuery} (succeeded : scope.bindQueries structs queries = .ok bound) :
    scope.bindQueries structs reordered = .ok bound := by
  obtain ⟨inOrder, made, sorted⟩ := Outcome.bind_ok succeeded
  have annotatedOrder : (annotatedQueries queries).Perm (annotatedQueries reordered) :=
    order.filterMap _
  obtain ⟨others, othersMade, sameQueries⟩ := Outcome.map_list_perm annotatedOrder made
  have names : inOrder.map BoundQuery.methodName =
      (annotatedQueries queries).map fun annotated => annotated.query.name := by
    rw [← List.forall₂_eq_eq_eq, List.forall₂_map_left_iff, List.forall₂_map_right_iff]
    exact (Outcome.map_list_ok made).flip.imp fun _ _ bound => (binds_to_of_bind bound).methodName
  have sameOrder := Text.sortBy_eq_of_perm sameQueries (names ▸ distinct)
  obtain rfl := Except.ok.inj sorted
  rw [bindQueries, sameOrder]
  exact congrArg (· >>= fun made => .ok (Text.sortBy BoundQuery.methodName made)) othersMade

end Scope

namespace Request.Reordered

variable {left right : Request} (reordered : left.Reordered right) (options : ResolvedOptions)

include reordered

theorem user_schemas :
    List.Forall₂ Schema.Reordered left.catalog.userSchemas right.catalog.userSchemas :=
  Catalog.user_schemas_reordered reordered.schemas

theorem alike : (Scope.ofRequest left options).Alike (Scope.ofRequest right options) := by
  have sameTypes := Catalog.same_types_of_reordered reordered.user_schemas
  have defaultSchema : (Scope.ofRequest left options).defaultSchema =
      (Scope.ofRequest right options).defaultSchema := by
    simp only [Scope.ofRequest, reordered.defaultSchema]
  exact Scope.alike_of_same_types sameTypes rfl defaultSchema reordered.engine

theorem names_apart {options : ResolvedOptions} (apart : left.NamesApart options) :
    right.NamesApart options := by
  have alike := reordered.alike options
  have annotatedOrder := reordered.queries.filterMap AnnotatedQuery.ofQuery?
  refine ⟨(annotatedOrder.map _).nodup_iff.1 apart.queries, ?_, ?_⟩
  · rw [← Scope.models_eq_of_reordered alike reordered.user_schemas apart.structs]
    exact apart.structs
  · rw [← Scope.enums_eq_of_reordered alike reordered.user_schemas apart.enums]
    exact apart.enums

theorem assembles {options : ResolvedOptions} (apart : left.NamesApart options) {model : Model}
    (assembled : Model.assemble left options = .ok model) :
    Model.assemble right options = .ok model := by
  have alike := reordered.alike options
  have models := Scope.models_eq_of_reordered alike reordered.user_schemas apart.structs
  have enums := Scope.enums_eq_of_reordered alike reordered.user_schemas apart.enums
  obtain ⟨queries, bound, remaining⟩ := Outcome.bind_ok assembled
  rw [models] at bound remaining
  rw [enums] at remaining
  rw [Scope.bindQueries, alike.bind] at bound
  have rebound := Scope.bind_queries_of_reordered reordered.queries apart.queries bound
  simp only [Model.assemble, rebound]
  exact remaining

theorem generates {options : ResolvedOptions} (apart : left.NamesApart options) {output : Output}
    (success : generateWith left options = .ok output) :
    generateWith right options = .ok output := by
  obtain ⟨model, assembled, remaining⟩ := Outcome.bind_ok success
  unfold generateWith
  rw [reordered.assembles apart assembled, ← reordered.toolVersion]
  exact remaining

end Request.Reordered

/-- Where names are distinct, requests that list the same in other orders succeed alike, and with
the same output. -/
theorem input_order_does_not_matter {left right : Request} {options : ResolvedOptions}
    (reordered : left.Reordered right) (apart : left.NamesApart options) (output : Output) :
    generateWith left options = .ok output ↔ generateWith right options = .ok output :=
  ⟨reordered.generates apart, reordered.symm.generates (reordered.names_apart apart)⟩

def Schema.backwards (schema : Schema) : Schema :=
  { schema with tables := schema.tables.reverse, enums := schema.enums.reverse }

def Request.backwards (request : Request) : Request :=
  { request with
    catalog := { request.catalog with schemas := request.catalog.schemas.map Schema.backwards }
    queries := request.queries.reverse }

theorem Request.reordered_backwards (request : Request) : request.Reordered request.backwards where
  engine := rfl
  defaultSchema := rfl
  schemas := by
    refine List.forall₂_map_right_iff.2 (List.forall₂_same.2 fun schema _ => ?_)
    exact ⟨rfl, schema.tables.reverse_perm.symm, schema.enums.reverse_perm.symm, List.Perm.refl _⟩
  queries := request.queries.reverse_perm.symm
  toolVersion := rfl

/-- The bookshop, with an enum of covers beside that of genres. -/
def boundBookshop : Request :=
  { bookshop with
    catalog := { bookshop.catalog with
      schemas := bookshop.catalog.schemas.map fun schema =>
        { schema with enums := schema.enums ++ [{ name := "cover", values := ["hard", "soft"] }] } } }

theorem bookshop_reads_backwards :
    ∃ output, generateWith boundBookshop { package := "shop" } = .ok output ∧
      generateWith boundBookshop.backwards { package := "shop" } = .ok output ∧
      output.enums.map EnumType.name = ["Cover", "Genre"] := by
  have apart : boundBookshop.NamesApart { package := "shop" } :=
    ⟨by decide +kernel, by decide +kernel, by decide +kernel⟩
  have names : (generateWith boundBookshop { package := "shop" }).toOption.map
      (fun output => output.enums.map EnumType.name) = some ["Cover", "Genre"] := by
    decide +kernel
  obtain ⟨output, found, enums⟩ := Option.map_eq_some_iff.1 names
  have success := Outcome.ok_of_to_option found
  have reordered := boundBookshop.reordered_backwards
  exact ⟨output, success, (input_order_does_not_matter reordered apart output).1 success, enums⟩

end GraphSchema
