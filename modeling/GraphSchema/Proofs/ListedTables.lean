import GraphSchema.Proofs.Declarations
import GraphSchema.Proofs.SingularSpellings

/-!
Which tables keep their names because they are listed as never singular. The list is compared with
the names that models are made of, and these have the schema in front unless it is the default one.
So the list speaks of the tables of the default schema alone. A table of another schema goes by its
qualified name: unless the list has that, the rules of the singular apply as if there were no list.
-/

namespace GraphSchema

open Text

/-- The list of tables that are never singular has a name, in any case. -/
def ResolvedOptions.Lists (options : ResolvedOptions) (name : String) : Prop :=
  ∃ entry ∈ options.inflectionExcludeTableNames, sameIgnoringCase name entry = true

namespace Inflection

theorem singular_of_listed {exclusions : List String} {name : String}
    (listed : ∃ entry ∈ exclusions, sameIgnoringCase name entry = true) :
    singular exclusions name = name :=
  if_pos (List.any_eq_true.2 listed)

theorem singular_of_unlisted {exclusions : List String} {name : String}
    (unlisted : ¬∃ entry ∈ exclusions, sameIgnoringCase name entry = true) :
    singular exclusions name = singular [] name := by
  have passed : ¬exclusions.any (sameIgnoringCase name) = true := mt List.any_eq_true.1 unlisted
  rw [singular, if_neg passed]
  rfl

end Inflection

namespace Scope

variable {scope : Scope}

def qualified (schema table : String) : String := schema ++ "_" ++ table

theorem qualified_has_words (schema table : String) : '_' ∈ (qualified schema table).toList := by
  simp [qualified]

theorem model_name (inflected : scope.options.emitExactTableNames = false) {struct : Struct}
    (member : struct ∈ scope.models) {schema table : String}
    (own : struct.table = some { schema, name := table }) :
    struct.name = scope.structName
      (Inflection.singular scope.options.inflectionExcludeTableNames
        (scope.qualify schema table)) := by
  have ⟨source, _, relation, _, made⟩ := mem_models_iff.1 member
  rw [← made] at own ⊢
  cases own
  exact congrArg scope.structName (if_neg (by rw [inflected]; exact Bool.false_ne_true))

/-- In the default schema a listed table gives its name, and in another one the list is asked for
the qualified name. -/
theorem listed_model_name_iff (inflected : scope.options.emitExactTableNames = false)
    {struct : Struct} (member : struct ∈ scope.models) {schema table : String}
    (own : struct.table = some { schema, name := table }) (listed : scope.options.Lists table) :
    struct.name = scope.structName (scope.qualify schema table) ↔
      schema = scope.defaultSchema ∨ scope.options.Lists (qualified schema table) ∨
        scope.structName (Inflection.singular [] (qualified schema table)) =
          scope.structName (qualified schema table) := by
  rw [model_name inflected member own, qualify]
  by_cases default : schema = scope.defaultSchema
  · rw [if_pos default, Inflection.singular_of_listed listed]
    exact iff_of_true rfl (Or.inl default)
  · rw [if_neg default, or_iff_right default, ← qualified]
    by_cases named : scope.options.Lists (qualified schema table)
    · rw [Inflection.singular_of_listed named]
      exact iff_of_true rfl (Or.inl named)
    · rw [or_iff_right named, Inflection.singular_of_unlisted named]

theorem struct_name_of_singular_iff {name : String} (broken : '_' ∈ name.toList)
    (unreplaced : ∀ spelling, scope.options.rename.replacement? spelling = none) :
    scope.structName (Inflection.singular [] name) = scope.structName name ↔
      Inflection.singular [] name = name := by
  rw [structName, structName, Naming.structName, Naming.structName, unreplaced, unreplaced]
  exact Inflection.pascal_case_of_singular_iff broken []

end Scope

/-- Every listed table has a model, which is called as the table with its schema in front exactly
if that schema is the default one, or the list has the qualified name as well, or the singular of
the qualified name is called alike. Without replacements the last is so for just the names that the
rules leave as they are. -/
theorem listed_tables_keep_names_iff {request : Request} {options : ResolvedOptions}
    (inflected : options.emitExactTableNames = false) {schema : Schema}
    (schemaMember : schema ∈ request.catalog.userSchemas) {table : Table}
    (tableMember : table ∈ schema.tables) (listed : options.Lists table.rel.name) :
    let scope := Scope.ofRequest request options
    let name := Scope.qualified schema.name table.rel.name
    (∃ struct ∈ scope.models,
      struct.table = some { schema := schema.name, name := table.rel.name }) ∧
    (∀ struct ∈ scope.models,
      struct.table = some { schema := schema.name, name := table.rel.name } →
        (struct.name = scope.structName (scope.qualify schema.name table.rel.name) ↔
          schema.name = scope.defaultSchema ∨ options.Lists name ∨
            scope.structName (Inflection.singular [] name) = scope.structName name)) ∧
    ((∀ spelling, options.rename.replacement? spelling = none) →
      (scope.structName (Inflection.singular [] name) = scope.structName name ↔
        Inflection.singular [] name = name)) := by
  intro scope name
  refine ⟨⟨scope.model schema table, ?_, rfl⟩, ?_, ?_⟩
  · exact Scope.mem_models_iff.2 ⟨schema, schemaMember, table, tableMember, rfl⟩
  · intro struct member own
    exact Scope.listed_model_name_iff inflected member own listed
  · intro unreplaced
    exact Scope.struct_name_of_singular_iff (Scope.qualified_has_words _ _) unreplaced

def archive : Request where
  catalog := {
    defaultSchema := "public"
    schemas := [
      { name := "public", tables := [{ rel := { name := "Data" } }] },
      { name := "blog"
        tables := [{ rel := { name := "data" } }, { rel := { name := "news" } }] }] }

def archiveOptions : ResolvedOptions where
  package := "archive"
  inflectionExcludeTableNames := ["data", "news"]

theorem archive_data_keep_their_name :
    archiveOptions.Lists "Data" ∧ archiveOptions.Lists "news" ∧
      (∃ struct ∈ (Scope.ofRequest archive archiveOptions).models,
        struct.table = some { schema := "public", name := "Data" } ∧ struct.name = "Data") ∧
      ∃ struct ∈ (Scope.ofRequest archive archiveOptions).models,
        struct.table = some { schema := "blog", name := "news" } ∧ struct.name = "BlogNews" := by
  have data : archiveOptions.Lists "Data" := ⟨"data", by decide, by decide⟩
  have news : archiveOptions.Lists "news" := ⟨"news", by decide, by decide⟩
  have unreplaced : ∀ spelling, archiveOptions.rename.replacement? spelling = none :=
    fun _ => rfl
  have ofData := @listed_tables_keep_names_iff archive archiveOptions rfl _
    List.mem_cons_self _ List.mem_cons_self data
  have ofNews := @listed_tables_keep_names_iff archive archiveOptions rfl _
    (List.mem_cons_of_mem _ List.mem_cons_self) _ (List.mem_cons_of_mem _ List.mem_cons_self) news
  refine ⟨data, news, ?_, ?_⟩
  · have ⟨struct, member, own⟩ := ofData.1
    have called := (ofData.2.1 struct member own).2 (Or.inl rfl)
    exact ⟨struct, member, own, called.trans (by decide +kernel)⟩
  · have ⟨struct, member, own⟩ := ofNews.1
    have alike := (ofNews.2.2 unreplaced).2 (by decide +kernel)
    have called := (ofNews.2.1 struct member own).2 (Or.inr (Or.inr alike))
    exact ⟨struct, member, own, called.trans (by decide +kernel)⟩

/-- The data of the blog are listed too, and are singular all the same. -/
theorem blog_data_become_singular :
    archiveOptions.emitExactTableNames = false ∧ archiveOptions.Lists "data" ∧
      ∃ struct ∈ (Scope.ofRequest archive archiveOptions).models,
        struct.table = some { schema := "blog", name := "data" } ∧ struct.name = "BlogDatum" ∧
          (Scope.ofRequest archive archiveOptions).structName "blog_data" = "BlogData" := by
  refine ⟨rfl, ⟨"data", by decide, by decide⟩, ?_⟩
  refine ⟨_, Scope.mem_models_iff.2 ⟨_, List.mem_cons_of_mem _ List.mem_cons_self, _,
    List.mem_cons_self, rfl⟩, rfl, ?_, ?_⟩
  · decide +kernel
  · decide +kernel

end GraphSchema
