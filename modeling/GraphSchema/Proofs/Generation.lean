import GraphSchema.Assembly.Generate
import GraphSchema.Proofs.Bindings
import GraphSchema.Proofs.Feedback

/-!
The stages behind a generation that succeeded. An output is the catalog's enums and the structs that
the queries have been fed back into, each cut down to the names that are kept, and it has passed the
check of names.
-/

namespace GraphSchema

namespace ResolvedOptions

def keepsStruct (options : ResolvedOptions) (queries : List BoundQuery) (name : String) : Bool :=
  !options.omitUnusedStructs || (reachedNames queries).contains name

/-- Whether the options keep the enums of a name, which the nullable wrapper's name may do too. -/
def keepsEnum (options : ResolvedOptions) (queries : List BoundQuery) (name : String) : Bool :=
  options.keepsStruct queries name || options.keepsStruct queries ("Null" ++ name)

end ResolvedOptions

/-- The stages of a generation, with the structs as they were once the results had been fed back. -/
structure Generated (request : Request) (options : ResolvedOptions) (fed : List Struct)
    (output : Output) : Prop where
  bound : (Scope.ofRequest request options).bindQueries (Scope.ofRequest request options).models
    request.queries = .ok output.queries
  fedBack : addResultStructs options.directives output.queries
    (Scope.ofRequest request options).models = .ok fed
  enums : output.enums = (Scope.ofRequest request options).enums.filter fun enumeration =>
    options.keepsEnum output.queries enumeration.name
  structs : output.structs = (Text.sortBy Struct.name fed).filter fun struct =>
    options.keepsStruct output.queries struct.name
  checked : output.toModel.check = .ok ()
  documents : output.documents =
    options.planDocuments request.toolVersion output.enums output.structs output.queries

theorem assemble_ok {request : Request} {options : ResolvedOptions} {model : Model}
    (assembled : Model.assemble request options = .ok model) :
    ∃ fed, (Scope.ofRequest request options).bindQueries (Scope.ofRequest request options).models
        request.queries = .ok model.queries ∧
      addResultStructs options.directives model.queries
        (Scope.ofRequest request options).models = .ok fed ∧
      model.enums = (Scope.ofRequest request options).enums ∧
      model.structs = Text.sortBy Struct.name fed := by
  obtain ⟨queries, bound, remaining⟩ := Outcome.bind_ok assembled
  obtain ⟨fed, added, made⟩ := Outcome.bind_ok remaining
  cases made
  exact ⟨fed, bound, added, rfl, rfl⟩

theorem generate_with_ok {request : Request} {options : ResolvedOptions} {output : Output}
    (success : generateWith request options = .ok output) :
    ∃ assembled, Model.assemble request options = .ok assembled ∧
      output.toModel = (if options.omitUnusedStructs then assembled.pruned else assembled) ∧
      output.toModel.check = .ok () ∧
      output.documents = options.planDocuments request.toolVersion output.enums output.structs
        output.queries := by
  obtain ⟨assembled, made, remaining⟩ := Outcome.bind_ok success
  obtain ⟨_, checked, planned⟩ := Outcome.bind_ok remaining
  cases planned
  exact ⟨assembled, made, rfl, checked, rfl⟩

theorem generated_of_success {request : Request} {options : ResolvedOptions} {output : Output}
    (success : generateWith request options = .ok output) :
    ∃ fed, Generated request options fed output := by
  obtain ⟨assembled, made, left, checked, planned⟩ := generate_with_ok success
  obtain ⟨fed, bound, added, enums, structs⟩ := assemble_ok made
  obtain ⟨model, documents⟩ := output
  obtain rfl : model = if options.omitUnusedStructs then assembled.pruned else assembled := left
  cases omitting : options.omitUnusedStructs with
  | false =>
      simp only [omitting] at checked planned ⊢
      refine ⟨fed, bound, added, ?_, ?_, checked, planned⟩
      · simp [ResolvedOptions.keepsEnum, ResolvedOptions.keepsStruct, omitting, enums]
      · simp [ResolvedOptions.keepsStruct, omitting, structs]
  | true =>
      simp only [omitting] at checked planned ⊢
      refine ⟨fed, bound, added, ?_, ?_, checked, planned⟩
      · have kept : EnumType.isReached (reachedNames assembled.queries) = fun enumeration =>
            options.keepsEnum assembled.queries enumeration.name := by
          funext enumeration
          simp [EnumType.isReached, ResolvedOptions.keepsEnum, ResolvedOptions.keepsStruct, omitting]
        simp only [if_true, Model.pruned, reachableEnums, kept, enums]
      · simp [ResolvedOptions.keepsStruct, omitting, structs, Model.pruned, reachableStructs]

theorem mem_reserved_names_iff {model : Model} {name : String} :
    name ∈ model.reservedNames ↔
      ∃ enumeration ∈ model.enums, name = enumeration.name ∨ name = "Null" ++ enumeration.name := by
  simp [Model.reservedNames]

theorem check_ok_iff {model : Model} :
    model.check = .ok () ↔ ∀ struct ∈ model.structs, struct.name ∉ model.reservedNames := by
  unfold Model.check
  cases found : model.structs.find? fun struct => model.reservedNames.contains struct.name with
  | none =>
      rw [List.find?_eq_none] at found
      simpa using found
  | some struct =>
      have reserved : struct.name ∈ model.reservedNames := by simpa using List.find?_some found
      constructor
      · intro passed
        cases passed
      · intro free
        exact absurd reserved (free struct (List.mem_of_find?_eq_some found))

namespace Generated

variable {request : Request} {options : ResolvedOptions} {fed : List Struct} {output : Output}

theorem mem_structs_iff (generated : Generated request options fed output) (struct : Struct) :
    struct ∈ output.structs ↔
      struct ∈ fed ∧ options.keepsStruct output.queries struct.name = true := by
  rw [generated.structs, List.mem_filter, (Text.perm_sortBy Struct.name fed).mem_iff]

theorem extends_models (generated : Generated request options fed output) :
    Extends (Scope.ofRequest request options).models
      (GraphSchema.fedBack options.directives output.queries) fed :=
  add_result_structs_extends generated.fedBack

theorem result_name_kept {query : BoundQuery} (member : query ∈ output.queries)
    {binding : StructBinding} (found : query.result = some (.struct binding)) :
    options.keepsStruct output.queries binding.struct.name = true := by
  have reached : binding.struct.name ∈ reachedNames output.queries := by
    refine List.mem_flatMap.2 ⟨query, member, List.mem_append_left _ ?_⟩
    exact List.mem_flatMap.2 ⟨.struct binding, by simp [found], List.mem_cons_self⟩
  simp [ResolvedOptions.keepsStruct, reached]

/-- A struct of the output is a model of the catalog, or it has been fed back. -/
theorem struct_cases (generated : Generated request options fed output) {struct : Struct}
    (member : struct ∈ output.structs) :
    struct ∈ (Scope.ofRequest request options).models ∨
      ∃ query ∈ output.queries, struct ∈ query.addedStructs options.directives := by
  obtain ⟨inFed, _⟩ := (generated.mem_structs_iff struct).1 member
  obtain ⟨added, split, _, _, among⟩ := generated.extends_models.appended
  rw [split] at inFed
  rcases List.mem_append.1 inFed with model | appended
  · exact Or.inl model
  · exact Or.inr (List.mem_flatMap.1 (among appended))

end Generated

def plainColumn (table : Option Identifier) (name nativeType : String) : Column where
  name := name
  notNull := true
  table := table
  nativeType := some { name := nativeType }

/-- A shop with an enum, two tables and three queries: pages of books, titles with their authors, and
the hiding of titles, which is bound to a resolver of the same name as the titles. The general
statements are shown not to be empty on it. -/
def bookshop : Request where
  catalog := {
    defaultSchema := "public"
    schemas := [{
      name := "public"
      tables := [
        { rel := { name := "authors" }
          columns := [plainColumn none "id" "uuid", plainColumn none "name" "text"] },
        { rel := { name := "books" }
          columns := [plainColumn none "title" "text", plainColumn none "genre" "genre"] }]
      enums := [{ name := "genre", values := ["novel", "essay"] }] }] }
  queries := [
    { name := "ListBooks"
      command := some .many
      columns := [
        plainColumn (some { name := "books" }) "title" "text",
        plainColumn (some { name := "books" }) "genre" "genre"]
      comments := ["gql: Query.books", "paginated cursor"] },
    { name := "FindTitles"
      command := some .many
      columns := [
        plainColumn (some { name := "books" }) "title" "text",
        { name := "author", embedTable := some { name := "authors" } }]
      params := [
        { number := 1, column := plainColumn none "genre" "genre" },
        { number := 2, column := plainColumn none "name" "text" }]
      comments := ["gql: Query.titles"] },
    { name := "HideTitles"
      command := some .exec
      params := [
        { number := 1, column := plainColumn none "genre" "genre" },
        { number := 2, column := plainColumn none "name" "text" }]
      comments := ["gql: Mutation.titles"] }]

theorem bookshop_generates :
    ∃ output, generateWith bookshop { package := "shop" } = .ok output ∧
      output.enums.map EnumType.name = ["Genre"] ∧
      output.structs.map Struct.name =
        ["Author", "Book", "BookConnection", "BookEdge", "FindTitlesRow"] := by
  have names : (generateWith bookshop { package := "shop" }).toOption.map
      (fun output => (output.enums.map EnumType.name, output.structs.map Struct.name)) =
        some (["Genre"], ["Author", "Book", "BookConnection", "BookEdge", "FindTitlesRow"]) := by
    decide +kernel
  obtain ⟨output, found, same⟩ := Option.map_eq_some_iff.1 names
  exact ⟨output, Outcome.ok_of_to_option found, Prod.mk.inj same⟩

def libraryBooks : Table where
  rel := { name := "books" }
  columns := [
    plainColumn (some { name := "books" }) "title" "text",
    plainColumn (some { name := "books" }) "author" "uuid",
    plainColumn (some { name := "books" }) "keywords" "tsvector"]

def librarySchema : Schema where
  name := "public"
  tables := [
    { rel := { name := "authors" }
      columns := [plainColumn none "born" "date", plainColumn none "mood" "mood"] },
    libraryBooks,
    { rel := { name := "page_info" }, columns := [plainColumn none "size" "int4"] }]
  enums := [{ name := "mood", values := ["calm", "keen"] }]

def searchBooks : Query where
  name := "SearchBooks"
  command := some .many
  columns := libraryBooks.columns
  comments := ["gql: Query.search: Hit"]

def library : Request where
  catalog := { defaultSchema := "public", schemas := [librarySchema] }
  queries := [
    { searchBooks with name := "ListBooks", comments := ["gql: Query.books", "paginated cursor"] },
    searchBooks]

/-- The library's books refer to authors by an override of their native type. -/
def libraryOptions : ResolvedOptions where
  package := "db"
  overrides := { rules := [
    { gqlType := "Author", target := .dbType none "uuid", nullable := none, unsigned := none }] }
  omitUnusedStructs := true

end GraphSchema
