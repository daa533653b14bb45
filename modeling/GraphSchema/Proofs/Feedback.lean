import GraphSchema.Assembly.Paging
import GraphSchema.Proofs.Outcome
import Mathlib.Data.List.Nodup

/-!
The structs that queries feed back into the catalog. Adding a candidate either leaves the structs as
they are, because the first struct of its name has its shape, or appends it under a name that was
free. From this one step it follows that a whole run is an extension, that a second run changes
nothing, and that whether a run succeeds depends on which candidates there are and not on their
order.
-/

namespace GraphSchema

theorem same_shape_iff (struct other : Struct) :
    struct.sameShape other = true ↔ struct.shape = other.shape := by
  simp [Struct.sameShape]

/-- The first struct of a name has these fields. -/
def HasShape (structs : List Struct) (name : String) (shape : List (String × TypeRef)) : Prop :=
  ∃ first, structs.find? (·.name = name) = some first ∧ first.shape = shape

/-- The first struct that has a candidate's name has its shape. -/
def Provides (structs : List Struct) (candidate : Struct) : Prop :=
  HasShape structs candidate.name candidate.shape

theorem Provides.congr {structs : List Struct} {candidate other : Struct}
    (provided : Provides structs candidate) (sameName : candidate.name = other.name)
    (sameShape : candidate.shape = other.shape) : Provides structs other := by
  obtain ⟨first, found, shape⟩ := provided
  exact ⟨first, sameName ▸ found, shape.trans sameShape⟩

theorem Provides.mem_names {structs : List Struct} {candidate : Struct}
    (provided : Provides structs candidate) : candidate.name ∈ structs.map Struct.name := by
  obtain ⟨first, found, _⟩ := provided
  have named : first.name = candidate.name := by simpa using List.find?_some found
  exact List.mem_map.2 ⟨first, List.mem_of_find?_eq_some found, named⟩

theorem Provides.append {structs : List Struct} {candidate : Struct}
    (provided : Provides structs candidate) (added : List Struct) :
    Provides (structs ++ added) candidate := by
  obtain ⟨first, found, shape⟩ := provided
  exact ⟨first, by rw [List.find?_append, found, Option.some_or], shape⟩

theorem find_name_eq_none_iff {structs : List Struct} {name : String} :
    structs.find? (·.name = name) = none ↔ name ∉ structs.map Struct.name := by
  simp [List.find?_eq_none, List.mem_map]

theorem provides_appended {structs : List Struct} {candidate : Struct}
    (free : candidate.name ∉ structs.map Struct.name) :
    Provides (structs ++ [candidate]) candidate := by
  refine ⟨candidate, ?_, rfl⟩
  rw [List.find?_append, find_name_eq_none_iff.2 free, Option.none_or]
  simp

/-- All that adding a candidate can do to the structs when it succeeds. -/
theorem push_struct_cases {structs result : List Struct} {candidate : Struct}
    (pushed : pushStruct structs candidate = .ok result) :
    (Provides structs candidate ∧ result = structs) ∨
      (candidate.name ∉ structs.map Struct.name ∧ result = structs ++ [candidate]) := by
  unfold pushStruct at pushed
  cases found : structs.find? (·.name = candidate.name) with
  | none =>
      rw [found] at pushed
      exact Or.inr ⟨find_name_eq_none_iff.1 found, (Except.ok.inj pushed).symm⟩
  | some first =>
      rw [found] at pushed
      by_cases same : first.sameShape candidate = true
      · simp only [same, if_true] at pushed
        exact Or.inl ⟨⟨first, found, (same_shape_iff _ _).1 same⟩, (Except.ok.inj pushed).symm⟩
      · simp only [same] at pushed
        cases pushed

theorem push_struct_provided {structs : List Struct} {candidate : Struct}
    (provided : Provides structs candidate) : pushStruct structs candidate = .ok structs := by
  obtain ⟨first, found, shape⟩ := provided
  unfold pushStruct
  rw [found]
  exact if_pos ((same_shape_iff _ _).2 shape)

theorem push_struct_free {structs : List Struct} {candidate : Struct}
    (free : candidate.name ∉ structs.map Struct.name) :
    pushStruct structs candidate = .ok (structs ++ [candidate]) := by
  unfold pushStruct
  rw [find_name_eq_none_iff.2 free]

/-- What a run over candidates makes of the structs: they stay in front, some of the candidates
come behind them under new names, and every candidate is provided for. -/
structure Extends (structs candidates result : List Struct) : Prop where
  appended : ∃ added, result = structs ++ added ∧ (added.map Struct.name).Nodup ∧
    (∀ struct ∈ added, struct.name ∉ structs.map Struct.name) ∧ added ⊆ candidates
  provided : ∀ candidate ∈ candidates, Provides result candidate

theorem push_all_extends {structs candidates result : List Struct}
    (pushed : candidates.foldlM pushStruct structs = .ok result) :
    Extends structs candidates result := by
  induction candidates generalizing structs with
  | nil =>
      cases pushed
      exact ⟨⟨[], by simp⟩, by simp⟩
  | cons candidate rest ih =>
      rw [List.foldlM_cons] at pushed
      obtain ⟨middle, first, remaining⟩ := Outcome.bind_ok pushed
      obtain ⟨⟨added, rfl, distinct, fresh, among⟩, provided⟩ := ih remaining
      rcases push_struct_cases first with ⟨present, rfl⟩ | ⟨free, rfl⟩
      · refine ⟨⟨added, rfl, distinct, fresh, fun _ member => .tail _ (among member)⟩, ?_⟩
        exact List.forall_mem_cons.2 ⟨present.append added, provided⟩
      · -- The candidate now heads the appended structs, and the later ones avoid its name too.
        have later : ∀ struct ∈ added,
            struct.name ∉ structs.map Struct.name ∧ struct.name ≠ candidate.name := by
          intro struct member
          have avoided := fresh struct member
          simp only [List.map_append, List.mem_append, not_or] at avoided
          exact ⟨avoided.1, by simpa using avoided.2⟩
        refine ⟨⟨candidate :: added, by simp, ?_, ?_, ?_⟩, ?_⟩
        · refine List.nodup_cons.2 ⟨?_, distinct⟩
          intro repeated
          obtain ⟨struct, member, same⟩ := List.mem_map.1 repeated
          exact (later struct member).2 same
        · exact List.forall_mem_cons.2 ⟨free, fun struct member => (later struct member).1⟩
        · exact List.cons_subset_cons candidate among
        · exact List.forall_mem_cons.2 ⟨(provides_appended free).append added, provided⟩

theorem push_all_provided {structs candidates : List Struct}
    (provided : ∀ candidate ∈ candidates, Provides structs candidate) :
    candidates.foldlM pushStruct structs = .ok structs := by
  induction candidates with
  | nil => rfl
  | cons candidate rest ih =>
      obtain ⟨present, remaining⟩ := List.forall_mem_cons.1 provided
      rw [List.foldlM_cons, push_struct_provided present]
      exact ih remaining

/-- The candidates agree with the structs and with one another: what shares a name shares its
shape. -/
structure Compatible (structs candidates : List Struct) : Prop where
  withStructs : ∀ candidate ∈ candidates, candidate.name ∈ structs.map Struct.name →
    Provides structs candidate
  together : ∀ left ∈ candidates, ∀ right ∈ candidates, left.name = right.name →
    left.shape = right.shape

/-- A name that structs already had is answered by them and not by what was appended. -/
theorem Provides.of_append {structs added : List Struct} {candidate : Struct}
    (provided : Provides (structs ++ added) candidate)
    (known : candidate.name ∈ structs.map Struct.name) : Provides structs candidate := by
  obtain ⟨first, found, shape⟩ := provided
  cases earlier : structs.find? (·.name = candidate.name) with
  | none => exact absurd known (find_name_eq_none_iff.1 earlier)
  | some struct =>
      rw [List.find?_append, earlier, Option.some_or] at found
      exact ⟨first, earlier.trans found, shape⟩

theorem Provides.same_shape {structs : List Struct} {left right : Struct}
    (leftProvided : Provides structs left) (rightProvided : Provides structs right)
    (sameName : left.name = right.name) : left.shape = right.shape := by
  obtain ⟨first, found, shape⟩ := leftProvided
  obtain ⟨other, otherFound, otherShape⟩ := rightProvided
  rw [sameName, otherFound] at found
  rw [← shape, ← Option.some.inj found, otherShape]

theorem Extends.compatible {structs candidates result : List Struct}
    (extension : Extends structs candidates result) : Compatible structs candidates := by
  obtain ⟨⟨added, rfl, _⟩, provided⟩ := extension
  refine ⟨fun candidate member known => (provided candidate member).of_append known, ?_⟩
  intro left leftMember right rightMember sameName
  exact (provided left leftMember).same_shape (provided right rightMember) sameName

theorem Compatible.after_push {structs rest : List Struct} {candidate : Struct}
    (compatible : Compatible structs (candidate :: rest)) :
    ∃ middle, pushStruct structs candidate = .ok middle ∧ Compatible middle rest := by
  have together : ∀ left ∈ rest, ∀ right ∈ rest, left.name = right.name →
      left.shape = right.shape := fun left leftMember right rightMember =>
    compatible.together left (.tail _ leftMember) right (.tail _ rightMember)
  by_cases known : candidate.name ∈ structs.map Struct.name
  · have present := compatible.withStructs candidate (by simp) known
    exact ⟨structs, push_struct_provided present,
      fun other member => compatible.withStructs other (.tail _ member), together⟩
  · refine ⟨structs ++ [candidate], push_struct_free known, ?_, together⟩
    intro other member named
    by_cases earlier : other.name ∈ structs.map Struct.name
    · exact (compatible.withStructs other (.tail _ member) earlier).append [candidate]
    · have sameName : other.name = candidate.name := by
        simp only [List.map_append, List.mem_append] at named
        simpa using named.resolve_left earlier
      exact (provides_appended known).congr sameName.symm
        (compatible.together candidate (by simp) other (.tail _ member) sameName.symm)

theorem push_all_succeeds_iff {structs candidates : List Struct} :
    (∃ result, candidates.foldlM pushStruct structs = .ok result) ↔
      Compatible structs candidates := by
  constructor
  · rintro ⟨result, pushed⟩
    exact (push_all_extends pushed).compatible
  · intro compatible
    induction candidates generalizing structs with
    | nil => exact ⟨structs, rfl⟩
    | cons candidate rest ih =>
        obtain ⟨middle, pushed, remaining⟩ := compatible.after_push
        obtain ⟨result, completed⟩ := ih remaining
        exact ⟨result, by rw [List.foldlM_cons, pushed]; exact completed⟩

theorem Compatible.perm {structs left right : List Struct} (order : left.Perm right)
    (compatible : Compatible structs left) : Compatible structs right :=
  ⟨fun candidate member => compatible.withStructs candidate (order.mem_iff.2 member),
    fun first member second other =>
      compatible.together first (order.mem_iff.2 member) second (order.mem_iff.2 other)⟩

theorem Extends.mem_names_iff {structs candidates result : List Struct}
    (extension : Extends structs candidates result) (name : String) :
    name ∈ result.map Struct.name ↔
      name ∈ structs.map Struct.name ∨ name ∈ candidates.map Struct.name := by
  obtain ⟨⟨added, same, _, _, among⟩, provided⟩ := extension
  constructor
  · intro member
    rw [same, List.map_append, List.mem_append] at member
    exact member.imp_right fun appended => List.map_subset Struct.name among appended
  · rintro (member | member)
    · rw [same, List.map_append]
      exact List.mem_append_left _ member
    · obtain ⟨candidate, among, rfl⟩ := List.mem_map.1 member
      exact (provided candidate among).mem_names

theorem mem_added_structs_iff {directives : DirectiveRules} {query : BoundQuery}
    {struct : Struct} :
    struct ∈ query.addedStructs directives ↔
      ∃ binding, query.result = some (.struct binding) ∧
        ((binding.emit = true ∧ struct = binding.struct) ∨
          ∃ mode, query.pagination = some mode ∧
            struct ∈ mode.companions directives binding.struct) := by
  unfold BoundQuery.addedStructs
  cases query.result with
  | none => simp
  | some binding =>
      cases binding with
      | scalar binding => simp
      | struct binding =>
          cases query.pagination <;> cases emitted : binding.emit <;> simp [emitted]

def fedBack (directives : DirectiveRules) (queries : List BoundQuery) : List Struct :=
  queries.flatMap (·.addedStructs directives)

theorem add_result_structs_extends {directives : DirectiveRules} {queries : List BoundQuery}
    {structs result : List Struct}
    (added : addResultStructs directives queries structs = .ok result) :
    Extends structs (fedBack directives queries) result :=
  push_all_extends added

theorem add_result_structs_succeeds_iff {directives : DirectiveRules} {queries : List BoundQuery}
    {structs : List Struct} :
    (∃ result, addResultStructs directives queries structs = .ok result) ↔
      Compatible structs (fedBack directives queries) :=
  push_all_succeeds_iff

/-- The pages of a struct are there: a page of items, or a connection with its edges. -/
def HoldsPages (structs : List Struct) (paged : String) : Pagination → Prop
  | .offset =>
      HasShape structs (paged ++ "Page") [
        ("Items", { scalar := .named paged, nonNull := true, list := true }),
        ("Total", { scalar := .int, nonNull := true }),
        ("HasNext", { scalar := .boolean, nonNull := true })]
  | .cursor =>
      HasShape structs (paged ++ "Connection") [
        ("Edges", { scalar := .named (paged ++ "Edge"), nonNull := true, list := true }),
        ("PageInfo", { scalar := .named "PageInfo", nonNull := true })] ∧
      HasShape structs (paged ++ "Edge") [
        ("Node", { scalar := .named paged, nonNull := true }),
        ("Cursor", { scalar := .string, nonNull := true })]

theorem companion_shape (directives : DirectiveRules) (name modelPath : String)
    (fields : List (String × TypeRef)) :
    (companion directives name modelPath fields).shape = fields := by
  rw [Struct.shape, companion, List.map_map]
  exact List.map_id fields

theorem companion_has_shape {structs : List Struct} {directives : DirectiveRules}
    {name modelPath : String} {fields : List (String × TypeRef)}
    (provided : Provides structs (companion directives name modelPath fields)) :
    HasShape structs name fields := by
  have shape := companion_shape directives name modelPath fields
  rwa [Provides, shape] at provided

theorem holds_pages_of_companions {structs : List Struct} {directives : DirectiveRules}
    {mode : Pagination} {paged : Struct}
    (provided : ∀ companion ∈ mode.companions directives paged, Provides structs companion) :
    HoldsPages structs paged.name mode := by
  cases mode with
  | offset => exact companion_has_shape (provided _ List.mem_cons_self)
  | cursor =>
      constructor
      · exact companion_has_shape (provided _ List.mem_cons_self)
      · exact companion_has_shape (provided _ (List.mem_cons_of_mem _ List.mem_cons_self))

/-- Feeding results back keeps the structs in front and appends candidates under new names, each
once. Every emitted result and all pages of every paginated one are there afterwards, so that a
second run changes nothing. A run succeeds exactly when the candidates are compatible; so neither
its success nor the names that it yields depend on the order of the queries. -/
theorem feedback_is_conservative_and_order_insensitive (directives : DirectiveRules)
    (queries : List BoundQuery) (structs : List Struct) :
    ((∃ result, addResultStructs directives queries structs = .ok result) ↔
      Compatible structs (fedBack directives queries)) ∧
    (∀ result, addResultStructs directives queries structs = .ok result →
      (∃ added, result = structs ++ added ∧ (added.map Struct.name).Nodup ∧
        (∀ struct ∈ added, struct.name ∉ structs.map Struct.name) ∧
        added ⊆ fedBack directives queries) ∧
      (∀ query ∈ queries, ∀ binding, query.result = some (.struct binding) →
        (binding.emit = true → Provides result binding.struct) ∧
        ∀ mode, query.pagination = some mode →
          HoldsPages result binding.struct.name mode ∧
          ∀ companion ∈ mode.companions directives binding.struct, Provides result companion) ∧
      addResultStructs directives queries result = .ok result) ∧
    ∀ permuted, queries.Perm permuted →
      ((∃ result, addResultStructs directives queries structs = .ok result) ↔
        ∃ result, addResultStructs directives permuted structs = .ok result) ∧
      ∀ left right, addResultStructs directives queries structs = .ok left →
        addResultStructs directives permuted structs = .ok right →
        ∀ name, name ∈ left.map Struct.name ↔ name ∈ right.map Struct.name := by
  refine ⟨add_result_structs_succeeds_iff, ?_, ?_⟩
  · intro result added
    have extension := add_result_structs_extends added
    have provided : ∀ query ∈ queries, ∀ struct ∈ query.addedStructs directives,
        Provides result struct := fun query member struct fed =>
      extension.provided struct (List.mem_flatMap.2 ⟨query, member, fed⟩)
    refine ⟨extension.appended, ?_, push_all_provided extension.provided⟩
    intro query member binding bound
    constructor
    · intro emitted
      exact provided query member binding.struct
        (mem_added_structs_iff.2 ⟨binding, bound, Or.inl ⟨emitted, rfl⟩⟩)
    · intro mode paginated
      have companions : ∀ companion ∈ mode.companions directives binding.struct,
          Provides result companion := by
        intro companion among
        apply provided query member companion
        exact mem_added_structs_iff.2 ⟨binding, bound, Or.inr ⟨mode, paginated, among⟩⟩
      exact ⟨holds_pages_of_companions companions, companions⟩
  · intro permuted order
    have candidates : (fedBack directives queries).Perm (fedBack directives permuted) :=
      order.flatMap_right _
    constructor
    · rw [add_result_structs_succeeds_iff, add_result_structs_succeeds_iff]
      exact ⟨Compatible.perm candidates, Compatible.perm candidates.symm⟩
    · intro left right leftAdded rightAdded name
      rw [(add_result_structs_extends leftAdded).mem_names_iff,
        (add_result_structs_extends rightAdded).mem_names_iff,
        (candidates.map Struct.name).mem_iff]

def pagedQuery (name : String) (mode : Pagination) (struct : Struct) (emit : Bool) :
    BoundQuery where
  command := .many
  comments := []
  methodName := name
  sourceName := "books.sql"
  extendedType := "Query"
  resolverName := name
  directive := none
  pagination := some mode
  argument := none
  result := some (.struct { name := "item", struct, emit, modelPath := struct.modelPath })

def bookModel : Struct where
  name := "Book"
  fields := [{ name := "Title", type := { scalar := .string, nonNull := true } }]
  modelPath := "shop.Book"

def foundRow : Struct where
  name := "FindRow"
  fields := [{ name := "Rank", type := { scalar := .float } }]
  modelPath := "shop.FindRow"

/-- Books in a connection, once by each of two queries, and what is found of them in a page. -/
def pagedQueries : List BoundQuery := [
  pagedQuery "ListBooks" .cursor bookModel false,
  pagedQuery "Find" .offset foundRow true,
  pagedQuery "LatestBooks" .cursor bookModel false]

theorem paged_books_are_fed_back :
    ∃ result, addResultStructs {} pagedQueries [bookModel] = .ok result ∧
      result.map Struct.name =
        ["Book", "BookConnection", "BookEdge", "FindRow", "FindRowPage"] ∧
      HoldsPages result "Book" .cursor ∧ HoldsPages result "FindRow" .offset ∧
      Provides result foundRow ∧ addResultStructs {} pagedQueries result = .ok result ∧
      ∃ reordered, addResultStructs {} pagedQueries.reverse [bookModel] = .ok reordered ∧
        ∀ name, name ∈ result.map Struct.name ↔ name ∈ reordered.map Struct.name := by
  have run : (addResultStructs {} pagedQueries [bookModel]).toOption.map
      (fun result => result.map Struct.name) =
        some ["Book", "BookConnection", "BookEdge", "FindRow", "FindRowPage"] := by
    decide +kernel
  have ⟨result, found, names⟩ := Option.map_eq_some_iff.1 run
  have added := Outcome.ok_of_to_option found
  have ⟨_, extension, anyOrder⟩ :=
    feedback_is_conservative_and_order_insensitive {} pagedQueries [bookModel]
  have ⟨_, provided, again⟩ := extension result added
  have ⟨_, books⟩ := provided (pagedQuery "ListBooks" .cursor bookModel false) (by decide) _ rfl
  have ⟨row, finds⟩ := provided (pagedQuery "Find" .offset foundRow true) (by decide) _ rfl
  have ⟨succeeds, sameNames⟩ :=
    anyOrder pagedQueries.reverse pagedQueries.reverse_perm.symm
  have ⟨reordered, reorderedAdded⟩ := succeeds.1 ⟨result, added⟩
  exact ⟨result, added, names, (books .cursor rfl).1, (finds .offset rfl).1, row rfl, again,
    reordered, reorderedAdded, sameNames result reordered added reorderedAdded⟩

end GraphSchema
