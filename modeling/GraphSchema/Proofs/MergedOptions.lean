import GraphSchema.Options.Resolve
import GraphSchema.Proofs.Outcome

/-!
What the two blocks of options come to when they are merged. The rule of a column is the first one
that matches it among the shared rules for columns, the own ones, the shared rules for types and the
own ones; how the rules of the two kinds are mixed in a block makes no difference. A name has the
replacement of its own block if that mentions the name, and the shared one otherwise; the order in
which the entries of a block are taken makes no difference either.
-/

namespace GraphSchema

theorem OverrideTarget.of_db_type_ok {spec : String} {target : OverrideTarget}
    (made : OverrideTarget.ofDbType spec = .ok target) :
    ∃ schema name, target = .dbType schema name := by
  unfold OverrideTarget.ofDbType at made
  split at made
  · exact ⟨_, _, (Except.ok.inj made).symm⟩
  · exact ⟨_, _, (Except.ok.inj made).symm⟩
  · cases made

namespace OverrideRule

theorem compile_ok {entry : Override} {rule : OverrideRule} (compiled : compile entry = .ok rule) :
    ∃ target, OverrideTarget.ofEntry entry = .ok target ∧
      rule = ⟨Text.trimmed entry.gqlType, target, entry.nullable, entry.unsigned⟩ := by
  simp only [compile] at compiled
  split at compiled
  · cases compiled
  · have ⟨target, targeted, made⟩ := Outcome.bind_ok compiled
    exact ⟨target, targeted, (Except.ok.inj made).symm⟩

theorem compile_scope {entry : Override} {rule : OverrideRule}
    (compiled : compile entry = .ok rule) :
    rule.isColumnScoped = true ↔ entry.column ≠ "" := by
  have ⟨target, targeted, made⟩ := compile_ok compiled
  unfold OverrideTarget.ofEntry at targeted
  split at targeted
  · split at targeted
    · cases targeted
    · rename_i unnamed
      have ⟨schema, name, same⟩ := OverrideTarget.of_db_type_ok targeted
      simp [isColumnScoped, made, same, unnamed]
  · split at targeted
    · rename_i named
      have ⟨pattern, _, same⟩ := Outcome.map_ok targeted
      simp [isColumnScoped, made, ← same, named]
    · cases targeted

end OverrideRule

/-- The rule that is compiled from an entry: it stands for columns or for types as the entry does,
and takes over what the entry says of them. -/
structure Override.CompilesTo (entry : Override) (rule : OverrideRule) : Prop where
  compiled : OverrideRule.compile entry = .ok rule
  target : OverrideTarget.ofEntry entry = .ok rule.target
  scope : rule.isColumnScoped = true ↔ entry.column ≠ ""
  replacement : rule.gqlType = Text.trimmed entry.gqlType
  nullable : rule.nullable = entry.nullable
  unsigned : rule.unsigned = entry.unsigned

theorem OverrideRule.compiles_to {entry : Override} {rule : OverrideRule}
    (compiled : compile entry = .ok rule) : entry.CompilesTo rule := by
  have scope := compile_scope compiled
  have ⟨target, targeted, made⟩ := compile_ok compiled
  subst made
  exact ⟨compiled, targeted, scope, rfl, rfl, rfl⟩

namespace OverrideSet

def byPrecedence (overrides : OverrideSet) : List OverrideRule :=
  overrides.rules.filter (·.isColumnScoped) ++ overrides.rules.filter (!·.isColumnScoped)

theorem find_eq_first (overrides : OverrideSet) (probe : ColumnProbe) :
    overrides.find? probe = overrides.byPrecedence.find? (·.hits probe) := by
  simp [find?, byPrecedence, List.find?_append, List.find?_filter]

theorem mem_by_precedence_iff {overrides : OverrideSet} {rule : OverrideRule} :
    rule ∈ overrides.byPrecedence ↔ rule ∈ overrides.rules := by
  cases scope : rule.isColumnScoped <;> simp [byPrecedence, scope]

theorem find_eq_none_iff {overrides : OverrideSet} {probe : ColumnProbe} :
    overrides.find? probe = none ↔ ∀ rule ∈ overrides.rules, rule.hits probe = false := by
  simp [find_eq_first, mem_by_precedence_iff]

theorem compile_ok_iff {entries : List Override} {overrides : OverrideSet} :
    compile entries = .ok overrides ↔
      List.Forall₂ (fun entry rule => OverrideRule.compile entry = .ok rule) entries
        overrides.rules := by
  constructor
  · intro compiled
    obtain ⟨rules, mapped, made⟩ := Outcome.bind_ok compiled
    cases made
    exact Outcome.map_list_ok mapped
  · intro paired
    rw [compile, Outcome.map_list_of_ok paired]
    rfl

theorem rules_of_entries {entries : List Override} {overrides : OverrideSet}
    (compiled : compile entries = .ok overrides) :
    List.Forall₂ Override.CompilesTo entries overrides.rules :=
  (compile_ok_iff.1 compiled).imp fun _ _ made => OverrideRule.compiles_to made

end OverrideSet

theorem OverrideSet.compile_append_ok {entries later : List Override} {overrides : OverrideSet}
    (compiled : compile (entries ++ later) = .ok overrides) :
    ∃ first second, compile entries = .ok first ∧ compile later = .ok second ∧
      overrides.rules = first.rules ++ second.rules := by
  obtain ⟨rules, mapped, made⟩ := Outcome.bind_ok compiled
  rw [List.mapM_append] at mapped
  obtain ⟨first, firstMapped, remaining⟩ := Outcome.bind_ok mapped
  obtain ⟨second, secondMapped, joined⟩ := Outcome.bind_ok remaining
  cases made
  cases joined
  refine ⟨{ rules := first }, { rules := second }, ?_, ?_, rfl⟩
  · rw [compile, firstMapped]
    rfl
  · rw [compile, secondMapped]
    rfl

/-- Entries that are mixed in another way: those for columns keep their order, and so do those for
types. -/
structure Override.Remixed (entries others : List Override) : Prop where
  columns : others.filter (·.column ≠ "") = entries.filter (·.column ≠ "")
  types : others.filter (·.column = "") = entries.filter (·.column = "")

theorem Override.Remixed.mem {entries others : List Override} (remixed : Remixed entries others)
    {entry : Override} (member : entry ∈ others) : entry ∈ entries := by
  by_cases untitled : entry.column = ""
  · have among : entry ∈ others.filter (·.column = "") := by simp [member, untitled]
    rw [remixed.types] at among
    exact (List.mem_filter.1 among).1
  · have among : entry ∈ others.filter (·.column ≠ "") := by simp [member, untitled]
    rw [remixed.columns] at among
    exact (List.mem_filter.1 among).1

namespace OverrideSet

theorem rules_of_kind {entries others : List Override} {overrides remade : OverrideSet}
    (compiled : compile entries = .ok overrides) (recompiled : compile others = .ok remade)
    (entryKind : Override → Bool) (ruleKind : OverrideRule → Bool)
    (kind : ∀ {entry rule}, OverrideRule.compile entry = .ok rule →
      (entryKind entry = true ↔ ruleKind rule = true))
    (same : others.filter entryKind = entries.filter entryKind) :
    remade.rules.filter ruleKind = overrides.rules.filter ruleKind := by
  have before := List.rel_filter (fun _ _ made => kind made) (compile_ok_iff.1 compiled)
  have after := List.rel_filter (fun _ _ made => kind made) (compile_ok_iff.1 recompiled)
  rw [same] at after
  apply List.right_unique_forall₂' ?_ after before
  intro entry rule other made remade
  exact Except.ok.inj (made.symm.trans remade)

theorem find_of_remixed {entries others : List Override} {overrides : OverrideSet}
    (compiled : compile entries = .ok overrides) (remixed : Override.Remixed entries others) :
    ∃ remade, compile others = .ok remade ∧
      ∀ probe, remade.find? probe = overrides.find? probe := by
  have compiles : ∀ entry ∈ others, ∃ rule, OverrideRule.compile entry = .ok rule := by
    intro entry member
    obtain ⟨rule, _, made⟩ :=
      Outcome.exists_result (compile_ok_iff.1 compiled) (remixed.mem member)
    exact ⟨rule, made⟩
  obtain ⟨rules, paired⟩ := Outcome.all_succeed compiles
  have recompiled : compile others = .ok { rules } := compile_ok_iff.2 paired
  have columns := rules_of_kind compiled recompiled (·.column ≠ "") (·.isColumnScoped)
    (fun made => by simp [OverrideRule.compile_scope made]) remixed.columns
  have types := rules_of_kind compiled recompiled (·.column = "") (!·.isColumnScoped)
    (fun made => by simp [← Bool.not_eq_true, OverrideRule.compile_scope made]) remixed.types
  refine ⟨{ rules }, recompiled, fun probe => ?_⟩
  rw [find_eq_first, find_eq_first, byPrecedence, byPrecedence, columns, types]

end OverrideSet

namespace Renames

/-- Takes over the replacement of a name that has none yet. -/
def fill (renames : Renames) (entry : String × String) : Renames :=
  if (renames.find? entry.1).isSome then renames else renames.insert entry.1 entry.2

theorem find_fill (renames : Renames) (entry : String × String) (name : String) :
    (renames.fill entry).find? name =
      (renames.find? name).or (if name = entry.1 then some entry.2 else none) := by
  unfold fill
  split
  · rename_i present
    split
    · rename_i same
      rw [← same] at present
      rw [Option.or_of_isSome present]
    · rw [Option.or_none]
  · rename_i missing
    have fresh : entry.1 ∉ renames.entries.map Prod.fst := by
      simpa [find?, List.lookup_eq_none_iff] using missing
    rw [find?, insert_entries_of_fresh fresh, List.lookup_append]
    by_cases same : name = entry.1
    · simp only [find?, List.lookup_cons, beq_iff_eq.2 same, if_pos same]
    · simp only [find?, List.lookup_cons, List.lookup_nil, beq_eq_false_iff_ne.2 same, if_neg same]

theorem find_filled (order : List (String × String)) (renames : Renames) (name : String) :
    (order.foldl fill renames).find? name = (renames.find? name).or (order.lookup name) := by
  induction order generalizing renames with
  | nil => simp
  | cons entry rest ih =>
      obtain ⟨key, replacement⟩ := entry
      rw [List.foldl_cons, ih, find_fill, Option.or_assoc, List.lookup_cons]
      by_cases same : name = key
      · simp [same]
      · simp [same, beq_eq_false_iff_ne.2 same]

theorem lookup_eq_some_iff_of_distinct {entries : List (String × String)}
    (distinct : (entries.map Prod.fst).Nodup) {name replacement : String} :
    entries.lookup name = some replacement ↔ (name, replacement) ∈ entries := by
  induction entries with
  | nil => simp
  | cons entry rest ih =>
      obtain ⟨key, value⟩ := entry
      obtain ⟨fresh, others⟩ := List.nodup_cons.1 distinct
      rw [List.lookup_cons, List.mem_cons]
      by_cases same : name = key
      · subst same
        have absent : (name, replacement) ∉ rest := fun member =>
          fresh (List.mem_map.2 ⟨_, member, rfl⟩)
        simp [absent, eq_comm]
      · simp [same, beq_eq_false_iff_ne.2 same, ih others]

theorem lookup_of_reordered {renames : Renames} {order : List (String × String)}
    (reordered : order.Perm renames.entries) (name : String) :
    order.lookup name = renames.find? name := by
  have distinct : (order.map Prod.fst).Nodup :=
    (reordered.map Prod.fst).nodup_iff.2 renames.distinct
  apply Option.ext
  intro replacement
  rw [find?, lookup_eq_some_iff_of_distinct distinct,
    lookup_eq_some_iff_of_distinct renames.distinct, reordered.mem_iff]

theorem find_merged {own shared first : Renames} {order : List (String × String)}
    (ownOrder : first.entries.Perm own.entries) (sharedOrder : order.Perm shared.entries)
    (name : String) : (order.foldl fill first).find? name = (own.orElse shared).find? name := by
  have ownSame : first.find? name = own.find? name := lookup_of_reordered ownOrder name
  rw [find_filled, find_or_else, ownSame, lookup_of_reordered sharedOrder]

end Renames

theorem resolve_ok {own : Options} {shared : GlobalOptions} {resolved : ResolvedOptions}
    (merged : resolve own shared = .ok resolved) :
    OverrideSet.compile (shared.overrides ++ own.overrides) = .ok resolved.overrides ∧
      resolved.rename = own.rename.orElse shared.rename := by
  obtain ⟨_, _, afterPackage⟩ := Outcome.bind_ok merged
  obtain ⟨_, _, afterLimit⟩ := Outcome.bind_ok afterPackage
  obtain ⟨_, _, afterExclude⟩ := Outcome.bind_ok afterLimit
  obtain ⟨_, compiled, made⟩ := Outcome.bind_ok afterExclude
  cases made
  exact ⟨compiled, rfl⟩

/-- After a merge a column has the first matching rule in the order of precedence, or none if none
matches, however column rules and type rules are mixed; and a name has the replacement of the own
block wherever that block has an entry for it, which may be empty, else that of the shared block, in
whatever order the entries are taken. -/
theorem merged_options_keep_precedence {own : Options} {shared : GlobalOptions}
    {resolved : ResolvedOptions} (merged : resolve own shared = .ok resolved) :
    (∃ sharedSet ownSet, OverrideSet.compile shared.overrides = .ok sharedSet ∧
      OverrideSet.compile own.overrides = .ok ownSet ∧
      List.Forall₂ Override.CompilesTo shared.overrides sharedSet.rules ∧
      List.Forall₂ Override.CompilesTo own.overrides ownSet.rules ∧
      ∀ probe,
        resolved.overrides.find? probe =
          (sharedSet.rules.filter (·.isColumnScoped) ++ ownSet.rules.filter (·.isColumnScoped) ++
            sharedSet.rules.filter (!·.isColumnScoped) ++
            ownSet.rules.filter (!·.isColumnScoped)).find? (·.hits probe) ∧
        (resolved.overrides.find? probe = none ↔
          ∀ rule ∈ sharedSet.rules ++ ownSet.rules, rule.hits probe = false)) ∧
    (∀ others, Override.Remixed (shared.overrides ++ own.overrides) others →
      ∃ remade, OverrideSet.compile others = .ok remade ∧
        ∀ probe, remade.find? probe = resolved.overrides.find? probe) ∧
    ∀ name,
      resolved.rename.replacement? name =
        (match own.rename.find? name with
          | some replacement => if replacement = "" then none else some replacement
          | none => shared.rename.replacement? name) ∧
      ∀ (first : Renames) (order : List (String × String)),
        first.entries.Perm own.rename.entries → order.Perm shared.rename.entries →
          (order.foldl Renames.fill first).replacement? name =
            resolved.rename.replacement? name := by
  obtain ⟨compiled, renamed⟩ := resolve_ok merged
  refine ⟨?_, fun others remixed => OverrideSet.find_of_remixed compiled remixed, ?_⟩
  · obtain ⟨sharedSet, ownSet, sharedCompiled, ownCompiled, rules⟩ :=
      OverrideSet.compile_append_ok compiled
    refine ⟨sharedSet, ownSet, sharedCompiled, ownCompiled,
      OverrideSet.rules_of_entries sharedCompiled, OverrideSet.rules_of_entries ownCompiled,
      fun probe => ⟨?_, ?_⟩⟩
    · rw [OverrideSet.find_eq_first, OverrideSet.byPrecedence, rules]
      simp only [List.filter_append, List.append_assoc]
    · rw [OverrideSet.find_eq_none_iff, rules]
  · intro name
    rw [renamed]
    constructor
    · rw [Renames.replacement?, Renames.find_or_else]
      cases own.rename.find? name with
      | none => rfl
      | some replacement => by_cases blank : replacement = "" <;> simp [blank]
    · intro first order ownOrder sharedOrder
      rw [Renames.replacement?, Renames.find_merged ownOrder sharedOrder]
      rfl

/-- A block shared by generators, with a rule for texts before one for the names of authors. -/
def sharedHouse : GlobalOptions where
  overrides := [
    { dbType := "text", gqlType := "Text" },
    { column := "authors.name", gqlType := "AuthorName" }]
  rename := .ofList [("author", "Person"), ("post", "Entry")]

/-- The bookshop's own block, with a rule for all names before one for texts. -/
def ownHouse : Options where
  package := "shop"
  overrides := [
    { column := "*.name", gqlType := "Name" },
    { dbType := "text", gqlType := "Words" }]
  rename := .ofList [("author", ""), ("book", "Volume")]

def nameColumn (table : String) : ColumnProbe where
  columnName := "name"
  table := some { name := table }
  typeName := "text"
  defaultSchema := "public"

/-- All four rules match the names of authors, and the one that goes first is the shared rule for
columns. The rules for columns may all come first, and authors are not renamed. -/
theorem house_rules_keep_precedence :
    ∃ resolved, resolve ownHouse sharedHouse = .ok resolved ∧
      (resolved.overrides.rules.filter (·.hits (nameColumn "authors"))).map (·.gqlType) =
        ["Text", "AuthorName", "Name", "Words"] ∧
      (∃ sharedSet ownSet : OverrideSet,
        List.Forall₂ Override.CompilesTo sharedHouse.overrides sharedSet.rules ∧
        List.Forall₂ Override.CompilesTo ownHouse.overrides ownSet.rules ∧
        ∃ rule, rule.gqlType = "AuthorName" ∧
          resolved.overrides.find? (nameColumn "authors") = some rule ∧
          (sharedSet.rules.filter (·.isColumnScoped) ++ ownSet.rules.filter (·.isColumnScoped) ++
            sharedSet.rules.filter (!·.isColumnScoped) ++
            ownSet.rules.filter (!·.isColumnScoped)).find? (·.hits (nameColumn "authors")) =
              some rule) ∧
      (resolved.overrides.find? (nameColumn "books")).map (·.gqlType) = some "Name" ∧
      resolved.overrides.find? { columnName := "pages", typeName := "int4" } = none ∧
      (∃ remade, OverrideSet.compile [
          { column := "authors.name", gqlType := "AuthorName" },
          { column := "*.name", gqlType := "Name" },
          { dbType := "text", gqlType := "Text" },
          { dbType := "text", gqlType := "Words" }] = .ok remade ∧
        ∀ probe, remade.find? probe = resolved.overrides.find? probe) ∧
      resolved.rename.replacement? "author" = none ∧
      resolved.rename.replacement? "post" = some "Entry" := by
  have run : (resolve ownHouse sharedHouse).toOption.map (fun resolved =>
      ((resolved.overrides.rules.filter (·.hits (nameColumn "authors"))).map (·.gqlType),
        (resolved.overrides.find? (nameColumn "authors")).map (·.gqlType),
        (resolved.overrides.find? (nameColumn "books")).map (·.gqlType),
        (resolved.overrides.find? { columnName := "pages", typeName := "int4" }).isNone)) =
      some (["Text", "AuthorName", "Name", "Words"], some "AuthorName", some "Name", true) := by
    decide +kernel
  have ⟨resolved, found, values⟩ := Option.map_eq_some_iff.1 run
  simp only [Prod.mk.injEq] at values
  have ⟨matching, authors, books, pages⟩ := values
  have ⟨rule, first, named⟩ := Option.map_eq_some_iff.1 authors
  have merged := Outcome.ok_of_to_option found
  have ⟨⟨sharedSet, ownSet, _, _, ofShared, ofOwn, finds⟩, remixed, names⟩ :=
    merged_options_keep_precedence merged
  refine ⟨resolved, merged, matching, ⟨sharedSet, ownSet, ofShared, ofOwn, rule, named, first, ?_⟩,
    books, Option.isNone_iff_eq_none.1 pages, remixed _ ⟨by decide, by decide⟩, ?_, ?_⟩
  · rw [← (finds (nameColumn "authors")).1, first]
  · rw [(names "author").1]
    decide
  · rw [(names "post").1]
    decide

end GraphSchema
