import GraphSchema.Options.Directive
import GraphSchema.Proofs.BindingLines

/-!
What directive rules say of a field. A look-up goes from rule to rule, and each rule that matches
puts its directive before what the later ones say, with one space between them. So a list of rules
that is cut in two says what its parts say one after the other, and nothing is lost or doubled where
one part, or both, say nothing.
-/

namespace GraphSchema

open Text

theorem DirectiveText.join {first second : String} (firstText : DirectiveText first)
    (secondText : DirectiveText second) : DirectiveText (first ++ " " ++ second) := by
  have ⟨body, chars, _⟩ := firstText
  refine ⟨body ++ ' ' :: second.toList, by simp [chars], ?_⟩
  have finish := secondText.trimmed.finish
  rw [List.getLast?_eq_some_getLast secondText.nonempty] at finish
  rwa [List.getLast?_append, List.getLast?_cons,
    List.getLast?_eq_some_getLast secondText.nonempty]

namespace DirectiveRule

variable {rule : DirectiveRule} {typeName field : String}

/-- A rule is for a type by name, and for all of the type unless it names a field of it. -/
structure Matches (rule : DirectiveRule) (typeName field : String) : Prop where
  ofType : sameIgnoringCase rule.model typeName = true
  ofField : rule.field = "" ∨ sameIgnoringCase rule.field field = true

/-- The ways to write a directive in a rule, with white space around it and with or without its
sign. -/
inductive Spells (rule : DirectiveRule) (text : String) : Prop
  | signed {before body after : List Char} (beforeBlank : Blank before) (afterBlank : Blank after)
      (trimmed : Trimmed ('@' :: body)) (written : rule.directive.toList =
        before ++ '@' :: body ++ after) (chars : text.toList = '@' :: body)
  | bare {before body after : List Char} (beforeBlank : Blank before) (afterBlank : Blank after)
      (trimmed : Trimmed body) (unsigned : body.head? ≠ some '@')
      (written : rule.directive.toList = before ++ body ++ after)
      (chars : text.toList = '@' :: body)

theorem applies_to_iff : rule.appliesTo typeName field = true ↔ rule.Matches typeName field := by
  rw [appliesTo, Bool.and_eq_true, Bool.or_eq_true, decide_eq_true_iff]
  constructor
  · intro applies
    exact ⟨applies.1, applies.2⟩
  · intro matched
    exact ⟨matched.ofType, matched.ofField⟩

instance (rule : DirectiveRule) (typeName field : String) :
    Decidable (rule.Matches typeName field) :=
  decidable_of_iff _ applies_to_iff

theorem applies_to_type : rule.appliesTo typeName "" =
    (decide (rule.field = "") && rule.appliesTo typeName "") := by
  rw [Bool.eq_iff_iff, Bool.and_eq_true, decide_eq_true_iff, applies_to_iff]
  constructor
  · intro matched
    exact ⟨matched.ofField.elim id sameIgnoringCase_empty_iff.1, matched⟩
  · exact And.right

theorem text_chars (rule : DirectiveRule) : rule.text.toList =
    if (trim rule.directive.toList).head? = some '@' then trim rule.directive.toList
    else '@' :: trim rule.directive.toList := by
  unfold text startsWith trimmed
  rw [String.toList_ofList]
  generalize trim rule.directive.toList = core
  cases core with
  | nil => rfl
  | cons c rest =>
      by_cases sign : c = '@'
      · simp [sign]
      · simp [sign, Ne.symm sign]

theorem spells_iff {text : String} : rule.Spells text ↔ text = rule.text := by
  rw [← String.toList_inj, text_chars]
  constructor
  · intro spelled
    cases spelled with
    | signed beforeBlank afterBlank trimmed written chars =>
        rw [chars, written, trimmed.trim_between beforeBlank afterBlank]
        rfl
    | bare beforeBlank afterBlank trimmed unsigned written chars =>
        rw [chars, written, trimmed.trim_between beforeBlank afterBlank, if_neg unsigned]
  · intro chars
    have ⟨before, after, beforeBlank, afterBlank, written⟩ := trim_margins rule.directive.toList
    have trimmed := trimmed_trim rule.directive.toList
    generalize trim rule.directive.toList = core at chars written trimmed
    by_cases sign : core.head? = some '@'
    · have ⟨body, opened⟩ := List.head?_eq_some_iff.1 sign
      rw [if_pos sign] at chars
      rw [opened] at chars written trimmed
      exact .signed beforeBlank afterBlank trimmed written chars
    · rw [if_neg sign] at chars
      exact .bare beforeBlank afterBlank trimmed sign written chars

theorem text_is_directive (rule : DirectiveRule) : DirectiveText rule.text := by
  have spelled : rule.Spells rule.text := spells_iff.2 rfl
  cases spelled with
  | @signed before body after _ _ trimmed _ chars =>
      have opened : Trimmed (['@'] ++ body) := trimmed
      exact ⟨body, chars, opened.finish_of_append⟩
  | bare _ _ trimmed _ _ chars => exact ⟨_, chars, trimmed.finish⟩

end DirectiveRule

namespace DirectiveRules

variable {rules : List DirectiveRule} {typeName field : String}

def texts (rules : List DirectiveRule) (typeName field : String) : List String :=
  (rules.filter (·.appliesTo typeName field)).map DirectiveRule.text

def joined : List String → Option String
  | [] => none
  | texts => some (" ".intercalate texts)

theorem lookup_eq (rules : List DirectiveRule) (typeName field : String) :
    lookup ⟨rules⟩ typeName field = joined (texts rules typeName field) := rfl

theorem joined_cons (text : String) (texts : List String) :
    joined (text :: texts) = joinDirectives (some text) (joined texts) := by
  cases texts with
  | nil => exact congrArg some String.intercalate_singleton
  | cons next others => exact congrArg some String.intercalate_cons_cons

theorem joined_append (texts more : List String) :
    joined (texts ++ more) = joinDirectives (joined texts) (joined more) := by
  induction texts with
  | nil => exact (none_join_directives _).symm
  | cons text rest ih =>
      rw [List.cons_append, joined_cons, ih, joined_cons, join_directives_assoc]

theorem joined_is_directive {texts : List String} (each : ∀ text ∈ texts, DirectiveText text) :
    ∀ result ∈ joined texts, DirectiveText result := by
  induction texts with
  | nil => simp [joined]
  | cons text rest ih =>
      have first := each text List.mem_cons_self
      have later := ih fun other member => each other (List.mem_cons_of_mem text member)
      rw [joined_cons]
      intro result found
      cases said : joined rest with
      | none =>
          rw [said] at found
          exact Option.some.inj found ▸ first
      | some others =>
          rw [said] at found
          exact Option.some.inj found ▸ first.join (later others said)

theorem lookup_append (rules more : List DirectiveRule) (typeName field : String) :
    lookup ⟨rules ++ more⟩ typeName field =
      joinDirectives (lookup ⟨rules⟩ typeName field) (lookup ⟨more⟩ typeName field) := by
  rw [lookup_eq, texts, List.filter_append, List.map_append]
  exact joined_append _ _

theorem spelled_texts_iff {texts : List String} :
    List.Forall₂ DirectiveRule.Spells rules texts ↔ texts = rules.map DirectiveRule.text := by
  constructor
  · intro paired
    induction paired with
    | nil => rfl
    | cons spelled _ ih => rw [DirectiveRule.spells_iff.1 spelled, ih, List.map_cons]
  · intro same
    rw [same, List.forall₂_map_right_iff, List.forall₂_same]
    intro rule _
    exact DirectiveRule.spells_iff.2 rfl

theorem texts_iff {spelled : List String} :
    List.Forall₂ DirectiveRule.Spells (rules.filter (·.Matches typeName field)) spelled ↔
      spelled = texts rules typeName field := by
  have matching : rules.filter (·.Matches typeName field) =
      rules.filter (·.appliesTo typeName field) := by
    apply List.filter_congr
    intro rule _
    rw [Bool.eq_iff_iff, decide_eq_true_iff, DirectiveRule.applies_to_iff]
  rw [spelled_texts_iff, matching, texts]

theorem joined_eq_some_iff {texts : List String} {result : String} :
    joined texts = some result ↔ texts ≠ [] ∧ result = " ".intercalate texts := by
  cases texts with
  | nil => simp [joined]
  | cons text rest => simp [joined, eq_comm]

/-- A field has a directive if a rule matches it, and then it has those of all matching rules. -/
theorem lookup_eq_some_iff {result : String} :
    lookup ⟨rules⟩ typeName field = some result ↔
      ∃ texts, List.Forall₂ DirectiveRule.Spells (rules.filter (·.Matches typeName field)) texts ∧
        texts ≠ [] ∧ result = " ".intercalate texts := by
  simp only [lookup_eq, joined_eq_some_iff, texts_iff, exists_eq_left]

theorem lookup_of_type (rules : List DirectiveRule) (typeName : String) :
    lookup ⟨rules.filter (·.field = "")⟩ typeName "" = lookup ⟨rules⟩ typeName "" := by
  have kept : (rules.filter (·.field = "")).filter (·.appliesTo typeName "") =
      rules.filter (·.appliesTo typeName "") := by
    rw [List.filter_filter]
    apply List.filter_congr
    intro rule _
    rw [Bool.and_comm]
    exact rule.applies_to_type.symm
  rw [lookup_eq, lookup_eq, texts, texts, kept]

theorem lookup_ignores_case {otherType otherField : String}
    (sameType : sameIgnoringCase typeName otherType = true)
    (sameField : sameIgnoringCase field otherField = true) (rules : DirectiveRules) :
    rules.lookup otherType otherField = rules.lookup typeName field := by
  have applies : ∀ rule : DirectiveRule,
      rule.appliesTo otherType otherField = rule.appliesTo typeName field := by
    intro rule
    rw [DirectiveRule.appliesTo, DirectiveRule.appliesTo, sameIgnoringCase_congr sameType,
      sameIgnoringCase_congr sameField]
  simp only [lookup, applies]

/-- A list of rules cut in two says what its parts say, joined; joining is associative, and nothing
joined with a directive is the directive. What is said is a directive again: the texts that the
matching rules spell, in their order, with one space between them. A look-up of a whole type passes
by all rules for fields, and none depends on ASCII case. -/
theorem directives_join_rule_by_rule (rules more : List DirectiveRule) (typeName field : String) :
    lookup ⟨rules ++ more⟩ typeName field =
        joinDirectives (lookup ⟨rules⟩ typeName field) (lookup ⟨more⟩ typeName field) ∧
    (∀ first second third : Option String,
      joinDirectives (joinDirectives first second) third =
        joinDirectives first (joinDirectives second third)) ∧
    (∀ directive : Option String,
      joinDirectives none directive = directive ∧ joinDirectives directive none = directive) ∧
    (∀ result, lookup ⟨rules⟩ typeName field = some result ↔
      ∃ texts, List.Forall₂ DirectiveRule.Spells (rules.filter (·.Matches typeName field)) texts ∧
        texts ≠ [] ∧ result = " ".intercalate texts) ∧
    (∀ result, lookup ⟨rules⟩ typeName field = some result → DirectiveText result) ∧
    lookup ⟨rules.filter (·.field = "")⟩ typeName "" = lookup ⟨rules⟩ typeName "" ∧
    ∀ otherType otherField, sameIgnoringCase typeName otherType = true →
      sameIgnoringCase field otherField = true →
        lookup ⟨rules⟩ otherType otherField = lookup ⟨rules⟩ typeName field := by
  have identity (directive : Option String) :
      joinDirectives none directive = directive ∧ joinDirectives directive none = directive :=
    ⟨none_join_directives directive, join_directives_none directive⟩
  have isDirective : ∀ result, lookup ⟨rules⟩ typeName field = some result →
      DirectiveText result := by
    apply joined_is_directive
    intro text member
    have ⟨rule, _, same⟩ := List.mem_map.1 member
    exact same ▸ rule.text_is_directive
  exact ⟨lookup_append rules more typeName field, join_directives_assoc, identity,
    fun _ => lookup_eq_some_iff, isDirective, lookup_of_type rules typeName,
    fun _ _ sameType sameField => lookup_ignores_case sameType sameField ⟨rules⟩⟩

/-- Rules that guard the authors of a query, one of them with margins and without its sign. -/
def authorGuards : List DirectiveRule := [
  { model := "query", field := "author", directive := " authGuard " },
  { model := "Query", field := "books", directive := "@paged" },
  { model := "Query", directive := "@cached" }]

theorem author_guards_in_any_case :
    sameIgnoringCase "Query" "QUERY" = true ∧ sameIgnoringCase "author" "Author" = true ∧
      lookup ⟨authorGuards⟩ "QUERY" "Author" = some "@authGuard @cached" ∧
      DirectiveText "@authGuard @cached" := by
  have ⟨_, _, _, _, isDirective, _, anyCase⟩ :=
    directives_join_rule_by_rule authorGuards [] "Query" "author"
  have found : lookup ⟨authorGuards⟩ "Query" "author" = some "@authGuard @cached" := by decide
  have sameType : sameIgnoringCase "Query" "QUERY" = true := by decide
  have sameField : sameIgnoringCase "author" "Author" = true := by decide
  exact ⟨sameType, sameField, (anyCase _ _ sameType sameField).trans found, isDirective _ found⟩

end DirectiveRules

end GraphSchema
