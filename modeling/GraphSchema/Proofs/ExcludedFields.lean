import GraphSchema.Options.Exclude
import GraphSchema.Proofs.Outcome

/-!
What a list of exclude entries hides. An entry is a type and a field with the only full stop of the
entry between them, so that it can be joined and cut without a doubt; the rules of a list hide just
the pairs that join to one of its entries. Rules grouped by type hide the same.
-/

namespace GraphSchema.ExcludeRules

open Text

/-- A text with exactly one full stop and something on each side of it. -/
def IsEntry (text : String) : Prop :=
  text.toList.count '.' = 1 ∧
    ∃ front back, front ≠ [] ∧ back ≠ [] ∧ text.toList = front ++ '.' :: back

/-- The type and the field that an entry names. -/
structure Names (entry typeName field : String) : Prop where
  joined : entry = typeName ++ "." ++ field
  hasType : typeName ≠ ""
  hasField : field ≠ ""
  typeUnbroken : '.' ∉ typeName.toList
  fieldUnbroken : '.' ∉ field.toList

theorem joined_chars (typeName field : String) :
    (typeName ++ "." ++ field).toList = typeName.toList ++ '.' :: field.toList := by simp

theorem is_entry_iff {entry : String} :
    IsEntry entry ↔ ∃ typeName field, Names entry typeName field := by
  constructor
  · intro isEntry
    have ⟨once, front, back, frontNonempty, backNonempty, chars⟩ := isEntry
    rw [chars, List.count_append, List.count_cons_self] at once
    have frontCount : front.count '.' = 0 := by omega
    have backCount : back.count '.' = 0 := by omega
    refine ⟨String.ofList front, String.ofList back, ?_, ?_, ?_, ?_, ?_⟩
    · apply String.toList_inj.1
      rw [joined_chars, chars, String.toList_ofList, String.toList_ofList]
    · simpa using frontNonempty
    · simpa using backNonempty
    · rw [String.toList_ofList]
      exact List.count_eq_zero.1 frontCount
    · rw [String.toList_ofList]
      exact List.count_eq_zero.1 backCount
  · intro named
    have ⟨typeName, field, names⟩ := named
    have chars := joined_chars typeName field
    rw [← names.joined] at chars
    have typeCount := List.count_eq_zero.2 names.typeUnbroken
    have fieldCount := List.count_eq_zero.2 names.fieldUnbroken
    constructor
    · rw [chars, List.count_append, List.count_cons_self]
      omega
    · refine ⟨typeName.toList, field.toList, ?_, ?_, chars⟩
      · simpa using names.hasType
      · simpa using names.hasField

theorem fields_of_joined {typeName field : String} (typeUnbroken : '.' ∉ typeName.toList)
    (fieldUnbroken : '.' ∉ field.toList) :
    fields '.' (typeName ++ "." ++ field) = [typeName, field] := by
  have unbroken : ∀ part ∈ [typeName, field], '.' ∉ part.toList := by
    simp [typeUnbroken, fieldUnbroken]
  have cut := fields_intercalate unbroken (List.cons_ne_nil typeName [field])
  exact cut

theorem Names.cut {entry typeName field : String} (names : Names entry typeName field) :
    fields '.' entry = [typeName, field] := by
  rw [names.joined]
  exact fields_of_joined names.typeUnbroken names.fieldUnbroken

theorem names_of_joined {typeName field : String} (isEntry : IsEntry (typeName ++ "." ++ field)) :
    Names (typeName ++ "." ++ field) typeName field := by
  have ⟨once, _⟩ := isEntry
  rw [joined_chars, List.count_append, List.count_cons_self] at once
  have typeUnbroken : '.' ∉ typeName.toList := List.count_eq_zero.1 (by omega)
  have fieldUnbroken : '.' ∉ field.toList := List.count_eq_zero.1 (by omega)
  have cut := fields_of_joined typeUnbroken fieldUnbroken
  have ⟨otherType, otherField, names⟩ := is_entry_iff.1 isEntry
  have same : [typeName, field] = [otherType, otherField] := cut.symm.trans names.cut
  cases same
  exact names

theorem read_entry_ok_iff {entry typeName field : String} :
    readEntry entry = .ok (typeName, field) ↔ Names entry typeName field := by
  constructor
  · intro read
    unfold readEntry at read
    split at read
    · rename_i front back cut
      split at read
      · cases read
      · rename_i nonempty
        cases read
        simp only [Bool.or_eq_true, decide_eq_true_iff, not_or] at nonempty
        have joined := intercalate_fields '.' entry
        rw [cut] at joined
        exact {
          joined := joined.symm
          hasType := nonempty.1
          hasField := nonempty.2
          typeUnbroken := unbroken_of_mem_fields (by rw [cut]; exact List.mem_cons_self)
          fieldUnbroken := unbroken_of_mem_fields (by rw [cut]; simp) }
    · cases read
  · intro names
    rw [readEntry, names.cut]
    simp [names.hasType, names.hasField]

theorem read_entry_succeeds_iff {entry : String} :
    (∃ named, readEntry entry = .ok named) ↔ IsEntry entry := by
  rw [is_entry_iff, Prod.exists]
  simp only [read_entry_ok_iff]

theorem read_entry_cases (entry : String) :
    (∃ named, readEntry entry = .ok named) ∨ readEntry entry = .error (.invalidExclude entry) := by
  unfold readEntry
  split
  · split
    · exact Or.inr rfl
    · exact Or.inl ⟨_, rfl⟩
  · exact Or.inr rfl

theorem read_entry_error_iff {entry : String} {failure : OptionsError} :
    readEntry entry = .error failure ↔ ¬IsEntry entry ∧ failure = .invalidExclude entry := by
  rw [← read_entry_succeeds_iff]
  rcases read_entry_cases entry with ⟨named, read⟩ | refused
  · simp [read]
  · simp [refused, eq_comm]

theorem parse_ok_iff {entries : List String} {rules : ExcludeRules} :
    parse entries = .ok rules ↔
      List.Forall₂ (fun entry named => readEntry entry = .ok named) entries rules.hidden := by
  constructor
  · intro parsed
    have ⟨hidden, mapped, made⟩ := Outcome.bind_ok parsed
    cases made
    exact Outcome.map_list_ok mapped
  · intro paired
    rw [parse, Outcome.map_list_of_ok paired]
    rfl

theorem parse_succeeds_iff {entries : List String} :
    (∃ rules, parse entries = .ok rules) ↔ ∀ entry ∈ entries, IsEntry entry := by
  constructor
  · intro succeeds
    have ⟨rules, parsed⟩ := succeeds
    intro entry member
    have ⟨named, _, read⟩ := Outcome.exists_result (parse_ok_iff.1 parsed) member
    exact read_entry_succeeds_iff.1 ⟨named, read⟩
  · intro all
    have ⟨hidden, paired⟩ := Outcome.all_succeed fun entry member =>
      read_entry_succeeds_iff.2 (all entry member)
    exact ⟨{ hidden }, parse_ok_iff.2 paired⟩

theorem parse_error_iff {entries : List String} {failure : OptionsError} :
    parse entries = .error failure ↔
      ∃ before entry after, entries = before ++ entry :: after ∧
        (∀ earlier ∈ before, IsEntry earlier) ∧ ¬IsEntry entry ∧
          failure = .invalidExclude entry := by
  have reads (entry : String) : Outcome.failure? (readEntry entry) = none ↔ IsEntry entry := by
    rw [← read_entry_succeeds_iff]
    cases readEntry entry <;> simp [Outcome.failure?]
  have first : Outcome.failure? (parse entries) =
      entries.findSome? fun entry => Outcome.failure? (readEntry entry) := by
    rw [← Outcome.failure_of_each]
    exact Outcome.failure_of_first fun _ => rfl
  rw [← Outcome.failure_eq_some_iff, first, List.findSome?_eq_some_iff]
  simp only [reads, Outcome.failure_eq_some_iff, read_entry_error_iff]
  apply exists_congr
  intro before
  apply exists_congr
  intro entry
  apply exists_congr
  intro after
  exact and_congr_right fun _ => and_comm

theorem is_excluded_iff {entries : List String} {rules : ExcludeRules}
    (parsed : parse entries = .ok rules) (typeName field : String) :
    rules.isExcluded typeName field = true ↔ typeName ++ "." ++ field ∈ entries := by
  have paired := parse_ok_iff.1 parsed
  rw [isExcluded, List.contains_iff_mem]
  constructor
  · intro member
    have ⟨entry, among, read⟩ := Outcome.exists_item paired member
    rw [← (read_entry_ok_iff.1 read).joined]
    exact among
  · intro member
    have isEntry := parse_succeeds_iff.1 ⟨rules, parsed⟩ _ member
    have ⟨named, among, read⟩ := Outcome.exists_result paired member
    rw [read_entry_ok_iff.2 (names_of_joined isEntry)] at read
    cases read
    exact among

/-- The groups of fields after one more pair, whose field goes behind the others of its type. -/
def addTo (groups : List (String × List String)) (named : String × String) :
    List (String × List String) :=
  match groups with
  | [] => [(named.1, [named.2])]
  | group :: rest =>
      if group.1 = named.1 then (group.1, group.2 ++ [named.2]) :: rest
      else group :: addTo rest named

def byType (rules : ExcludeRules) : List (String × List String) := rules.hidden.foldl addTo []

def fieldsOf (groups : List (String × List String)) (typeName : String) : List String :=
  (groups.lookup typeName).getD []

theorem fields_of_cons (name : String) (fields : List String)
    (rest : List (String × List String)) (typeName : String) :
    fieldsOf ((name, fields) :: rest) typeName =
      if name = typeName then fields else fieldsOf rest typeName := by
  rw [fieldsOf, List.lookup_cons]
  by_cases same : name = typeName
  · simp [same]
  · simp [same, beq_eq_false_iff_ne.2 (Ne.symm same), fieldsOf]

theorem fields_of_add_to (groups : List (String × List String)) (named : String × String)
    (typeName : String) :
    fieldsOf (addTo groups named) typeName =
      fieldsOf groups typeName ++ if named.1 = typeName then [named.2] else [] := by
  induction groups with
  | nil => exact fields_of_cons named.1 [named.2] [] typeName
  | cons group rest ih =>
      by_cases own : group.1 = named.1
      · rw [addTo, if_pos own, fields_of_cons, fields_of_cons, own]
        split <;> simp
      · rw [addTo, if_neg own, fields_of_cons, fields_of_cons, ih]
        by_cases same : group.1 = typeName
        · have other : named.1 ≠ typeName := fun named => own (same.trans named.symm)
          simp [same, other]
        · simp [same]

theorem fields_of_grouped (pairs : List (String × String)) (groups : List (String × List String))
    (typeName : String) :
    fieldsOf (pairs.foldl addTo groups) typeName =
      fieldsOf groups typeName ++ (pairs.filter (·.1 = typeName)).map Prod.snd := by
  induction pairs generalizing groups with
  | nil => simp
  | cons named rest ih =>
      rw [List.foldl_cons, ih, fields_of_add_to, List.append_assoc]
      by_cases same : named.1 = typeName <;> simp [same]

theorem excluded_by_type (rules : ExcludeRules) (typeName field : String) :
    (fieldsOf rules.byType typeName).contains field = rules.isExcluded typeName field := by
  rw [byType, fields_of_grouped, Bool.eq_iff_iff, isExcluded, List.contains_iff_mem,
    List.contains_iff_mem]
  simp [fieldsOf]

/-- A list of texts is read exactly when all of them are entries, and fails with the first that is
none. What has been read hides the pairs that join to an entry and no others, also when its rules
are grouped by type, and so it hides the same whatever the order of the entries is and however often
each one is repeated. -/
theorem exclude_rules_are_their_entries (entries : List String) :
    ((∃ rules, parse entries = .ok rules) ↔ ∀ entry ∈ entries, IsEntry entry) ∧
    (∀ failure, parse entries = .error failure ↔
      ∃ before entry after, entries = before ++ entry :: after ∧
        (∀ earlier ∈ before, IsEntry earlier) ∧ ¬IsEntry entry ∧
          failure = .invalidExclude entry) ∧
    ∀ rules, parse entries = .ok rules →
      (∀ typeName field,
        (rules.isExcluded typeName field = true ↔ typeName ++ "." ++ field ∈ entries) ∧
        (fieldsOf rules.byType typeName).contains field = rules.isExcluded typeName field) ∧
      ∀ others : List String, (∀ entry, entry ∈ others ↔ entry ∈ entries) →
        ∃ same, parse others = .ok same ∧
          ∀ typeName field, same.isExcluded typeName field = rules.isExcluded typeName field := by
  refine ⟨parse_succeeds_iff, fun _ => parse_error_iff, fun rules parsed => ⟨?_, ?_⟩⟩
  · intro typeName field
    exact ⟨is_excluded_iff parsed typeName field, excluded_by_type rules typeName field⟩
  · intro others sameMembers
    have all := parse_succeeds_iff.1 ⟨rules, parsed⟩
    have ⟨same, reparsed⟩ := parse_succeeds_iff.2 fun entry member =>
      all entry ((sameMembers entry).1 member)
    refine ⟨same, reparsed, fun typeName field => ?_⟩
    rw [Bool.eq_iff_iff, is_excluded_iff parsed, is_excluded_iff reparsed]
    exact sameMembers _

/-- The names of authors are hidden, whichever way the entries stand, and texts with more than one
full stop are no entries. -/
theorem author_names_are_hidden :
    ∃ rules, parse ["Author.name", "Book.isbn", "Author.name", "Author.bio"] = .ok rules ∧
      rules.isExcluded "Author" "name" = true ∧ rules.isExcluded "Author.name" "" = false ∧
      (fieldsOf rules.byType "Author").contains "bio" = rules.isExcluded "Author" "bio" ∧
      (∃ same, parse ["Author.bio", "Author.name", "Book.isbn"] = .ok same ∧
        same.isExcluded "Author" "bio" = rules.isExcluded "Author" "bio") ∧
      parse ["Author.name", "shop.Author.bio", "Author"] =
        .error (.invalidExclude "shop.Author.bio") := by
  have ⟨_, _, hides⟩ :=
    exclude_rules_are_their_entries ["Author.name", "Book.isbn", "Author.name", "Author.bio"]
  have parses : (parse ["Author.name", "Book.isbn", "Author.name", "Author.bio"]).toOption.isSome =
      true := by decide
  have ⟨rules, parsed⟩ := Outcome.succeeds_of_to_option parses
  have ⟨pairs, reordered⟩ := hides rules parsed
  have ⟨same, reparsed, alike⟩ := reordered ["Author.bio", "Author.name", "Book.isbn"] (by
    intro entry
    simp only [List.mem_cons, List.not_mem_nil, or_false]
    tauto)
  refine ⟨rules, parsed, (pairs _ _).1.2 (by decide), ?_, (pairs _ _).2,
    ⟨same, reparsed, alike _ _⟩, rfl⟩
  rw [Bool.eq_false_iff, ne_eq, (pairs _ _).1]
  decide

end GraphSchema.ExcludeRules
