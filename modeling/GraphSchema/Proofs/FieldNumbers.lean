import GraphSchema.Proofs.PascalNames
import GraphSchema.Proofs.SettledTypes
import GraphSchema.Text.Digits

/-!
The numbers of fields. One pass gives them out from what it has given and seen; here each is read
off the whole list of sources instead: the number of a field is decided where the source's own
number is first used, by the name that it has there and by how often that name came before.
-/

namespace GraphSchema

def firstUse? (sources : List NamedSource) (id : Int) : Option NamedSource :=
  sources.find? (·.source.id = id)

def beforeUse (sources : List NamedSource) (id : Int) : List NamedSource :=
  sources.takeWhile (·.source.id ≠ id)

namespace NamedSource

/-- The number that a source gets when it comes behind others of its name. -/
def numberBehind (named : NamedSource) (earlier : Nat) : Nat :=
  if 0 < earlier && !named.source.column.isNamedParam then earlier + 1 else 0

def uses (named : NamedSource) (sources : List NamedSource) : Nat :=
  (sources.map base).count named.base

end NamedSource

/-- The number of the fields of all sources with the number `id`. -/
def fieldNumber (sources : List NamedSource) (id : Int) : Nat :=
  match firstUse? sources id with
  | some first => first.numberBehind (first.uses (beforeUse sources id))
  | none => 0

section Pass

variable {passed rest : List NamedSource} {id : Int}

theorem first_use_append (passed rest : List NamedSource) (id : Int) :
    firstUse? (passed ++ rest) id = (firstUse? passed id).or (firstUse? rest id) :=
  List.find?_append

theorem before_use_of_split {before after : List NamedSource} {first : NamedSource}
    (own : first.source.id = id) (others : ∀ source ∈ before, source.source.id ≠ id) :
    beforeUse (before ++ first :: after) id = before := by
  have kept : ∀ source ∈ before, decide (source.source.id ≠ id) = true := by
    intro source member
    exact decide_eq_true (others source member)
  rw [beforeUse, List.takeWhile_append_of_pos kept, List.takeWhile_cons_of_neg (by simpa using own),
    List.append_nil]

theorem first_use_split {sources : List NamedSource} {first : NamedSource}
    (used : firstUse? sources id = some first) :
    ∃ after, sources = beforeUse sources id ++ first :: after ∧ first.source.id = id ∧
      ∀ source ∈ beforeUse sources id, source.source.id ≠ id := by
  obtain ⟨own, before, after, rfl, others⟩ := List.find?_eq_some_iff_append.1 used
  have own : first.source.id = id := of_decide_eq_true own
  have others : ∀ source ∈ before, source.source.id ≠ id := by
    intro source member
    simpa using others source member
  rw [before_use_of_split own others]
  exact ⟨after, rfl, own, others⟩

theorem field_number_append {first : NamedSource} (used : firstUse? passed id = some first)
    (rest : List NamedSource) : fieldNumber (passed ++ rest) id = fieldNumber passed id := by
  obtain ⟨after, split, own, others⟩ := first_use_split used
  have before : beforeUse (passed ++ rest) id = beforeUse passed id := by
    rw [congrArg (· ++ rest) split, List.append_assoc, List.cons_append]
    exact before_use_of_split own others
  simp only [fieldNumber, first_use_append, used, Option.some_or, before]

theorem field_number_of_new {named : NamedSource} (new : firstUse? passed named.source.id = none)
    (rest : List NamedSource) :
    fieldNumber (passed ++ named :: rest) named.source.id =
      named.numberBehind (named.uses passed) := by
  have first : firstUse? (named :: rest) named.source.id = some named :=
    List.find?_cons_of_pos (by simp)
  have before : beforeUse (passed ++ named :: rest) named.source.id = passed :=
    before_use_of_split rfl fun source member => by
      simpa using List.find?_eq_none.1 new source member
  simp only [fieldNumber, first_use_append, new, Option.none_or, first, before]

/-- What the pass carries when it has gone through the sources `passed`. -/
structure Recorded (passed : List NamedSource) (given : List (Int × Nat)) (seen : List String) :
    Prop where
  numbers : ∀ id, given.lookup id = (firstUse? passed id).map fun _ => fieldNumber passed id
  names : ∀ base, seen.count base = (passed.map NamedSource.base).count base

variable {given : List (Int × Nat)} {seen : List String}

theorem Recorded.step (recorded : Recorded passed given seen) (named : NamedSource) :
    Recorded (passed ++ [named])
      ((named.source.id, fieldNumber (passed ++ [named]) named.source.id) :: given)
      (named.base :: seen) where
  numbers id := by
    rw [List.lookup_cons, first_use_append]
    by_cases own : id = named.source.id
    · subst own
      have used : firstUse? [named] named.source.id = some named := by simp [firstUse?]
      rw [beq_self_eq_true, used]
      cases firstUse? passed named.source.id <;> rfl
    · have other : firstUse? [named] id = none := by simpa [firstUse?] using Ne.symm own
      rw [beq_eq_false_iff_ne.2 own, other, Option.or_none, recorded.numbers id]
      cases used : firstUse? passed id with
      | none => rfl
      | some first => simp only [Option.map_some, field_number_append used]
  names base := by
    rw [List.map_append, List.count_append, List.count_cons, recorded.names base, List.map_cons,
      List.map_nil, List.count_singleton]

theorem Recorded.next_number (recorded : Recorded passed given seen) (named : NamedSource) :
    (given.lookup named.source.id).getD (named.numberBehind (seen.count named.base)) =
      fieldNumber (passed ++ [named]) named.source.id := by
  rw [recorded.numbers, recorded.names]
  cases used : firstUse? passed named.source.id with
  | some first => exact (field_number_append used _).symm
  | none => exact (field_number_of_new used []).symm

theorem field_numbers_cons {named : NamedSource} {number : Nat}
    (next : (given.lookup named.source.id).getD (named.numberBehind (seen.count named.base)) =
      number) :
    fieldNumbers given seen (named :: rest) =
      number :: fieldNumbers ((named.source.id, number) :: given) (named.base :: seen) rest := by
  subst next
  rw [fieldNumbers, NamedSource.numberBehind]
  cases given.lookup named.source.id <;> rfl

theorem field_numbers_of_recorded (recorded : Recorded passed given seen) :
    fieldNumbers given seen rest =
      rest.map fun named => fieldNumber (passed ++ rest) named.source.id := by
  induction rest generalizing passed given seen with
  | nil => rfl
  | cons named rest ih =>
      -- The sources still to come cannot change this number: its first use is now behind.
      have used : ∃ first, firstUse? (passed ++ [named]) named.source.id = some first := by
        rw [first_use_append]
        cases firstUse? passed named.source.id <;> simp [firstUse?]
      obtain ⟨first, used⟩ := used
      have split : passed ++ named :: rest = passed ++ [named] ++ rest := by simp
      rw [field_numbers_cons (recorded.next_number named), ih (recorded.step named), List.map_cons,
        split, field_number_append used]

end Pass

/-- The numbers that the pass gives out, each read off the whole list. -/
theorem field_numbers_eq (sources : List NamedSource) :
    fieldNumbers [] [] sources =
      sources.map fun named => fieldNumber sources named.source.id := by
  have recorded : Recorded [] [] [] := ⟨fun _ => rfl, fun _ => rfl⟩
  exact field_numbers_of_recorded recorded

theorem Scope.row_fields_eq (scope : Scope) (name : String) (sources : List FieldSource) :
    scope.rowFields name sources = (scope.nameSources 0 sources).map fun named =>
      scope.rowField name named (fieldNumber (scope.nameSources 0 sources) named.source.id)
        (named.finalType (scope.nameSources 0 sources)) := by
  rw [row_fields_settled, field_numbers_eq, ← List.map_prod_left_eq_zip, List.map_map]
  rfl

section Apart

variable {sources : List NamedSource} {left right : NamedSource}

theorem first_uses_in_turn {leftId rightId : Int} (differ : leftId ≠ rightId)
    (leftUsed : firstUse? sources leftId = some left)
    (rightUsed : firstUse? sources rightId = some right) :
    (∃ between, beforeUse sources rightId = beforeUse sources leftId ++ left :: between) ∨
      ∃ between, beforeUse sources leftId = beforeUse sources rightId ++ right :: between := by
  obtain ⟨leftAfter, leftSplit, leftOwn, _⟩ := first_use_split leftUsed
  obtain ⟨rightAfter, rightSplit, rightOwn, _⟩ := first_use_split rightUsed
  have apart : left ≠ right := by
    rintro rfl
    exact differ (leftOwn.symm.trans rightOwn)
  rcases List.append_eq_append_iff.1 (leftSplit.symm.trans rightSplit) with
    ⟨between, longer, shared⟩ | ⟨between, longer, shared⟩
  · cases between with
    | nil => exact absurd (List.cons.inj shared).1 apart
    | cons first later =>
        obtain ⟨rfl, _⟩ := List.cons.inj shared
        exact Or.inl ⟨later, longer⟩
  · cases between with
    | nil => exact absurd (List.cons.inj shared).1.symm apart
    | cons first later =>
        obtain ⟨rfl, _⟩ := List.cons.inj shared
        exact Or.inr ⟨later, longer⟩

theorem NamedSource.uses_lt {before between : List NamedSource}
    (sameBase : left.base = right.base) :
    left.uses before < right.uses (before ++ left :: between) := by
  rw [uses, uses, List.map_append, List.map_cons, List.count_append, ← sameBase,
    List.count_cons_self]
  omega

/-- Numbers that are first used under one name, by no named parameters, go with different numbers
of fields. -/
theorem field_numbers_differ {leftId rightId : Int} (differ : leftId ≠ rightId)
    (leftUsed : firstUse? sources leftId = some left)
    (rightUsed : firstUse? sources rightId = some right)
    (leftUnnamed : left.source.column.isNamedParam = false)
    (rightUnnamed : right.source.column.isNamedParam = false)
    (sameBase : left.base = right.base) :
    fieldNumber sources leftId ≠ fieldNumber sources rightId := by
  have counts : left.uses (beforeUse sources leftId) ≠ right.uses (beforeUse sources rightId) := by
    rcases first_uses_in_turn differ leftUsed rightUsed with ⟨between, longer⟩ | ⟨between, longer⟩
    · rw [longer]
      exact Nat.ne_of_lt (NamedSource.uses_lt sameBase)
    · rw [longer]
      exact Nat.ne_of_gt (NamedSource.uses_lt sameBase.symm)
  simp only [fieldNumber, leftUsed, rightUsed, NamedSource.numberBehind, leftUnnamed, rightUnnamed,
    Bool.not_false, Bool.and_true, decide_eq_true_eq]
  split <;> split <;> omega

end Apart

section OwnNumbers

variable {all : List NamedSource} {position : Nat} {named : NamedSource}

theorem split_at (located : all[position]? = some named) :
    all.take position ++ named :: all.drop (position + 1) = all := by
  obtain ⟨bound, value⟩ := List.getElem?_eq_some_iff.1 located
  rw [← value, ← List.drop_eq_getElem_cons bound, List.take_append_drop]

theorem first_use_of_own (ids : (all.map (·.source.id)).Nodup)
    (located : all[position]? = some named) :
    firstUse? all named.source.id = some named ∧
      beforeUse all named.source.id = all.take position := by
  have split := split_at located
  have others : ∀ other ∈ all.take position, other.source.id ≠ named.source.id := by
    intro other member
    rw [← split, List.map_append, List.nodup_append] at ids
    exact ids.2.2 _ (List.mem_map_of_mem member) _ List.mem_cons_self
  have before : beforeUse all named.source.id = all.take position := by
    rw [← split, before_use_of_split rfl others, split]
  refine ⟨?_, before⟩
  have new : firstUse? (all.take position) named.source.id = none := by
    simpa [firstUse?] using others
  rw [← split, first_use_append, new, Option.none_or]
  exact List.find?_cons_of_pos (by simp)

theorem field_number_of_own (ids : (all.map (·.source.id)).Nodup)
    (located : all[position]? = some named) :
    fieldNumber all named.source.id = named.numberBehind (named.uses (all.take position)) := by
  obtain ⟨used, before⟩ := first_use_of_own ids located
  rw [fieldNumber, used, before]

theorem field_number_of_distinct (ids : (all.map (·.source.id)).Nodup)
    (names : (all.map NamedSource.base).Nodup) (member : named ∈ all) :
    fieldNumber all named.source.id = 0 := by
  obtain ⟨position, located⟩ := List.mem_iff_getElem?.1 member
  have unseen : named.uses (all.take position) = 0 := by
    rw [← split_at located, List.map_append, List.nodup_append] at names
    apply List.count_eq_zero_of_not_mem
    intro among
    exact names.2.2 _ among _ List.mem_cons_self rfl
  rw [field_number_of_own ids located, NamedSource.numberBehind, unseen]
  rfl

end OwnNumbers

section Names

def numberMark (number : Nat) : List Char :=
  if number = 0 then [] else '_' :: number.repr.toList

theorem numbered_name_chars (base : String) (number : Nat) :
    (numberedName base number).toList = base.toList ++ numberMark number := by
  unfold numberedName numberMark
  split <;> simp

theorem number_mark_inj {left right : Nat} (same : numberMark left = numberMark right) :
    left = right := by
  unfold numberMark at same
  split at same <;> split at same
  · omega
  · cases same
  · cases same
  · exact Text.repr_chars_inj (List.cons.inj same).2

theorem take_while_before_mark {word : List Char} (unbroken : '_' ∉ word) (number : Nat) :
    (word ++ numberMark number).takeWhile (· ≠ '_') = word := by
  have kept : ∀ c ∈ word, decide (c ≠ '_') = true := by
    intro c member
    exact decide_eq_true (ne_of_mem_of_not_mem member unbroken)
  rw [List.takeWhile_append_of_pos kept]
  unfold numberMark
  split <;> simp

/-- A name and its number can be told from the two together. -/
theorem numbered_name_inj {left right : String} (leftPlain : Naming.Numberable left)
    (rightPlain : Naming.Numberable right) {leftNumber rightNumber : Nat}
    (same : numberedName left leftNumber = numberedName right rightNumber) :
    left = right ∧ leftNumber = rightNumber := by
  have chars := congrArg String.toList same
  rw [numbered_name_chars, numbered_name_chars] at chars
  have leftUnbroken := leftPlain.unbroken
  have rightUnbroken := rightPlain.unbroken
  cases leftChars : left.toList with
  | nil => exact absurd leftChars leftPlain.nonempty
  | cons first leftRest =>
      cases rightChars : right.toList with
      | nil => exact absurd rightChars rightPlain.nonempty
      | cons second rightRest =>
          rw [leftChars, rightChars, List.cons_append, List.cons_append] at chars
          rw [leftChars, List.tail_cons] at leftUnbroken
          rw [rightChars, List.tail_cons] at rightUnbroken
          -- Behind the first character, which may be an underscore, the next one begins the number.
          obtain ⟨rfl, rests⟩ := List.cons.inj chars
          have words := congrArg (List.takeWhile (· ≠ '_')) rests
          rw [take_while_before_mark leftUnbroken, take_while_before_mark rightUnbroken] at words
          subst words
          exact ⟨String.toList_injective (leftChars.trans rightChars.symm),
            number_mark_inj (List.append_cancel_left rests)⟩

end Names

end GraphSchema
