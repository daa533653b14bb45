import GraphSchema.Inflection.Singular
import GraphSchema.Text.Casing

/-!
What the rules of the singular match. A word of a rule stands at the end of a text if the folded
text ends with its letters; an ending rule parts the text into a stem, which it keeps, and a tail,
which gives way to another. An irregular plural is found behind an underscore alone.
-/

namespace GraphSchema.Inflection

open Text

variable {text stem : List Char}

theorem take_before_tail {tail : List Char} {size : Nat} (sized : tail.length = size) :
    (stem ++ tail).take ((stem ++ tail).length - size) = stem := by
  rw [← sized, List.length_append, Nat.add_sub_cancel, List.take_left]

theorem spells_letters_iff {letters : List Char} :
    spells (letters.map .is) text = true ↔ text.map foldLetter = letters := by
  induction letters generalizing text with
  | nil => cases text <;> simp [spells]
  | cons letter rest ih =>
      cases text with
      | nil => simp [spells]
      | cons c tail => simp [spells, Letter.accepts, ih]

theorem spells_word_iff {wanted : String} :
    spells (word wanted) text = true ↔ text.map foldLetter = wanted.toList := spells_letters_iff

namespace Ending

variable {rule : Ending}

def replaced? (rule : Ending) (text : List Char) (tail : String) : Option (List Char) :=
  let stem := text.take (text.length - tail.length)
  if tail.length ≤ text.length && spells (word tail) (text.drop stem.length) &&
      rule.keeps stem then
    some (stem ++ rule.put.toList)
  else none

theorem singular_eq (rule : Ending) (text : List Char) :
    rule.singular? text = rule.dropped.findSome? (rule.replaced? text) := rfl

/-- A text that a rule parts into a stem that it keeps and a spelling of a tail. -/
structure Parts (rule : Ending) (tail : String) (text stem spelled : List Char) : Prop where
  whole : text = stem ++ spelled
  tail : spelled.map foldLetter = tail.toList
  kept : rule.keeps stem = true

theorem replaced_eq_some_iff {tail : String} {single : List Char} :
    rule.replaced? text tail = some single ↔
      ∃ stem spelled, rule.Parts tail text stem spelled ∧ single = stem ++ rule.put.toList := by
  unfold replaced?
  simp only [Option.ite_none_right_eq_some, Bool.and_eq_true, decide_eq_true_iff, spells_word_iff]
  constructor
  · intro found
    have ⟨⟨⟨short, spelled⟩, kept⟩, made⟩ := found
    have size : (text.take (text.length - tail.length)).length = text.length - tail.length := by
      rw [List.length_take]
      omega
    rw [size] at spelled
    exact ⟨_, _, ⟨(List.take_append_drop _ text).symm, spelled, kept⟩, (Option.some.inj made).symm⟩
  · intro found
    have ⟨stem, spelled, parts, made⟩ := found
    have size : spelled.length = tail.length := by
      rw [← List.length_map foldLetter, parts.tail, String.length_toList]
    have front : text.take (text.length - tail.length) = stem :=
      parts.whole ▸ take_before_tail size
    rw [front, made]
    refine ⟨⟨⟨?_, ?_⟩, parts.kept⟩, rfl⟩
    · rw [parts.whole, List.length_append]
      omega
    · rw [parts.whole, List.drop_left, parts.tail]

theorem singular_some {single : List Char} (found : rule.singular? text = some single) :
    ∃ tail ∈ rule.dropped, ∃ stem spelled,
      rule.Parts tail text stem spelled ∧ single = stem ++ rule.put.toList := by
  rw [singular_eq] at found
  have ⟨tail, member, made⟩ := List.exists_of_findSome?_eq_some found
  exact ⟨tail, member, replaced_eq_some_iff.1 made⟩

theorem singular_eq_none_iff : rule.singular? text = none ↔
    ∀ tail ∈ rule.dropped, ¬∃ stem spelled, rule.Parts tail text stem spelled := by
  rw [singular_eq, List.findSome?_eq_none_iff]
  apply forall₂_congr
  intro tail _
  constructor
  · intro untouched parted
    have ⟨stem, spelled, parts⟩ := parted
    have made := replaced_eq_some_iff.2 ⟨stem, spelled, parts, rfl⟩
    rw [untouched] at made
    cases made
  · intro unparted
    apply Option.eq_none_iff_forall_ne_some.2
    intro single made
    have ⟨stem, spelled, parts, _⟩ := replaced_eq_some_iff.1 made
    exact unparted ⟨stem, spelled, parts⟩

theorem keeps_words_iff {words dropped : List String} {put : String} :
    Ending.keeps { kept := words.map word, dropped, put } stem = true ↔
      ∃ kept ∈ words, kept.toList <:+ stem.map foldLetter := by
  have spelled (kept : String) :
      ((word kept).length ≤ stem.length ∧
        spells (word kept) (stem.drop (stem.length - (word kept).length)) = true) ↔
      kept.toList <:+ stem.map foldLetter := by
    rw [spells_word_iff, List.map_drop, List.suffix_iff_eq_drop, List.length_map, word,
      List.length_map, eq_comm]
    apply and_iff_right_of_imp
    intro ends
    have size := congrArg List.length ends
    rw [List.length_drop, List.length_map] at size
    omega
  simp [keeps, spelled]

/-- A rule that keeps words leaves a text alone that ends with none of them and a tail. -/
theorem words_untouched_iff {words dropped : List String} {put : String} :
    Ending.singular? { kept := words.map word, dropped, put } text = none ↔
      ∀ kept ∈ words, ∀ tail ∈ dropped, ¬(kept ++ tail).toList <:+ text.map foldLetter := by
  rw [singular_eq_none_iff]
  constructor
  · intro unparted kept keptMember tail tailMember ends
    have ⟨front, whole⟩ := ends
    rw [String.toList_append, ← List.append_assoc] at whole
    have ⟨stem, spelled, split, stemFold, tailFold⟩ := List.map_eq_append_iff.1 whole.symm
    apply unparted tail tailMember
    refine ⟨stem, spelled, split, tailFold, ?_⟩
    exact keeps_words_iff.2 ⟨kept, keptMember, front, stemFold.symm⟩
  · intro clear tail tailMember parted
    have ⟨stem, spelled, parts⟩ := parted
    have ⟨kept, keptMember, front, keptEnds⟩ := keeps_words_iff.1 parts.kept
    apply clear kept keptMember tail tailMember
    rw [parts.whole, List.map_append, parts.tail, String.toList_append, ← keptEnds,
      List.append_assoc]
    exact List.suffix_append front _

end Ending

theorem opening_eq_some_iff {kept dropped : String} {single : List Char} :
    Rule.singular? text (.opening kept dropped) = some single ↔
      (kept ++ dropped).toList <+: text.map foldLetter ∧
        single = text.take kept.length ++ text.drop (kept.length + dropped.length) := by
  have opens : spells (word (kept ++ dropped)) (text.take (kept.length + dropped.length)) = true ↔
      (kept ++ dropped).toList <+: text.map foldLetter := by
    rw [spells_word_iff, List.prefix_iff_eq_take, List.map_take, String.length_toList,
      String.length_append, eq_comm]
  simp only [Rule.singular?, Option.ite_none_right_eq_some, opens, Option.some.injEq,
    eq_comm (a := single)]

/-- A plural starts so many characters before the end of a text as it has bytes. -/
theorem plural_start_eq_some_iff {text plural : String} {start : Nat} :
    pluralStart? text plural = some start ↔
      ∃ stem tail, text.toList = stem ++ tail ∧ tail ≠ [] ∧ tail.length = plural.utf8ByteSize ∧
        start = byteSize stem := by
  unfold pluralStart?
  cases plural.utf8ByteSize with
  | zero =>
      constructor
      · intro found
        cases found
      · intro parted
        have ⟨_, _, _, nonempty, size, _⟩ := parted
        exact absurd (List.eq_nil_of_length_eq_zero size) nonempty
  | succ behind =>
      constructor
      · intro found
        have ⟨stem, c, rest, whole, size, starts⟩ := charStarts_from_end_iff.1 found
        exact ⟨stem, c :: rest, whole, List.cons_ne_nil c rest, congrArg Nat.succ size, starts.symm⟩
      · intro parted
        have ⟨stem, tail, whole, nonempty, size, starts⟩ := parted
        cases tail with
        | nil => exact absurd rfl nonempty
        | cons c rest =>
            exact charStarts_from_end_iff.2
              ⟨stem, c, rest, whole, Nat.succ.inj size, starts.symm⟩

/-- An irregular plural is found at the end of a text, in any case, behind an underscore. It must
have as many bytes as characters. -/
theorem irregular_stem_eq_some_iff {text plural stem : String} :
    irregularStem? text plural = some stem ↔
      plural ≠ "" ∧ plural.utf8ByteSize = plural.length ∧ stem.toList.getLast? = some '_' ∧
        ∃ tail, text.toList = stem.toList ++ tail ∧
          tail.map Char.toLower = plural.toList.map Char.toLower := by
  have sized {tail : List Char} (same : tail.map Char.toLower = plural.toList.map Char.toLower) :
      tail.length = plural.length := by
    have sizes := congrArg List.length same
    rwa [List.length_map, List.length_map, String.length_toList] at sizes
  constructor
  · intro found
    have ⟨start, located, cut⟩ := Option.bind_eq_some_iff.1 found
    have ⟨front, tail, whole, nonempty, size, starts⟩ := plural_start_eq_some_iff.1 located
    have ⟨parts, parted, made⟩ := Option.bind_eq_some_iff.1 cut
    rw [starts, whole, cutAtByte_append] at parted
    rw [← Option.some.inj parted] at made
    simp only [Option.ite_none_right_eq_some, Bool.and_eq_true, decide_eq_true_iff, beq_iff_eq,
      Option.some.injEq] at made
    have ⟨⟨marked, same⟩, named⟩ := made
    have length := sized same
    rw [← named, String.toList_ofList]
    refine ⟨?_, size.symm.trans length, marked, tail, whole, same⟩
    intro empty
    rw [empty] at length
    exact nonempty (List.eq_nil_of_length_eq_zero length)
  · intro found
    have ⟨nonempty, single, marked, tail, whole, same⟩ := found
    have size : tail.length = plural.utf8ByteSize := (sized same).trans single.symm
    have tailNonempty : tail ≠ [] := by
      intro empty
      rw [empty] at size
      exact nonempty (String.utf8ByteSize_eq_zero_iff.1 size.symm)
    have located : pluralStart? text plural = some (byteSize stem.toList) :=
      plural_start_eq_some_iff.2 ⟨_, tail, whole, tailNonempty, size, rfl⟩
    simp [irregularStem?, located, whole, cutAtByte_append, marked, same]

theorem irregular_stem_eq_none_iff {text plural : String} (nonempty : plural ≠ "")
    (single : plural.utf8ByteSize = plural.length)
    (lower : plural.toList.map Char.toLower = plural.toList) :
    irregularStem? text plural = none ↔
      ¬('_' :: plural.toList) <:+ text.toList.map Char.toLower := by
  rw [Option.eq_none_iff_forall_ne_some]
  constructor
  · intro absent ends
    have ⟨front, whole⟩ := ends
    have ⟨stem, rest, split, _, restLower⟩ := List.map_eq_append_iff.1 whole.symm
    have ⟨mark, tail, opened, markLower, tailLower⟩ := List.map_eq_cons_iff.1 restLower
    apply absent (String.ofList (stem ++ ['_']))
    apply irregular_stem_eq_some_iff.2
    refine ⟨nonempty, single, ?_, tail, ?_, tailLower.trans lower.symm⟩
    · rw [String.toList_ofList, List.getLast?_concat]
    · rw [split, opened, lower_eq_underscore_iff.1 markLower, String.toList_ofList,
        List.append_assoc]
      rfl
  · intro absent stem found
    have ⟨_, _, marked, tail, whole, same⟩ := irregular_stem_eq_some_iff.1 found
    have ⟨front, opened⟩ := List.getLast?_eq_some_iff.1 marked
    apply absent
    rw [whole, opened, List.map_append, List.map_append, same, lower, List.append_assoc]
    exact List.suffix_append _ _

end GraphSchema.Inflection
