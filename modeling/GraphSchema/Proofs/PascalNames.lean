import GraphSchema.Naming
import GraphSchema.Text.Digits
import Mathlib.Data.List.Basic

/-!
The characters of a PascalCase name. Underscores part its words and do not stand in them, so the
only one that it can have is the first, which guards a digit.
-/

namespace GraphSchema.Naming

open Text

variable {name : List Char}

theorem ascii_of_letter {c : Char} (letter : c.isAlpha) : c.toNat < 0x80 := by
  rcases Bool.or_eq_true_iff.1 letter with upper | lower
  · exact Nat.lt_of_le_of_lt (of_decide_eq_true upper).2 (by decide)
  · exact Nat.lt_of_le_of_lt (of_decide_eq_true (Bool.and_eq_true_iff.1 lower).2) (by decide)

theorem alphanumeric_of_letter {c : Char} (letter : c.isAlpha) : isAlphanumeric c := by
  rw [isAlphanumeric_of_ascii (ascii_of_letter letter), Char.isAlphanum, letter, Bool.true_or]

theorem alphanumeric_of_digit {c : Char} (digit : c.isDigit) : isAlphanumeric c := by
  obtain ⟨_, high⟩ := code_of_digit digit
  rw [isAlphanumeric, if_pos (by omega), Char.isAlphanum, digit, Bool.or_true]

theorem underscore_not_in_words (name : List Char) : '_' ∉ pascalWords name := by
  rw [pascalWords, List.mem_flatMap]
  rintro ⟨word, member, among⟩
  have unbroken : '_' ∉ word := by
    intro inside
    have kept := List.mem_flatten.2 ⟨word, member, inside⟩
    rw [flatten_segments] at kept
    simp at kept
  cases word with
  | nil => cases among
  | cons c rest =>
      rcases List.mem_append.1 among with first | later
      · exact unbroken (underscore_of_upper first ▸ List.mem_cons_self)
      · exact unbroken (List.mem_cons_of_mem c later)

theorem words_ne_nil {c : Char} (member : c ∈ name) (kept : isAlphanumeric c) :
    pascalWords name ≠ [] := by
  have solid : c ≠ '_' := by
    rintro rfl
    exact absurd kept (by decide)
  have inWord :
      c ∈ (segments '_' (name.map fun c => if isAlphanumeric c then c else '_')).flatten := by
    rw [flatten_segments, List.mem_filter, List.mem_map]
    exact ⟨⟨c, member, if_pos kept⟩, decide_eq_true solid⟩
  obtain ⟨word, among, inside⟩ := List.mem_flatten.1 inWord
  intro empty
  have wordEmpty := List.flatMap_eq_nil_iff.1 empty word among
  cases word with
  | nil => cases inside
  | cons first rest => exact upperChar_ne_nil first (List.append_eq_nil_iff.1 wordEmpty).1

/-- A name in which no underscore stands but as its first character, so that a number may follow
one. -/
structure Numberable (name : String) : Prop where
  nonempty : name.toList ≠ []
  unbroken : '_' ∉ name.toList.tail

theorem pascal_case_numberable {name : String} (kept : ∃ c ∈ name.toList, isAlphanumeric c) :
    Numberable (pascalCase name) := by
  obtain ⟨c, member, solid⟩ := kept
  have nonempty := words_ne_nil member solid
  have unbroken := underscore_not_in_words name.toList
  rw [pascalCase]
  cases words : pascalWords name.toList with
  | nil => exact absurd words nonempty
  | cons first rest =>
      rw [words] at unbroken
      rw [guardDigit]
      split
      · exact ⟨by simp, by simpa using unbroken⟩
      · exact ⟨by simp, by simpa using List.not_mem_of_not_mem_cons unbroken⟩

theorem numberable_of_letter {name : String} (letter : ∃ c ∈ name.toList, c.isAlpha) :
    Numberable (pascalCase name) := by
  obtain ⟨c, member, alpha⟩ := letter
  exact pascal_case_numberable ⟨c, member, alphanumeric_of_letter alpha⟩

theorem pascal_words_append (left right : List Char) :
    pascalWords (left ++ '_' :: right) = pascalWords left ++ pascalWords right := by
  have separator : (if isAlphanumeric '_' then '_' else '_') = '_' := ite_self _
  rw [pascalWords, List.map_append, List.map_cons, separator, segments_append, List.flatMap_append]
  rfl

theorem guard_digit_inj {left right : List Char} (leftUnbroken : '_' ∉ left)
    (rightUnbroken : '_' ∉ right) (same : guardDigit left = guardDigit right) : left = right := by
  -- A guarded name begins with an underscore, which no other does.
  have begins {word : List Char} (unbroken : '_' ∉ word) {rest : List Char}
      (guarded : word = '_' :: rest) : False := unbroken (guarded ▸ List.mem_cons_self)
  cases left with
  | nil =>
      cases right with
      | nil => rfl
      | cons c rest =>
          rw [guardDigit, guardDigit] at same
          split at same <;> cases same
  | cons c rest =>
      cases right with
      | nil =>
          rw [guardDigit, guardDigit] at same
          split at same <;> cases same
      | cons d tail =>
          rw [guardDigit, guardDigit] at same
          split at same <;> split at same
          · exact (List.cons.inj same).2
          · exact (begins rightUnbroken same.symm).elim
          · exact (begins leftUnbroken same).elim
          · exact same

theorem pascal_case_eq_iff {left right : String} :
    pascalCase left = pascalCase right ↔ pascalWords left.toList = pascalWords right.toList := by
  constructor
  · intro same
    apply guard_digit_inj (underscore_not_in_words _) (underscore_not_in_words _)
    exact String.ofList_injective same
  · intro same
    rw [pascalCase, pascalCase, same]

/-- What stands before an underscore does not tell two names apart. -/
theorem pascal_case_behind_iff (opening : String) {left right : String} :
    pascalCase (opening ++ "_" ++ left) = pascalCase (opening ++ "_" ++ right) ↔
      pascalCase left = pascalCase right := by
  have words (name : String) : pascalWords (opening ++ "_" ++ name).toList =
      pascalWords opening.toList ++ pascalWords name.toList := by
    rw [← pascal_words_append]
    simp
  rw [pascal_case_eq_iff, pascal_case_eq_iff, words, words, List.append_cancel_left_eq]

theorem pascal_words_of_number (number : Nat) :
    pascalWords number.repr.toList = number.repr.toList := by
  have kept : number.repr.toList.map (fun c => if isAlphanumeric c then c else '_') =
      number.repr.toList := by
    have digit : ∀ c ∈ number.repr.toList, (if isAlphanumeric c then c else '_') = c := by
      intro c member
      exact if_pos (alphanumeric_of_digit (digits_of_repr member))
    rw [List.map_congr_left digit, List.map_id']
  have unbroken : '_' ∉ number.repr.toList := by
    intro member
    exact absurd (digits_of_repr member) (by decide)
  rw [pascalWords, kept, segments_of_unbroken unbroken, List.flatMap_singleton]
  cases digits : number.repr.toList with
  | nil => rfl
  | cons c rest =>
      have digit : c.isDigit := digits_of_repr (digits ▸ List.mem_cons_self)
      rw [upperFirstChars, upperChar_of_digit digit]
      rfl

/-- The fallback label of a value, in the name of its constant. -/
theorem pascal_case_of_numbered_value (number : Nat) :
    pascalCase ("value_" ++ number.repr) = "Value" ++ number.repr := by
  have words : pascalWords ("value_" ++ number.repr).toList =
      "Value".toList ++ number.repr.toList := by
    have parts : ("value_" ++ number.repr).toList =
        "value".toList ++ '_' :: number.repr.toList := by
      rw [String.toList_append]
      rfl
    have opening : pascalWords "value".toList = "Value".toList := by decide
    rw [parts, pascal_words_append, opening, pascal_words_of_number]
  apply String.toList_injective
  rw [pascalCase, words, String.toList_ofList, String.toList_append]
  rfl

end GraphSchema.Naming
