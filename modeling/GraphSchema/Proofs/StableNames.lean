import GraphSchema.Proofs.PascalScan

/-!
PascalCase spellings of ASCII names. They are the letters and digits of the name, begin with no
small letter, and have an underscore in front of a digit that they would begin with. A text of that
shape is spelled as it is, so that a spelling can be spelled again.
-/

namespace GraphSchema.Naming

open Text

/-- Whether a text is a GraphQL name: a letter or an underscore, and then letters, digits and
underscores. -/
def isGraphqlName (name : String) : Bool :=
  match name.toList with
  | [] => false
  | c :: rest => (c.isAlpha || c = '_') && rest.all fun d => d.isAlphanum || d = '_'

variable {c : Char} {rest text : List Char}

theorem ascii_of_alphanum (solid : c.isAlphanum = true) : c.toNat < 0x80 := by
  rcases Bool.or_eq_true_iff.1 solid with letter | digit
  · exact ascii_of_letter letter
  · have ⟨_, high⟩ := code_of_digit digit
    omega

theorem alphanum_of_lower (c : Char) : c.toLower.isAlphanum = c.isAlphanum := by
  by_cases ascii : c.toNat < 0x80
  · have own : ∀ c : Char, c.toNat < 0x80 → c.toLower.isAlphanum = c.isAlphanum :=
      of_codes (by decide +kernel)
    exact own c ascii
  · rw [lower_of_not_ascii ascii]

/-- Only letters and digits are written, as their small forms are those of letters and digits. -/
theorem scan_solid (ascii : ∀ c ∈ text, c.toNat < 0x80) (fresh : Bool) :
    ∀ c ∈ scanWords fresh text, c.isAlphanum = true := by
  intro c member
  have lowered : c.toLower ∈ (scanWords fresh text).map Char.toLower := List.mem_map_of_mem member
  rw [scan_letters ascii] at lowered
  have ⟨d, among, same⟩ := List.mem_map.1 lowered
  rw [← alphanum_of_lower, ← same, alphanum_of_lower]
  exact (List.mem_filter.1 among).2

theorem scan_opens_large (ascii : ∀ c ∈ text, c.toNat < 0x80)
    (opened : scanWords true text = c :: rest) : c.isLower = false := by
  induction text with
  | nil => cases opened
  | cons d others ih =>
      have low := ascii d List.mem_cons_self
      rw [scan_cons_of_ascii low] at opened
      split at opened
      · rw [← (List.cons.inj opened).1]
        exact (capital_of_ascii d low).1
      · exact ih (fun e member => ascii e (List.mem_cons_of_mem d member)) opened

/-- The letters and digits of a PascalCase spelling, which are one word. -/
structure SpelledWord (c : Char) (rest : List Char) : Prop where
  solid : ∀ d ∈ c :: rest, d.isAlphanum = true
  large : c.isLower = false

theorem spelled_word_of_ascii (ascii : ∀ c ∈ text, c.toNat < 0x80)
    (solid : ∃ c ∈ text, c.isAlphanum = true) :
    ∃ c rest, pascalWords text = c :: rest ∧ SpelledWord c rest := by
  have ⟨d, member, kept⟩ := solid
  have letters := scan_letters ascii true
  rw [pascal_words_eq_scan]
  cases words : scanWords true text with
  | nil =>
      rw [words] at letters
      have empty : text.filter Char.isAlphanum = [] := List.map_eq_nil_iff.1 letters.symm
      exact absurd kept (List.filter_eq_nil_iff.1 empty d member)
  | cons c rest =>
      exact ⟨c, rest, rfl, words ▸ scan_solid ascii true, scan_opens_large ascii words⟩

namespace SpelledWord

variable (word : SpelledWord c rest)
include word

theorem words_of_guarded : pascalWords (guardDigit (c :: rest)) = c :: rest := by
  have low := ascii_of_alphanum (word.solid c List.mem_cons_self)
  have alphanumeric : ∀ d ∈ c :: rest, isAlphanumeric d = true := by
    intro d member
    rw [isAlphanumeric_of_ascii (ascii_of_alphanum (word.solid d member)), word.solid d member]
  have words : scanWords true (c :: rest) = c :: rest := by
    rw [scan_of_word alphanumeric, upperChar_of_ascii low,
      (capital_of_ascii c low).2.2 word.large]
    rfl
  rw [pascal_words_eq_scan, guardDigit]
  split
  · exact words
  · exact words

theorem guarded_is_graphql_name :
    isGraphqlName (String.ofList (guardDigit (c :: rest))) = true := by
  have all : ∀ d ∈ c :: rest, (d.isAlphanum || decide (d = '_')) = true :=
    fun d member => Bool.or_eq_true_iff.2 (.inl (word.solid d member))
  rw [isGraphqlName, String.toList_ofList, guardDigit]
  by_cases digit : c.isDigit = true
  · rw [if_pos digit]
    exact Bool.and_eq_true_iff.2 ⟨rfl, List.all_eq_true.2 all⟩
  · have letter : c.isAlpha = true :=
      (Bool.or_eq_true_iff.1 (word.solid c List.mem_cons_self)).resolve_right digit
    have later := fun d member => all d (List.mem_cons_of_mem c member)
    rw [if_neg digit]
    exact Bool.and_eq_true_iff.2 ⟨Bool.or_eq_true_iff.2 (.inl letter), List.all_eq_true.2 later⟩

theorem head_of_guarded {first : Char} (head : (guardDigit (c :: rest)).head? = some first) :
    first.isLower = false := by
  rw [guardDigit] at head
  split at head
  · rw [← Option.some.inj head]
    rfl
  · rw [← Option.some.inj head]
    exact word.large

theorem letters_of_guarded : (guardDigit (c :: rest)).filter Char.isAlphanum = c :: rest := by
  have kept : (c :: rest).filter Char.isAlphanum = c :: rest := List.filter_eq_self.2 word.solid
  rw [guardDigit]
  split
  · exact kept
  · exact kept

end SpelledWord

/-- Without renames, an ASCII name with a letter or digit is spelled as a GraphQL name: its letters
and digits, with an underscore in front if the first of them is a digit. The spelling begins with no
small letter and is its own spelling. -/
theorem struct_names_are_valid_and_stable {renames : Renames} {name : String}
    (unrenamed : ∀ other, renames.replacement? other = none)
    (ascii : ∀ c ∈ name.toList, c.toNat < 0x80)
    (solid : ∃ c ∈ name.toList, c.isAlphanum = true) :
    isGraphqlName (structName renames name) = true ∧
    (∃ c rest, (∀ d ∈ c :: rest, d.isAlphanum = true) ∧
      (structName renames name).toList = if c.isDigit then '_' :: c :: rest else c :: rest) ∧
    (∀ c, (structName renames name).toList.head? = some c → c.isLower = false) ∧
    ((structName renames name).toList.filter Char.isAlphanum).map Char.toLower =
      (name.toList.filter Char.isAlphanum).map Char.toLower ∧
    structName renames (structName renames name) = structName renames name := by
  have plain (other : String) : structName renames other = pascalCase other := by
    rw [structName, unrenamed, Option.getD_none]
  have ⟨c, rest, words, word⟩ := spelled_word_of_ascii ascii solid
  have spelled : pascalCase name = String.ofList (guardDigit (c :: rest)) := by
    rw [pascalCase, words]
  have again : pascalCase (String.ofList (guardDigit (c :: rest))) =
      String.ofList (guardDigit (c :: rest)) := by
    rw [pascalCase, String.toList_ofList, word.words_of_guarded]
  rw [plain name, plain, spelled, again, String.toList_ofList]
  refine ⟨word.guarded_is_graphql_name, ⟨c, rest, word.solid, rfl⟩,
    fun first => word.head_of_guarded, ?_, rfl⟩
  rw [word.letters_of_guarded, ← words, pascal_words_eq_scan, scan_letters ascii]

theorem factor_codes_are_stable :
    (∀ other, Renames.empty.replacement? other = none) ∧
      (∀ c ∈ "--2fa__backup-codesA".toList, c.toNat < 0x80) ∧
      (∃ c ∈ "--2fa__backup-codesA".toList, c.isAlphanum = true) ∧
      structName .empty "--2fa__backup-codesA" = "_2faBackupCodesA" ∧
      isGraphqlName "_2faBackupCodesA" = true ∧
      structName .empty "_2faBackupCodesA" = "_2faBackupCodesA" := by
  have unrenamed : ∀ other, Renames.empty.replacement? other = none := fun _ => rfl
  have ascii : ∀ c ∈ "--2fa__backup-codesA".toList, c.toNat < 0x80 := ascii_of_all (by decide)
  have solid : ∃ c ∈ "--2fa__backup-codesA".toList, c.isAlphanum = true :=
    ⟨'2', by decide, by decide⟩
  have spelled : structName .empty "--2fa__backup-codesA" = "_2faBackupCodesA" := by decide
  have ⟨valid, _, _, _, stable⟩ := struct_names_are_valid_and_stable unrenamed ascii solid
  rw [spelled] at valid stable
  exact ⟨unrenamed, ascii, solid, spelled, valid, stable⟩

end GraphSchema.Naming
