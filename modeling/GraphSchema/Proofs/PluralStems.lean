import GraphSchema.Proofs.WordEndings

/-!
Where an irregular plural begins at the end of a name. The search counts as many characters from the
end as the plural has bytes, and cuts the name at the byte where the last of them begins. For a
plural in ASCII that is the one place where it can stand, and no character of the name lies across
the cut, however many bytes its characters have.
-/

namespace GraphSchema.Inflection

open Text

variable {word plural : String}

theorem byte_size_of_plural (ascii : ∀ c ∈ plural.toList, c.toNat < 0x80) :
    plural.utf8ByteSize = plural.length := by
  rw [← byteSize_toList, byteSize_of_ascii ascii, String.length_toList]

theorem plural_start_eq_none_iff (nonempty : plural ≠ "") :
    pluralStart? word plural = none ↔ word.length < plural.utf8ByteSize := by
  unfold pluralStart?
  cases size : plural.utf8ByteSize with
  | zero => exact absurd (String.utf8ByteSize_eq_zero_iff.1 size) nonempty
  | succ behind =>
      simp only [List.getElem?_eq_none_iff, List.length_reverse, charStarts_length,
        String.length_toList, Nat.lt_succ_iff]

theorem cut_at_plural_start {start : Nat} (located : pluralStart? word plural = some start) :
    ∃ stem tail, word = stem ++ tail ∧ tail.length = plural.utf8ByteSize ∧
      cutAtByte? start word.toList = some (stem.toList, tail.toList) ∧
      String.Pos.Raw.IsValid word ⟨start⟩ := by
  have ⟨front, back, whole, _, size, starts⟩ := plural_start_eq_some_iff.1 located
  have joined : word = String.ofList front ++ String.ofList back := by
    rw [← String.ofList_append, ← whole, String.ofList_toList]
  have valid := valid_behind (String.ofList front) (String.ofList back)
  rw [← joined, String.toList_ofList, ← starts] at valid
  refine ⟨_, _, joined, ?_, ?_, valid⟩
  · rw [String.length_ofList, size]
  · rw [starts, whole, cutAtByte_append, String.toList_ofList, String.toList_ofList]

theorem ends_with_underscore_iff {stem : String} :
    endsWith stem "_" = true ↔ stem.toList.getLast? = some '_' := by
  rw [endsWith, List.isSuffixOf_iff_suffix]
  exact List.singleton_suffix_iff_getLast?_eq_some

/-- A plural in ASCII is found exactly where a name ends with it, in any case, behind an underscore.
The search cuts the name between two characters, and only if it has as many as the plural. -/
theorem plurals_found_behind_underscores (nonempty : plural ≠ "")
    (ascii : ∀ c ∈ plural.toList, c.toNat < 0x80) :
    (∀ stem, irregularStem? word plural = some stem ↔
      ∃ tail, word = stem ++ tail ∧ sameIgnoringCase tail plural = true ∧
        endsWith stem "_" = true) ∧
    (∀ start, pluralStart? word plural = some start →
      ∃ stem tail, word = stem ++ tail ∧ tail.length = plural.length ∧
        cutAtByte? start word.toList = some (stem.toList, tail.toList) ∧
        String.Pos.Raw.IsValid word ⟨start⟩) ∧
    (pluralStart? word plural = none ↔ word.length < plural.length) := by
  have single := byte_size_of_plural ascii
  constructor
  · intro stem
    rw [irregular_stem_eq_some_iff]
    constructor
    · intro found
      have ⟨_, _, marked, tail, whole, same⟩ := found
      refine ⟨String.ofList tail, ?_, ?_, ends_with_underscore_iff.2 marked⟩
      · rw [← String.toList_inj, String.toList_append, String.toList_ofList, whole]
      · rw [sameIgnoringCase_iff, String.toList_ofList, same]
    · intro parted
      have ⟨tail, whole, same, marked⟩ := parted
      refine ⟨nonempty, single, ends_with_underscore_iff.1 marked, tail.toList, ?_, ?_⟩
      · rw [whole, String.toList_append]
      · exact sameIgnoringCase_iff.1 same
  · rw [← single]
    exact ⟨fun start located => cut_at_plural_start located, plural_start_eq_none_iff nonempty⟩

/-- The Kelvin sign has three bytes, and one when it is put in lower case. -/
theorem men_measured_in_kelvin :
    "men" ≠ "" ∧ (∀ c ∈ "men".toList, c.toNat < 0x80) ∧
      irregularStem? "é\u212a_MEN" "men" = some "é\u212a_" ∧
      irregularStem? "\u212amen" "men" = none ∧ pluralStart? "é_" "men" = none := by
  have nonempty : "men" ≠ "" := by decide
  have ascii : ∀ c ∈ "men".toList, c.toNat < 0x80 := ascii_of_all (by decide)
  have ⟨found, _, _⟩ := @plurals_found_behind_underscores "é\u212a_MEN" "men" nonempty ascii
  have ⟨_, _, short⟩ := @plurals_found_behind_underscores "é_" "men" nonempty ascii
  exact ⟨nonempty, ascii, (found _).2 ⟨"MEN", rfl, rfl, rfl⟩, by decide, short.2 (by decide)⟩

end GraphSchema.Inflection
