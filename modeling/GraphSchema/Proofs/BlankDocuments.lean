import GraphSchema.Options.Decode
import Mathlib.Data.List.Basic

/-!
A blank document is no JSON. Where a reader takes white space alone for an empty document, it takes
no document for one that could have been read: neither by the blanks of ASCII in bytes nor by those
of Unicode in a text.
-/

namespace GraphSchema

namespace Json

/-- Characters with which no token begins: white space and controls that may stand for it, and
whatever is not ASCII. -/
def IsQuiet (c : Char) : Prop := c.toNat = 32 ∨ (9 ≤ c.toNat ∧ c.toNat ≤ 13) ∨ 128 ≤ c.toNat

theorem scan_of_far {c : Char} (far : 128 ≤ c.toNat) (rest : List Char) :
    scan (c :: rest) = none := by
  have differs {mark : Char} (ascii : mark.toNat < 128) : c ≠ mark := by
    rintro rfl
    exact absurd far (Nat.not_le.2 ascii)
  have noDigit : c.isDigit = false := by
    rw [Bool.eq_false_iff, ne_eq, Char.isDigit_iff_toNat]
    rintro ⟨_, small⟩
    exact absurd (Nat.le_trans far small) (by decide)
  have noSpace : isSpace c = false := by
    have space : c ≠ ' ' := differs (by decide)
    have tab : c ≠ '\t' := differs (by decide)
    have newline : c ≠ '\n' := differs (by decide)
    have carriage : c ≠ '\r' := differs (by decide)
    simp [isSpace, space, tab, newline, carriage]
  have noNumber : isNumberChar c = false := by
    have plus : c ≠ '+' := differs (by decide)
    have minus : c ≠ '-' := differs (by decide)
    have stop : c ≠ '.' := differs (by decide)
    have small : c ≠ 'e' := differs (by decide)
    have capital : c ≠ 'E' := differs (by decide)
    simp [isNumberChar, noDigit, plus, minus, stop, small, capital]
  unfold scan
  split <;> rename_i same <;> cases same
  case h_12 =>
    rw [if_neg (by simp [noSpace]), List.takeWhile_cons_of_neg (by simp [noNumber])]
    rfl
  all_goals exact absurd far (by decide)

theorem scan_of_quiet {c : Char} (quiet : IsQuiet c) (rest : List Char) :
    scan (c :: rest) = none ∨ scan (c :: rest) = some ([], rest) := by
  by_cases far : 128 ≤ c.toNat
  · exact Or.inl (scan_of_far far rest)
  · have near : c.toNat = ' '.toNat ∨ c.toNat = '\t'.toNat ∨ c.toNat = '\n'.toNat ∨
        c.toNat = '\r'.toNat ∨ c.toNat = '\x0b'.toNat ∨ c.toNat = '\x0c'.toNat := by
      change c.toNat = 32 ∨ c.toNat = 9 ∨ c.toNat = 10 ∨ c.toNat = 13 ∨ c.toNat = 11 ∨
        c.toNat = 12
      unfold IsQuiet at quiet
      omega
    simp only [Char.toNat_inj] at near
    rcases near with rfl | rfl | rfl | rfl | rfl | rfl
    · exact Or.inr rfl
    · exact Or.inr rfl
    · exact Or.inr rfl
    · exact Or.inr rfl
    · exact Or.inl rfl
    · exact Or.inl rfl

theorem tokens_of_quiet {text : List Char} (quiet : ∀ c ∈ text, IsQuiet c) (steps : Nat) :
    Scanner.within scan [] steps text = none ∨ Scanner.within scan [] steps text = some [] := by
  induction text generalizing steps with
  | nil => cases steps <;> exact Or.inr rfl
  | cons c rest ih =>
      obtain ⟨own, others⟩ := List.forall_mem_cons.1 quiet
      cases steps with
      | zero => exact Or.inl rfl
      | succ steps =>
          rcases scan_of_quiet own rest with stuck | read
          · exact Or.inl (by rw [Scanner.within, stuck])
          · rw [Scanner.within, read]
            exact ih others steps

theorem read_of_quiet {bytes : List UInt8}
    (quiet : ∀ byte ∈ bytes, IsQuiet (Char.ofNat byte.toNat)) : read? bytes = none := by
  have each : ∀ c ∈ bytes.map fun byte => Char.ofNat byte.toNat, IsQuiet c :=
    List.forall_mem_map.2 quiet
  rcases tokens_of_quiet each _ with stuck | nothing
  · rw [read?, Scanner.all, stuck]
    rfl
  · rw [read?, Scanner.all, nothing]
    rfl

theorem quiet_byte {byte : UInt8}
    (quiet : byte.toNat = 32 ∨ (9 ≤ byte.toNat ∧ byte.toNat ≤ 13) ∨ 128 ≤ byte.toNat) :
    IsQuiet (Char.ofNat byte.toNat) := by
  have small : byte.toNat < 256 := byte.toNat_lt
  have valid : byte.toNat.isValidChar := Or.inl (by omega)
  have code : (Char.ofNat byte.toNat).toNat = byte.toNat := by
    rw [Char.ofNat, dif_pos valid]
    rfl
  rwa [IsQuiet, code]

end Json

theorem encoded_byte_cases {c : Char} {byte : UInt8} (member : byte ∈ String.utf8EncodeChar c) :
    128 ≤ byte.toNat ∨ byte.toNat = c.toNat := by
  have small {number : Nat} (bound : number < 256) : (UInt8.ofNat number).toNat = number :=
    (UInt8.toNat_ofNat').trans (Nat.mod_eq_of_lt bound)
  have far {number : Nat} (ahead : 128 ≤ number) (bound : number < 256) :
      128 ≤ (UInt8.ofNat number).toNat := by
    rwa [small bound]
  simp only [String.utf8EncodeChar] at member
  split at member
  · obtain rfl := List.mem_singleton.1 member
    exact Or.inr (small (by omega))
  · left
    split at member
    · simp only [List.mem_cons, List.not_mem_nil, or_false] at member
      rcases member with rfl | rfl <;> exact far (by omega) (by omega)
    · split at member
      · simp only [List.mem_cons, List.not_mem_nil, or_false] at member
        rcases member with rfl | rfl | rfl <;> exact far (by omega) (by omega)
      · simp only [List.mem_cons, List.not_mem_nil, or_false] at member
        rcases member with rfl | rfl | rfl | rfl <;> exact far (by omega) (by omega)

/-- A reader finds nothing in white space alone: not in that of ASCII, and not in a text of that of
Unicode. -/
structure JsonReader.RefusesBlanks (readJson? : JsonReader) : Prop where
  ofBytes : ∀ bytes : List UInt8, bytes.all DocumentKind.isAsciiBlank = true →
    readJson? bytes = none
  ofText : ∀ content : String, content.toList.all Text.isBlank = true →
    readJson? (Text.utf8 content) = none

theorem Json.refuses_blanks : JsonReader.RefusesBlanks read? where
  ofBytes := by
    intro bytes blank
    apply read_of_quiet
    intro byte member
    apply quiet_byte
    have among := List.all_eq_true.1 blank byte member
    simp only [DocumentKind.isAsciiBlank, List.contains_iff_mem, List.mem_cons, List.not_mem_nil,
      or_false] at among
    rcases among with rfl | rfl | rfl | rfl | rfl <;> decide
  ofText := by
    intro content blank
    apply read_of_quiet
    intro byte member
    apply quiet_byte
    have ⟨c, among, encoded⟩ := List.mem_flatMap.1 member
    have white := List.all_eq_true.1 blank c among
    simp only [Text.isBlank, Text.CodeRanges.holds, Text.blankRanges, List.any_cons, List.any_nil,
      Bool.or_false, Bool.or_eq_true, Bool.and_eq_true, decide_eq_true_eq] at white
    rcases encoded_byte_cases encoded with far | same <;> omega

end GraphSchema
