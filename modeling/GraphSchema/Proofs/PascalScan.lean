import GraphSchema.Proofs.PascalNames

/-!
PascalCase in one pass. The pass goes through a name once and remembers whether a word begins; what
it has written does not depend on what is to come, so that it can be cut anywhere.
-/

namespace GraphSchema.Naming

open Text

/-- The words of a name from a place on where a word begins if `fresh` is set. -/
def scanWords : Bool → List Char → List Char
  | _, [] => []
  | fresh, c :: rest =>
      if isAlphanumeric c then (if fresh then upperChar c else [c]) ++ scanWords false rest
      else scanWords true rest

def freshAfter : Bool → List Char → Bool
  | fresh, [] => fresh
  | _, c :: rest => freshAfter (!isAlphanumeric c) rest

/-- The first piece of a name goes on with a word or begins one, and the others begin one each. -/
theorem scan_of_segments (name : List Char) : ∃ first others,
    segments '_' (name.map fun c => if isAlphanumeric c then c else '_') = first :: others ∧
      scanWords true name = upperFirstChars first ++ others.flatMap upperFirstChars ∧
      scanWords false name = first ++ others.flatMap upperFirstChars := by
  induction name with
  | nil => exact ⟨[], [], rfl, rfl, rfl⟩
  | cons c rest ih =>
      have ⟨first, others, pieces, fresh, running⟩ := ih
      by_cases solid : isAlphanumeric c = true
      · have letter : c ≠ '_' := by
          intro same
          rw [same] at solid
          exact absurd solid (by decide)
        refine ⟨c :: first, others, ?_, ?_, ?_⟩
        · rw [List.map_cons, if_pos solid, segments, if_neg letter, pieces]
        · rw [scanWords, if_pos solid, running, upperFirstChars, List.append_assoc]
          rfl
        · rw [scanWords, if_pos solid, running]
          rfl
      · refine ⟨[], first :: others, ?_, ?_, ?_⟩
        · rw [List.map_cons, if_neg solid, segments, if_pos rfl, pieces]
        · rw [scanWords, if_neg solid, fresh]
          rfl
        · rw [scanWords, if_neg solid, fresh]
          rfl

theorem pascal_words_eq_scan (name : List Char) : pascalWords name = scanWords true name := by
  have ⟨first, others, pieces, fresh, _⟩ := scan_of_segments name
  rw [pascalWords, pieces, fresh]
  rfl

theorem scan_append (fresh : Bool) (left right : List Char) :
    scanWords fresh (left ++ right) =
      scanWords fresh left ++ scanWords (freshAfter fresh left) right := by
  induction left generalizing fresh with
  | nil => rfl
  | cons c rest ih =>
      by_cases solid : isAlphanumeric c = true
      · simp [scanWords, freshAfter, solid, ih]
      · simp [scanWords, freshAfter, solid, ih]

theorem fresh_after_append (fresh : Bool) (left right : List Char) :
    freshAfter fresh (left ++ right) = freshAfter (freshAfter fresh left) right := by
  induction left generalizing fresh with
  | nil => rfl
  | cons c rest ih => exact ih _

theorem scan_within_word {word : List Char} (solid : ∀ c ∈ word, isAlphanumeric c = true) :
    scanWords false word = word := by
  induction word with
  | nil => rfl
  | cons c rest ih =>
      have later := ih fun d member => solid d (List.mem_cons_of_mem c member)
      rw [scanWords, if_pos (solid c List.mem_cons_self), later]
      rfl

theorem scan_of_word {c : Char} {rest : List Char}
    (solid : ∀ d ∈ c :: rest, isAlphanumeric d = true) :
    scanWords true (c :: rest) = upperChar c ++ rest := by
  have later := scan_within_word fun d member => solid d (List.mem_cons_of_mem c member)
  rw [scanWords, if_pos (solid c List.mem_cons_self), later]
  rfl

theorem capital_of_ascii : ∀ c : Char, c.toNat < 0x80 →
    c.toUpper.isLower = false ∧ c.toUpper.toLower = c.toLower ∧
      (c.isLower = false → c.toUpper = c) :=
  of_codes (by decide +kernel)

/-- What the pass writes for a character: a letter or digit in upper case where a word begins, as it
is within a word, and nothing for what parts words. -/
theorem scan_cons_of_ascii {c : Char} (ascii : c.toNat < 0x80) (fresh : Bool) (rest : List Char) :
    scanWords fresh (c :: rest) =
      if c.isAlphanum then (if fresh then c.toUpper else c) :: scanWords false rest
      else scanWords true rest := by
  rw [scanWords, isAlphanumeric_of_ascii ascii, upperChar_of_ascii ascii]
  cases fresh <;> rfl

theorem scan_letters {text : List Char} (ascii : ∀ c ∈ text, c.toNat < 0x80) (fresh : Bool) :
    (scanWords fresh text).map Char.toLower = (text.filter Char.isAlphanum).map Char.toLower := by
  induction text generalizing fresh with
  | nil => rfl
  | cons c rest ih =>
      have low := ascii c List.mem_cons_self
      have later := ih fun d member => ascii d (List.mem_cons_of_mem c member)
      rw [scan_cons_of_ascii low, List.filter_cons]
      split
      · have same : (if fresh then c.toUpper else c).toLower = c.toLower := by
          split
          · exact (capital_of_ascii c low).2.1
          · rfl
        rw [List.map_cons, List.map_cons, same, later]
      · exact later true

end GraphSchema.Naming
