import GraphSchema.Text.CodeRange

/-!
White space, by the property White_Space, and trimming by it. A zero-width space is not white.
-/

namespace GraphSchema.Text

def blankRanges : CodeRanges := [
  (0x9, 0xd), (0x20, 0x20), (0x85, 0x85), (0xa0, 0xa0), (0x1680, 0x1680), (0x2000, 0x200a),
  (0x2028, 0x2029), (0x202f, 0x202f), (0x205f, 0x205f), (0x3000, 0x3000)]

def isBlank (c : Char) : Bool := blankRanges.holds c

def trimStart (text : List Char) : List Char := text.dropWhile isBlank

def trimEnd (text : List Char) : List Char := (text.reverse.dropWhile isBlank).reverse

def trim (text : List Char) : List Char := trimEnd (trimStart text)

def trimmed (text : String) : String := String.ofList (trim text.toList)

/-- A text of white characters alone. -/
def Blank (text : List Char) : Prop := ∀ c ∈ text, isBlank c = true

-- These instances go through the text, where one for the quantifier may go through all characters.
instance (text : List Char) : Decidable (Blank text) :=
  decidable_of_iff (text.all isBlank = true) List.all_eq_true

/-- A text that neither begins nor ends with a white character. -/
structure Trimmed (text : List Char) : Prop where
  start : ∀ c ∈ text.head?, isBlank c = false
  finish : ∀ c ∈ text.getLast?, isBlank c = false

theorem trimmed_iff {text : List Char} :
    Trimmed text ↔ text.head?.all (!isBlank ·) = true ∧ text.getLast?.all (!isBlank ·) = true := by
  rw [Option.all_eq_true, Option.all_eq_true]
  constructor
  · intro trimmed
    exact ⟨by simpa using trimmed.start, by simpa using trimmed.finish⟩
  · rintro ⟨start, finish⟩
    exact ⟨by simpa using start, by simpa using finish⟩

instance (text : List Char) : Decidable (Trimmed text) := decidable_of_iff _ trimmed_iff.symm

theorem trimStart_of_start {text : List Char} (start : ∀ c ∈ text.head?, isBlank c = false) :
    trimStart text = text := by
  cases text with
  | nil => rfl
  | cons c rest =>
      have solid : isBlank c = false := start c rfl
      exact List.dropWhile_cons_of_neg (by simp [solid])

theorem trimStart_append_blank {margin : List Char} (blank : Blank margin) {c : Char}
    (solid : isBlank c = false) (rest : List Char) :
    trimStart (margin ++ c :: rest) = c :: rest := by
  rw [trimStart, List.dropWhile_append_of_pos blank]
  exact List.dropWhile_cons_of_neg (by simp [solid])

theorem trimStart_margin (text : List Char) :
    ∃ margin, Blank margin ∧ text = margin ++ trimStart text := by
  refine ⟨text.takeWhile isBlank, fun c member => ?_, List.takeWhile_append_dropWhile.symm⟩
  exact List.all_eq_true.1 List.all_takeWhile c member

theorem trimEnd_of_finish {text : List Char} (finish : ∀ c ∈ text.getLast?, isBlank c = false) :
    trimEnd text = text := by
  have kept : text.reverse.dropWhile isBlank = text.reverse := by
    apply trimStart_of_start
    rwa [List.head?_reverse]
  rw [trimEnd, kept, List.reverse_reverse]

theorem Trimmed.trim_eq {text : List Char} (trimmed : Trimmed text) : trim text = text := by
  rw [trim, trimStart_of_start trimmed.start, trimEnd_of_finish trimmed.finish]

theorem trimEnd_margin (text : List Char) : ∃ margin, Blank margin ∧ text = trimEnd text ++ margin := by
  have ⟨margin, blank, split⟩ := trimStart_margin text.reverse
  have reversed : ∀ c ∈ margin.reverse, isBlank c = true := by
    intro c member
    exact blank c (List.mem_reverse.1 member)
  refine ⟨margin.reverse, reversed, ?_⟩
  have whole := congrArg List.reverse split
  rwa [List.reverse_reverse, List.reverse_append] at whole

/-- Trimming takes white margins off and nothing else. -/
theorem trim_margins (text : List Char) :
    ∃ before after, Blank before ∧ Blank after ∧ text = before ++ trim text ++ after := by
  have ⟨before, beforeBlank, opened⟩ := trimStart_margin text
  have ⟨after, afterBlank, closed⟩ := trimEnd_margin (trimStart text)
  refine ⟨before, after, beforeBlank, afterBlank, ?_⟩
  rw [List.append_assoc, trim, ← closed]
  exact opened

theorem start_of_trimStart (text : List Char) :
    ∀ c ∈ (trimStart text).head?, isBlank c = false := by
  intro c first
  have stopped := List.head?_dropWhile_not isBlank text
  rw [trimStart, Option.mem_def] at first
  rw [first] at stopped
  exact stopped

theorem finish_of_trimEnd (text : List Char) :
    ∀ c ∈ (trimEnd text).getLast?, isBlank c = false := by
  rw [trimEnd, List.getLast?_reverse]
  exact start_of_trimStart text.reverse

theorem trimEnd_leads (text : List Char) : trimEnd text <+: text := by
  apply List.reverse_suffix.1
  rw [trimEnd, List.reverse_reverse]
  exact List.dropWhile_suffix isBlank

theorem trimmed_trim (text : List Char) : Trimmed (trim text) where
  start c first := by
    obtain ⟨white, split⟩ := trimEnd_leads (trimStart text)
    apply start_of_trimStart text
    rw [← split, List.head?_append]
    rw [trim, Option.mem_def] at first
    rw [first]
    rfl
  finish := finish_of_trimEnd (trimStart text)

theorem mem_of_mem_trim {text : List Char} {c : Char} (member : c ∈ trim text) : c ∈ text := by
  have kept : c ∈ trimStart text := (trimEnd_leads (trimStart text)).subset member
  exact (List.dropWhile_sublist isBlank).subset kept

theorem trimEnd_append_blank {margin : List Char} (blank : Blank margin) (text : List Char) :
    trimEnd (text ++ margin) = trimEnd text := by
  have white : ∀ c ∈ margin.reverse, isBlank c = true := by
    intro c member
    exact blank c (List.mem_reverse.1 member)
  rw [trimEnd, List.reverse_append, List.dropWhile_append_of_pos white]
  rfl

/-- White margins do not change what trimming leaves. -/
theorem trim_between {before after : List Char} (beforeBlank : Blank before)
    (afterBlank : Blank after) (text : List Char) :
    trim (before ++ text ++ after) = trim text := by
  have inside : trim (text ++ after) = trim text := by
    rw [trim, trim, trimStart, List.dropWhile_append]
    split
    · rename_i white
      have nothing : trimStart text = [] := List.isEmpty_iff.1 white
      have gone : after.dropWhile isBlank = [] := by
        rw [← List.append_nil after, List.dropWhile_append_of_pos afterBlank]
        rfl
      rw [nothing, gone]
    · exact trimEnd_append_blank afterBlank (trimStart text)
  rw [List.append_assoc, trim, trimStart, List.dropWhile_append_of_pos beforeBlank]
  exact inside

theorem Trimmed.trim_between {text : List Char} (trimmed : Trimmed text) {before after : List Char}
    (beforeBlank : Blank before) (afterBlank : Blank after) :
    trim (before ++ text ++ after) = text := by
  rw [Text.trim_between beforeBlank afterBlank, trimmed.trim_eq]

/-- A text is trimmed if its first and its last piece are. -/
theorem Trimmed.around {first last : List Char} (firstTrimmed : Trimmed first)
    (firstNonempty : first ≠ []) (lastTrimmed : Trimmed last) (lastNonempty : last ≠ [])
    (middle : List Char) : Trimmed (first ++ middle ++ last) where
  start := by
    have first := firstTrimmed.start
    rw [List.head?_eq_some_head firstNonempty] at first
    rwa [List.append_assoc, List.head?_append, List.head?_eq_some_head firstNonempty]
  finish := by
    have last := lastTrimmed.finish
    rw [List.getLast?_eq_some_getLast lastNonempty] at last
    rwa [List.getLast?_append, List.getLast?_eq_some_getLast lastNonempty]

theorem trimmed_nil : Trimmed [] where
  start := by simp
  finish := by simp

/-- Where a trimmed text is cut, the second piece does not end with a white character. -/
theorem Trimmed.finish_of_append {before after : List Char} (trimmed : Trimmed (before ++ after)) :
    ∀ c ∈ after.getLast?, isBlank c = false := by
  intro c last
  apply trimmed.finish
  rw [Option.mem_def] at last
  rw [List.getLast?_append, last]
  rfl

theorem Blank.not_mem {margin : List Char} (blank : Blank margin) {c : Char}
    (solid : isBlank c = false) : c ∉ margin := by
  intro member
  exact absurd ((blank c member).symm.trans solid) (by decide)

end GraphSchema.Text
