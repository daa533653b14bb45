import GraphSchema.Text.CaseTable

/-!
Full case mapping: one character may become several, and a capital sigma at the end of a word
becomes the final form. On ASCII text the mappings are core's, character by character.
-/

namespace GraphSchema.Text

private def mapped (runs : List CaseRun) (expansions : List (Nat × List Nat)) (c : Char) :
    List Char :=
  match expansions.lookup c.toNat with
  | some codes => codes.map Char.ofNat
  | none =>
      match runs.findSome? (·.image? c.toNat) with
      | some code => [Char.ofNat code]
      | none => [c]

def lowerChar (c : Char) : List Char :=
  if c.toNat < 0x80 then [c.toLower] else mapped lowercaseRuns lowercaseExpansions c

def upperChar (c : Char) : List Char :=
  if c.toNat < 0x80 then [c.toUpper] else mapped uppercaseRuns uppercaseExpansions c

def isCased (c : Char) : Bool :=
  if c.toNat < 0x80 then c.isAlpha else casedRanges.holds c

def isCaseIgnorable (c : Char) : Bool :=
  if c.toNat < 0x80 then ['\'', '.', ':', '^', '\x60'].contains c else caseIgnorableRanges.holds c

/-- Whether the first character that case does not ignore is cased. -/
def meetsCased (text : List Char) : Bool :=
  match text.dropWhile isCaseIgnorable with
  | [] => false
  | c :: _ => isCased c

/-- Lowercases what follows `before`, which holds the characters already passed, last one first. -/
def lowerAfter (before : List Char) : List Char → List Char
  | [] => []
  | c :: rest =>
      let image :=
        if c = 'Σ' then
          if meetsCased before && !meetsCased rest then ['ς'] else ['σ']
        else lowerChar c
      image ++ lowerAfter (c :: before) rest

def lowerChars (text : List Char) : List Char := lowerAfter [] text

def lowercase (text : String) : String := String.ofList (lowerChars text.toList)

def upperFirstChars : List Char → List Char
  | [] => []
  | c :: rest => upperChar c ++ rest

def upperFirst (text : String) : String := String.ofList (upperFirstChars text.toList)

def lowerFirstChars : List Char → List Char
  | [] => []
  | c :: rest => lowerChar c ++ rest

def lowerFirst (text : String) : String := String.ofList (lowerFirstChars text.toList)

theorem lowerChar_of_ascii {c : Char} (ascii : c.toNat < 0x80) : lowerChar c = [c.toLower] :=
  if_pos ascii

theorem upperChar_of_ascii {c : Char} (ascii : c.toNat < 0x80) : upperChar c = [c.toUpper] :=
  if_pos ascii

/-- What holds of the characters of all codes below a bound holds of the characters below it. -/
theorem of_codes {bound : Nat} {holds : Char → Prop}
    (codes : ∀ code < bound, holds (Char.ofNat code)) : ∀ c : Char, c.toNat < bound → holds c := by
  intro c below
  rw [← Char.ofNat_toNat c]
  exact codes c.toNat below

theorem ascii_of_all {text : List Char} (all : text.all (·.toNat < 0x80) = true) :
    ∀ c ∈ text, c.toNat < 0x80 :=
  fun c member => of_decide_eq_true (List.all_eq_true.1 all c member)

theorem code_of_digit {c : Char} (digit : c.isDigit) : 0x30 ≤ c.toNat ∧ c.toNat < 0x3a := by
  rw [Char.isDigit, Bool.and_eq_true, decide_eq_true_eq, decide_eq_true_eq] at digit
  exact ⟨digit.1, Nat.lt_succ_of_le digit.2⟩

theorem upperChar_of_digit {c : Char} (digit : c.isDigit) : upperChar c = [c] := by
  have ⟨_, high⟩ := code_of_digit digit
  have same : ∀ c : Char, c.toNat < 0x3a → c.isDigit → c.toUpper = c :=
    of_codes (by decide +kernel)
  rw [upperChar_of_ascii (by omega), same c high digit]

theorem of_nat_eq_underscore {code : Nat} (same : Char.ofNat code = '_') : code = 0x5f := by
  unfold Char.ofNat at same
  by_cases valid : code.isValidChar
  · rw [dif_pos valid] at same
    exact congrArg Char.toNat same
  · rw [dif_neg valid] at same
    exact absurd same (by decide)

/-- No run of capitals moves a character to the underscore. -/
private theorem image_ne_underscore {run : CaseRun} (member : run ∈ uppercaseRuns)
    {code image : Nat} (found : run.image? code = some image) : image ≠ 0x5f := by
  have clear : ∀ run ∈ uppercaseRuns,
      0x5f < run.first + run.offset ∨ run.last + run.offset < 0x5f := by
    decide +kernel
  have aside := clear run member
  unfold CaseRun.image? at found
  split at found
  · rename_i inside
    simp only [Bool.and_eq_true, decide_eq_true_eq] at inside
    have moved : (code + run.offset).toNat = image := Option.some.inj found
    omega
  · cases found

private theorem capitals_of_expanded {code : Nat} {image : List Nat}
    (found : uppercaseExpansions.lookup code = some image) : 0x5f ∉ image ∧ image ≠ [] := by
  have clear : ∀ entry ∈ uppercaseExpansions, 0x5f ∉ entry.2 ∧ entry.2 ≠ [] := by
    decide +kernel
  obtain ⟨before, after, split, _⟩ := List.lookup_eq_some_iff.1 found
  exact clear (code, image) (split ▸ List.mem_append_cons_self)

theorem underscore_of_upper {c : Char} (among : '_' ∈ upperChar c) : c = '_' := by
  by_cases ascii : c.toNat < 0x80
  · rw [upperChar_of_ascii ascii, List.mem_singleton] at among
    have own : ∀ c : Char, c.toNat < 0x80 → '_' = c.toUpper → c = '_' :=
      of_codes (by decide +kernel)
    exact own c ascii among
  · rw [upperChar, if_neg ascii, mapped] at among
    split at among
    · rename_i image found
      obtain ⟨code, member, same⟩ := List.mem_map.1 among
      exact absurd (of_nat_eq_underscore same ▸ member) (capitals_of_expanded found).1
    · split at among
      · rename_i image found
        obtain ⟨run, member, moved⟩ := List.exists_of_findSome?_eq_some found
        have same := of_nat_eq_underscore (List.mem_singleton.1 among).symm
        exact absurd same (image_ne_underscore member moved)
      · exact (List.mem_singleton.1 among).symm

theorem upperChar_ne_nil (c : Char) : upperChar c ≠ [] := by
  by_cases ascii : c.toNat < 0x80
  · rw [upperChar_of_ascii ascii]
    exact List.cons_ne_nil _ _
  · rw [upperChar, if_neg ascii, mapped]
    split
    · rename_i image found
      simpa using (capitals_of_expanded found).2
    · split <;> exact List.cons_ne_nil _ _

theorem lower_of_not_ascii {c : Char} (beyond : ¬c.toNat < 0x80) : c.toLower = c :=
  dif_neg fun capital => beyond (Nat.lt_of_le_of_lt capital.2 (by decide))

theorem lower_eq_underscore_iff {c : Char} : c.toLower = '_' ↔ c = '_' := by
  constructor
  · intro same
    by_cases ascii : c.toNat < 0x80
    · have own : ∀ c : Char, c.toNat < 0x80 → c.toLower = '_' → c = '_' :=
        of_codes (by decide +kernel)
      exact own c ascii same
    · rwa [lower_of_not_ascii ascii] at same
  · intro same
    rw [same]
    rfl

theorem underscore_in_lower {text : List Char} (member : '_' ∈ text) (before : List Char) :
    '_' ∈ lowerAfter before text := by
  induction text generalizing before with
  | nil => cases member
  | cons c rest ih =>
      rw [lowerAfter]
      apply List.mem_append.2
      cases member with
      | head =>
          apply Or.inl
          rw [if_neg (by decide), lowerChar_of_ascii (by decide)]
          decide
      | tail _ later => exact Or.inr (ih later (c :: before))

theorem lowerAfter_of_ascii {text : List Char} (ascii : ∀ c ∈ text, c.toNat < 0x80)
    (before : List Char) : lowerAfter before text = text.map Char.toLower := by
  induction text generalizing before with
  | nil => rfl
  | cons c rest ih =>
      have low : c.toNat < 0x80 := ascii c (by simp)
      have plain : c ≠ 'Σ' := fun same => by subst same; exact absurd low (by decide)
      simp [lowerAfter, plain, lowerChar_of_ascii low,
        ih (fun d member => ascii d (List.mem_cons_of_mem c member))]

end GraphSchema.Text
