import GraphSchema.Proofs.LastWords
import GraphSchema.Proofs.PascalScan

/-!
PascalCase tells a name of several words and its singular apart. A singular that is another text has
other letters in the place of a tail, or fewer of them, and PascalCase keeps the letters of a tail
and their number.
-/

namespace GraphSchema.Inflection

open Text Naming

variable {text : List Char}

/-- The letters that the rules are written with. -/
def ruleLetters : List Char := "abcdefghijklmnopqrstuvwxyz".toList

/-- A character of a word that has one capital. -/
structure PlainLetter (c : Char) : Prop where
  solid : isAlphanumeric c = true
  capital : (upperChar c).length = 1

theorem ascii_of_lower {c : Char} (lower : c.toLower ∈ ruleLetters) : c.toNat < 0x80 := by
  apply Classical.byContradiction
  intro beyond
  rw [lower_of_not_ascii beyond] at lower
  exact beyond (ascii_of_all (by decide) c lower)

theorem plain_of_lower {c : Char} (lower : c.toLower ∈ ruleLetters) : PlainLetter c := by
  have ascii : ∀ c : Char, c.toNat < 0x80 → c.toLower ∈ ruleLetters →
      isAlphanumeric c = true ∧ (upperChar c).length = 1 :=
    of_codes (by decide +kernel)
  have ⟨solid, capital⟩ := ascii c (ascii_of_lower lower) lower
  exact ⟨solid, capital⟩

theorem plain_of_fold {c : Char} (folded : foldLetter c ∈ ruleLetters) : PlainLetter c := by
  by_cases long : c = 'ſ'
  · rw [long]
    exact ⟨by decide +kernel, by decide +kernel⟩
  · by_cases kelvin : c.toNat = 0x212a
    · have code : c = Char.ofNat 0x212a := by rw [← kelvin, Char.ofNat_toNat]
      rw [code]
      exact ⟨by decide +kernel, by decide +kernel⟩
    · rw [foldLetter, if_neg long, if_neg kelvin] at folded
      exact plain_of_lower folded

theorem plain_of_folds (folds : text.map foldLetter ⊆ ruleLetters) : ∀ c ∈ text, PlainLetter c :=
  fun _ member => plain_of_fold (folds (List.mem_map_of_mem member))

theorem plain_of_letters (letters : text ⊆ ruleLetters) : ∀ c ∈ text, PlainLetter c := by
  have folds : ruleLetters.map foldLetter ⊆ ruleLetters := by decide
  apply plain_of_folds
  intro c member
  exact folds (List.map_subset foldLetter letters member)

theorem scan_length_of_plain (plain : ∀ c ∈ text, PlainLetter c) (fresh : Bool) :
    (scanWords fresh text).length = text.length := by
  have solid : ∀ c ∈ text, isAlphanumeric c = true := fun c member => (plain c member).solid
  cases fresh with
  | false => rw [scan_within_word solid]
  | true =>
      cases text with
      | nil => rfl
      | cons c rest =>
          rw [scan_of_word solid, List.length_append, (plain c List.mem_cons_self).capital,
            List.length_cons, Nat.add_comm]

theorem scan_lower_of_letters (letters : text.map Char.toLower ⊆ ruleLetters) (fresh : Bool) :
    (scanWords fresh text).map Char.toLower = text.map Char.toLower := by
  have lower : ∀ c ∈ text, c.toLower ∈ ruleLetters :=
    fun c member => letters (List.mem_map_of_mem member)
  have ascii : ∀ c ∈ text, c.toNat < 0x80 := fun c member => ascii_of_lower (lower c member)
  have kept : text.filter Char.isAlphanum = text := by
    apply List.filter_eq_self.2
    intro c member
    rw [← isAlphanumeric_of_ascii (ascii c member), (plain_of_lower (lower c member)).solid]
  rw [scan_letters ascii, kept]

theorem fresh_after_last {c : Char} (last : text.getLast? = some c) (fresh : Bool) :
    freshAfter fresh text = !isAlphanumeric c := by
  have ⟨front, split⟩ := List.getLast?_eq_some_iff.1 last
  rw [split, fresh_after_append]
  rfl

theorem last_of_spelled {letters : List Letter} {c : Char} (spelled : spells letters text = true)
    (last : letters.getLast? = some (.is c)) :
    ∃ d, text.getLast? = some d ∧ foldLetter d = c := by
  induction letters generalizing text with
  | nil => cases last
  | cons letter rest ih =>
      cases text with
      | nil => cases spelled
      | cons d tail =>
          rw [spells, Bool.and_eq_true] at spelled
          cases rest with
          | nil =>
              cases tail with
              | nil =>
                  cases last
                  exact ⟨d, rfl, of_decide_eq_true spelled.1⟩
              | cons e others => cases spelled.2
          | cons next letters =>
              rw [List.getLast?_cons_cons] at last
              obtain ⟨e, found, folds⟩ := ih spelled.2 last
              refine ⟨e, ?_, folds⟩
              rw [List.getLast?_cons, found]
              rfl

/-- Whatever a rule keeps ends with a letter of its own. -/
def Ending.endsInLetter (rule : Ending) : Bool :=
  rule.kept.all fun letters =>
    match letters.getLast? with
    | some (.is c) => ruleLetters.contains c
    | _ => false

theorem fresh_after_kept {rule : Ending} (lettered : rule.endsInLetter = true)
    {stem : List Char} (kept : rule.keeps stem = true) (fresh : Bool) :
    freshAfter fresh stem = false := by
  have ⟨letters, member, keeps⟩ := List.any_eq_true.1 kept
  have own := List.all_eq_true.1 lettered letters member
  have ⟨front, back, split, spelled⟩ :
      ∃ front back, stem = front ++ back ∧ spells letters back = true := by
    split at keeps
    · exact ⟨[], stem, rfl, keeps⟩
    · exact ⟨_, _, (List.take_append_drop _ stem).symm, (Bool.and_eq_true_iff.1 keeps).2⟩
  split at own
  · rename_i letter last
    have ⟨c, found, folds⟩ := last_of_spelled spelled last
    have inLetters : foldLetter c ∈ ruleLetters := folds ▸ List.contains_iff_mem.1 own
    rw [split, fresh_after_append, fresh_after_last found, (plain_of_fold inLetters).solid]
    rfl
  · cases own

/-- The letters that a rule takes off or puts. -/
def Rule.letters : Rule → List Char
  | .ending rule => (rule.put :: rule.dropped).flatMap String.toList
  | .opening _ _ => []

theorem rules_have_letters : ∀ rule ∈ rules, rule.letters ⊆ ruleLetters := by decide

/-- Where a rule puts as many letters as it takes off, it does so within a word. -/
def Rule.staysEven : Rule → Bool
  | .ending rule =>
      rule.dropped.all fun tail => tail.length ≠ rule.put.length || rule.endsInLetter
  | .opening _ _ => true

theorem rules_stay_even : ∀ rule ∈ rules, rule.staysEven = true := by decide

theorem ends_in_letter_of_even {rule : Ending} (member : .ending rule ∈ rules) {tail : String}
    (drops : tail ∈ rule.dropped) (even : tail.length = rule.put.length) :
    rule.endsInLetter = true := by
  have stays := List.all_eq_true.1 (rules_stay_even _ member) tail drops
  simpa [even] using stays

theorem scan_of_ending {rule : Ending} (member : .ending rule ∈ rules) {tail : String}
    (drops : tail ∈ rule.dropped) {stem spelled : List Char}
    (parts : rule.Parts tail text stem spelled)
    (same : scanWords true (stem ++ rule.put.toList) = scanWords true text) :
    rule.put.toList = spelled := by
  have letters : ∀ part ∈ rule.put :: rule.dropped, part.toList ⊆ ruleLetters := by
    intro part partMember c inPart
    exact rules_have_letters _ member (List.mem_flatMap.2 ⟨part, partMember, inPart⟩)
  have putPlain := plain_of_letters (letters _ List.mem_cons_self)
  have tailPlain : ∀ c ∈ spelled, PlainLetter c := by
    apply plain_of_folds
    rw [parts.tail]
    exact letters tail (List.mem_cons_of_mem _ drops)
  rw [parts.whole, scan_append, scan_append] at same
  have sameTails := List.append_cancel_left same
  have sizes := congrArg List.length sameTails
  rw [scan_length_of_plain putPlain, scan_length_of_plain tailPlain, String.length_toList,
    ← List.length_map foldLetter, parts.tail, String.length_toList] at sizes
  have lettered := ends_in_letter_of_even member drops sizes.symm
  rw [fresh_after_kept lettered parts.kept,
    scan_within_word fun c inPut => (putPlain c inPut).solid,
    scan_within_word fun c inTail => (tailPlain c inTail).solid] at sameTails
  exact sameTails

theorem irregular_letters : ∀ entry ∈ irregular,
    entry.1.toList ⊆ ruleLetters ∧ entry.2.toList.map Char.toLower ⊆ ruleLetters ∧
      entry.2.toList.map Char.toLower ≠ entry.1.toList := by
  decide

theorem scan_of_irregular {entry : String × String} (member : entry ∈ irregular)
    {name stem : String} (located : irregularStem? name entry.1 = some stem) :
    scanWords true (stem ++ entry.2).toList ≠ scanWords true name.toList := by
  have ⟨_, _, _, tail, whole, lower⟩ := irregular_stem_eq_some_iff.1 located
  have ⟨_, _, _, plain⟩ := irregular_plurals_plain entry member
  have ⟨pluralLetters, singleLetters, differs⟩ := irregular_letters entry member
  have tailLetters : tail.map Char.toLower ⊆ ruleLetters := by
    rw [lower, plain]
    exact pluralLetters
  intro same
  rw [String.toList_append, whole, scan_append, scan_append] at same
  have lowered := congrArg (List.map Char.toLower) (List.append_cancel_left same)
  rw [scan_lower_of_letters singleLetters, scan_lower_of_letters tailLetters, lower, plain]
    at lowered
  exact differs lowered

theorem scan_of_opening {text : List Char} (opens : "oxen".toList <+: text.map foldLetter) :
    scanWords true (text.take 2 ++ text.drop 4) ≠ scanWords true text := by
  have ⟨four, rest, split, size, folded, shortened⟩ := oxen_split opens
  have plain : ∀ c ∈ four, PlainLetter c := plain_of_folds (folded ▸ by decide)
  have plainFront : ∀ c ∈ four.take 2, PlainLetter c :=
    fun c member => plain c (List.mem_of_mem_take member)
  have running {letters : List Char} (nonempty : letters ≠ [])
      (all : ∀ c ∈ letters, PlainLetter c) : freshAfter true letters = false := by
    rw [fresh_after_last (List.getLast?_eq_some_getLast nonempty),
      (all _ (List.getLast_mem nonempty)).solid]
    rfl
  intro same
  have frontSize : (four.take 2).length = 2 := by
    rw [List.length_take, size]
    rfl
  have lengths := congrArg List.length same
  rw [shortened, split, scan_append, scan_append, List.length_append, List.length_append,
    scan_length_of_plain plain, scan_length_of_plain plainFront,
    running (List.ne_nil_of_length_eq_add_one size) plain,
    running (List.ne_nil_of_length_eq_add_one frontSize) plainFront, size, frontSize] at lengths
  omega

/-- The singular of a name of several words gives the same type name only if it is the name. -/
theorem pascal_case_of_singular_iff {name : String} (broken : '_' ∈ name.toList)
    (exclusions : List String) :
    pascalCase (singular exclusions name) = pascalCase name ↔ singular exclusions name = name := by
  constructor
  · intro same
    rw [pascal_case_eq_iff, pascal_words_eq_scan, pascal_words_eq_scan] at same
    have became := singular_cases broken exclusions
    generalize singular exclusions name = single at became same ⊢
    cases became with
    | self => rfl
    | irregular member located => exact absurd same (scan_of_irregular member located)
    | ending member drops parts =>
        rw [String.toList_ofList] at same
        rw [scan_of_ending member drops parts same, ← parts.whole, String.ofList_toList]
    | opening loses =>
        rw [String.toList_ofList] at same
        exact absurd same (scan_of_opening loses.opens)
  · intro same
    rw [same]

end GraphSchema.Inflection
