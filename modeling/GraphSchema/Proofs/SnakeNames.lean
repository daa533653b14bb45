import GraphSchema.Naming

/-!
Where a snake_case name is parted. A name is searched for a character that is no capital and the run
of capitals behind it, and each search goes on behind the run of the one before. No boundary is
missed in that way: none lies within a run, and the character behind a run is still to be searched.
-/

namespace GraphSchema.Naming

open Text

/-- Whether a word begins with a character, by the character before it. -/
def beginsWord (before c : Char) : Bool := !before.isUpper && c.isUpper

variable {c d : Char} {rest : List Char}

theorem capitals_behind_eq_none (within : beginsWord c d = false) :
    capitalsBehind? c (d :: rest) = none := by
  cases capital : d.isUpper with
  | false => simp [capitalsBehind?, capital]
  | true =>
      have other : c.isUpper = true := by simpa [beginsWord, capital] using within
      simp [capitalsBehind?, other]

theorem capitals_behind_run (begins : beginsWord c d = true) :
    ∃ run others, d :: rest = run ++ others ∧ (∀ e ∈ run, e.isUpper = true) ∧
      capitalsBehind? c (d :: rest) = some run.length := by
  have ⟨small, capital⟩ := Bool.and_eq_true_iff.1 begins
  have other : c.isUpper = false := (Bool.not_eq_eq_eq_not.1 small).trans Bool.not_true
  refine ⟨(d :: rest).takeWhile Char.isUpper, (d :: rest).dropWhile Char.isUpper,
    List.takeWhile_append_dropWhile.symm, List.all_eq_true.1 List.all_takeWhile, ?_⟩
  simp [capitalsBehind?, other, capital]

theorem mark_of_unmatched (unmatched : capitalsBehind? c rest = none) :
    markBoundaries (c :: rest) = c :: markBoundaries rest := by
  rw [markBoundaries, replaceMatches, unmatched]
  rfl

theorem mark_singleton (c : Char) : markBoundaries [c] = [c] :=
  mark_of_unmatched (by simp [capitalsBehind?])

theorem mark_of_capitals {run : List Char} (capitals : ∀ e ∈ run, e.isUpper = true)
    (others : List Char) : markBoundaries (run ++ others) = run ++ markBoundaries others := by
  induction run with
  | nil => rfl
  | cons e run ih =>
      have unmatched : capitalsBehind? e (run ++ others) = none := by
        simp [capitalsBehind?, capitals e List.mem_cons_self]
      have later := ih fun f member => capitals f (List.mem_cons_of_mem e member)
      rw [List.cons_append, mark_of_unmatched unmatched, later]
      rfl

/-- Searching a run of capitals again finds nothing, so it does not matter that it is skipped. -/
theorem mark_of_match {run others : List Char} (capitals : ∀ e ∈ run, e.isUpper = true)
    (matched : capitalsBehind? c (run ++ others) = some run.length) :
    markBoundaries (c :: (run ++ others)) = c :: '_' :: markBoundaries (run ++ others) := by
  rw [mark_of_capitals capitals, markBoundaries, replaceMatches, matched]
  simp only [replaceMatches_skip run.length, List.take_left, List.drop_left]
  rfl

theorem mark_cons_cons (c d : Char) (rest : List Char) :
    markBoundaries (c :: d :: rest) =
      c :: (if beginsWord c d then '_' :: markBoundaries (d :: rest)
        else markBoundaries (d :: rest)) := by
  cases begins : beginsWord c d with
  | false => exact mark_of_unmatched (capitals_behind_eq_none begins)
  | true =>
      have ⟨run, others, split, capitals, matched⟩ := @capitals_behind_run c d rest begins
      rw [split] at matched ⊢
      exact mark_of_match capitals matched

theorem mark_eq_pairs (name : List Char) :
    markBoundaries name = name.take 1 ++ (name.zip name.tail).flatMap fun (before, c) =>
      if beginsWord before c then ['_', c] else [c] := by
  induction name with
  | nil => rfl
  | cons c rest ih =>
      cases rest with
      | nil => exact mark_singleton c
      | cons d others =>
          rw [mark_cons_cons, ih]
          cases begins : beginsWord c d with
          | false => simp [begins]
          | true => simp [begins]

theorem mark_adds_underscores (name : List Char) :
    (markBoundaries name).filter (· ≠ '_') = name.filter (· ≠ '_') := by
  induction name with
  | nil => rfl
  | cons c rest ih =>
      cases rest with
      | nil => rw [mark_singleton]
      | cons d others =>
          have marked : (if beginsWord c d then '_' :: markBoundaries (d :: others)
              else markBoundaries (d :: others)).filter (· ≠ '_') =
                (d :: others).filter (· ≠ '_') := by
            split
            · exact ih
            · exact ih
          rw [mark_cons_cons, List.filter_cons, List.filter_cons, marked]

theorem mark_of_ascii {name : List Char} (ascii : ∀ c ∈ name, c.toNat < 0x80) :
    ∀ c ∈ markBoundaries name, c.toNat < 0x80 := by
  intro c member
  by_cases mark : c = '_'
  · rw [mark]
    decide
  · have kept : c ∈ (markBoundaries name).filter (· ≠ '_') :=
      List.mem_filter.2 ⟨member, decide_eq_true mark⟩
    rw [mark_adds_underscores] at kept
    exact ascii c (List.mem_filter.1 kept).1

/-- An ASCII name without underscores gets one between each two characters the second of which
begins a word, and is otherwise put in lower case. -/
theorem snake_case_parts_words {name : String} (ascii : ∀ c ∈ name.toList, c.toNat < 0x80)
    (unbroken : '_' ∉ name.toList) :
    (snakeCase name).toList =
      (name.toList.take 1 ++ (name.toList.zip name.toList.tail).flatMap fun (before, c) =>
        if beginsWord before c then ['_', c] else [c]).map Char.toLower ∧
    String.ofList ((snakeCase name).toList.filter (· ≠ '_')) = lowercase name := by
  have spelled : (snakeCase name).toList = (markBoundaries name.toList).map Char.toLower := by
    rw [snakeCase, String.toList_ofList, snakeChars, if_neg unbroken, lowerChars,
      lowerAfter_of_ascii (mark_of_ascii ascii)]
  have plain : name.toList.filter (· ≠ '_') = name.toList :=
    List.filter_eq_self.2 fun c member => decide_eq_true fun mark => unbroken (mark ▸ member)
  have lowered : (fun c => decide (c ≠ '_')) ∘ Char.toLower = fun c => decide (c ≠ '_') := by
    funext c
    exact decide_eq_decide.2 (not_congr lower_eq_underscore_iff)
  constructor
  · rw [spelled, mark_eq_pairs]
  · rw [spelled, List.filter_map, lowered, mark_adds_underscores, plain, lowercase, lowerChars,
      lowerAfter_of_ascii ascii]

/-- Nothing is parted within a run of capitals, and a capital behind a digit begins a word. -/
theorem http_codes_are_parted :
    (∀ c ∈ "HTTPCode9IDOf".toList, c.toNat < 0x80) ∧ '_' ∉ "HTTPCode9IDOf".toList ∧
      (snakeCase "HTTPCode9IDOf").toList = "httpcode9_idof".toList ∧
      String.ofList ((snakeCase "HTTPCode9IDOf").toList.filter (· ≠ '_')) = "httpcode9idof" := by
  have ascii : ∀ c ∈ "HTTPCode9IDOf".toList, c.toNat < 0x80 := ascii_of_all (by decide)
  have unbroken : '_' ∉ "HTTPCode9IDOf".toList := by decide
  have ⟨parted, joined⟩ := snake_case_parts_words ascii unbroken
  exact ⟨ascii, unbroken, parted.trans (by decide), joined.trans (by decide)⟩

end GraphSchema.Naming
