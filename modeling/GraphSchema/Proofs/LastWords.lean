import GraphSchema.Proofs.WordEndings

/-!
What the singular of a name leaves alone. All rules but one go by the end of a word and take no
underscore off it, so that the words before the last one stay as they are. The rule for oxen goes by
the beginning of the whole name and reads no further: it takes the plural off the first word of a
longer name.
-/

namespace GraphSchema.Inflection

open Text

variable {exclusions : List String} {name : String} {text single : List Char}

/-- All of a text but a tail without underscores comes back at the beginning of its singular. -/
def KeepsWords (text single : List Char) : Prop :=
  ∃ stem tail, text = stem ++ tail ∧ '_' ∉ tail ∧ stem <+: single

theorem keeps_words_self (text : List Char) : KeepsWords text text :=
  ⟨text, [], (List.append_nil text).symm, List.not_mem_nil, List.prefix_rfl⟩

/-- An underscore is not in a tail without one, and neither is what stands before it. -/
theorem words_before_tail {before last stem tail : List Char} (unbroken : '_' ∉ tail)
    (split : before ++ '_' :: last = stem ++ tail) : before ++ ['_'] <+: stem := by
  rcases List.append_eq_append_iff.1 split with ⟨rest, opened, closed⟩ | ⟨rest, _, closed⟩
  · cases rest with
    | nil =>
        rw [List.nil_append] at closed
        exact absurd (closed ▸ List.mem_cons_self) unbroken
    | cons mark others =>
        rw [opened, (List.cons.inj closed).1]
        exact ⟨others, by rw [List.append_assoc]; rfl⟩
  · exact absurd (closed ▸ List.mem_append_cons_self) unbroken

theorem KeepsWords.opening {before last : List Char}
    (keeps : KeepsWords (before ++ '_' :: last) single) : before ++ ['_'] <+: single := by
  have ⟨stem, tail, split, unbroken, kept⟩ := keeps
  exact (words_before_tail unbroken split).trans kept

def Rule.isEnding : Rule → Bool
  | .ending _ => true
  | .opening _ _ => false

def Rule.tails : Rule → List String
  | .ending rule => rule.dropped
  | .opening _ _ => []

theorem tails_unbroken : ∀ rule ∈ rules, ∀ tail ∈ rule.tails, '_' ∉ tail.toList := by decide

theorem rules_around_oxen :
    rules = rules.take 4 ++ .opening "ox" "en" :: rules.drop 5 := rfl

theorem other_rules_are_endings :
    (∀ rule ∈ rules.take 4, rule.isEnding = true) ∧
      ∀ rule ∈ rules.drop 5, rule.isEnding = true := by
  decide

theorem ending_of_found {among : List Rule} (endings : ∀ rule ∈ among, rule.isEnding = true)
    (found : among.findSome? (Rule.singular? text) = some single) :
    ∃ rule, .ending rule ∈ among ∧ ∃ tail ∈ rule.dropped, ∃ stem spelled,
      rule.Parts tail text stem spelled ∧ single = stem ++ rule.put.toList := by
  have ⟨rule, member, made⟩ := List.exists_of_findSome?_eq_some found
  cases rule with
  | opening kept dropped => cases endings _ member
  | ending rule => exact ⟨rule, member, Ending.singular_some made⟩

def earlierPlurals : List String := ["databases", "quizzes", "matrices", "vertices", "indices"]

theorem earlier_rules_eq_none_iff :
    (rules.take 4).findSome? (Rule.singular? text) = none ↔
      ∀ plural ∈ earlierPlurals, ¬plural.toList <:+ text.map foldLetter := by
  let earlier : List (List String × List String × String) :=
    [(["database"], ["s"], ""), (["quiz"], ["zes"], ""), (["matr"], ["ices"], "ix"),
      (["vert", "ind"], ["ices"], "ex")]
  have made : rules.take 4 = earlier.map fun (kept, dropped, put) =>
    .ending { kept := kept.map word, dropped, put } := rfl
  have plurals : earlierPlurals = earlier.flatMap fun (kept, dropped, _) =>
      kept.flatMap fun front => dropped.map (front ++ ·) := by
    decide
  rw [made, plurals, List.findSome?_eq_none_iff, List.forall_mem_map]
  simp only [Rule.singular?, Ending.words_untouched_iff, List.forall_mem_flatMap,
    List.forall_mem_map]

theorem lowercase_ne {wanted : String} (broken : '_' ∈ name.toList)
    (unbroken : '_' ∉ wanted.toList) : lowercase name ≠ wanted := by
  intro same
  apply unbroken
  rw [← same, lowercase, String.toList_ofList]
  exact underscore_in_lower broken []

theorem irregular_plurals_plain : ∀ entry ∈ irregular, entry.1 ≠ "" ∧
    entry.1.utf8ByteSize = entry.1.length ∧ '_' ∉ entry.1.toList ∧
      entry.1.toList.map Char.toLower = entry.1.toList := by
  decide

def irregularForm? (name : String) (entry : String × String) : Option String :=
  if lowercase name = entry.1 then some entry.2
  else (irregularStem? name entry.1).map (· ++ entry.2)

theorem irregular_singular_eq (name : String) :
    irregularSingular? name = irregular.findSome? (irregularForm? name) := rfl

theorem irregular_form_of_words (broken : '_' ∈ name.toList) {entry : String × String}
    (member : entry ∈ irregular) :
    irregularForm? name entry = (irregularStem? name entry.1).map (· ++ entry.2) :=
  if_neg (lowercase_ne broken (irregular_plurals_plain entry member).2.2.1)

theorem irregular_singular_eq_none_iff (broken : '_' ∈ name.toList) :
    irregularSingular? name = none ↔
      ∀ entry ∈ irregular, ¬('_' :: entry.1.toList) <:+ name.toList.map Char.toLower := by
  rw [irregular_singular_eq, List.findSome?_eq_none_iff]
  apply forall₂_congr
  intro entry member
  have ⟨nonempty, single, _, lower⟩ := irregular_plurals_plain entry member
  rw [irregular_form_of_words broken member, Option.map_eq_none_iff,
    irregular_stem_eq_none_iff nonempty single lower]

theorem singular_of_words (broken : '_' ∈ name.toList) (exclusions : List String) :
    singular exclusions name =
      if exclusions.any (sameIgnoringCase name) then name else singularWord name := by
  have campus : lowercase name ≠ "campus" := lowercase_ne broken (by decide)
  have plain : lowercase name ≠ "meta" := lowercase_ne broken (by decide)
  have calories : lowercase name ≠ "calories" := lowercase_ne broken (by decide)
  simp [singular, campus, plain, calories]

/-- A name of which the rule for oxen takes a plural off the beginning: nothing that goes before
the rule, or exempts a name from all rules, applies to it. -/
structure LosesOpening (exclusions : List String) (name : String) : Prop where
  opens : "oxen".toList <+: name.toList.map foldLetter
  unlisted : exclusions.any (sameIgnoringCase name) = false
  countable : uncountable.any (endsWith (lowercase name)) = false
  regular : ∀ entry ∈ irregular, ¬('_' :: entry.1.toList) <:+ name.toList.map Char.toLower
  general : ∀ plural ∈ earlierPlurals, ¬plural.toList <:+ name.toList.map foldLetter

theorem LosesOpening.singular_eq (loses : LosesOpening exclusions name)
    (broken : '_' ∈ name.toList) :
    singular exclusions name = String.ofList (name.toList.take 2 ++ name.toList.drop 4) := by
  have opened : Rule.singular? name.toList (.opening "ox" "en") =
      some (name.toList.take 2 ++ name.toList.drop 4) :=
    opening_eq_some_iff.2 ⟨loses.opens, rfl⟩
  have found : rules.findSome? (Rule.singular? name.toList) =
      some (name.toList.take 2 ++ name.toList.drop 4) := by
    rw [rules_around_oxen, List.findSome?_append, earlier_rules_eq_none_iff.2 loses.general,
      List.findSome?_cons, opened]
    rfl
  rw [singular_of_words broken, loses.unlisted, singularWord, loses.countable,
    (irregular_singular_eq_none_iff broken).2 loses.regular, found]
  rfl

/-- What the singular of a name of several words can be. -/
inductive SingularOf (exclusions : List String) (name : String) : String → Prop
  | self : SingularOf exclusions name name
  | irregular {entry : String × String} {stem : String} (member : entry ∈ irregular)
      (located : irregularStem? name entry.1 = some stem) :
      SingularOf exclusions name (stem ++ entry.2)
  | ending {rule : Ending} {tail : String} {stem spelled : List Char}
      (member : .ending rule ∈ rules) (drops : tail ∈ rule.dropped)
      (parts : rule.Parts tail name.toList stem spelled) :
      SingularOf exclusions name (String.ofList (stem ++ rule.put.toList))
  | opening (loses : LosesOpening exclusions name) :
      SingularOf exclusions name (String.ofList (name.toList.take 2 ++ name.toList.drop 4))

theorem SingularOf.of_irregular (broken : '_' ∈ name.toList) {made : String}
    (found : irregularSingular? name = some made) : SingularOf exclusions name made := by
  rw [irregular_singular_eq] at found
  have ⟨entry, member, form⟩ := List.exists_of_findSome?_eq_some found
  rw [irregular_form_of_words broken member] at form
  have ⟨stem, located, joined⟩ := Option.map_eq_some_iff.1 form
  rw [← joined]
  exact .irregular member located

theorem SingularOf.of_endings {among : List Rule} (part : ∀ rule ∈ among, rule ∈ rules)
    (endings : ∀ rule ∈ among, rule.isEnding = true)
    (found : among.findSome? (Rule.singular? name.toList) = some single) :
    SingularOf exclusions name (String.ofList single) := by
  have ⟨rule, member, tail, drops, stem, spelled, parts, made⟩ := ending_of_found endings found
  rw [made]
  exact .ending (part _ member) drops parts

/-- The rule for oxen is reached past the rules before it alone, and then it may apply. -/
theorem SingularOf.of_rules
    (loses : "oxen".toList <+: name.toList.map foldLetter →
      (∀ plural ∈ earlierPlurals, ¬plural.toList <:+ name.toList.map foldLetter) →
        LosesOpening exclusions name)
    (found : rules.findSome? (Rule.singular? name.toList) = some single) :
    SingularOf exclusions name (String.ofList single) := by
  rw [rules_around_oxen, List.findSome?_append, Option.or_eq_some_iff] at found
  cases found with
  | inl earlier =>
      exact .of_endings (fun _ => List.mem_of_mem_take) other_rules_are_endings.1 earlier
  | inr found =>
      have ⟨general, later⟩ := found
      rw [List.findSome?_cons] at later
      split at later
      · rename_i opened
        have ⟨opens, made⟩ := opening_eq_some_iff.1 opened
        rw [← Option.some.inj later, made]
        exact .opening (loses opens (earlier_rules_eq_none_iff.1 general))
      · exact .of_endings (fun _ => List.mem_of_mem_drop) other_rules_are_endings.2 later

theorem singular_cases (broken : '_' ∈ name.toList) (exclusions : List String) :
    SingularOf exclusions name (singular exclusions name) := by
  rw [singular_of_words broken, singularWord]
  by_cases listed : exclusions.any (sameIgnoringCase name) = true
  · rw [if_pos listed]
    exact .self
  · rw [if_neg listed]
    by_cases uncounted : uncountable.any (endsWith (lowercase name)) = true
    · rw [if_pos uncounted]
      exact .self
    · rw [if_neg uncounted]
      split
      · rename_i found
        exact .of_irregular broken found
      · rename_i regular
        split
        · rename_i found
          apply SingularOf.of_rules _ found
          intro opens general
          exact {
            opens
            unlisted := Bool.eq_false_iff.2 listed
            countable := Bool.eq_false_iff.2 uncounted
            regular := (irregular_singular_eq_none_iff broken).1 regular
            general }
        · exact .self

theorem singular_keeps_words (broken : '_' ∈ name.toList)
    (spared : ¬LosesOpening exclusions name) :
    KeepsWords name.toList (singular exclusions name).toList := by
  have became := singular_cases broken exclusions
  generalize singular exclusions name = single at became ⊢
  cases became with
  | self => exact keeps_words_self name.toList
  | irregular member located =>
      have ⟨_, _, _, tail, whole, same⟩ := irregular_stem_eq_some_iff.1 located
      have ⟨_, _, unbroken, lower⟩ := irregular_plurals_plain _ member
      refine ⟨_, tail, whole, ?_, String.toList_append ▸ List.prefix_append _ _⟩
      intro inTail
      apply unbroken
      rw [← lower, ← same]
      exact List.mem_map_of_mem inTail
  | @ending rule tail stem spelled member drops parts =>
      refine ⟨stem, spelled, parts.whole, ?_, String.toList_ofList ▸ List.prefix_append _ _⟩
      intro inSpelled
      apply tails_unbroken _ member tail drops
      rw [← parts.tail]
      exact List.mem_map_of_mem inSpelled
  | opening loses => exact absurd loses spared

theorem opens_before_underscore {front rest before last : List Char} (unbroken : '_' ∉ front)
    (split : before ++ '_' :: last = front ++ rest) :
    ∃ between, before = front ++ between ∧ rest = between ++ '_' :: last := by
  rcases List.append_eq_append_iff.1 split with
    ⟨between, opened, closed⟩ | ⟨between, opened, closed⟩
  · cases between with
    | nil => exact ⟨[], by simpa using opened.symm, closed.symm⟩
    | cons mark others =>
        rw [opened, ← (List.cons.inj closed).1] at unbroken
        exact absurd List.mem_append_cons_self unbroken
  · exact ⟨between, opened, closed⟩

theorem oxen_split (opens : "oxen".toList <+: text.map foldLetter) :
    ∃ four rest, text = four ++ rest ∧ four.length = 4 ∧ four.map foldLetter = "oxen".toList ∧
      text.take 2 ++ text.drop 4 = four.take 2 ++ rest := by
  have ⟨folded, whole⟩ := opens
  have ⟨four, rest, split, fourFold, _⟩ := List.map_eq_append_iff.1 whole.symm
  have size : four.length = 4 := by
    have sizes := congrArg List.length fourFold
    rwa [List.length_map] at sizes
  have front : (four ++ rest).take 2 = four.take 2 := List.take_append_of_le_length (by omega)
  have back : (four ++ rest).drop 4 = rest := by rw [← size, List.drop_left]
  exact ⟨four, rest, split, size, fourFold, by rw [split, front, back]⟩

theorem opening_lost {before last : List Char} (unbroken : '_' ∉ last)
    (opens : "oxen".toList <+: (before ++ '_' :: last).map foldLetter) :
    ¬before ++ ['_'] <+: (before ++ '_' :: last).take 2 ++ (before ++ '_' :: last).drop 4 := by
  have ⟨four, rest, split, size, fourFold, shortened⟩ := oxen_split opens
  have fourUnbroken : '_' ∉ four := by
    intro member
    have inOxen : foldLetter '_' ∈ "oxen".toList := fourFold ▸ List.mem_map_of_mem member
    exact absurd inOxen (by decide)
  have ⟨between, opened, closed⟩ := opens_before_underscore fourUnbroken split
  rw [shortened, opened, closed]
  intro starts
  -- All words before the last one would fit into what is left of them, which is too short.
  have ⟨more, same⟩ := starts
  have regrouped : (four ++ between) ++ '_' :: more =
      (four.take 2 ++ between ++ ['_']) ++ last := by
    simpa using same
  have sizes := (words_before_tail unbroken regrouped).length_le
  simp only [List.length_append, List.length_take, List.length_cons, List.length_nil] at sizes
  omega

/-- The singular of a name begins with all words before the last one, unless the name loses the
plural of oxen at its beginning; then it is the name without the two letters of that plural and
never begins with those words. -/
theorem singular_keeps_earlier_words_iff (exclusions : List String) (before last : String)
    (unbroken : '_' ∉ last.toList) :
    (startsWith (singular exclusions (before ++ "_" ++ last)) (before ++ "_") = true ↔
      ¬LosesOpening exclusions (before ++ "_" ++ last)) ∧
    (LosesOpening exclusions (before ++ "_" ++ last) →
      singular exclusions (before ++ "_" ++ last) = String.ofList
        ((before ++ "_" ++ last).toList.take 2 ++ (before ++ "_" ++ last).toList.drop 4)) := by
  have chars : (before ++ "_" ++ last).toList = before.toList ++ '_' :: last.toList := by simp
  have mark : (before ++ "_").toList = before.toList ++ ['_'] := by simp
  have broken : '_' ∈ (before ++ "_" ++ last).toList := chars ▸ List.mem_append_cons_self
  rw [startsWith, List.isPrefixOf_iff_prefix, mark]
  refine ⟨⟨?_, ?_⟩, fun loses => loses.singular_eq broken⟩
  · intro starts loses
    have opens := loses.opens
    rw [chars] at opens
    rw [loses.singular_eq broken, String.toList_ofList, chars] at starts
    exact opening_lost unbroken opens starts
  · intro spared
    have keeps := singular_keeps_words broken spared
    rw [chars] at keeps
    exact keeps.opening

/-- Schools keep their name, and so do the oxen that do not come first. -/
theorem boxes_of_schools :
    '_' ∉ "Boxes".toList ∧ startsWith (singular [] ("École_oxen" ++ "_" ++ "Boxes"))
      ("École_oxen" ++ "_") = true := by
  have unbroken : '_' ∉ "Boxes".toList := by decide
  refine ⟨unbroken, (singular_keeps_earlier_words_iff [] "École_oxen" "Boxes" unbroken).1.2 ?_⟩
  intro loses
  exact absurd loses.opens (by decide)

/-- A barn for oxen becomes one for an ox, although no rule applies to barns. -/
theorem oxen_barn_loses_its_opening :
    '_' ∉ "barn".toList ∧ singular [] ("oxen" ++ "_" ++ "barn") = "ox_barn" ∧
      startsWith (singular [] ("oxen" ++ "_" ++ "barn")) ("oxen" ++ "_") = false := by
  decide +kernel

end GraphSchema.Inflection
