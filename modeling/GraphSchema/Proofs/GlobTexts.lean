import GraphSchema.Options.Glob
import Mathlib.Data.List.Basic

/-!
The texts that a glob stands for. `Spells` builds them part by part, as the glob is built; the pass
that marks the places of a text where a match may end finds exactly these texts. A pattern without
special characters stands for itself alone.
-/

namespace GraphSchema.Glob

/-- The texts for which a glob stands. -/
inductive Spells : Glob → List UInt8 → Prop
  | empty : Spells .empty []
  | inClass {byteClass : ByteClass} {byte : UInt8} (holds : byteClass.holds byte = true) :
      Spells (.inClass byteClass) [byte]
  | anything (bytes : List UInt8) : Spells .anything bytes
  | followedBy {first second : Glob} {front back : List UInt8} (before : Spells first front)
      (after : Spells second back) : Spells (.followedBy first second) (front ++ back)
  | first {first second : Glob} {bytes : List UInt8} (spelled : Spells first bytes) :
      Spells (.either first second) bytes
  | second {first second : Glob} {bytes : List UInt8} (spelled : Spells second bytes) :
      Spells (.either first second) bytes

theorem spells_empty_iff {bytes : List UInt8} : Spells .empty bytes ↔ bytes = [] := by
  constructor
  · intro spelled
    cases spelled
    rfl
  · intro none
    rw [none]
    exact .empty

theorem spells_class_iff {byteClass : ByteClass} {bytes : List UInt8} :
    Spells (.inClass byteClass) bytes ↔ ∃ byte, bytes = [byte] ∧ byteClass.holds byte = true := by
  constructor
  · intro spelled
    cases spelled with
    | inClass holds => exact ⟨_, rfl, holds⟩
  · intro single
    have ⟨byte, same, holds⟩ := single
    rw [same]
    exact .inClass holds

theorem spells_followed_iff {first second : Glob} {bytes : List UInt8} :
    Spells (.followedBy first second) bytes ↔
      ∃ front back, bytes = front ++ back ∧ Spells first front ∧ Spells second back := by
  constructor
  · intro spelled
    cases spelled with
    | followedBy before after => exact ⟨_, _, rfl, before, after⟩
  · intro split
    have ⟨front, back, same, before, after⟩ := split
    rw [same]
    exact .followedBy before after

theorem spells_either_iff {first second : Glob} {bytes : List UInt8} :
    Spells (.either first second) bytes ↔ Spells first bytes ∨ Spells second bytes := by
  constructor
  · intro spelled
    cases spelled with
    | first spelled => exact Or.inl spelled
    | second spelled => exact Or.inr spelled
  · intro one
    cases one with
    | inl spelled => exact .first spelled
    | inr spelled => exact .second spelled

/-- A place of a text, given by the bytes before it, has a mark. -/
def Marked (marks : List Bool) (front : List UInt8) : Prop := marks[front.length]? = some true

variable {bytes : List UInt8} {marks : List Bool}

theorem spread_length (marked : Bool) (marks : List Bool) :
    (spread marked marks).length = marks.length := by
  induction marks generalizing marked with
  | nil => rfl
  | cons mark rest ih => simp [spread, ih]

theorem ends_length (glob : Glob) (size : marks.length = bytes.length + 1) :
    (glob.ends bytes marks).length = bytes.length + 1 := by
  induction glob generalizing marks with
  | empty => exact size
  | inClass byteClass => simp [ends, size]
  | anything => simp [ends, spread_length, size]
  | followedBy first second firstLength secondLength => exact secondLength (firstLength size)
  | either first second firstLength secondLength =>
      simp [ends, firstLength size, secondLength size]

theorem spread_at_iff (marked : Bool) (marks : List Bool) (place : Nat) :
    (spread marked marks)[place]? = some true ↔
      place < marks.length ∧ (marked = true ∨ ∃ earlier ≤ place, marks[earlier]? = some true) := by
  induction marks generalizing marked place with
  | nil => simp [spread]
  | cons mark rest ih =>
      cases place with
      | zero => simp [spread]
      | succ place =>
          have behind : (∃ earlier ≤ place + 1, (mark :: rest)[earlier]? = some true) ↔
              mark = true ∨ ∃ earlier ≤ place, rest[earlier]? = some true := by
            constructor
            · intro found
              have ⟨earlier, bound, isMarked⟩ := found
              cases earlier with
              | zero => exact Or.inl (Option.some.inj isMarked)
              | succ earlier => exact Or.inr ⟨earlier, by omega, isMarked⟩
            · intro found
              rcases found with isMarked | ⟨earlier, bound, isMarked⟩
              · exact ⟨0, by omega, congrArg some isMarked⟩
              · exact ⟨earlier + 1, by omega, isMarked⟩
          rw [spread, List.getElem?_cons_succ, ih, behind, List.length_cons, Bool.or_eq_true,
            Nat.add_lt_add_iff_right, or_assoc]

theorem marked_spread_iff {front : List UInt8} (bound : front.length < marks.length) :
    Marked (spread false marks) front ↔
      ∃ start part, front = start ++ part ∧ Marked marks start := by
  rw [Marked, spread_at_iff]
  constructor
  · intro spreads
    have ⟨earlier, earlierBound, isMarked⟩ := spreads.2.resolve_left Bool.false_ne_true
    refine ⟨front.take earlier, front.drop earlier, (List.take_append_drop ..).symm, ?_⟩
    rwa [Marked, List.length_take, Nat.min_eq_left earlierBound]
  · intro split
    have ⟨start, part, same, isMarked⟩ := split
    have startBound : start.length ≤ front.length := by
      rw [same, List.length_append]
      omega
    exact ⟨bound, Or.inr ⟨start.length, startBound, isMarked⟩⟩

theorem marked_behind_byte_iff {byteClass : ByteClass} {start : List UInt8} {last : UInt8}
    (within : start ++ [last] <+: bytes) :
    Marked ((inClass byteClass).ends bytes marks) (start ++ [last]) ↔
      Marked marks start ∧ byteClass.holds last = true := by
  have ⟨behind, split⟩ := within
  have found : bytes[start.length]? = some last := by
    rw [← split, List.append_assoc, List.getElem?_append_right (Nat.le_refl _)]
    simp
  rw [Marked, ends, List.length_append, List.length_singleton, List.getElem?_cons_succ,
    List.getElem?_zipWith, found, Marked]
  cases marks[start.length]? <;> simp

/-- The pass marks a place exactly where a text of the glob ends that begins at a marked place. -/
theorem marked_ends_iff (glob : Glob) (size : marks.length = bytes.length + 1)
    {front : List UInt8} (within : front <+: bytes) :
    Marked (glob.ends bytes marks) front ↔
      ∃ start part, front = start ++ part ∧ Marked marks start ∧ Spells glob part := by
  induction glob generalizing marks front with
  | empty => simp [ends, spells_empty_iff]
  | inClass byteClass =>
      simp only [spells_class_iff]
      rcases List.eq_nil_or_concat' front with rfl | ⟨before, last, rfl⟩
      · simp [Marked, ends]
      · rw [marked_behind_byte_iff within]
        constructor
        · intro both
          exact ⟨before, [last], rfl, both.1, last, rfl, both.2⟩
        · intro split
          have ⟨start, part, same, isMarked, byte, single, holds⟩ := split
          rw [single] at same
          have ⟨sameStart, sameLast⟩ := List.append_inj' same rfl
          cases sameLast
          rw [sameStart]
          exact ⟨isMarked, holds⟩
  | anything =>
      have bound : front.length < marks.length := by
        have frontBound := within.length_le
        omega
      rw [ends, marked_spread_iff bound]
      constructor
      · intro split
        have ⟨start, part, same, isMarked⟩ := split
        exact ⟨start, part, same, isMarked, .anything part⟩
      · intro split
        have ⟨start, part, same, isMarked, _⟩ := split
        exact ⟨start, part, same, isMarked⟩
  | followedBy first second firstEnds secondEnds =>
      have middleSize := ends_length first size
      rw [ends, secondEnds middleSize within]
      constructor
      · intro split
        have ⟨middle, back, same, isMarked, after⟩ := split
        have middleWithin : middle <+: bytes := by
          rw [same] at within
          exact (List.prefix_append middle back).trans within
        have ⟨start, part, sameMiddle, startMarked, before⟩ :=
          (firstEnds size middleWithin).1 isMarked
        refine ⟨start, part ++ back, ?_, startMarked, .followedBy before after⟩
        rw [same, sameMiddle, List.append_assoc]
      · intro split
        have ⟨start, whole, same, isMarked, spelled⟩ := split
        have ⟨part, back, sameWhole, before, after⟩ := spells_followed_iff.1 spelled
        have regrouped : front = (start ++ part) ++ back := by
          rw [same, sameWhole, List.append_assoc]
        have middleWithin : start ++ part <+: bytes := by
          rw [regrouped] at within
          exact (List.prefix_append (start ++ part) back).trans within
        have middleMarked := (firstEnds size middleWithin).2
          ⟨start, part, rfl, isMarked, before⟩
        exact ⟨start ++ part, back, regrouped, middleMarked, after⟩
  | either first second firstEnds secondEnds =>
      have firstMarks := firstEnds size within
      have secondMarks := secondEnds size within
      have frontBound := within.length_le
      have both : Marked ((either first second).ends bytes marks) front ↔
          Marked (first.ends bytes marks) front ∨ Marked (second.ends bytes marks) front := by
        have firstBound : front.length < (first.ends bytes marks).length := by
          rw [ends_length first size]
          omega
        have secondBound : front.length < (second.ends bytes marks).length := by
          rw [ends_length second size]
          omega
        simp [Marked, ends, List.getElem?_zipWith, List.getElem?_eq_getElem firstBound,
          List.getElem?_eq_getElem secondBound]
      rw [both, firstMarks, secondMarks]
      simp only [spells_either_iff]
      constructor
      · intro one
        cases one with
        | inl split =>
            have ⟨start, part, same, isMarked, spelled⟩ := split
            exact ⟨start, part, same, isMarked, Or.inl spelled⟩
        | inr split =>
            have ⟨start, part, same, isMarked, spelled⟩ := split
            exact ⟨start, part, same, isMarked, Or.inr spelled⟩
      · intro split
        have ⟨start, part, same, isMarked, one⟩ := split
        cases one with
        | inl spelled => exact Or.inl ⟨start, part, same, isMarked, spelled⟩
        | inr spelled => exact Or.inr ⟨start, part, same, isMarked, spelled⟩

theorem matches_iff_spells (glob : Glob) (bytes : List UInt8) :
    glob.matchesBytes bytes = true ↔ Spells glob bytes := by
  have size : (true :: bytes.map fun _ => false).length = bytes.length + 1 := by simp
  have atEnd := marked_ends_iff glob size (List.prefix_refl bytes)
  have startsFirst (start : List UInt8) :
      Marked (true :: bytes.map fun _ => false) start ↔ start = [] := by
    cases start <;> simp [Marked, List.getElem?_replicate]
  simp only [startsFirst] at atEnd
  rw [matchesBytes, decide_eq_true_iff, List.getLast?_eq_getElem?, ends_length glob size]
  refine atEnd.trans ⟨fun split => ?_, fun spelled => ⟨[], bytes, rfl, rfl, spelled⟩⟩
  have ⟨start, part, same, first, spelled⟩ := split
  rwa [same, first]

theorem spells_append_iff {first second : Glob} {bytes : List UInt8} :
    Spells (append first second) bytes ↔
      ∃ front back, bytes = front ++ back ∧ Spells first front ∧ Spells second back := by
  unfold append
  split
  · simp [spells_empty_iff]
  · simp [spells_empty_iff]
  · exact spells_followed_iff

theorem spells_exactly_iff {byte : UInt8} {bytes : List UInt8} :
    Spells (exactly byte) bytes ↔ bytes = [byte] := by
  have holds (other : UInt8) :
      ByteClass.holds ⟨false, [(byte, byte)]⟩ other = true ↔ other = byte := by
    simp only [ByteClass.holds, List.any_cons, List.any_nil, Bool.or_false, Bool.false_bne,
      Bool.and_eq_true, decide_eq_true_iff]
    exact ⟨fun between => UInt8.le_antisymm between.2 between.1, fun same => by simp [same]⟩
  simp [exactly, spells_class_iff, holds]

theorem spells_literal_iff {c : Char} {bytes : List UInt8} :
    Spells (Piece.literal c).glob bytes ↔ bytes = String.utf8EncodeChar c := by
  rw [Piece.glob]
  generalize String.utf8EncodeChar c = encoded
  induction encoded generalizing bytes with
  | nil => exact spells_empty_iff
  | cons byte rest ih =>
      rw [List.foldr_cons, spells_append_iff]
      simp [spells_exactly_iff, ih]

theorem spells_literals_iff {chars : List Char} {bytes : List UInt8} :
    Spells (ofPieces (chars.map .literal)) bytes ↔ bytes = chars.flatMap String.utf8EncodeChar := by
  rw [ofPieces]
  induction chars generalizing bytes with
  | nil => exact spells_empty_iff
  | cons c rest ih =>
      rw [List.map_cons, List.foldr_cons, spells_append_iff, List.flatMap_cons]
      simp [spells_literal_iff, ih]

/-- A text without the characters that mean something else than themselves. -/
def Plain (text : String) : Prop := ∀ c ∈ text.toList, c ∉ ['*', '?', '[', '\x7b', '\x7d', '\\']

instance : DecidablePred Plain := fun text => List.decidableBAll _ text.toList

/-- A character that means itself is read as such outside groups, a comma too. -/
theorem read_plain {c : Char} (plain : c ∉ ['*', '?', '[', '\x7b', '\x7d', '\\'])
    {reading : Reading} (ungrouped : reading.outer = []) (previous : Option Char)
    (rest : List Char) :
    readFrom none previous reading (c :: rest) =
      readFrom none (some c) (reading.push (.literal c)) rest := by
  simp only [List.mem_cons, List.not_mem_nil, or_false, not_or] at plain
  by_cases comma : c = ','
  · rw [comma, readFrom, Reading.nextBranch, ungrouped]
  · rw [readFrom]
    all_goals simp [plain, comma]

theorem read_plain_text {chars : List Char}
    (plain : ∀ c ∈ chars, c ∉ ['*', '?', '[', '\x7b', '\x7d', '\\']) (previous : Option Char)
    (current : List Piece) :
    readFrom none previous { current, outer := [] } chars =
      .ok { current := (chars.map .literal).reverse ++ current, outer := [] } := by
  induction chars generalizing previous current with
  | nil => rfl
  | cons c rest ih =>
      have later : ∀ other ∈ rest, other ∉ ['*', '?', '[', '\x7b', '\x7d', '\\'] := by
        intro other member
        exact plain other (List.mem_cons_of_mem c member)
      rw [read_plain (plain c List.mem_cons_self) rfl, Reading.push, ih later]
      simp

theorem compile_of_pieces {pattern : String} {pieces : List Piece}
    (read : readFrom none none {} pattern.toList = .ok { current := pieces })
    (other : pieces ≠ [.leading]) : compile pattern = .ok (ofPieces pieces.reverse) := by
  rw [compile, read]
  simp [bind, Except.bind, pure, Except.pure]

theorem compile_plain {pattern : String} (plain : Plain pattern) :
    compile pattern = .ok (ofPieces (pattern.toList.map .literal)) := by
  have read := read_plain_text plain none []
  rw [List.append_nil] at read
  have other : (pattern.toList.map Piece.literal).reverse ≠ [.leading] := by
    intro stars
    have member : Piece.leading ∈ (pattern.toList.map Piece.literal).reverse := by simp [stars]
    simp at member
  rw [compile_of_pieces read other, List.reverse_reverse]

theorem plain_accepts_itself {pattern : String} (plain : Plain pattern) :
    ∃ glob, compile pattern = .ok glob ∧ ∀ text, glob.accepts text = true ↔ text = pattern := by
  refine ⟨_, compile_plain plain, fun text => ?_⟩
  rw [accepts, matches_iff_spells, spells_literals_iff]
  exact Text.utf8_inj

end GraphSchema.Glob
