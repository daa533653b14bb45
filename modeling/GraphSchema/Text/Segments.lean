/-!
Cutting and joining texts. `segments` always yields at least one piece, and joining the pieces with
the separator gives the text back. `splitAround` cuts at the first place where a mark stands, and
fails only where the mark stands nowhere. `replaceMatches` goes from each match of a pattern to the
first one behind it.
-/

namespace GraphSchema.Text

/-- The pieces between the separators, empty ones included. -/
def segments (separator : Char) : List Char → List (List Char)
  | [] => [[]]
  | c :: rest =>
      if c = separator then [] :: segments separator rest
      else
        match segments separator rest with
        | [] => [[c]]
        | piece :: pieces => (c :: piece) :: pieces

theorem segments_ne_nil (separator : Char) (text : List Char) :
    segments separator text ≠ [] := by
  cases text with
  | nil => simp [segments]
  | cons c rest =>
      simp only [segments]
      split
      · simp
      · split <;> simp

theorem intercalate_segments (separator : Char) (text : List Char) :
    [separator].intercalate (segments separator text) = text := by
  induction text with
  | nil => rfl
  | cons c rest ih =>
      cases found : segments separator rest with
      | nil => exact absurd found (segments_ne_nil separator rest)
      | cons piece pieces =>
          rw [found] at ih
          by_cases same : c = separator
          · rw [segments, if_pos same, found, same, ← ih]
            simp [List.intercalate]
          · rw [segments, if_neg same, found, ← ih]
            cases pieces <;> simp [List.intercalate]

theorem flatten_segments (separator : Char) (text : List Char) :
    (segments separator text).flatten = text.filter (· ≠ separator) := by
  induction text with
  | nil => rfl
  | cons c rest ih =>
      cases found : segments separator rest with
      | nil => exact absurd found (segments_ne_nil separator rest)
      | cons piece pieces =>
          rw [found] at ih
          by_cases same : c = separator
          · rw [segments, if_pos same, found, List.filter_cons_of_neg (by simpa using same), ← ih]
            rfl
          · rw [segments, if_neg same, found, List.filter_cons_of_pos (by simpa using same), ← ih]
            rfl

theorem segments_append (separator : Char) (left right : List Char) :
    segments separator (left ++ separator :: right) =
      segments separator left ++ segments separator right := by
  induction left with
  | nil => simp [segments]
  | cons c rest ih =>
      by_cases same : c = separator
      · rw [List.cons_append, segments, if_pos same, ih, segments, if_pos same, List.cons_append]
      · rw [List.cons_append, segments, if_neg same, ih, segments, if_neg same]
        cases found : segments separator rest with
        | nil => exact absurd found (segments_ne_nil separator rest)
        | cons piece pieces => rfl

theorem segments_of_unbroken {separator : Char} {text : List Char} (unbroken : separator ∉ text) :
    segments separator text = [text] := by
  induction text with
  | nil => rfl
  | cons c rest ih =>
      rw [List.mem_cons, not_or] at unbroken
      obtain ⟨other, later⟩ := unbroken
      rw [segments, if_neg (Ne.symm other), ih later]

theorem segments_intercalate {separator : Char} {pieces : List (List Char)}
    (unbroken : ∀ piece ∈ pieces, separator ∉ piece) (nonempty : pieces ≠ []) :
    segments separator ([separator].intercalate pieces) = pieces := by
  induction pieces with
  | nil => exact absurd rfl nonempty
  | cons piece rest ih =>
      have first := segments_of_unbroken (unbroken piece List.mem_cons_self)
      cases rest with
      | nil => rw [List.intercalate_singleton, first]
      | cons next others =>
          have later := ih (fun other member => unbroken other (List.mem_cons_of_mem _ member))
            (List.cons_ne_nil _ _)
          rw [List.intercalate_cons_cons, List.append_assoc, List.singleton_append, segments_append,
            first, later]
          rfl

theorem unbroken_of_mem_segments {separator : Char} {text piece : List Char}
    (member : piece ∈ segments separator text) : separator ∉ piece := by
  intro inPiece
  have kept : separator ∈ (segments separator text).flatten :=
    List.mem_flatten_of_mem member inPiece
  rw [flatten_segments] at kept
  simp at kept

/-- The text before and after the first separator. -/
def splitFirst (separator : Char) : List Char → Option (List Char × List Char)
  | [] => none
  | c :: rest =>
      if c = separator then some ([], rest)
      else (splitFirst separator rest).map fun (before, after) => (c :: before, after)

theorem splitFirst_append {separator : Char} {before : List Char} (absent : separator ∉ before)
    (after : List Char) :
    splitFirst separator (before ++ separator :: after) = some (before, after) := by
  induction before with
  | nil => exact if_pos rfl
  | cons c rest ih =>
      rw [List.mem_cons, not_or] at absent
      obtain ⟨other, later⟩ := absent
      rw [List.cons_append, splitFirst, if_neg (Ne.symm other), ih later]
      rfl

theorem splitFirst_eq_none_iff {separator : Char} {text : List Char} :
    splitFirst separator text = none ↔ separator ∉ text := by
  constructor
  · intro uncut member
    obtain ⟨before, after, rfl, absent⟩ := List.eq_append_cons_of_mem member
    rw [splitFirst_append absent] at uncut
    cases uncut
  · intro absent
    induction text with
    | nil => rfl
    | cons c rest ih =>
        rw [List.mem_cons, not_or] at absent
        obtain ⟨other, later⟩ := absent
        rw [splitFirst, if_neg (Ne.symm other), ih later]
        rfl

theorem splitFirst_eq_some_iff {separator : Char} {text before after : List Char} :
    splitFirst separator text = some (before, after) ↔
      text = before ++ separator :: after ∧ separator ∉ before := by
  constructor
  · intro cut
    by_cases member : separator ∈ text
    · obtain ⟨front, back, rfl, absent⟩ := List.eq_append_cons_of_mem member
      rw [splitFirst_append absent] at cut
      cases cut
      exact ⟨rfl, absent⟩
    · rw [splitFirst_eq_none_iff.2 member] at cut
      cases cut
  · rintro ⟨rfl, absent⟩
    exact splitFirst_append absent after

/-- The text before and after the first occurrence of a mark. -/
def splitAround (mark : List Char) : List Char → Option (List Char × List Char)
  | [] => if mark = [] then some ([], []) else none
  | c :: rest =>
      if mark.isPrefixOf (c :: rest) then some ([], (c :: rest).drop mark.length)
      else (splitAround mark rest).map fun (before, after) => (c :: before, after)

/-- The pieces around the first occurrence of a mark in a text. -/
structure FirstCut (mark text before after : List Char) : Prop where
  whole : text = before ++ mark ++ after
  first : ∀ earlier later, text = earlier ++ mark ++ later → before.length ≤ earlier.length

theorem FirstCut.unique {mark text before after otherBefore otherAfter : List Char}
    (cut : FirstCut mark text before after) (other : FirstCut mark text otherBefore otherAfter) :
    before = otherBefore ∧ after = otherAfter := by
  have size : before.length = otherBefore.length :=
    Nat.le_antisymm (cut.first _ _ other.whole) (other.first _ _ cut.whole)
  have whole := cut.whole.symm.trans other.whole
  rw [List.append_assoc, List.append_assoc] at whole
  have ⟨sameBefore, sameRest⟩ := List.append_inj whole size
  exact ⟨sameBefore, List.append_cancel_left sameRest⟩

theorem splitAround_eq_none_iff {mark text : List Char} :
    splitAround mark text = none ↔ ¬mark <:+: text := by
  induction text with
  | nil => simp [splitAround]
  | cons c rest ih =>
      rw [splitAround, List.infix_cons_iff, ← List.isPrefixOf_iff_prefix]
      split
      · rename_i leads
        simp [leads]
      · rename_i apart
        simp [apart, ih]

theorem splitAround_first {mark text before after : List Char}
    (cut : splitAround mark text = some (before, after)) : FirstCut mark text before after := by
  induction text generalizing before with
  | nil =>
      rw [splitAround] at cut
      split at cut
      · rename_i empty
        cases cut
        exact ⟨by rw [empty]; rfl, fun _ _ _ => Nat.zero_le _⟩
      · cases cut
  | cons c rest ih =>
      rw [splitAround] at cut
      split at cut
      · rename_i leads
        cases cut
        obtain ⟨later, split⟩ := List.isPrefixOf_iff_prefix.1 leads
        refine ⟨?_, fun _ _ _ => Nat.zero_le _⟩
        rw [← split, List.drop_left]
        rfl
      · rename_i apart
        obtain ⟨⟨front, back⟩, cutRest, same⟩ := Option.map_eq_some_iff.1 cut
        cases same
        obtain ⟨whole, first⟩ := ih cutRest
        refine ⟨congrArg (c :: ·) whole, fun earlier later split => ?_⟩
        cases earlier with
        | nil =>
            have leads : mark <+: c :: rest := ⟨later, split.symm⟩
            exact absurd (List.isPrefixOf_iff_prefix.2 leads) apart
        | cons d front =>
            cases split
            exact Nat.succ_le_succ (first front later rfl)

def contains (mark text : List Char) : Bool := (splitAround mark text).isSome

theorem contains_iff {mark text : List Char} : contains mark text = true ↔ mark <:+: text := by
  rw [contains, ← Option.ne_none_iff_isSome, ne_eq, splitAround_eq_none_iff, Classical.not_not]

/-- Writes the matches of a pattern anew, each search going on behind the match before. Where a
match begins, `extent?` tells how many characters it has after its first one; the characters to skip
are those of the last match. -/
def replaceMatches (extent? : Char → List Char → Option Nat)
    (write : Char → List Char → List Char) : Nat → List Char → List Char
  | _, [] => []
  | skipped + 1, _ :: rest => replaceMatches extent? write skipped rest
  | 0, c :: rest =>
      match extent? c rest with
      | none => c :: replaceMatches extent? write 0 rest
      | some extent => write c (rest.take extent) ++ replaceMatches extent? write extent rest

theorem replaceMatches_skip {extent? : Char → List Char → Option Nat}
    {write : Char → List Char → List Char} (skipped : Nat) (text : List Char) :
    replaceMatches extent? write skipped text =
      replaceMatches extent? write 0 (text.drop skipped) := by
  induction text generalizing skipped with
  | nil => rw [List.drop_nil, replaceMatches, replaceMatches]
  | cons c rest ih =>
      cases skipped with
      | zero => rfl
      | succ skipped => exact ih skipped

def fields (separator : Char) (text : String) : List String :=
  (segments separator text.toList).map String.ofList

theorem toList_ofList_map (pieces : List (List Char)) :
    (pieces.map String.ofList).map String.toList = pieces := by
  have same : String.toList ∘ String.ofList = id := by
    funext chars
    exact String.toList_ofList
  rw [List.map_map, same, List.map_id]

theorem intercalate_fields (separator : Char) (text : String) :
    (String.singleton separator).intercalate (fields separator text) = text := by
  apply String.toList_inj.1
  rw [String.toList_intercalate, fields, toList_ofList_map, String.toList_singleton,
    intercalate_segments]

/-- Parts without the separator come back when they have been joined with it. -/
theorem fields_intercalate {separator : Char} {parts : List String}
    (unbroken : ∀ part ∈ parts, separator ∉ part.toList) (nonempty : parts ≠ []) :
    fields separator ((String.singleton separator).intercalate parts) = parts := by
  have pieces : segments separator ([separator].intercalate (parts.map String.toList)) =
      parts.map String.toList := by
    apply segments_intercalate
    · intro piece member
      have ⟨part, among, same⟩ := List.mem_map.1 member
      rw [← same]
      exact unbroken part among
    · simpa using nonempty
  rw [fields, String.toList_intercalate, String.toList_singleton, pieces, List.map_map]
  simp

theorem unbroken_of_mem_fields {separator : Char} {text field : String}
    (member : field ∈ fields separator text) : separator ∉ field.toList := by
  have ⟨piece, inSegments, same⟩ := List.mem_map.1 member
  rw [← same, String.toList_ofList]
  exact unbroken_of_mem_segments inSegments

def startsWith (text mark : String) : Bool := mark.toList.isPrefixOf text.toList

def endsWith (text mark : String) : Bool := mark.toList.isSuffixOf text.toList

/-- A text without the mark it ends with. -/
def dropEnd? (text mark : String) : Option String :=
  if endsWith text mark then
    some (String.ofList (text.toList.take (text.toList.length - mark.toList.length)))
  else none

/-- Equality that takes an ASCII letter and its other case for the same. -/
def sameIgnoringCase (left right : String) : Bool :=
  left.toList.map Char.toLower == right.toList.map Char.toLower

theorem sameIgnoringCase_iff {left right : String} :
    sameIgnoringCase left right = true ↔
      left.toList.map Char.toLower = right.toList.map Char.toLower := beq_iff_eq

theorem sameIgnoringCase_congr {left right : String} (same : sameIgnoringCase left right = true)
    (text : String) : sameIgnoringCase text left = sameIgnoringCase text right := by
  rw [sameIgnoringCase, sameIgnoringCase, sameIgnoringCase_iff.1 same]

theorem sameIgnoringCase_empty_iff {text : String} : sameIgnoringCase text "" = true ↔ text = "" := by
  rw [sameIgnoringCase_iff]
  simp

end GraphSchema.Text
