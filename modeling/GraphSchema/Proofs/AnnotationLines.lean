import GraphSchema.Annotation.Binding
import Mathlib.Data.List.Infix
import Mathlib.Data.List.Nodup

/-!
What reading annotations does to the comments of a query. The line of the binding and the line that
asks for pages are told by their places among all comments, although the second one is looked for
when the first is gone: no line is both, so that taking out the one may move the other but never
hides it. All other lines are kept in order.
-/

namespace GraphSchema.Annotations

open Text

/-- White space, the word `gql`, white space and a colon, and whatever follows. -/
def OpensBinding (line : String) : Prop :=
  ∃ margin gap rest, Blank margin ∧ Blank gap ∧
    line.toList = margin ++ 'g' :: 'q' :: 'l' :: (gap ++ ':' :: rest)

theorem is_binding_line_iff {line : String} : isBindingLine line = true ↔ OpensBinding line := by
  constructor
  · intro opens
    have ⟨margin, marginBlank, marginSplit⟩ := trimStart_margin line.toList
    unfold isBindingLine at opens
    split at opens
    · rename_i rest word
      have ⟨gap, gapBlank, gapSplit⟩ := trimStart_margin rest
      have ⟨behind, colon⟩ := List.head?_eq_some_iff.1 (of_decide_eq_true opens)
      have chars : line.toList = margin ++ 'g' :: 'q' :: 'l' :: (gap ++ ':' :: behind) := by
        rw [marginSplit, word, ← colon, ← gapSplit]
      exact ⟨margin, gap, behind, marginBlank, gapBlank, chars⟩
    · cases opens
  · intro opens
    have ⟨margin, gap, rest, marginBlank, gapBlank, chars⟩ := opens
    have letter : isBlank 'g' = false := by decide
    have colon : isBlank ':' = false := by decide
    rw [isBindingLine, chars, trimStart_append_blank marginBlank letter]
    simp only [trimStart_append_blank gapBlank colon]
    rfl

instance : DecidablePred OpensBinding := fun _ => decidable_of_iff _ is_binding_line_iff

/-- A line that starts with `paginated`, white space aside. -/
def AsksForPages (line : String) : Prop := "paginated".toList <+: trim line.toList

theorem is_pagination_line_iff {line : String} :
    isPaginationLine line = true ↔ AsksForPages line :=
  List.isPrefixOf_iff_prefix

instance : DecidablePred AsksForPages := fun _ => decidable_of_iff _ is_pagination_line_iff

/-- The first solid character of a line is not both `g` and `p`. -/
theorem not_asks_for_pages_of_binding {line : String} (opens : OpensBinding line) :
    ¬AsksForPages line := by
  intro asks
  have ⟨margin, gap, rest, marginBlank, gapBlank, chars⟩ := opens
  have ⟨behind, asked⟩ := asks
  have letter : isBlank 'g' = false := by decide
  have start : trimStart line.toList = 'g' :: 'q' :: 'l' :: (gap ++ ':' :: rest) := by
    rw [chars]
    exact trimStart_append_blank marginBlank letter _
  have ⟨cutOff, kept⟩ := trimEnd_leads (trimStart line.toList)
  have front : "paginated".toList ++ behind ++ cutOff =
      'g' :: 'q' :: 'l' :: (gap ++ ':' :: rest) := by
    rw [asked, trim, kept, start]
  exact absurd (List.cons.inj front).1 (by decide)

theorem pagination_of_eq (line : String) :
    paginationOf line = if "cursor".toList <:+: line.toList then .cursor else .offset := by
  rw [paginationOf]
  by_cases named : "cursor".toList <:+: line.toList
  · rw [if_pos named, if_pos (contains_iff.2 named)]
  · rw [if_neg named, if_neg (mt contains_iff.1 named)]

variable {Item : Type} {first second : Item → Bool}

theorem erase_first_eq_filter [DecidableEq Item] {items : List Item} (distinct : items.Nodup)
    (property : Item → Bool) :
    items.eraseP property = items.filter fun item => some item ≠ items.find? property := by
  induction items with
  | nil => rfl
  | cons item rest ih =>
      have ⟨fresh, restDistinct⟩ := List.nodup_cons.1 distinct
      by_cases has : property item = true
      · have others : ∀ other ∈ rest, decide (some other ≠ some item) = true := by
          intro other member
          have differs : other ≠ item := ne_of_mem_of_not_mem member fresh
          simp [differs]
        simp only [List.eraseP_cons_of_pos has, List.find?_cons_of_pos has, List.filter_cons,
          ne_eq, not_true_eq_false, decide_false, Bool.false_eq_true, if_false]
        exact (List.filter_eq_self.2 others).symm
      · have keeps : some item ≠ rest.find? property := by
          intro found
          exact fresh (List.mem_of_find?_eq_some found.symm)
        rw [List.eraseP_cons_of_neg has, List.find?_cons_of_neg has, ih restDistinct]
        simp [keeps]

theorem find_after_erase (apart : ∀ item, first item = true → second item = false)
    (items : List Item) : (items.eraseP first).find? second = items.find? second := by
  induction items with
  | nil => rfl
  | cons item rest ih =>
      by_cases has : first item = true
      · rw [List.eraseP_cons_of_pos has, List.find?_cons, apart item has]
      · rw [List.eraseP_cons_of_neg has, List.find?_cons, List.find?_cons, ih]

theorem erase_two_eq_filter [DecidableEq Item] {items : List Item} (distinct : items.Nodup)
    (apart : ∀ item, first item = true → second item = false) :
    (items.eraseP first).eraseP second =
      items.filter fun item =>
        some item ≠ items.find? first ∧ some item ≠ items.find? second := by
  have remainderDistinct : (items.eraseP first).Nodup := distinct.sublist List.eraseP_sublist
  rw [erase_first_eq_filter remainderDistinct, find_after_erase apart,
    erase_first_eq_filter distinct, List.filter_filter]
  simp only [Bool.decide_and, Bool.and_comm]

theorem numbered_nodup (lines : List String) : lines.zipIdx.Nodup := by
  apply List.Nodup.of_map Prod.snd
  rw [List.zipIdx_map_snd]
  exact List.nodup_range'

theorem numbered_first_iff {property : String → Bool} {lines : List String}
    {numbered : String × Nat} (member : numbered ∈ lines.zipIdx) :
    some numbered = lines.zipIdx.find? (property ·.1) ↔
      some numbered.2 = lines.findIdx? property := by
  rw [List.findIdx?_eq_fst_find?_zipIdx]
  constructor
  · intro found
    exact congrArg (Option.map Prod.snd) found
  · intro placed
    have ⟨other, found, place⟩ := Option.map_eq_some_iff.1 placed.symm
    have line := List.mem_zipIdx_iff_getElem?.1 member
    have otherLine := List.mem_zipIdx_iff_getElem?.1 (List.mem_of_find?_eq_some found)
    rw [place, line] at otherLine
    have same : numbered = other := Prod.ext (Option.some.inj otherLine) place.symm
    rw [same]
    exact found.symm

def without (lines : List String) (one other : Option Nat) : List String :=
  (lines.zipIdx.filter fun line => some line.2 ≠ one ∧ some line.2 ≠ other).map Prod.fst

theorem erase_two_eq_without {binds asks : String → Bool}
    (apart : ∀ line, binds line = true → asks line = false) (lines : List String) :
    (lines.eraseP binds).eraseP asks =
      without lines (lines.findIdx? binds) (lines.findIdx? asks) := by
  have erased : (lines.zipIdx.eraseP (binds ·.1)).eraseP (asks ·.1) =
      lines.zipIdx.filter fun line =>
        some line.2 ≠ lines.findIdx? binds ∧ some line.2 ≠ lines.findIdx? asks := by
    rw [erase_two_eq_filter (numbered_nodup lines) fun line => apart line.1]
    apply List.filter_congr
    intro line member
    simp only [ne_eq, numbered_first_iff member]
  calc (lines.eraseP binds).eraseP asks
      = ((lines.zipIdx.map Prod.fst).eraseP binds).eraseP asks := by rw [List.zipIdx_map_fst]
    _ = ((lines.zipIdx.eraseP (binds ·.1)).eraseP (asks ·.1)).map Prod.fst := by
        rw [List.eraseP_map, List.eraseP_map]
        rfl
    _ = without lines (lines.findIdx? binds) (lines.findIdx? asks) := by rw [erased, without]

def bindingPlace? (comments : List String) : Option Nat := comments.findIdx? (OpensBinding ·)

def pagesPlace? (comments : List String) : Option Nat := comments.findIdx? (AsksForPages ·)

theorem binding_place_eq (comments : List String) :
    comments.findIdx? isBindingLine = bindingPlace? comments := by
  have same : isBindingLine = fun line => decide (OpensBinding line) := by
    funext line
    rw [Bool.eq_iff_iff, is_binding_line_iff, decide_eq_true_iff]
  rw [same, bindingPlace?]

theorem pages_place_eq (comments : List String) :
    comments.findIdx? isPaginationLine = pagesPlace? comments := by
  have same : isPaginationLine = fun line => decide (AsksForPages line) := by
    funext line
    rw [Bool.eq_iff_iff, is_pagination_line_iff, decide_eq_true_iff]
  rw [same, pagesPlace?]

/-- A line that binds does not ask for pages, so the two places differ if there is a binding. -/
theorem places_differ (comments : List String) :
    bindingPlace? comments = none ∨ bindingPlace? comments ≠ pagesPlace? comments := by
  cases found : bindingPlace? comments with
  | none => exact Or.inl rfl
  | some place =>
      right
      intro same
      have ⟨_, opened, _⟩ := List.findIdx?_eq_some_iff_getElem.1 found
      have ⟨_, asked, _⟩ := List.findIdx?_eq_some_iff_getElem.1 same.symm
      exact not_asks_for_pages_of_binding (of_decide_eq_true opened) (of_decide_eq_true asked)

/-- Reading takes the line of the binding and the line that asks for pages out of the comments, both
by their places in the whole and never one line for both, and keeps all others in order. The binding
and the pagination are read from these two lines, and a line of the binding that spells none is gone
as well. -/
theorem annotation_lines_are_removed (defaultResolver : String) (comments : List String) :
    (bindingPlace? comments = none ∨ bindingPlace? comments ≠ pagesPlace? comments) ∧
    (ofComments defaultResolver comments).comments =
      without comments (bindingPlace? comments) (pagesPlace? comments) ∧
    (ofComments defaultResolver comments).pagination =
      ((pagesPlace? comments).bind (comments[·]?)).map (fun line =>
        if "cursor".toList <:+: line.toList then .cursor else .offset) ∧
    (ofComments defaultResolver comments).binding =
      ((bindingPlace? comments).bind (comments[·]?)).bind (bindingOf? defaultResolver) := by
  have apart : ∀ line, isBindingLine line = true → isPaginationLine line = false := by
    intro line binds
    rw [Bool.eq_false_iff, ne_eq, is_pagination_line_iff]
    exact not_asks_for_pages_of_binding (is_binding_line_iff.1 binds)
  constructor
  · exact places_differ comments
  constructor
  · change (comments.eraseP isBindingLine).eraseP isPaginationLine = _
    rw [erase_two_eq_without apart, binding_place_eq, pages_place_eq]
  constructor
  · change ((comments.eraseP isBindingLine).find? isPaginationLine).map paginationOf = _
    rw [find_after_erase apart, List.find?_eq_bind_findIdx?_getElem?, pages_place_eq]
    congr 1
    funext line
    exact pagination_of_eq line
  · change (comments.find? isBindingLine).bind (bindingOf? defaultResolver) = _
    rw [List.find?_eq_bind_findIdx?_getElem?, binding_place_eq]

example :
    (ofComments "ListBooks" ["paginated:cursor", "All books", "gql: .books", "paginated"]).comments =
      ["All books", "paginated"] := by decide

end GraphSchema.Annotations
