import GraphSchema.Annotation.PublicComments
import Mathlib.Data.List.Infix

/-!
Which comments are published, told without a scan. Whether a line lies in a band depends on the
lines before it alone: the nearest one that opens or closes must open and not close. The scan
carries just this from line to line, so that it publishes exactly the lines of bands and the texts
of the lines that open them.
-/

namespace GraphSchema.PublicComments

open Text

def Opens (line : String) : Prop := "gql-comment".toList <:+: line.toList

instance : DecidablePred Opens := fun line =>
  inferInstanceAs (Decidable ("gql-comment".toList <:+: line.toList))

def withoutColon : List Char → List Char
  | ':' :: body => body
  | text => text

/-- The text of a line: what follows its first mark of an opening, without one colon and without
white margins, or the whole line if it holds no such mark. -/
inductive HasText (line : String) : String → Prop
  | opening {before rest : List Char}
      (cut : FirstCut "gql-comment".toList line.toList before rest) :
      HasText line (String.ofList (trim (withoutColon rest)))
  | plain (unopened : ¬Opens line) : HasText line line

def textOf (line : String) : String := (openingText? line).getD line

theorem opening_text_of_cut {line : String} {before rest : List Char}
    (cut : splitAround "gql-comment".toList line.toList = some (before, rest)) :
    openingText? line = some (String.ofList (trim (withoutColon rest))) := by
  rw [openingText?, cut]
  cases rest with
  | nil => rfl
  | cons c body =>
      by_cases colon : c = ':'
      · rw [colon]
        rfl
      · simp [withoutColon, colon]

theorem has_text_of (line : String) : HasText line (textOf line) := by
  cases found : splitAround "gql-comment".toList line.toList with
  | none =>
      have unopened : ¬Opens line := splitAround_eq_none_iff.1 found
      rw [textOf, openingText?, found]
      exact .plain unopened
  | some parts =>
      rw [textOf, opening_text_of_cut found]
      exact .opening (splitAround_first found)

theorem HasText.unique {line text other : String} (hasText : HasText line text)
    (hasOther : HasText line other) : text = other := by
  cases hasText with
  | opening cut =>
      cases hasOther with
      | opening otherCut => rw [(cut.unique otherCut).2]
      | plain unopened => exact absurd ⟨_, _, cut.whole.symm⟩ unopened
  | plain unopened =>
      cases hasOther with
      | opening cut => exact absurd ⟨_, _, cut.whole.symm⟩ unopened
      | plain => rfl

theorem has_text_iff {line text : String} : HasText line text ↔ textOf line = text := by
  constructor
  · intro hasText
    exact (has_text_of line).unique hasText
  · intro same
    rw [← same]
    exact has_text_of line

theorem opening_text_eq_none_iff {line : String} : openingText? line = none ↔ ¬Opens line := by
  rw [openingText?, Option.map_eq_none_iff, splitAround_eq_none_iff, Opens]

theorem opens_of_text {line text : String} (opened : openingText? line = some text) :
    Opens line ∧ textOf line = text := by
  constructor
  · by_contra unopened
    rw [opening_text_eq_none_iff.2 unopened] at opened
    cases opened
  · rw [textOf, opened, Option.getD_some]

def Closes (line : String) : Prop := "gql-end".toList <:+: (textOf line).toList

instance : DecidablePred Closes := fun line =>
  inferInstanceAs (Decidable ("gql-end".toList <:+: (textOf line).toList))

theorem not_closes_of_empty {line : String} (empty : textOf line = "") : ¬Closes line := by
  rw [Closes, empty]
  decide

/-- The lines end inside a band: the last one of them that opens or closes does open, and it does
not close. -/
def InBand (earlier : List String) : Prop :=
  ∃ before line after, earlier = before ++ line :: after ∧ Opens line ∧ ¬Closes line ∧
    ∀ later ∈ after, ¬Opens later ∧ ¬Closes later

theorem in_band_snoc_iff {earlier : List String} {line : String} :
    InBand (earlier ++ [line]) ↔ ¬Closes line ∧ (Opens line ∨ InBand earlier) := by
  constructor
  · intro inBand
    have ⟨before, opening, after, split, opens, unclosed, plain⟩ := inBand
    rcases List.eq_nil_or_concat after with rfl | ⟨between, last, rfl⟩
    · have ⟨_, same⟩ := List.append_inj' split rfl
      cases same
      exact ⟨unclosed, Or.inl opens⟩
    · have regrouped : earlier ++ [line] = (before ++ opening :: between) ++ [last] := by
        rw [split]
        simp
      have ⟨front, same⟩ := List.append_inj' regrouped rfl
      cases same
      have lastPlain := plain line (by simp)
      have betweenPlain : ∀ later ∈ between, ¬Opens later ∧ ¬Closes later := by
        intro later member
        exact plain later (by simp [member])
      exact ⟨lastPlain.2, Or.inr ⟨before, opening, between, front, opens, unclosed, betweenPlain⟩⟩
  · intro last
    have ⟨unclosed, opensOrInside⟩ := last
    by_cases opens : Opens line
    · exact ⟨earlier, line, [], rfl, opens, unclosed, by simp⟩
    · have inside : InBand earlier := opensOrInside.resolve_left opens
      have ⟨before, opening, after, split, openingOpens, openingUnclosed, plain⟩ := inside
      refine ⟨before, opening, after ++ [line], by simp [split], openingOpens, openingUnclosed, ?_⟩
      intro later member
      rcases List.mem_append.1 member with inAfter | isLine
      · exact plain later inAfter
      · rw [List.mem_singleton.1 isLine]
        exact ⟨opens, unclosed⟩

def insideBehind (inside : Bool) (line : String) : Bool :=
  !decide (Closes line) && (decide (Opens line) || inside)

/-- The state of the scan tells whether the lines that it has passed end inside a band. -/
theorem inside_iff (earlier : List String) :
    earlier.foldl insideBehind false = true ↔ InBand earlier := by
  induction earlier using List.reverseRecOn with
  | nil =>
      have outside : ¬InBand [] := by
        intro inBand
        have ⟨before, line, after, split, _⟩ := inBand
        simp at split
      simp [outside]
  | append_singleton earlier line ih =>
      rw [List.foldl_append, in_band_snoc_iff, ← ih]
      simp [insideBehind]

instance : DecidablePred InBand := fun _ => decidable_of_iff _ (inside_iff _)

/-- A line that is published where it stands behind some others: it does not close, and it opens
with a text or lies in a band. -/
def IsPublished (earlier : List String) (line : String) : Prop :=
  ¬Closes line ∧ (Opens line ∧ textOf line ≠ "" ∨ ¬Opens line ∧ InBand earlier)

instance (earlier : List String) : DecidablePred (IsPublished earlier) := fun line =>
  inferInstanceAs
    (Decidable (¬Closes line ∧ (Opens line ∧ textOf line ≠ "" ∨ ¬Opens line ∧ InBand earlier)))

theorem closes_iff {line text : String} (same : textOf line = text) :
    closes text = true ↔ Closes line := by
  rw [closes, contains_iff, Closes, same]

theorem published_step (earlier : List String) (line : String) (lines : List String) :
    publishedFrom (earlier.foldl insideBehind false) (line :: lines) =
      (if IsPublished earlier line then [textOf line] else []) ++
        publishedFrom ((earlier ++ [line]).foldl insideBehind false) lines := by
  have inside := inside_iff earlier
  rw [List.foldl_concat, publishedFrom]
  generalize earlier.foldl insideBehind false = state at inside
  cases found : openingText? line with
  | some text =>
      have ⟨opens, same⟩ := opens_of_text found
      by_cases empty : text = ""
      · have unclosed : ¬Closes line := not_closes_of_empty (same.trans empty)
        simp [IsPublished, insideBehind, opens, unclosed, same, empty]
      · by_cases closed : Closes line
        · simp [IsPublished, insideBehind, closed, (closes_iff same).2 closed, empty]
        · have open? := mt (closes_iff same).1 closed
          simp [IsPublished, insideBehind, opens, closed, same, open?, empty]
  | none =>
      have unopened := opening_text_eq_none_iff.1 found
      have same : textOf line = line := by rw [textOf, found, Option.getD_none]
      by_cases closed : Closes line
      · simp [IsPublished, insideBehind, closed, (closes_iff same).2 closed]
      · have open? := mt (closes_iff same).1 closed
        simp [IsPublished, insideBehind, unopened, closed, same, open?, ← inside]
        cases state <;> simp

theorem published_behind (earlier lines : List String) :
    publishedFrom (earlier.foldl insideBehind false) lines =
      (lines.zipIdx earlier.length).filterMap fun line =>
        if IsPublished ((earlier ++ lines).take line.2) line.1 then some (textOf line.1)
        else none := by
  induction lines generalizing earlier with
  | nil => rfl
  | cons line rest ih =>
      have regrouped : earlier ++ line :: rest = (earlier ++ [line]) ++ rest := by simp
      have passed : (earlier ++ line :: rest).take earlier.length = earlier := List.take_left
      have later := ih (earlier ++ [line])
      rw [List.length_append, List.length_singleton, ← regrouped] at later
      rw [published_step, later, List.zipIdx_cons, List.filterMap_cons, passed]
      split <;> rfl

/-- A line that does not open is passed over where no band is open. -/
theorem published_past_unopened {line : String} (unopened : ¬Opens line) (lines : List String) :
    publishedFrom false (line :: lines) = publishedFrom false lines := by
  have step := published_step [] line lines
  have outside : ¬InBand [] := by
    rw [← inside_iff]
    exact Bool.false_ne_true
  simpa [IsPublished, insideBehind, unopened, outside] using step

theorem published_eq (comments : List String) :
    published comments =
      comments.zipIdx.filterMap fun line =>
        if IsPublished (comments.take line.2) line.1 then some (textOf line.1) else none :=
  published_behind [] comments

theorem published_unclosed {comments : List String} {text : String}
    (member : text ∈ published comments) : ¬"gql-end".toList <:+: text.toList := by
  rw [published_eq] at member
  have ⟨line, _, kept⟩ := List.mem_filterMap.1 member
  split at kept
  · rename_i isPublished
    cases kept
    exact isPublished.1
  · cases kept

theorem published_from_first_opening (comments : List String) :
    published comments = published (comments.dropWhile (¬Opens ·)) := by
  unfold published
  induction comments with
  | nil => rfl
  | cons line rest ih =>
      by_cases opens : Opens line
      · rw [List.dropWhile_cons_of_neg (by simp [opens])]
      · rw [List.dropWhile_cons_of_pos (by simp [opens]), published_past_unopened opens, ih]

/-- The published comments are the texts of the lines that do not close and either open with a text
or lie in a band, in order. None of them holds the mark of a closing, and the lines before the first
one that opens add nothing. -/
theorem published_lines_lie_in_bands (comments : List String) :
    (∀ line text, HasText line text ↔ textOf line = text) ∧
    published comments =
      (comments.zipIdx.filterMap fun line =>
        if IsPublished (comments.take line.2) line.1 then some (textOf line.1) else none) ∧
    (∀ text ∈ published comments, ¬"gql-end".toList <:+: text.toList) ∧
    published comments = published (comments.dropWhile (¬Opens ·)) := by
  constructor
  · intro line text
    exact has_text_iff
  constructor
  · exact published_eq comments
  constructor
  · intro text member
    exact published_unclosed member
  · exact published_from_first_opening comments

/-- Notes with two bands: marks inside lines, a band that opens twice and a line that closes what it
opens. -/
def authorNotes : List String := [
  "internal", "see gql-comment: Returns an author. gql-comment", "Fails when missing.",
  "no more gql-end", "internal again", "gql-comment:", "gql-comment Second band",
  "gql-comment: never shown gql-end", "end of notes"]

theorem author_notes_are_published :
    published authorNotes =
        ["Returns an author. gql-comment", "Fails when missing.", "Second band"] ∧
      "Second band" ∈ published authorNotes ∧ ¬"gql-end".toList <:+: "Second band".toList ∧
      published authorNotes = published authorNotes.tail := by
  have shown : published authorNotes =
      ["Returns an author. gql-comment", "Fails when missing.", "Second band"] := by decide +kernel
  have ⟨_, _, unclosed, past⟩ := published_lines_lie_in_bands authorNotes
  have second : "Second band" ∈ published authorNotes := by simp [shown]
  exact ⟨shown, second, unclosed _ second, past⟩

end GraphSchema.PublicComments
