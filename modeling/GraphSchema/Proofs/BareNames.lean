import GraphSchema.Model.TypeRef

/-!
What can be read off the text of a reference. Where no mark stands in the name of its base, the text
without its marks is that name, and the marks without the name tell what may be null and whether
there is a list. So the text tells the reference, up to a named type that is spelled as a scalar.
-/

namespace GraphSchema.TypeRef

def isMark (c : Char) : Bool := ['[', ']', '!'].contains c

/-- A name in which no mark of a reference stands. -/
def Unmarked (name : String) : Prop := ∀ c ∈ name.toList, isMark c = false

instance (name : String) : Decidable (Unmarked name) := List.decidableBAll _ _

/-- A text without its marks. -/
def bareName (text : String) : String := String.ofList (text.toList.filter (!isMark ·))

def markings (text : String) : String := String.ofList (text.toList.filter isMark)

/-- The reference with the marks of another, to a type without a name. -/
def frame (nonNull list : Bool) : TypeRef := { scalar := .named "", nonNull, list }

theorem bare_name_append (left right : String) :
    bareName (left ++ right) = bareName left ++ bareName right := by
  simp [bareName]

theorem markings_append (left right : String) :
    markings (left ++ right) = markings left ++ markings right := by
  simp [markings]

theorem Unmarked.bare {name : String} (unmarked : Unmarked name) : bareName name = name := by
  have kept : name.toList.filter (!isMark ·) = name.toList := by
    apply List.filter_eq_self.2
    intro c member
    rw [unmarked c member]
    rfl
  rw [bareName, kept, String.ofList_toList]

theorem Unmarked.no_markings {name : String} (unmarked : Unmarked name) : markings name = "" := by
  have dropped : name.toList.filter isMark = [] := by
    apply List.filter_eq_nil_iff.2
    intro c member
    rw [unmarked c member]
    decide
  rw [markings, dropped, String.ofList_nil]

variable {type : TypeRef}

theorem bare_name_of_render (unmarked : Unmarked type.baseName) :
    bareName type.render = type.baseName := by
  have dropped : bareName "[" = "" ∧ bareName "]!" = "" ∧ bareName "!" = "" ∧ bareName "" = "" := by
    decide
  unfold render
  cases type.nonNull <;> cases type.list <;> simp [bare_name_append, dropped, unmarked.bare]

theorem markings_of_render (unmarked : Unmarked type.baseName) :
    markings type.render = (frame type.nonNull type.list).render := by
  have kept : markings "[" = "[" ∧ markings "]!" = "]!" ∧ markings "!" = "!" ∧
      markings "" = "" := by
    decide
  have frames : (frame false false).render = "" ∧ (frame false true).render = "[]!" ∧
      (frame true false).render = "!" ∧ (frame true true).render = "[!]!" := by
    decide
  rw [render]
  cases type.nonNull <;> cases type.list <;>
    simp [markings_append, kept, unmarked.no_markings, frames]

theorem frame_text_inj : ∀ nonNull list otherNonNull otherList : Bool,
    (frame nonNull list).render = (frame otherNonNull otherList).render →
      nonNull = otherNonNull ∧ list = otherList := by
  decide

/-- References to bases without marks in their names have one text only if they agree in the name
and in the marks, and the name is read off the text. -/
theorem rendered_types_are_unambiguous {left right : TypeRef}
    (leftUnmarked : Unmarked left.baseName) (rightUnmarked : Unmarked right.baseName) :
    bareName left.render = left.baseName ∧
      (left.render = right.render ↔ left.baseName = right.baseName ∧
        left.nonNull = right.nonNull ∧ left.list = right.list) := by
  have leftBare := bare_name_of_render leftUnmarked
  refine ⟨leftBare, ?_⟩
  constructor
  · intro same
    constructor
    · rw [← leftBare, same, bare_name_of_render rightUnmarked]
    · apply frame_text_inj
      rw [← markings_of_render leftUnmarked, same, markings_of_render rightUnmarked]
  · intro agree
    rw [render, render, agree.1, agree.2.1, agree.2.2]

theorem author_lists_are_no_authors :
    Unmarked (named "Author").baseName ∧ Unmarked (listOf "Author").baseName ∧
      bareName (listOf "Author").render = "Author" ∧
      (listOf "Author").render ≠ (named "Author").render := by
  have unmarked : Unmarked "Author" := by decide
  have ⟨bare, same⟩ :=
    @rendered_types_are_unambiguous (listOf "Author") (named "Author") unmarked unmarked
  refine ⟨unmarked, unmarked, bare, ?_⟩
  intro alike
  exact absurd (same.1 alike).2.2 (by decide)

end GraphSchema.TypeRef
