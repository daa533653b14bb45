import GraphSchema.Model.TypeRef
import Mathlib.Data.List.Nodup

/-!
References that are written alike. Overrides and catalogs name types freely, so a named type may be
spelled as a scalar of the language, or may carry in its name the marks that another reference has
on its own. These are the only ways for two references to have one text.
-/

namespace GraphSchema

namespace Scalar

def builtins : List Scalar := [int, float, boolean, string, time, uuid, json, unknown]

theorem named_or_builtin (scalar : Scalar) :
    scalar = .named scalar.name ∨ scalar ∈ builtins := by
  cases scalar with
  | named name => exact Or.inl rfl
  | _ => exact Or.inr (by decide)

/-- The name is no scalar's of the language and ends in no mark. -/
def isPlain : Scalar → Bool
  | named name =>
      !(builtins.map Scalar.name).contains name && !Text.endsWith name "!" &&
        !Text.endsWith name "]"
  | _ => true

theorem plain_of_builtin {scalar : Scalar} (builtin : scalar ∈ builtins) :
    scalar.isPlain = true := by
  have plain : ∀ scalar ∈ builtins, scalar.isPlain = true := by decide
  exact plain scalar builtin

theorem ends_with_append (text mark : String) : Text.endsWith (text ++ mark) mark = true := by
  rw [Text.endsWith, String.toList_append, List.isSuffixOf_iff_suffix]
  exact List.suffix_append _ _

/-- No scalar of the language ends in a mark. -/
theorem named_of_marked {scalar : Scalar} {name mark : String} (marks : mark ∈ ["!", "]"])
    (marked : scalar.name = name ++ mark) : scalar = .named (name ++ mark) := by
  rcases named_or_builtin scalar with named | builtin
  · rw [named, marked]
  · have unmarked : ∀ mark ∈ ["!", "]"], ∀ scalar ∈ builtins,
        Text.endsWith scalar.name mark = false := by
      decide
    have ends := ends_with_append name mark
    rw [← marked, unmarked mark marks scalar builtin] at ends
    cases ends

theorem name_eq_iff {left right : Scalar} :
    left.name = right.name ↔ left = right ∨
      (right ∈ builtins ∧ left = .named right.name) ∨
      (left ∈ builtins ∧ right = .named left.name) := by
  constructor
  · intro same
    rcases named_or_builtin left with leftNamed | leftBuiltin
    · rcases named_or_builtin right with rightNamed | rightBuiltin
      · exact Or.inl (by rw [leftNamed, rightNamed, same])
      · exact Or.inr (Or.inl ⟨rightBuiltin, same ▸ leftNamed⟩)
    · rcases named_or_builtin right with rightNamed | rightBuiltin
      · exact Or.inr (Or.inr ⟨leftBuiltin, same ▸ rightNamed⟩)
      · have distinct : (builtins.map Scalar.name).Nodup := by decide
        exact Or.inl (List.inj_on_of_nodup_map distinct leftBuiltin rightBuiltin same)
  · rintro (rfl | ⟨_, rfl⟩ | ⟨_, rfl⟩) <;> rfl

end Scalar

namespace TypeRef

/-- A named type whose text is that of another reference: it is spelled as a scalar of the language,
or its name carries marks of the other. -/
inductive Mimics : TypeRef → TypeRef → Prop
  | scalar {scalar : Scalar} (builtin : scalar ∈ Scalar.builtins) (nonNull list : Bool) :
      Mimics { scalar := .named scalar.name, nonNull, list } { scalar, nonNull, list }
  | nonNull (scalar : Scalar) (list : Bool) :
      Mimics { scalar := .named (scalar.name ++ "!"), list } { scalar, nonNull := true, list }
  | list (item : TypeRef) (single : item.list = false) :
      Mimics { scalar := .named ("[" ++ item.render ++ "]!") } { item with list := true }
  | items (item : TypeRef) (single : item.list = false) :
      Mimics { scalar := .named ("[" ++ item.render ++ "]"), nonNull := true }
        { item with list := true }

theorem Mimics.same_text {left right : TypeRef} (mimics : left.Mimics right) :
    left.render = right.render := by
  cases mimics with
  | scalar _ nonNull list => rfl
  | nonNull scalar list => simp [render, baseName, Scalar.name]
  | list item single => simp [render, baseName, Scalar.name, single]
  | items item single => simp [render, baseName, Scalar.name, single, String.append_assoc]

theorem list_text (item : String) : "[" ++ item ++ "]!" = "[" ++ item ++ "]" ++ "!" := by
  have marks : "]!" = "]" ++ "!" := rfl
  rw [marks, ← String.append_assoc]

/-- A named type that mimics another reference has no plain name. -/
theorem Mimics.not_plain {left right : TypeRef} (mimics : left.Mimics right) :
    left.scalar.isPlain = false := by
  cases mimics with
  | scalar builtin nonNull list =>
      have spelled := List.mem_map_of_mem (f := Scalar.name) builtin
      simp [Scalar.isPlain, spelled]
  | nonNull scalar list => simp [Scalar.isPlain, Scalar.ends_with_append]
  | list item single => simp [Scalar.isPlain, list_text, Scalar.ends_with_append]
  | items item single => simp [Scalar.isPlain, Scalar.ends_with_append]

theorem not_mimics_of_plain {left : TypeRef} (plain : left.scalar.isPlain = true)
    (right : TypeRef) : ¬left.Mimics right := by
  intro mimics
  rw [mimics.not_plain] at plain
  cases plain

theorem items_of_same_text {left right : TypeRef} (lists : left.list = right.list)
    (same : left.render = right.render) :
    (left.baseName ++ if left.nonNull then "!" else "") =
      right.baseName ++ if right.nonNull then "!" else "" := by
  unfold render at same
  rw [lists] at same
  cases list : right.list with
  | false =>
      rw [list] at same
      exact same
  | true =>
      rw [list] at same
      exact (String.append_right_inj "[").1 ((String.append_left_inj "]!").1 same)

theorem mimics_of_same_names {left right : Scalar} (same : left.name = right.name)
    (nonNull list : Bool) :
    TypeRef.mk left nonNull list = ⟨right, nonNull, list⟩ ∨
      Mimics ⟨left, nonNull, list⟩ ⟨right, nonNull, list⟩ ∨
      Mimics ⟨right, nonNull, list⟩ ⟨left, nonNull, list⟩ := by
  rcases Scalar.name_eq_iff.1 same with rfl | ⟨builtin, rfl⟩ | ⟨builtin, rfl⟩
  · exact Or.inl rfl
  · exact Or.inr (Or.inl (.scalar builtin nonNull list))
  · exact Or.inr (Or.inr (.scalar builtin nonNull list))

theorem mimics_of_mark {scalar marked : Scalar} (spelled : marked.name = scalar.name ++ "!")
    (list : Bool) : Mimics ⟨marked, false, list⟩ ⟨scalar, true, list⟩ := by
  obtain rfl := Scalar.named_of_marked List.mem_cons_self spelled
  exact .nonNull scalar list

theorem mimics_of_same_items {left right : TypeRef} (lists : left.list = right.list)
    (same : left.render = right.render) :
    left = right ∨ left.Mimics right ∨ right.Mimics left := by
  have items := items_of_same_text lists same
  obtain ⟨left, leftMark, list⟩ := left
  obtain ⟨right, rightMark, _⟩ := right
  obtain rfl := lists
  cases leftMark with
  | false =>
      cases rightMark with
      | false => exact mimics_of_same_names ((String.append_left_inj "").1 items) false list
      | true => exact Or.inr (Or.inl (mimics_of_mark (String.append_empty.symm.trans items) list))
  | true =>
      cases rightMark with
      | false =>
          exact Or.inr (Or.inr (mimics_of_mark (String.append_empty.symm.trans items.symm) list))
      | true => exact mimics_of_same_names ((String.append_left_inj "!").1 items) true list

theorem mimics_of_list {left right : TypeRef} (leftList : left.list = true)
    (single : right.list = false) (same : left.render = right.render) : right.Mimics left := by
  obtain ⟨scalar, nonNull, _⟩ := left
  obtain ⟨named, mark, _⟩ := right
  obtain rfl := leftList
  obtain rfl := single
  have text : "[" ++ (TypeRef.mk scalar nonNull false).render ++ "]!" =
      named.name ++ if mark then "!" else "" := same
  cases mark with
  | false =>
      have spelled := String.append_empty.symm.trans (text.symm.trans (list_text _))
      obtain rfl := Scalar.named_of_marked List.mem_cons_self spelled
      rw [← list_text]
      exact .list ⟨scalar, nonNull, false⟩ rfl
  | true =>
      have spelled := (String.append_left_inj "!").1 (text.symm.trans (list_text _))
      obtain rfl := Scalar.named_of_marked (by simp) spelled
      exact .items ⟨scalar, nonNull, false⟩ rfl

/-- Two references have one text only if they are the same or one of them mimics the other. -/
theorem render_eq_iff {left right : TypeRef} :
    left.render = right.render ↔ left = right ∨ left.Mimics right ∨ right.Mimics left := by
  constructor
  · intro same
    cases leftList : left.list with
    | false =>
        cases rightList : right.list with
        | false => exact mimics_of_same_items (leftList.trans rightList.symm) same
        | true => exact Or.inr (Or.inl (mimics_of_list rightList leftList same.symm))
    | true =>
        cases rightList : right.list with
        | false => exact Or.inr (Or.inr (mimics_of_list leftList rightList same))
        | true => exact mimics_of_same_items (leftList.trans rightList.symm) same
  · rintro (rfl | mimics | mimics)
    · rfl
    · exact mimics.same_text
    · exact mimics.same_text.symm

end TypeRef

end GraphSchema
