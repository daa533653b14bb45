import Mathlib.Data.List.Forall2
import Mathlib.Data.List.Perm.Basic

/-!
Computations that may fail, read backwards: what must have succeeded before a result came out.
-/

namespace GraphSchema.Outcome

variable {Failure Value Result : Type}

theorem bind_ok {first : Except Failure Value} {next : Value → Except Failure Result}
    {result : Result} (succeeded : first >>= next = .ok result) :
    ∃ value, first = .ok value ∧ next value = .ok result := by
  cases first with
  | error failure => cases succeeded
  | ok value => exact ⟨value, rfl, succeeded⟩

theorem map_ok {first : Except Failure Value} {change : Value → Result} {result : Result}
    (succeeded : first.map change = .ok result) :
    ∃ value, first = .ok value ∧ change value = result := by
  cases first with
  | error failure => cases succeeded
  | ok value => exact ⟨value, rfl, Except.ok.inj succeeded⟩

theorem ok_of_to_option {outcome : Except Failure Result} {result : Result}
    (found : outcome.toOption = some result) : outcome = .ok result := by
  cases outcome with
  | error failure => cases found
  | ok value => exact congrArg Except.ok (Option.some.inj found)

theorem succeeds_of_to_option {outcome : Except Failure Result}
    (found : outcome.toOption.isSome = true) : ∃ result, outcome = .ok result := by
  obtain ⟨result, same⟩ := Option.isSome_iff_exists.1 found
  exact ⟨result, ok_of_to_option same⟩

theorem bind_error_iff {first : Except Failure Value} {next : Value → Except Failure Result}
    {failure : Failure} :
    first >>= next = .error failure ↔
      first = .error failure ∨ ∃ value, first = .ok value ∧ next value = .error failure := by
  cases first with
  | error other => simp [bind, Except.bind]
  | ok value => simp [bind, Except.bind]

def failure? : Except Failure Value → Option Failure
  | .error failure => some failure
  | .ok _ => none

theorem failure_eq_some_iff {outcome : Except Failure Value} {failure : Failure} :
    failure? outcome = some failure ↔ outcome = .error failure := by
  cases outcome <;> simp [failure?]

theorem failure_of_map (first : Except Failure Value) (change : Value → Result) :
    failure? (first.map change) = failure? first := by
  cases first <;> rfl

/-- If all that may follow fails alike, a sequence fails as its first part or else so. -/
theorem failure_of_bind {first : Except Failure Value} {next : Value → Except Failure Result}
    {later : Option Failure} (alike : ∀ value, failure? (next value) = later) :
    failure? (first >>= next) = (failure? first).or later := by
  cases first with
  | error failure => rfl
  | ok value => exact alike value

/-- What never fails adds no failure to what it follows. -/
theorem failure_of_first {first : Except Failure Value} {next : Value → Except Failure Result}
    (succeeds : ∀ value, failure? (next value) = none) :
    failure? (first >>= next) = failure? first :=
  (failure_of_bind succeeds).trans Option.or_none

/-- Work on items one after another fails as it does on the first on which it fails. -/
theorem failure_of_each (work : Value → Except Failure Result) (items : List Value) :
    failure? (items.mapM work) = items.findSome? fun item => failure? (work item) := by
  induction items with
  | nil => rfl
  | cons item rest ih =>
      have later (result : Result) :
          failure? (rest.mapM work >>= fun results => pure (result :: results)) =
            failure? (rest.mapM work) :=
        failure_of_first fun _ => rfl
      rw [List.mapM_cons, failure_of_bind later, ih, List.findSome?_cons]
      cases failure? (work item) <;> rfl

theorem map_list_ok {work : Value → Except Failure Result} {items : List Value}
    {results : List Result} (succeeded : items.mapM work = .ok results) :
    List.Forall₂ (fun item result => work item = .ok result) items results := by
  induction items generalizing results with
  | nil =>
      cases succeeded
      exact List.Forall₂.nil
  | cons item rest ih =>
      rw [List.mapM_cons] at succeeded
      obtain ⟨result, worked, remaining⟩ := bind_ok succeeded
      obtain ⟨others, followed, assembled⟩ := bind_ok remaining
      cases assembled
      exact List.Forall₂.cons worked (ih followed)

theorem map_list_of_ok {work : Value → Except Failure Result} {items : List Value}
    {results : List Result}
    (worked : List.Forall₂ (fun item result => work item = .ok result) items results) :
    items.mapM work = .ok results := by
  induction worked with
  | nil => rfl
  | cons made _ ih =>
      rw [List.mapM_cons, made, ih]
      rfl

theorem all_succeed {work : Value → Except Failure Result} {items : List Value}
    (succeeds : ∀ item ∈ items, ∃ result, work item = .ok result) :
    ∃ results, List.Forall₂ (fun item result => work item = .ok result) items results := by
  induction items with
  | nil => exact ⟨[], List.Forall₂.nil⟩
  | cons item rest ih =>
      obtain ⟨result, worked⟩ := succeeds item List.mem_cons_self
      obtain ⟨results, followed⟩ := ih fun other member =>
        succeeds other (List.mem_cons_of_mem _ member)
      exact ⟨result :: results, List.Forall₂.cons worked followed⟩

theorem map_list_perm {work : Value → Except Failure Result} {items reordered : List Value}
    {results : List Result} (order : items.Perm reordered)
    (succeeded : items.mapM work = .ok results) :
    ∃ others, reordered.mapM work = .ok others ∧ results.Perm others := by
  obtain ⟨others, paired, sameResults⟩ :=
    List.perm_comp_forall₂ order.symm (map_list_ok succeeded)
  exact ⟨others, map_list_of_ok paired, sameResults.symm⟩

theorem exists_result {relation : Value → Result → Prop} {items : List Value}
    {results : List Result} (paired : List.Forall₂ relation items results) {item : Value}
    (member : item ∈ items) : ∃ result ∈ results, relation item result := by
  induction paired with
  | nil => cases member
  | cons related _ ih =>
      rcases List.mem_cons.1 member with rfl | later
      · exact ⟨_, List.mem_cons_self, related⟩
      · obtain ⟨result, among, found⟩ := ih later
        exact ⟨result, List.mem_cons_of_mem _ among, found⟩

theorem exists_item {relation : Value → Result → Prop} {items : List Value}
    {results : List Result} (paired : List.Forall₂ relation items results) {result : Result}
    (member : result ∈ results) : ∃ item ∈ items, relation item result :=
  exists_result paired.flip member

end GraphSchema.Outcome
