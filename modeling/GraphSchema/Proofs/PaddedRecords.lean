import GraphSchema.Options.Decode
import GraphSchema.Options.Encode
import Mathlib.Data.List.Forall2

/-!
Records with members that no reader looks for. They may stand anywhere among the others, and the
values of some members may be padded in the same way. What a writer puts into a record for a value
is then still found: a member that is read as the value, or none where the value is the default.
-/

namespace GraphSchema

namespace Datum

/-- The members of a record with others put in between, which have none of the names of a layout.
The value of a member may have been padded in its turn. -/
inductive Padded (layout : List Spellings) (within : String → Datum → Datum → Prop) :
    Member → Member → Prop
  | nil : Padded layout within [] []
  | same {entry : Option String × Datum} {entries others : Member} :
      Padded layout within entries others →
      Padded layout within (entry :: entries) (entry :: others)
  | inside {name : String} {plain padded : Datum} {entries others : Member} :
      within name plain padded → Padded layout within entries others →
      Padded layout within ((some name, plain) :: entries) ((some name, padded) :: others)
  | added {name : String} {value : Datum} {entries others : Member} :
      name ∉ layout.flatten → Padded layout within entries others →
      Padded layout within entries ((some name, value) :: others)

def PadsRecord (layout : List Spellings) (within : String → Datum → Datum → Prop)
    (plain padded : Datum) : Prop :=
  ∃ entries others, plain = .record entries ∧ padded = .record others ∧
    Padded layout within entries others

def PadsEach (pads : Datum → Datum → Prop) (plain padded : Datum) : Prop :=
  ∃ items others, plain = .list items ∧ padded = .list others ∧ List.Forall₂ pads items others

/-- What is put into a record for a value that `read` reads, also when it has been padded. -/
inductive Writes {α : Type} (within : String → Datum → Datum → Prop) (default : α)
    (read : Datum → Option α) (value : α) : Member → Prop
  | absent : value = default → Writes within default read value []
  | present {name : String} {datum : Datum} : read datum = some value →
      (∀ padded, within name datum padded → read padded = some value) →
      Writes within default read value (always name datum)

/-- A reader that looks for some names in a record comes to a value. -/
def Gives {α : Type} (entries : Member) (names : Spellings) (default : α)
    (read : Datum → Option α) (value : α) : Prop :=
  ∃ found, member? names entries = some found ∧ memberOr? default read found = some value

def isNamed (names : Spellings) (entry : Option String × Datum) : Bool :=
  entry.1.any names.contains

theorem member_of_none {names : Spellings} {entries : Member}
    (none : entries.filter (isNamed names) = []) : member? names entries = some .none := by
  change entries.filter (fun entry => entry.1.any names.contains) = [] at none
  rw [member?, none]

theorem member_of_one {names : Spellings} {entries : Member} {entry : Option String × Datum}
    (one : entries.filter (isNamed names) = [entry]) :
    member? names entries = some (some entry.2) := by
  change entries.filter (fun entry => entry.1.any names.contains) = [entry] at one
  rw [member?, one]

section Padding

variable {layout : List Spellings} {within : String → Datum → Datum → Prop}
  {entries others : Member}

theorem Padded.refl : ∀ entries : Member, Padded layout within entries entries
  | [] => .nil
  | _ :: entries => .same (refl entries)

theorem Padded.texts (padded : Padded layout within entries others)
    (texts : entries.all (·.1.isSome) = true) : others.all (·.1.isSome) = true := by
  induction padded with
  | nil => rfl
  | same _ ih =>
      obtain ⟨own, rest⟩ := Bool.and_eq_true_iff.1 texts
      exact Bool.and_eq_true_iff.2 ⟨own, ih rest⟩
  | inside _ _ ih => exact ih (Bool.and_eq_true_iff.1 texts).2
  | added _ _ ih => exact ih texts

/-- Among the members that go by names of the layout there are none that were put in. -/
theorem Padded.named (padded : Padded layout within entries others) {names : Spellings}
    (known : names ∈ layout) :
    List.Forall₂ (fun entry other => other = entry ∨ ∃ name, entry.1 = some name ∧
      other.1 = some name ∧ within name entry.2 other.2)
      (entries.filter (isNamed names)) (others.filter (isNamed names)) := by
  induction padded with
  | nil => exact .nil
  | @same entry _ _ _ ih =>
      cases own : isNamed names entry with
      | true =>
          rw [List.filter_cons_of_pos own, List.filter_cons_of_pos own]
          exact .cons (Or.inl rfl) ih
      | false =>
          rw [List.filter_cons_of_neg (by simp [own]), List.filter_cons_of_neg (by simp [own])]
          exact ih
  | @inside name plain padded _ _ pads _ ih =>
      have alike : isNamed names (some name, plain) = isNamed names (some name, padded) := rfl
      cases own : isNamed names (some name, padded) with
      | true =>
          rw [List.filter_cons_of_pos (alike.trans own), List.filter_cons_of_pos own]
          exact .cons (Or.inr ⟨name, rfl, rfl, pads⟩) ih
      | false =>
          rw [List.filter_cons_of_neg (by simp [alike, own]),
            List.filter_cons_of_neg (by simp [own])]
          exact ih
  | @added name _ _ _ unknown _ ih =>
      have foreign : name ∉ names := fun own => unknown (List.mem_flatten_of_mem known own)
      rw [List.filter_cons_of_neg (by simpa [isNamed] using foreign)]
      exact ih

/-- What is written under names of the layout is found in a padded record. -/
theorem Padded.gives {α : Type} {default value : α} {read : Datum → Option α} {names : Spellings}
    {member : Member} (padded : Padded layout within entries others) (known : names ∈ layout)
    (own : entries.filter (isNamed names) = member)
    (writes : Writes within default read value member) : Gives others names default read value := by
  have paired := padded.named known
  rw [own] at paired
  cases writes with
  | absent same =>
      have nothing := List.forall₂_nil_left_iff.1 paired
      exact ⟨none, member_of_none nothing, congrArg some same.symm⟩
  | @present name datum reads readsPadded =>
      obtain ⟨other, rest, pads, noMore, one⟩ := List.forall₂_cons_left_iff.1 paired
      obtain rfl := List.forall₂_nil_left_iff.1 noMore
      refine ⟨some other.2, member_of_one one, ?_⟩
      rcases pads with rfl | ⟨_, sameName, _, pads⟩
      · exact reads
      · obtain rfl := Option.some.inj sameName
        exact readsPadded other.2 pads

end Padding

section Writers

/-- A member is left out, or all of it goes by a name. -/
class BearsName (name : outParam String) (member : Member) : Prop where
  named : ∀ entry ∈ member, entry.1 = some name

@[simp]
theorem texts_of_name {name : String} {member : Member} [bears : BearsName name member] :
    member.all (·.1.isSome) = true :=
  List.all_eq_true.2 fun entry among => by rw [bears.named entry among, Option.isSome_some]

@[simp]
theorem filter_of_name {name : String} {member : Member} [bears : BearsName name member]
    (names : Spellings) :
    member.filter (isNamed names) = if name ∈ names then member else [] := by
  have tested : ∀ entry ∈ member, isNamed names entry = names.contains name := by
    intro entry among
    rw [isNamed, bears.named entry among, Option.any_some]
  split
  · rename_i known
    exact List.filter_eq_self.2 fun entry among => by simpa [tested entry among] using known
  · rename_i unknown
    exact List.filter_eq_nil_iff.2 fun entry among => by simpa [tested entry among] using unknown

variable (name : String)

theorem none_bears_name : BearsName name [] := ⟨List.forall_mem_nil _⟩

instance (value : Datum) : BearsName name (always name value) :=
  ⟨fun _ among => by rw [List.mem_singleton.1 among]⟩

instance (value : String) : BearsName name (textUnlessEmpty name value) := by
  unfold textUnlessEmpty
  split
  · exact none_bears_name name
  · infer_instance

instance {α : Type} (write : α → Datum) (value : Option α) :
    BearsName name (ifPresent name write value) := by
  cases value with
  | none => exact none_bears_name name
  | some value => exact inferInstanceAs (BearsName name (always name _))

instance {α : Type} (write : α → Datum) (items : List α) :
    BearsName name (listUnlessEmpty name write items) := by
  cases items with
  | nil => exact none_bears_name name
  | cons item rest => exact inferInstanceAs (BearsName name (always name _))

instance (renames : Renames) : BearsName "rename" renames.member := by
  unfold Renames.member
  split
  · exact none_bears_name "rename"
  · infer_instance

variable {name} {within : String → Datum → Datum → Prop}

theorem optional_flag (value : Bool) : optional? flag? (ofFlag value) = some (some value) := rfl

theorem optional_text (value : String) : optional? text? (ofText value) = some (some value) := rfl

theorem optional_int32 (value : Int32) :
    optional? int32? (ofInteger value.toInt) = some (some value) := by
  have inRange : (-2147483648 ≤ value.toInt && value.toInt ≤ 2147483647) = true :=
    Bool.and_eq_true_iff.2
      ⟨decide_eq_true value.minValue_le_toInt, decide_eq_true value.toInt_le⟩
  have reads : int32? (ofInteger value.toInt) = some value := by
    change (if (-2147483648 ≤ value.toInt && value.toInt ≤ 2147483647) = true
      then some (Int32.ofInt value.toInt) else none) = some value
    rw [if_pos inRange, Int32.ofInt_toInt]
  exact congrArg (Option.map some) reads

theorem map_list_some {α β : Type} {read : β → Option α} {items : List β} {values : List α}
    (reads : List.Forall₂ (fun item value => read item = some value) items values) :
    items.mapM read = some values := by
  induction reads with
  | nil => rfl
  | cons first _ ih =>
      rw [List.mapM_cons, first, ih]
      rfl

theorem list_of_padded {α : Type} {pads : Datum → Datum → Prop} {read : Datum → Option α}
    {write : α → Datum} {items : List α} {padded : Datum}
    (padsEach : PadsEach pads (.list (items.map write)) padded)
    (reads : ∀ item padded, pads (write item) padded → read padded = some item) :
    listOf? read padded = some items := by
  obtain ⟨plain, others, same, rfl, paired⟩ := padsEach
  obtain rfl := Datum.list.inj same
  apply map_list_some
  exact (List.forall₂_map_left_iff.1 paired).flip.imp fun other item => reads item other

theorem list_of_written {α : Type} {read : Datum → Option α} {write : α → Datum}
    (reads : ∀ item, read (write item) = some item) (items : List α) :
    listOf? read (.list (items.map write)) = some items := by
  apply map_list_some
  exact List.forall₂_map_left_iff.2 (List.forall₂_same.2 fun item _ => reads item)

theorem renames_of_written (renames : Renames) :
    Renames.ofDatum? (.record (renames.entries.map fun (key, value) =>
      (some key, ofText value))) = some renames := by
  have pairs : (renames.entries.map fun (key, value) => (some key, ofText value)).mapM
      Renames.pair? = some renames.entries := by
    apply map_list_some
    exact List.forall₂_map_left_iff.2 (List.forall₂_same.2 fun entry _ => rfl)
  rw [Renames.ofDatum?, pairs, Option.map_some, renames.of_list_entries]

theorem list_unless_empty_writes {α : Type} {read : Datum → Option α} {write : α → Datum}
    {items : List α} (reads : ∀ item, read (write item) = some item)
    (readsPadded : ∀ padded, within name (.list (items.map write)) padded →
      listOf? read padded = some items) :
    Writes within [] (listOf? read) items (listUnlessEmpty name write items) := by
  cases items with
  | nil => exact .absent rfl
  | cons item rest => exact .present (list_of_written reads _) readsPadded

variable (name) (untouched : ∀ plain padded, ¬within name plain padded)

include untouched

theorem always_writes {α : Type} {default value : α} {read : Datum → Option α} {datum : Datum}
    (reads : read datum = some value) : Writes within default read value (always name datum) :=
  .present reads fun padded pads => absurd pads (untouched datum padded)

theorem text_writes (value : String) : Writes within "" text? value (always name (ofText value)) :=
  always_writes name untouched rfl

theorem flag_writes (value : Bool) :
    Writes within false flag? value (always name (ofFlag value)) :=
  always_writes name untouched rfl

theorem text_unless_empty_writes (value : String) :
    Writes within "" text? value (textUnlessEmpty name value) := by
  unfold textUnlessEmpty
  split
  · rename_i empty
    exact .absent empty
  · exact text_writes name untouched value

theorem if_present_writes {α : Type} {read : Datum → Option α} {write : α → Datum}
    (reads : ∀ value, optional? read (write value) = some (some value)) (value : Option α) :
    Writes within none (optional? read) value (ifPresent name write value) := by
  cases value with
  | none => exact .absent rfl
  | some value => exact always_writes name untouched (reads value)

theorem texts_unless_empty_write (texts : List String) :
    Writes within [] (listOf? text?) texts (listUnlessEmpty name ofText texts) :=
  list_unless_empty_writes (fun _ => rfl) fun padded pads => absurd pads (untouched _ padded)

omit untouched in
theorem renames_write (untouched : ∀ plain padded, ¬within "rename" plain padded)
    (renames : Renames) : Writes within .empty Renames.ofDatum? renames renames.member := by
  unfold Renames.member
  split
  · rename_i empty
    exact .absent (Renames.eq_of_entries empty)
  · exact always_writes "rename" untouched (renames_of_written renames)

end Writers

end Datum

end GraphSchema
