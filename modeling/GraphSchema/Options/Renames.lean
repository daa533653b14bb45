/-!
Exact-name replacements. Each name has at most one entry; an empty replacement stands for none.
-/

namespace GraphSchema

/-- Replacements by name, in the order in which the names were last written. -/
structure Renames where
  entries : List (String × String)
  distinct : (entries.map Prod.fst).Nodup

namespace Renames

def empty : Renames := ⟨[], List.nodup_nil⟩

def find? (renames : Renames) (name : String) : Option String := renames.entries.lookup name

/-- The replacement of a name, unless it is empty. -/
def replacement? (renames : Renames) (name : String) : Option String :=
  (renames.find? name).filter (· ≠ "")

private theorem nodup_filter {entries : List (String × String)}
    (distinct : (entries.map Prod.fst).Nodup) (keep : String × String → Bool) :
    ((entries.filter keep).map Prod.fst).Nodup :=
  (List.filter_sublist.map Prod.fst).nodup distinct

/-- Writes a replacement; an earlier one for the name is forgotten. -/
def insert (renames : Renames) (name replacement : String) : Renames where
  entries := renames.entries.filter (·.1 ≠ name) ++ [(name, replacement)]
  distinct := by
    simp only [List.map_append, List.map_cons, List.map_nil]
    refine List.nodup_append.2 ⟨nodup_filter renames.distinct _, by simp, ?_⟩
    simp only [List.mem_map, List.mem_filter, List.mem_singleton]
    rintro key ⟨entry, ⟨_, other⟩, rfl⟩ _ rfl
    simpa using other

def ofList (entries : List (String × String)) : Renames :=
  entries.foldl (fun renames entry => renames.insert entry.1 entry.2) empty

theorem eq_of_entries {left right : Renames} (same : left.entries = right.entries) :
    left = right := by
  cases left
  cases right
  cases same
  rfl

theorem insert_entries_of_fresh {renames : Renames} {name : String}
    (fresh : name ∉ renames.entries.map Prod.fst) (replacement : String) :
    (renames.insert name replacement).entries = renames.entries ++ [(name, replacement)] := by
  have kept : renames.entries.filter (·.1 ≠ name) = renames.entries := by
    refine List.filter_eq_self.2 fun entry among => decide_eq_true ?_
    rintro rfl
    exact fresh (List.mem_map_of_mem among)
  exact congrArg (· ++ [(name, replacement)]) kept

theorem fold_insert_entries {entries : List (String × String)} {renames : Renames}
    (distinct : ((renames.entries ++ entries).map Prod.fst).Nodup) :
    (entries.foldl (fun renames entry => renames.insert entry.1 entry.2) renames).entries =
      renames.entries ++ entries := by
  induction entries generalizing renames with
  | nil => exact (List.append_nil _).symm
  | cons entry rest ih =>
      have fresh : entry.1 ∉ renames.entries.map Prod.fst := by
        rw [List.map_append, List.nodup_append] at distinct
        intro among
        exact distinct.2.2 _ among _ List.mem_cons_self rfl
      have added := insert_entries_of_fresh fresh entry.2
      have split : renames.entries ++ entry :: rest =
          (renames.insert entry.1 entry.2).entries ++ rest := by
        rw [added, List.append_assoc]
        rfl
      rw [split] at distinct ⊢
      exact ih distinct

theorem of_list_entries (renames : Renames) : ofList renames.entries = renames := by
  have distinct : ((empty.entries ++ renames.entries).map Prod.fst).Nodup := renames.distinct
  exact eq_of_entries (fold_insert_entries distinct)

/-- The entries of `renames`, and those of `fallback` for the names that it lacks. -/
def orElse (renames fallback : Renames) : Renames where
  entries := renames.entries ++
    fallback.entries.filter fun entry => (renames.find? entry.1).isNone
  distinct := by
    rw [List.map_append]
    refine List.nodup_append.2 ⟨renames.distinct, nodup_filter fallback.distinct _, ?_⟩
    simp only [List.mem_map, List.mem_filter]
    rintro key ⟨own, member, rfl⟩ other ⟨entry, ⟨_, missing⟩, rfl⟩ same
    simp only [find?, Option.isNone_iff_eq_none, List.lookup_eq_none_iff] at missing
    have differs := missing own member
    simp [same] at differs

theorem find_or_else (renames fallback : Renames) (name : String) :
    (renames.orElse fallback).find? name = (renames.find? name).or (fallback.find? name) := by
  have kept (entries : List (String × String)) :
      (renames.find? name).or ((entries.filter fun entry =>
        (renames.find? entry.1).isNone).lookup name) =
          (renames.find? name).or (entries.lookup name) := by
    induction entries with
    | nil => rfl
    | cons entry rest ih =>
        obtain ⟨key, replacement⟩ := entry
        rw [List.filter_cons, List.lookup_cons]
        by_cases same : name = key
        · subst same
          cases renames.find? name <;> simp
        · have other : (name == key) = false := beq_eq_false_iff_ne.2 same
          rw [other]
          split
          · rw [List.lookup_cons, other, ih]
          · exact ih
  rw [find?, orElse, List.lookup_append]
  exact kept fallback.entries

end Renames

end GraphSchema
