import GraphSchema.Proofs.AnnotationLines
import Mathlib.Data.List.Basic

/-!
The language of binding lines. A line names an operation and a resolver, and behind them it may name
a return type, a directive, or both; white space may stand around every part. Each part may hold
the separators of the parts before it, since a line is cut from left to right. The main result says
that a line which spells a normal binding is read back as that binding, and that a binding is
normal whatever the lines are that it is read from.
-/

namespace GraphSchema

open Text

/-- A text that can be a part of a line where `separators` would end the part. -/
structure LinePart (separators : List Char) (text : String) : Prop where
  nonempty : text.toList ≠ []
  trimmed : Trimmed text.toList
  unbroken : ∀ separator ∈ separators, separator ∉ text.toList

instance (separators : List Char) (text : String) : Decidable (LinePart separators text) :=
  decidable_of_iff (text.toList ≠ [] ∧ Trimmed text.toList ∧
    separators.all (fun separator => !text.toList.contains separator) = true)
    ⟨fun ⟨nonempty, trimmed, unbroken⟩ => ⟨nonempty, trimmed, by simpa using unbroken⟩,
      fun ⟨nonempty, trimmed, unbroken⟩ => ⟨nonempty, trimmed, by simpa using unbroken⟩⟩

def DirectiveText (text : String) : Prop :=
  ∃ body, text.toList = '@' :: body ∧ ∀ c ∈ body.getLast?, isBlank c = false

theorem DirectiveText.nonempty {text : String} (directive : DirectiveText text) :
    text.toList ≠ [] := by
  obtain ⟨body, chars, _⟩ := directive
  rw [chars]
  exact List.cons_ne_nil _ _

theorem DirectiveText.trimmed {text : String} (directive : DirectiveText text) :
    Trimmed text.toList := by
  obtain ⟨body, chars, finish⟩ := directive
  have sign : isBlank '@' = false := by decide
  rw [chars]
  constructor
  · simpa using sign
  · cases body with
    | nil => simpa using sign
    | cons c rest => rwa [List.getLast?_cons_cons]

namespace ResolverBinding

structure Normal (binding : ResolverBinding) : Prop where
  operation : LinePart [':', '.'] binding.operation
  resolver : LinePart [':'] binding.resolver
  returnType : ∀ name ∈ binding.returnType, LinePart ['@'] name
  directive : ∀ text ∈ binding.directive, DirectiveText text

def hint (binding : ResolverBinding) : String :=
  match binding.returnType, binding.directive with
  | none, none => ""
  | some name, none => ": " ++ name
  | none, some directive => ": " ++ directive
  | some name, some directive => ": " ++ name ++ " " ++ directive

/-- The plain way to write a binding. -/
def line (binding : ResolverBinding) : String :=
  "gql: " ++ binding.operation ++ "." ++ binding.resolver ++ binding.hint

/-- The ways to write an operation and a resolver, with white space around them. -/
inductive SpellsTarget (operation resolver : String) : List Char → Prop
  | spaced {before after ahead behind : List Char} (beforeBlank : Blank before)
      (afterBlank : Blank after) (aheadBlank : Blank ahead) (behindBlank : Blank behind) :
      SpellsTarget operation resolver
        (before ++ (operation.toList ++ after ++ '.' :: (ahead ++ resolver.toList)) ++ behind)

/-- The ways to write a return type and a directive behind a target, with white space around. -/
inductive SpellsHint : Option String → Option String → List Char → Prop
  | nothing : SpellsHint none none []
  | returnType {before after : List Char} (name : String) (beforeBlank : Blank before)
      (afterBlank : Blank after) :
      SpellsHint (some name) none (':' :: (before ++ name.toList ++ after))
  | directive {before after : List Char} (text : String) (beforeBlank : Blank before)
      (afterBlank : Blank after) :
      SpellsHint none (some text) (':' :: (before ++ text.toList ++ after))
  | both {before between after : List Char} (name text : String) (beforeBlank : Blank before)
      (betweenBlank : Blank between) (afterBlank : Blank after) :
      SpellsHint (some name) (some text)
        (':' :: (before ++ (name.toList ++ between ++ text.toList) ++ after))

/-- The ways to write a binding, with white space around its parts. -/
inductive Spells (binding : ResolverBinding) (line : String) : Prop
  | spaced {margin gap target hint : List Char} (marginBlank : Blank margin) (gapBlank : Blank gap)
      (targeted : SpellsTarget binding.operation binding.resolver target)
      (hinted : SpellsHint binding.returnType binding.directive hint)
      (chars : line.toList = margin ++ 'g' :: 'q' :: 'l' :: (gap ++ ':' :: (target ++ hint)))

theorem blank_nil : Blank [] := by decide

theorem blank_space : Blank [' '] := by decide

theorem hint_spelled (binding : ResolverBinding) :
    SpellsHint binding.returnType binding.directive binding.hint.toList := by
  unfold hint
  cases binding.returnType with
  | none =>
      cases binding.directive with
      | none => exact .nothing
      | some text => simpa using SpellsHint.directive text blank_space blank_nil
  | some name =>
      cases binding.directive with
      | none => simpa using SpellsHint.returnType name blank_space blank_nil
      | some text => simpa using SpellsHint.both name text blank_space blank_space blank_nil

theorem line_spells (binding : ResolverBinding) : binding.Spells binding.line := by
  apply Spells.spaced blank_nil blank_nil
    (SpellsTarget.spaced blank_space blank_nil blank_nil blank_nil) binding.hint_spelled
  simp [line]

end ResolverBinding

namespace Annotations

variable {binding : ResolverBinding}

theorem binding_line_of_spelled {line : String} (spelled : binding.Spells line) :
    isBindingLine line = true := by
  cases spelled with
  | spaced marginBlank gapBlank _ _ chars =>
      exact is_binding_line_iff.2 ⟨_, _, _, marginBlank, gapBlank, chars⟩

theorem read_target_of_spelled {operation resolver : String} (first : LinePart [':', '.'] operation)
    (last : LinePart [':'] resolver) {target : List Char}
    (spelled : ResolverBinding.SpellsTarget operation resolver target) :
    ':' ∉ target ∧ readTarget (trim target) = (operation.toList, resolver.toList) := by
  cases spelled with
  | @spaced before after ahead behind beforeBlank afterBlank aheadBlank behindBlank =>
      have colon : isBlank ':' = false := by decide
      have ends : Trimmed (operation.toList ++ after ++ '.' :: (ahead ++ resolver.toList)) := by
        have around := first.trimmed.around first.nonempty last.trimmed last.nonempty
          (after ++ '.' :: ahead)
        simpa using around
      have point : '.' ∉ operation.toList ++ after := by
        have inFirst : '.' ∉ operation.toList := first.unbroken '.' (by simp)
        have inGap : '.' ∉ after := afterBlank.not_mem (by decide)
        simp [inFirst, inGap]
      have left := first.trimmed.trim_between ResolverBinding.blank_nil afterBlank
      have right := last.trimmed.trim_between aheadBlank ResolverBinding.blank_nil
      rw [List.nil_append] at left
      rw [List.append_nil] at right
      constructor
      · simp [beforeBlank.not_mem colon, afterBlank.not_mem colon, aheadBlank.not_mem colon,
          behindBlank.not_mem colon, first.unbroken ':' List.mem_cons_self,
          last.unbroken ':' List.mem_cons_self]
      · rw [ends.trim_between beforeBlank behindBlank, readTarget, splitFirst_append point]
        simp only [left, right]

theorem read_hint_of_name {name : String} (part : LinePart ['@'] name) :
    readHint name.toList = (name.toList, none) := by
  have whole := splitFirst_eq_none_iff.2 (part.unbroken '@' List.mem_cons_self)
  rw [readHint, whole]

theorem read_hint_of_directive {text : String} (directive : DirectiveText text) {ahead : List Char}
    (unbroken : '@' ∉ ahead) :
    readHint (ahead ++ text.toList) = (trim ahead, some text) := by
  obtain ⟨body, chars, _⟩ := directive
  rw [readHint, chars, splitFirst_append unbroken]
  simp only [← chars, String.ofList_toList]

theorem read_hint_of_spelled (normal : binding.Normal) {hint : List Char}
    (spelled : ResolverBinding.SpellsHint binding.returnType binding.directive hint)
    {target : List Char} (unbroken : ':' ∉ target) :
    ∃ text, (splitFirst ':' (target ++ hint)).getD (target ++ hint, []) = (target, text) ∧
      readHint (trim text) =
        ((binding.returnType.map String.toList).getD [], binding.directive) := by
  have names := normal.returnType
  have directives := normal.directive
  revert spelled
  generalize binding.returnType = returnType at names
  generalize binding.directive = directive at directives
  intro spelled
  cases spelled with
  | nothing =>
      refine ⟨[], ?_, rfl⟩
      rw [List.append_nil, splitFirst_eq_none_iff.2 unbroken]
      rfl
  | returnType name beforeBlank afterBlank =>
      have part := names name rfl
      refine ⟨_, by rw [splitFirst_append unbroken, Option.getD_some], ?_⟩
      rw [part.trimmed.trim_between beforeBlank afterBlank, read_hint_of_name part]
      rfl
  | directive text beforeBlank afterBlank =>
      have written := directives text rfl
      refine ⟨_, by rw [splitFirst_append unbroken, Option.getD_some], ?_⟩
      rw [written.trimmed.trim_between beforeBlank afterBlank]
      exact read_hint_of_directive written List.not_mem_nil
  | @both before between after name text beforeBlank betweenBlank afterBlank =>
      have part := names name rfl
      have written := directives text rfl
      have whole := part.trimmed.around part.nonempty written.trimmed written.nonempty between
      have sign : '@' ∉ name.toList ++ between := by
        intro member
        rcases List.mem_append.1 member with inName | inGap
        · exact part.unbroken '@' List.mem_cons_self inName
        · exact betweenBlank.not_mem (by decide) inGap
      have left := part.trimmed.trim_between ResolverBinding.blank_nil betweenBlank
      rw [List.nil_append] at left
      refine ⟨_, by rw [splitFirst_append unbroken, Option.getD_some], ?_⟩
      rw [whole.trim_between beforeBlank afterBlank, read_hint_of_directive written sign, left]
      rfl

theorem binding_of_spelled (normal : binding.Normal) {line : String}
    (spelled : binding.Spells line) (defaultResolver : String) :
    bindingOf? defaultResolver line = some binding := by
  cases spelled with
  | @spaced margin gap target hint marginBlank gapBlank targeted hinted chars =>
      have colon : isBlank ':' = false := by decide
      have head : ':' ∉ margin ++ 'g' :: 'q' :: 'l' :: gap := by
        simp [marginBlank.not_mem colon, gapBlank.not_mem colon]
      have opened : line.toList = (margin ++ 'g' :: 'q' :: 'l' :: gap) ++ ':' ::
          (target ++ hint) := by
        rw [chars, List.append_assoc]
        rfl
      obtain ⟨unbroken, targetRead⟩ :=
        read_target_of_spelled normal.operation normal.resolver targeted
      obtain ⟨text, cut, hintRead⟩ := read_hint_of_spelled normal hinted unbroken
      have returnType : (if (binding.returnType.map String.toList).getD [] = [] then none
          else some (String.ofList ((binding.returnType.map String.toList).getD []))) =
            binding.returnType := by
        have parts := normal.returnType
        cases named : binding.returnType with
        | none => rfl
        | some name => simp [(parts name named).nonempty]
      rw [bindingOf?, opened, splitFirst_append head]
      change readBinding? defaultResolver (target ++ hint) = some binding
      rw [readBinding?, cut]
      simp only [targetRead, hintRead, if_neg normal.operation.nonempty,
        if_neg normal.resolver.nonempty, String.ofList_toList, returnType]

theorem read_target_parts {target operation resolver : List Char} (unbroken : ':' ∉ target)
    (trimmed : Trimmed target) (read : readTarget target = (operation, resolver)) :
    Trimmed operation ∧ Trimmed resolver ∧ '.' ∉ operation ∧ ':' ∉ operation ∧ ':' ∉ resolver := by
  unfold readTarget at read
  split at read
  · rename_i front back cut
    obtain ⟨rfl, point⟩ := splitFirst_eq_some_iff.1 cut
    cases read
    have frontUnbroken : ':' ∉ front := by
      intro member
      exact unbroken (List.mem_append_left _ member)
    have backUnbroken : ':' ∉ back := by
      intro member
      exact unbroken (List.mem_append_right _ (List.mem_cons_of_mem _ member))
    exact ⟨trimmed_trim front, trimmed_trim back, fun member => point (mem_of_mem_trim member),
      fun member => frontUnbroken (mem_of_mem_trim member),
      fun member => backUnbroken (mem_of_mem_trim member)⟩
  · rename_i uncut
    cases read
    exact ⟨trimmed, trimmed_nil, splitFirst_eq_none_iff.1 uncut, unbroken, List.not_mem_nil⟩

theorem read_hint_parts {hint returnType : List Char} {directive : Option String}
    (trimmed : Trimmed hint) (read : readHint hint = (returnType, directive)) :
    Trimmed returnType ∧ '@' ∉ returnType ∧ ∀ text ∈ directive, DirectiveText text := by
  unfold readHint at read
  split at read
  · rename_i front back cut
    obtain ⟨rfl, sign⟩ := splitFirst_eq_some_iff.1 cut
    cases read
    refine ⟨trimmed_trim front, fun member => sign (mem_of_mem_trim member), ?_⟩
    intro text written
    cases written
    refine ⟨back, String.toList_ofList, ?_⟩
    have whole : Trimmed ((front ++ ['@']) ++ back) := by simpa using trimmed
    exact whole.finish_of_append
  · rename_i uncut
    cases read
    refine ⟨trimmed, splitFirst_eq_none_iff.1 uncut, ?_⟩
    intro text written
    cases written

theorem line_part_of_chars {separators text : List Char} (nonempty : text ≠ [])
    (trimmed : Trimmed text) (unbroken : ∀ separator ∈ separators, separator ∉ text) :
    LinePart separators (String.ofList text) := by
  constructor
  · rwa [String.toList_ofList]
  · rwa [String.toList_ofList]
  · rwa [String.toList_ofList]

/-- Whatever is read is normal if the resolver for lines that name none is. -/
theorem read_binding_normal {defaultResolver : String} (default : LinePart [':'] defaultResolver)
    {text : List Char} (read : readBinding? defaultResolver text = some binding) :
    binding.Normal := by
  obtain ⟨target, hint, cut, unbroken⟩ : ∃ target hint,
      (splitFirst ':' text).getD (text, []) = (target, hint) ∧ ':' ∉ target := by
    cases found : splitFirst ':' text with
    | none => exact ⟨text, [], rfl, splitFirst_eq_none_iff.1 found⟩
    | some parts => exact ⟨parts.1, parts.2, rfl, (splitFirst_eq_some_iff.1 found).2⟩
  obtain ⟨operation, resolver, targetRead⟩ : ∃ operation resolver,
      readTarget (trim target) = (operation, resolver) := ⟨_, _, rfl⟩
  obtain ⟨returnType, directive, hintRead⟩ : ∃ returnType directive,
      readHint (trim hint) = (returnType, directive) := ⟨_, _, rfl⟩
  have trimmedUnbroken : ':' ∉ trim target := fun member => unbroken (mem_of_mem_trim member)
  obtain ⟨operationTrimmed, resolverTrimmed, point, operationUnbroken, resolverUnbroken⟩ :=
    read_target_parts trimmedUnbroken (trimmed_trim target) targetRead
  obtain ⟨returnTrimmed, sign, directives⟩ := read_hint_parts (trimmed_trim hint) hintRead
  simp only [readBinding?, cut, targetRead, hintRead] at read
  split at read
  · cases read
  · rename_i nonempty
    cases read
    constructor
    · exact line_part_of_chars nonempty operationTrimmed (by simp [point, operationUnbroken])
    · dsimp only
      split
      · exact default
      · rename_i named
        exact line_part_of_chars named resolverTrimmed (by simpa using resolverUnbroken)
    · intro name written
      dsimp only at written
      split at written
      · cases written
      · rename_i named
        cases written
        exact line_part_of_chars named returnTrimmed (by simpa using sign)
    · exact directives

/-- Every plain line spells its binding. Where a line that spells a normal binding comes before all
other binding lines, that binding is read, and nothing but normal bindings is read where the
default resolver could itself be written. -/
theorem normal_bindings_round_trip :
    (∀ binding : ResolverBinding, binding.Spells binding.line) ∧
    (∀ (binding : ResolverBinding) (defaultResolver line : String) (before after : List String),
      binding.Normal → binding.Spells line →
      (∀ earlier ∈ before, isBindingLine earlier = false) →
      (ofComments defaultResolver (before ++ line :: after)).binding = some binding) ∧
    ∀ (binding : ResolverBinding) (defaultResolver : String) (comments : List String),
      LinePart [':'] defaultResolver →
      (ofComments defaultResolver comments).binding = some binding → binding.Normal := by
  refine ⟨ResolverBinding.line_spells, ?_, ?_⟩
  · intro binding defaultResolver line before after normal spelled others
    have first : (before ++ line :: after).find? isBindingLine = some line := by
      apply List.find?_eq_some_iff_append.2
      refine ⟨binding_line_of_spelled spelled, before, after, rfl, ?_⟩
      intro earlier member
      rw [others earlier member]
      rfl
    change ((before ++ line :: after).find? isBindingLine).bind _ = some binding
    rw [first]
    exact binding_of_spelled normal spelled defaultResolver
  · intro binding defaultResolver comments default read
    obtain ⟨line, _, opened⟩ := Option.bind_eq_some_iff.1 read
    obtain ⟨⟨_, text⟩, _, readText⟩ := Option.bind_eq_some_iff.1 opened
    exact read_binding_normal default readText

/-- A binding whose later parts hold the separators of the earlier ones. -/
def createAuthor : ResolverBinding where
  operation := "Mutation"
  resolver := "author.create"
  returnType := some "Writer: new"
  directive := some "@auth(role: ADMIN) @log"

theorem created_author_comes_back :
    createAuthor.Normal ∧
      createAuthor.line = "gql: Mutation.author.create: Writer: new @auth(role: ADMIN) @log" ∧
      (ofComments "CreateAuthor" ["Writes an author",
        "\tgql :Mutation . author.create :  Writer: new@auth(role: ADMIN) @log ",
        "gql: Query.author"]).binding = some createAuthor ∧
      ∃ binding, (ofComments "ListAuthors" ["gql: Query"]).binding = some binding ∧
        binding.resolver = "ListAuthors" ∧ binding.Normal := by
  obtain ⟨_, comesBack, normalRead⟩ := normal_bindings_round_trip
  have normal : createAuthor.Normal := by
    constructor
    · decide +kernel
    · decide +kernel
    · intro name named
      cases named
      decide +kernel
    · intro text written
      cases written
      have body : Trimmed "auth(role: ADMIN) @log".toList := by decide +kernel
      exact ⟨_, by decide, body.finish⟩
  have tab : Blank ['\t'] := by decide
  have space := ResolverBinding.blank_space
  have spaces : Blank [' ', ' '] := by decide
  have spelled : createAuthor.Spells
      "\tgql :Mutation . author.create :  Writer: new@auth(role: ADMIN) @log " :=
    .spaced tab space (.spaced ResolverBinding.blank_nil space space space)
      (.both _ _ spaces ResolverBinding.blank_nil space) rfl
  refine ⟨normal, by decide, ?_, ?_⟩
  · refine comesBack createAuthor "CreateAuthor" _ ["Writes an author"] ["gql: Query.author"] normal
      spelled ?_
    decide
  · have read : (ofComments "ListAuthors" ["gql: Query"]).binding =
        some { operation := "Query", resolver := "ListAuthors", returnType := none,
               directive := none } := by
      decide
    have default : LinePart [':'] "ListAuthors" := by decide +kernel
    exact ⟨_, read, rfl, normalRead _ _ _ default read⟩

end Annotations

end GraphSchema
