import InterfaceWitness.Proofs.Surface.Lists
import InterfaceWitness.Proofs.Surface.Path

/-!
Printed types read back, where one follows another in a list or ends the text:
paths, perhaps with arguments for their last segment, and tuples.
-/

namespace InterfaceWitness.Surface

open Reader Token
open Code (angled commaSeparated commaTerminated parenthesized)

variable {inner : Nested} {tokens later : List Token} {leftOver : Option Delimiter}
  {name : String} {names : List String} {rooted : Bool} {source : SourceType}
  {items : List (List Token × SourceType)}

theorem EndsItem.endsSegment (ends : EndsItem later) : EndsSegment later := by
  cases ends <;> exact ⟨rfl, rfl⟩

theorem EndsItem.startsSegment (ends : EndsItem later) : startsSegment later = false := by
  cases ends <;> rfl

theorem binder?_run {stream : Stream} (unbound : startsWord "for" stream.tokens = false) :
    binder? inner stream = .ok (none, stream) := by
  rw [binder?, look_bind, unbound]
  rfl

/-- Where a type is read as a path. -/
structure BeginsPath (tokens : List Token) : Prop where
  path : startsPathType tokens = true
  builtin : startsBuiltin tokens = false

theorem BeginsPath.other (begins : BeginsPath tokens) :
    startsWord "for" tokens = false ∧ startsOpening .parenthesis tokens = false ∧
      startsFunctionType tokens = false := by
  have path := begins.path
  cases tokens with
  | nil => exact ⟨rfl, rfl, rfl⟩
  | cons first more =>
      cases first with
      | identifier name =>
          have named := startsPathType_identifier.mp path
          have apart : ∀ word ∈ ["for", "fn", "unsafe", "extern"],
              ¬ (word ∉ keywords ∨ word ∈ rootWords) := by decide
          have different := ne_of_apart apart named
          simp only [List.mem_cons, List.not_mem_nil, or_false, forall_eq_or_imp, forall_eq]
            at different
          simp [startsWord, startsOpening, startsFunctionType, startsWordOf, different]
      | opening delimiter =>
          simp [startsPathType, startsModuleWord, startsName, startsWordOf, startsPathSeparator,
            startsOperator] at path
      | _ => exact ⟨rfl, rfl, rfl⟩

theorem sourceType_path {found : Path} (begins : BeginsPath tokens)
    (read : path inner false ⟨tokens, leftOver⟩ = .ok (found, ⟨later, leftOver⟩))
    (ends : EndsItem later) :
    sourceType inner true ⟨tokens, leftOver⟩
      = .ok (.path found.rooted found.segments, ⟨later, leftOver⟩) := by
  obtain ⟨unbound, noGroup, noFunction⟩ := begins.other
  have isPath : (startsModuleWord tokens || startsPathSeparator tokens) = true := begins.path
  rw [sourceType, bind_run, binder?_run unbound]
  simp only [look_bind, Option.isSome_none, Bool.false_and, Bool.false_eq_true, if_false, noGroup,
    noFunction, begins.builtin, isPath, if_true]
  rw [pathType, bind_run, read]
  cases ends <;> rfl

/-- What a printed type begins with. -/
def BeginsType (tokens : List Token) : Prop :=
  ∃ first more, tokens = first :: more ∧
    (first = .opening .parenthesis ∨ first = .punctuation ':' true ∨
      ∃ name, first = .identifier name ∧ IsSegmentName name)

theorem BeginsType.other (begins : BeginsType tokens) (later : List Token) :
    startsLifetime (tokens ++ later) = false ∧ startsConstant (tokens ++ later) = false ∧
      startsOperator ['?'] (tokens ++ later) = false ∧ ended (tokens ++ later) = false := by
  obtain ⟨first, more, rfl, rfl | rfl | ⟨name, rfl, named⟩⟩ := begins
  · exact ⟨rfl, rfl, rfl, rfl⟩
  · exact ⟨rfl, rfl, rfl, rfl⟩
  · have apart : ∀ word ∈ ["true", "false"], ¬ IsSegmentName word := by decide
    have different := ne_of_apart apart named
    simp only [List.mem_cons, List.not_mem_nil, or_false, forall_eq_or_imp, forall_eq] at different
    simp [startsLifetime, startsConstant, startsLiteral, startsOpening, startsOperator, ended,
      different]

theorem BeginsType.item (begins : BeginsType tokens) :
    ∃ first more, tokens = first :: more ∧ (∀ delimiter, first ≠ .closing delimiter) ∧
      ∀ joint, first ≠ .punctuation '>' joint := by
  obtain ⟨first, more, rfl, rfl | rfl | ⟨name, rfl, -⟩⟩ := begins <;>
    exact ⟨_, _, rfl, by simp, by simp⟩

/-- Tokens that read as a type wherever a list of types goes on or ends. -/
structure ReadsType (inner : Nested) (tokens : List Token) (source : SourceType) : Prop where
  begins : BeginsType tokens
  reads : ∀ later leftOver, EndsItem later →
    inner.type true ⟨tokens ++ later, leftOver⟩ = .ok (source, ⟨later, leftOver⟩)

theorem ReadsType.item (reads : ReadsType inner tokens source) :
    ReadsItem (inner.type true) tokens source :=
  ⟨reads.begins.item, reads.reads⟩

theorem ReadsType.argument (reads : ReadsType inner tokens source) :
    ReadsItem (argument inner) tokens (.type source) := by
  refine ⟨reads.begins.item, fun later leftOver ends => ?_⟩
  obtain ⟨noLifetime, noConstant, -⟩ := reads.begins.other later
  simp only [Surface.argument, look_bind, noLifetime, noConstant, Bool.false_and,
    Bool.false_eq_true, if_false]
  rw [bind_run, reads.reads later leftOver ends]
  cases source with
  | path rooted segments =>
      -- A single name might have been that of an associated item.
      rcases rooted with - | -
      · rcases segments with - | ⟨segment, - | ⟨second, others⟩⟩
        · rfl
        · cases ends <;> rfl
        · rfl
      · rfl
  | _ => rfl

/-- The arguments that printed types read as. -/
def typeArguments (items : List (List Token × SourceType)) : Separated Argument :=
  ⟨items.map fun entry => .type entry.2, items.isEmpty⟩

theorem angleArguments_run (reads : ∀ entry ∈ items, ReadsType inner entry.1 entry.2) :
    angleArguments inner ⟨angled (commaSeparated (items.map Prod.fst)) ++ later, leftOver⟩
      = .ok (typeArguments items, ⟨later, leftOver⟩) := by
  have arguments : ∀ entry ∈ items.map fun entry => (entry.1, Argument.type entry.2),
      ReadsItem (argument inner) entry.1 entry.2 := by
    intro entry member
    obtain ⟨written, isWritten, rfl⟩ := List.mem_map.mp member
    exact (reads written isWritten).argument
  have read := read_commaSeparated [] later leftOver arguments
  simp only [List.map_map, Function.comp_def, List.nil_append, List.isEmpty_map] at read
  have opened : angled (commaSeparated (items.map Prod.fst)) ++ later
      = .punctuation '<' false
        :: (commaSeparated (items.map Prod.fst) ++ .punctuation '>' false :: later) := by
    simp [angled, Token.operator]
  simp only [angleArguments, bind_eq_ok, pure_eq_ok, operator_eq_ok, opened]
  exact ⟨_, _, ⟨rfl, rfl, rfl⟩, _, _, read, _, _, ⟨rfl, rfl, rfl⟩, rfl, rfl⟩

theorem spells_applied (named : IsTypeName name)
    (reads : ∀ entry ∈ items, ReadsType inner entry.1 entry.2) :
    Spells inner (.identifier name :: angled (commaSeparated (items.map Prod.fst)))
      (.applied name false (typeArguments items).items (typeArguments items).trailing) :=
  ⟨⟨name, _, rfl⟩, fun _ _ _ => segment_applied named rfl (angleArguments_run reads)⟩

/-- The tokens of a path whose last segment has arguments. -/
def appliedTokens (rooted : Bool) (names : List String) (last : String)
    (arguments : List (List Token)) : List Token :=
  nameTokens rooted (names ++ [last]) ++ angled (commaSeparated arguments)

theorem path_appliedTokens {last : String} (named : ∀ name ∈ names, IsSegmentName name)
    (isType : IsTypeName last) (reads : ∀ entry ∈ items, ReadsType inner entry.1 entry.2)
    (ends : EndsItem later) :
    path inner false ⟨appliedTokens rooted names last (items.map Prod.fst) ++ later, leftOver⟩
      = .ok (⟨rooted, names.map .plain
          ++ [.applied last false (typeArguments items).items (typeArguments items).trailing]⟩,
        ⟨later, leftOver⟩) := by
  have applied := spells_applied isType reads
  cases names with
  | nil =>
      have read := path_run rooted leftOver (_, _) [] applied (by simp) ends.endsSegment
        ends.startsSegment
      simpa [appliedTokens, nameTokens, separatedNames, separatedSegments] using read
  | cons first more =>
      have spelled : ∀ entry ∈ (more.map fun name => ([Token.identifier name], Segment.plain name))
            ++ [(.identifier last :: angled (commaSeparated (items.map Prod.fst)), .applied last
              false (typeArguments items).items (typeArguments items).trailing)],
          Spells inner entry.1 entry.2 := by
        intro entry member
        rcases List.mem_append.mp member with isPlain | isLast
        · obtain ⟨name, isName, rfl⟩ := List.mem_map.mp isPlain
          exact spells_plain (named name (List.mem_cons_of_mem _ isName))
        · obtain rfl := List.mem_singleton.mp isLast
          exact applied
      have read := path_run rooted leftOver ([.identifier first], .plain first) _
        (spells_plain (named first (List.mem_cons_self ..))) spelled
        ends.endsSegment ends.startsSegment
      simpa [appliedTokens, nameTokens, separatedNames, separatedSegments, List.flatMap_map,
        Function.comp_def] using read

theorem parenthesizedContent_items (reads : ∀ entry ∈ items, ReadsType inner entry.1 entry.2) :
    parenthesizedContent inner
        ⟨commaTerminated (items.map Prod.fst) ++ .closing .parenthesis :: later, leftOver⟩
      = .ok (.complete (.tuple (items.map Prod.snd) (!items.isEmpty)),
        ⟨.closing .parenthesis :: later, leftOver⟩) := by
  cases items with
  | nil => rfl
  | cons entry rest =>
      have isFirst := reads entry (List.mem_cons_self ..)
      have others := read_commaTerminated .parenthesis [] later leftOver fun other member =>
        (reads other (List.mem_cons_of_mem _ member)).item
      rw [List.map_cons, commaTerminated_cons]
      generalize commaTerminated (rest.map Prod.fst) ++ .closing .parenthesis :: later = behind
        at others ⊢
      obtain ⟨noLifetime, -, noMark, goesOn⟩ := isFirst.begins.other (comma :: behind)
      have starts : startsOperator [','] (comma :: behind) = true := rfl
      have isComma : operator [','] ⟨comma :: behind, leftOver⟩
          = .ok ([comma], ⟨behind, leftOver⟩) := rfl
      rw [parenthesizedContent, atEnd_bind]
      simp only [look_bind, noLifetime, noMark, goesOn, Bool.false_eq_true, if_false]
      rw [bind_run, isFirst.reads _ leftOver (.comma _)]
      simp only [look_bind, starts, if_true]
      rw [bind_run, isComma]
      simp only
      rw [bind_run, Separated.read, Separated.empty, others]
      rfl

theorem sourceType_tuple (reads : ∀ entry ∈ items, ReadsType inner entry.1 entry.2) :
    sourceType inner true
        ⟨parenthesized (commaTerminated (items.map Prod.fst)) ++ later, leftOver⟩
      = .ok (.tuple (items.map Prod.snd) (!items.isEmpty), ⟨later, leftOver⟩) := by
  have opened : parenthesized (commaTerminated (items.map Prod.fst)) ++ later
      = .opening .parenthesis :: (commaTerminated (items.map Prod.fst)
        ++ .closing .parenthesis :: later) := by
    simp [parenthesized, Token.delimited]
  have content : within .parenthesis (parenthesizedContent inner)
        ⟨parenthesized (commaTerminated (items.map Prod.fst)) ++ later, leftOver⟩
      = .ok (.complete (.tuple (items.map Prod.snd) (!items.isEmpty)), ⟨later, leftOver⟩) := by
    simp only [within, look_bind, opened, startsOpening, decide_true, if_true, drop_bind]
    rw [bind_run]
    simp only [Stream.after, List.drop_succ_cons, List.drop_zero, parenthesizedContent_items reads]
    rfl
  have begun : startsWord "for" (parenthesized (commaTerminated (items.map Prod.fst)) ++ later)
        = false ∧ startsOpening .parenthesis
          (parenthesized (commaTerminated (items.map Prod.fst)) ++ later) = true := by
    rw [opened]
    exact ⟨rfl, rfl⟩
  rw [sourceType, bind_run, binder?_run begun.1]
  simp only [look_bind, Option.isSome_none, Bool.false_and, Bool.false_eq_true, if_false, begun.2,
    if_true]
  rw [parenthesizedType, bind_run, content]
  rfl

/-! ## One level further out -/

theorem BeginsType.of_legalNames (legal : LegalNames rooted names) (more : List Token) :
    BeginsType (nameTokens rooted names ++ more) := by
  obtain ⟨first, others, rfl⟩ := List.exists_cons_of_ne_nil legal.nonempty
  cases rooted with
  | true => exact ⟨_, _, rfl, .inr (.inl rfl)⟩
  | false => exact ⟨_, _, rfl, .inr (.inr ⟨first, rfl, legal.named first (List.mem_cons_self ..)⟩)⟩

theorem BeginsPath.of_legalNames (legal : LegalNames rooted names)
    (unmarked : startsOperator ['#'] later = false) :
    BeginsPath (nameTokens rooted names ++ later) := by
  obtain ⟨first, more, rfl⟩ := List.exists_cons_of_ne_nil legal.nonempty
  cases rooted with
  | true => exact ⟨rfl, rfl⟩
  | false =>
      have begun : nameTokens false (first :: more) ++ later
          = .identifier first :: (separatedNames more ++ later) := by simp [nameTokens]
      rw [begun]
      refine ⟨startsPathType_identifier.mpr ?_, ?_⟩
      · have named := legal.named first (List.mem_cons_self ..)
        have other : first ≠ "try" := by simpa using legal.start rfl
        grind [IsSegmentName, IsTypeName, segmentWords, rootWords]
      · have unmarked : startsOperator ['#'] (separatedNames more ++ later) = false := by
          cases more with
          | nil => exact unmarked
          | cons next others => rfl
        simp [startsBuiltin, behind, unmarked]

theorem EndsItem.unmarked (ends : EndsItem later) : startsOperator ['#'] later = false := by
  cases ends <;> rfl

theorem readsType_names (legal : LegalNames rooted names) :
    ReadsType (.outward inner) (nameTokens rooted names) (.path rooted (names.map .plain)) where
  begins := by simpa using BeginsType.of_legalNames legal []
  reads later leftOver ends :=
    sourceType_path (.of_legalNames legal ends.unmarked)
      (path_nameTokens legal.nonempty legal.named ends.endsSegment ends.startsSegment) ends

theorem readsType_applied {last : String} (legal : LegalNames rooted (names ++ [last]))
    (isType : IsTypeName last) (reads : ∀ entry ∈ items, ReadsType inner entry.1 entry.2) :
    ReadsType (.outward inner) (appliedTokens rooted names last (items.map Prod.fst))
      (.path rooted (names.map .plain
        ++ [.applied last false (typeArguments items).items (typeArguments items).trailing])) where
  begins := .of_legalNames legal _
  reads later leftOver ends := by
    have named : ∀ name ∈ names, IsSegmentName name := fun name member =>
      legal.named name (List.mem_append_left _ member)
    refine sourceType_path ?_ (path_appliedTokens named isType reads ends) ends
    rw [appliedTokens, List.append_assoc]
    exact .of_legalNames legal rfl

theorem readsType_tuple (reads : ∀ entry ∈ items, ReadsType inner entry.1 entry.2) :
    ReadsType (.outward inner) (parenthesized (commaTerminated (items.map Prod.fst)))
      (.tuple (items.map Prod.snd) (!items.isEmpty)) where
  begins := ⟨_, _, rfl, .inl rfl⟩
  reads _ _ _ := sourceType_tuple reads

end InterfaceWitness.Surface
