import InterfaceWitness.Arguments
import InterfaceWitness.Proofs.Surface.Lists
import InterfaceWitness.Proofs.Token.Scanning
import Mathlib.Data.List.Forall2
import Mathlib.Data.List.Induction

/-!
Attribute arguments are read back in full: each list of them, however they
follow each other, gives what its options, its lists of associated types and its
runtime paths say.
-/

namespace InterfaceWitness

open Surface Surface.Reader Token

/-- The words that turn an option on. -/
def GenerationOption.spellings : GenerationOption → List String
  | .utilities => ["utilities"]
  | .conformance => ["conformanceInit", "conformance_init"]

theorem GenerationOption.ofWord?_eq_some {word : String} {option : GenerationOption} :
    GenerationOption.ofWord? word = some option ↔ word ∈ option.spellings := by
  fun_cases GenerationOption.ofWord? word <;> cases option <;> simp_all [spellings]

namespace GenerationOptions

/-- A word has neither white space around it nor points in front. -/
theorem trimWord_of_isWord {word : String} (isWord : isWord word = true) :
    trimWord word = word := by
  have spelled := isWord_eq_true.mp isWord
  have solid : ∀ char ∈ word.toList, Text.isBlank char = false :=
    fun _ member => spelled.unbroken.isBlank member
  have untrimmed : ∀ characters : List Char, (∀ char ∈ characters, Text.isBlank char = false) →
      characters.dropWhile Text.isBlank = characters := by
    intro characters noBlank
    refine List.dropWhile_eq_self_iff.mpr fun nonempty => ?_
    simp [noBlank _ (List.getElem_mem nonempty)]
  obtain ⟨first, rest, text, start⟩ := spelled.eq_cons
  have noPoint : first ≠ '.' := by
    rintro rfl
    exact not_mem_marks start (by decide)
  rw [trimWord, Text.trim, untrimmed _ solid,
    untrimmed _ fun char member => solid char (List.mem_reverse.mp member), List.reverse_reverse,
    text, List.dropWhile_cons_of_neg (by simpa using noPoint), ← text, String.ofList_toList]

/-- An option is on if one of the words spells it. -/
theorem contains_ofWords {words : List String} (areWords : ∀ word ∈ words, isWord word = true)
    (option : GenerationOption) :
    (ofWords words).contains option = true ↔ ∃ word ∈ words, word ∈ option.spellings := by
  induction words using List.reverseRecOn with
  | nil => cases option <;> simp [ofWords, contains]
  | append_singleton words word inductionHypothesis =>
      have earlier := inductionHypothesis fun other member =>
        areWords other (List.mem_append_left _ member)
      have spelled := trimWord_of_isWord (areWords word (by simp))
      rw [ofWords, List.foldl_append, ← ofWords, List.foldl_cons, List.foldl_nil, spelled]
      simp only [List.mem_append, List.mem_singleton, or_and_right, exists_or, exists_eq_left]
      rw [← earlier, ← GenerationOption.ofWord?_eq_some]
      cases GenerationOption.ofWord? word with
      | none => simp
      | some first => simp [contains_enable, or_comm]

end GenerationOptions

/-- What may follow an argument: a comma, or the end of its group. -/
def EndsArgument (later : List Token) : Prop :=
  ended later = true ∨ ∃ more, later = Token.comma :: more

theorem EndsArgument.noSeparator {later : List Token} (ends : EndsArgument later) :
    startsOperator [':', ':'] later = false := by
  rcases ends with isEnded | ⟨more, rfl⟩
  · fun_cases Surface.ended later <;> simp_all [startsOperator, Surface.ended]
  · rfl

variable {α : Type} {item : Reader α} {written : List (List Token)} {values : List α}
  {later : List Token} {leftOver : Option Delimiter} {name : String}

/-- Tokens that a reader makes an argument of. -/
structure ReadsArgument (item : Reader α) (tokens : List Token) (value : α) : Prop where
  begins : ended tokens = false
  reads : ∀ later leftOver, EndsArgument later →
    item ⟨tokens ++ later, leftOver⟩ = .ok (value, ⟨later, leftOver⟩)

theorem ReadsArgument.ended_append {tokens : List Token} {value : α}
    (reads : ReadsArgument item tokens value) (later : List Token) :
    ended (tokens ++ later) = false := by
  have begins := reads.begins
  cases tokens with
  | nil => cases begins
  | cons first rest => cases first <;> simp_all [ended]

theorem ReadsArgument.length_pos {tokens : List Token} {value : α}
    (reads : ReadsArgument item tokens value) : 0 < tokens.length := by
  have begins := reads.begins
  cases tokens with
  | nil => cases begins
  | cons first rest => simp

/-- Arguments with a comma between any two, and perhaps one after the last. -/
def commaText (trailing : Bool) (written : List (List Token)) : List Token :=
  Separated.tokensOf [Token.comma] id trailing written

theorem commaText_cons (trailing : Bool) (first : List Token) (rest : List (List Token)) :
    commaText trailing (first :: rest)
      = first
        ++ if rest.isEmpty && !trailing then [] else Token.comma :: commaText trailing rest := by
  cases rest <;> cases trailing <;> simp [commaText, Separated.tokensOf]

theorem extend_of_readsArgument (reads : List.Forall₂ (ReadsArgument item) written values)
    (trailing : Bool) (ends : ended later = true) (before : List α) :
    ∃ found, extend (Separated.step [','] ended ended fun _ => do pure (← item, false))
        ⟨before, true⟩ ⟨commaText trailing written ++ later, leftOver⟩
      = .ok (⟨before ++ values, found⟩, ⟨later, leftOver⟩) := by
  -- The list read so far grows with each argument; the first round has none before it.
  induction reads generalizing before with
  | nil =>
      refine ⟨true, ?_⟩
      rw [extend_done _ (step_stops (by simpa [commaText, Separated.tokensOf] using ends))]
      simp [commaText, Separated.tokensOf]
  | @cons tokens value others values first rest inductionHypothesis =>
      rw [commaText_cons]
      split
      case isTrue isLast =>
          obtain rfl : others = [] := by simp_all
          cases rest
          refine ⟨false, ?_⟩
          rw [List.append_nil, extend_more _ _ (step_last (first.reads _ _ (.inl ends))
            (first.ended_append later) ends), extend_done _ (step_stops rfl)]
          simpa using first.length_pos
      case isFalse =>
          obtain ⟨found, read⟩ := inductionHypothesis (before ++ [value])
          refine ⟨found, ?_⟩
          rw [List.append_assoc, List.cons_append, extend_more _ _
            (step_comma (first.reads _ _ (.inr ⟨_, rfl⟩)) (first.ended_append _) rfl), read]
          · simp
          · simp
            omega

namespace AttributeArgument

/-- Arguments up to the end of their group are all read. -/
theorem nonemptyList_of_readsArgument (reads : List.Forall₂ (ReadsArgument item) written values)
    (nonempty : values ≠ []) (trailing : Bool) (ends : ended later = true) :
    nonemptyList item ⟨commaText trailing written ++ later, leftOver⟩
      = .ok (values, ⟨later, leftOver⟩) := by
  cases reads with
  | nil => exact absurd rfl nonempty
  | @cons tokens value others values first rest =>
      rw [commaText_cons]
      simp only [nonemptyList, bind_eq_ok, atEnd_bind, ite_eq_ok, pure_eq_ok, operator_eq_ok]
      split
      case isTrue isLast =>
          obtain rfl : others = [] := by simp_all
          cases rest
          refine ⟨value, _, ?_, .inl ⟨ends, rfl, rfl⟩⟩
          simpa using first.reads later leftOver (.inl ends)
      case isFalse =>
          obtain ⟨found, read⟩ := extend_of_readsArgument rest trailing ends []
          refine ⟨value, ⟨Token.comma :: (commaText trailing others ++ later), leftOver⟩, ?_,
            .inr ⟨by simp [Surface.ended, Token.comma], _, _, ⟨rfl, rfl, rfl⟩,
              _, _, read, rfl, rfl⟩⟩
          simpa using first.reads _ leftOver (.inr ⟨_, rfl⟩)

theorem wordPath_name (apart : startsOperator [':', ':'] later = false) :
    wordPath ⟨.identifier name :: later, leftOver⟩
      = .ok ((false, [name]), ⟨later, leftOver⟩) := by
  have word : anyWord "ident" ⟨.identifier name :: later, leftOver⟩
      = .ok (name, ⟨later, leftOver⟩) := rfl
  have segments : Separated.readLenient [':', ':'] (fun _ => false) (anyWord "ident")
      ⟨.identifier name :: later, leftOver⟩ = .ok (⟨[name], false⟩, ⟨later, leftOver⟩) := by
    have isLast : (!startsOperator [':', ':'] later) = true := by simp [apart]
    have last : Separated.step [':', ':'] (fun _ => false) (!startsOperator [':', ':'] ·)
          (fun _ => do pure (← anyWord "ident", false)) ⟨[], true⟩
          ⟨.identifier name :: later, leftOver⟩
        = .ok (some ⟨[name], false⟩, ⟨later, leftOver⟩) :=
      step_last word rfl isLast
    rw [Separated.readLenient, Separated.empty, extend_more _ _ last,
      extend_done _ (step_stops rfl)]
    simp
  have noSeparator : startsOperator [':', ':'] (.identifier name :: later) = false := rfl
  simp only [wordPath, bind_eq_ok, atEnd_bind, look_bind, ite_eq_ok, pure_eq_ok, operator?_run,
    noSeparator, Bool.false_eq_true, if_false]
  exact ⟨[], _, rfl, .inr ⟨by simp [ended], .inl ⟨rfl, _, _, segments, rfl, rfl⟩⟩⟩

theorem readsArgument_singleName (fault : String) :
    ReadsArgument (singleName fault) [.identifier name] name where
  begins := rfl
  reads := by
    intro later leftOver ends
    simp only [singleName, bind_run, List.singleton_append, wordPath_name ends.noSeparator]
    rfl

theorem singleNames_run {names : List String} (nonempty : names ≠ []) (trailing : Bool)
    (fault : String) (later : List Token) (leftOver : Option Delimiter) :
    within .parenthesis (nonemptyList (singleName fault))
        ⟨Token.delimited .parenthesis
          (commaText trailing (names.map fun name => [.identifier name])) ++ later, leftOver⟩
      = .ok (names, ⟨later, leftOver⟩) := by
  have inside : List.Forall₂ (ReadsArgument (singleName fault))
      (names.map fun name => [.identifier name]) names := by
    simp [List.forall₂_map_left_iff, List.forall₂_same, readsArgument_singleName]
  have content := @nonemptyList_of_readsArgument _ _ _ _ (.closing .parenthesis :: later) leftOver
    inside nonempty trailing rfl
  simp only [within, look_bind, drop_bind, ite_eq_ok, bind_eq_ok, pure_eq_ok]
  exact .inl ⟨rfl, names, _, by simpa [Token.delimited, Stream.after] using content, (), _, rfl,
    rfl, rfl⟩

theorem stringLiteral_run {path text : String} (isString : stringValue? text = some path) :
    stringLiteral ⟨.literal text :: later, leftOver⟩ = .ok (path, ⟨later, leftOver⟩) := by
  simp only [stringLiteral, upcoming_bind, isString]
  rfl

/-- Tokens that spell an argument. -/
inductive Spells : AttributeArgument → List Token → Prop where
  | option {name : String} (isWord : isWord name = true) (noRuntime : name ≠ "runtime")
      (noNested : name ≠ "nested") : Spells (.option name) [.identifier name]
  | nested {names : List String} (nonempty : names ≠ []) (trailing : Bool) :
      Spells (.nested names) (.identifier "nested" :: Token.delimited .parenthesis
        (commaText trailing (names.map fun name => [.identifier name])))
  | runtime {path text : String} (isString : stringValue? text = some path) :
      Spells (.runtime path) (.identifier "runtime" :: Token.operator ['='] ++ [.literal text])

theorem readsArgument_of_spells {argument : AttributeArgument} {tokens : List Token}
    (spelled : Spells argument tokens) : ReadsArgument read tokens argument where
  begins := by cases spelled <;> rfl
  reads := by
    intro later leftOver ends
    cases spelled with
    | option isWord noRuntime noNested =>
        simp only [read, bind_run, List.singleton_append, wordPath_name ends.noSeparator]
        rfl
    | nested nonempty trailing =>
        rw [read, bind_run, List.cons_append, wordPath_name rfl]
        simp only
        exact bind_eq_ok.mpr ⟨_, _, singleNames_run nonempty trailing _ later leftOver, rfl⟩
    | runtime isString =>
        rw [read, bind_run, List.cons_append, List.cons_append, wordPath_name rfl]
        simp only
        refine bind_eq_ok.mpr ⟨_, _, operator_eq_ok.mpr ⟨rfl, rfl, rfl⟩, ?_⟩
        exact bind_eq_ok.mpr ⟨_, _, stringLiteral_run isString, rfl⟩

def nestedNames : AttributeArgument → List String
  | .nested names => names
  | _ => []

def optionName? : AttributeArgument → Option String
  | .option name => some name
  | _ => none

def runtimePath? : AttributeArgument → Option String
  | .runtime path => some path
  | _ => none

end AttributeArgument

namespace Arguments

open AttributeArgument

theorem config_ofList (arguments : List AttributeArgument) :
    (ofList arguments).config
      = { runtime := ((arguments.filterMap runtimePath?).getLast?).getD "witness" } := by
  induction arguments using List.reverseRecOn with
  | nil => rfl
  | append_singleton earlier argument inductionHypothesis =>
      simp only [ofList, List.foldl_append, List.foldl_cons, List.foldl_nil,
        List.filterMap_append] at inductionHypothesis ⊢
      rw [inductionHypothesis]
      cases argument <;> simp [runtimePath?]

theorem exists_spells {arguments : List AttributeArgument} {argument : AttributeArgument}
    (spelled : List.Forall₂ Spells arguments written) (member : argument ∈ arguments) :
    ∃ tokens, Spells argument tokens := by
  induction spelled with
  | nil => cases member
  | cons first rest inductionHypothesis =>
      rcases List.mem_cons.mp member with rfl | later
      · exact ⟨_, first⟩
      · exact inductionHypothesis later

theorem ofTokens_commaText {arguments : List AttributeArgument}
    (spelled : List.Forall₂ Spells arguments written) (trailing : Bool) :
    ofTokens (commaText trailing written) = .ok (ofList arguments) := by
  have reads : List.Forall₂ (ReadsArgument read) written arguments :=
    spelled.flip.imp fun _ _ => readsArgument_of_spells
  cases reads with
  | nil => rfl
  | @cons tokens first others rest isFirst areOthers =>
      have begun : ended (commaText trailing (tokens :: others)) = false := by
        rw [commaText_cons]
        exact isFirst.ended_append _
      have nonempty : (commaText trailing (tokens :: others)).isEmpty = false := by
        rw [List.isEmpty_eq_false_iff]
        intro empty
        rw [empty] at begun
        cases begun
      have ran := @nonemptyList_of_readsArgument _ _ _ _ [] none (.cons isFirst areOthers)
        (List.cons_ne_nil _ _) trailing rfl
      rw [List.append_nil] at ran
      rw [ofTokens, nonempty, run_eq_ok.mpr ran]
      rfl

/-- Arguments are read back in full, in whatever order they stand: each list of
associated types is there, the last runtime path counts, and an option is on if
one of its spellings stands among them. -/
theorem ofTokens_of_spells {arguments : List AttributeArgument}
    (spelled : List.Forall₂ Spells arguments written) (trailing : Bool) :
    ∃ result, ofTokens (commaText trailing written) = .ok result ∧
      result.nested = arguments.flatMap nestedNames ∧
      result.config
        = { runtime := ((arguments.filterMap runtimePath?).getLast?).getD "witness" } ∧
      ∀ option, result.options.contains option = true ↔
        ∃ name, .option name ∈ arguments ∧ name ∈ option.spellings := by
  refine ⟨ofList arguments, ofTokens_commaText spelled trailing, rfl, config_ofList arguments,
    fun option => ?_⟩
  have names : (ofList arguments).options = GenerationOptions.ofWords
      (arguments.filterMap optionName?) := rfl
  have named : ∀ name, name ∈ arguments.filterMap optionName? ↔ .option name ∈ arguments := by
    intro name
    rw [List.mem_filterMap]
    refine ⟨?_, fun member => ⟨_, member, rfl⟩⟩
    rintro ⟨argument, member, isNamed⟩
    cases argument with
    | option => cases isNamed; exact member
    | nested | runtime => cases isNamed
  have areWords : ∀ name ∈ arguments.filterMap optionName?, isWord name = true := by
    intro name member
    obtain ⟨tokens, spells⟩ := exists_spells spelled ((named name).mp member)
    cases spells with
    | option isWord => exact isWord
  simp only [names, GenerationOptions.contains_ofWords areWords, named]

theorem ofTokens_of_spells_repeated :
    ∃ result, ofTokens (commaText true
          [[.identifier "shiny"],
            .identifier "nested" :: Token.delimited .parenthesis
              (commaText false [[.identifier "Format"], [.identifier "Key"]]),
            .identifier "runtime" :: Token.operator ['='] ++ [.literal "\"support\""],
            [.identifier "utilities"],
            .identifier "nested" :: Token.delimited .parenthesis
              (commaText true [[.identifier "Item"]]),
            .identifier "runtime" :: Token.operator ['='] ++ [.literal "r\"crate::support\""]])
        = .ok result ∧
      result.nested = ["Format", "Key", "Item"] ∧ result.config = { runtime := "crate::support" } ∧
      result.options = { utilities := true, conformance := false } := by
  have plain : stringValue? "\"support\"" = some "support" := by simp [stringValue?, stringContent]
  have raw : stringValue? "r\"crate::support\"" = some "crate::support" := by decide +kernel
  have spelled : List.Forall₂ Spells
      [.option "shiny", .nested ["Format", "Key"], .runtime "support", .option "utilities",
        .nested ["Item"], .runtime "crate::support"] _ :=
    .cons (.option (by decide +kernel) (by decide) (by decide)) <|
      .cons (.nested (by decide) false) <| .cons (.runtime plain) <|
      .cons (.option (by decide +kernel) (by decide) (by decide)) <|
      .cons (.nested (by decide) true) <| .cons (.runtime raw) .nil
  obtain ⟨result, read, nested, config, options⟩ := ofTokens_of_spells spelled true
  refine ⟨result, read, nested, config, ?_⟩
  have utilities : result.options.utilities = true :=
    (options .utilities).mpr ⟨"utilities", by decide, by decide⟩
  have conformance : ¬ result.options.conformance = true := by
    intro isOn
    obtain ⟨name, member, spells⟩ := (options .conformance).mp isOn
    simp at member
    rcases member with rfl | rfl <;> revert spells <;> decide
  cases on : result.options
  simp_all

/-- A list of associated types has to name one. -/
theorem ofTokens_nested_nil :
    ofTokens (.identifier "nested" :: Token.delimited .parenthesis (commaText false []))
      = .error (.expected "nested attribute" true) := by
  decide +kernel

end Arguments

end InterfaceWitness
