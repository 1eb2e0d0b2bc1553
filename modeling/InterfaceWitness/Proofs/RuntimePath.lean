import InterfaceWitness.Proofs.Printing
import InterfaceWitness.Proofs.Shadowing

/-!
Where the path of the registry's module begins when it is printed.  The printer
compares the text of the path with the places that are found from here, whereas
the path begins with whatever word is read first.
-/

namespace InterfaceWitness

namespace Surface

open Reader Token

variable {text word : String} {path : Path}

/-- The words for the places that are found from here and not from the root of all
names. -/
def anchors : List String := ["crate", "self", "super"]

/-- Whether a text begins with a word and goes on, if it does, with a separator. -/
def Shows (text word : String) : Prop :=
  ∃ after, text.toList = word.toList ++ after ∧ (after = [] ∨ [':', ':'] <+: after)

/-- Whether a text hides the word that its path begins with: a colon or something
that reading drops comes before it, or something other than a separator after it. -/
def Conceals (text word : String) : Prop :=
  text.toList.head? = some ':' ∨ Obscures text word

theorem isWord_of_mem_anchors (anchored : word ∈ anchors) : IsWord word.toList := by
  have all : ∀ anchor ∈ anchors, isWord anchor = true := by decide
  exact isWord_eq_true.mp (all word anchored)

theorem shows_iff : Shows text word ↔ text = word ∨ (word ++ "::").toList <+: text.toList := by
  constructor
  · rintro ⟨after, spelled, rfl | ⟨rest, rfl⟩⟩
    · exact .inl (String.toList_inj.mp (by simpa using spelled))
    · exact .inr ⟨rest, by rw [spelled, String.toList_append, List.append_assoc]; rfl⟩
  · rintro (rfl | ⟨rest, spelled⟩)
    · exact ⟨[], by simp, .inl rfl⟩
    · refine ⟨':' :: ':' :: rest, ?_, .inr ⟨rest, rfl⟩⟩
      rw [← spelled, String.toList_append, List.append_assoc]
      rfl

theorem Shows.head?_eq (shown : Shows text word) (isWord : IsWord word.toList) :
    ∃ char, text.toList.head? = some char ∧ Text.isIdentifierStart char = true := by
  obtain ⟨after, spelled, -⟩ := shown
  obtain ⟨char, rest, begun, start⟩ := isWord.eq_cons
  exact ⟨char, by rw [spelled, begun]; rfl, start⟩

theorem Shows.not_conceals (shown : Shows text word) (isWord : IsWord word.toList) :
    ¬Conceals text word := by
  obtain ⟨char, headed, start⟩ := shown.head?_eq isWord
  obtain ⟨after, spelled, ends⟩ := shown
  rintro (colon | ⟨first, isFirst, breaks⟩ | ⟨other, alike, nonempty, apart⟩)
  · obtain rfl : char = ':' := Option.some.inj (headed.symm.trans colon)
    exact absurd start (by decide)
  · obtain rfl : char = first := Option.some.inj (headed.symm.trans isFirst)
    simp [isBreak_of_isIdentifierStart start] at breaks
  · obtain rfl : after = other := List.append_cancel_left (spelled.symm.trans alike)
    exact ends.elim nonempty apart

/-- A path whose text shows a word begins with it, with no separator in front. -/
theorem Path.begins_of_shows (read : Path.ofText text = .ok path) (shown : Shows text word)
    (isWord : IsWord word.toList) :
    path.rooted = false ∧ path.segments.head?.map Segment.name = some word := by
  obtain ⟨tokens, source, read⟩ := Path.ofText_eq_ok_iff.mp read
  obtain ⟨char, headed, start⟩ := shown.head?_eq isWord
  have solid : ∀ first ∈ text.toList.head?, isBreak first = false := by
    intro first isFirst
    obtain rfl : char = first := Option.some.inj (headed.symm.trans isFirst)
    exact isBreak_of_isIdentifierStart start
  obtain ⟨after, spelled, ends⟩ := shown
  have endsWord : EndsWord after := by
    rcases ends with rfl | ⟨rest, rfl⟩
    · exact endsWord_nil
    · exact endsWord_colon
  have scanned := scan_of_ofSource? source (unmarked_of_solid solid)
  rw [spelled, scan_word isWord endsWord, String.ofList_toList] at scanned
  obtain ⟨later, -, rfl⟩ := Option.map_eq_some_iff.mp scanned
  obtain ⟨rooted, -, first, more, others, segments, begun⟩ := path_begins (run_eq_ok.mp read)
  have unrooted : path.rooted = false := rooted
  rw [unrooted] at begun
  obtain ⟨named, -⟩ := List.cons.inj begun
  exact ⟨unrooted, by simpa [segments] using (Token.identifier.inj named).symm⟩

/-- A text that does not conceal the word that its path begins with shows it. -/
theorem Path.shows_of_begins (read : Path.ofText text = .ok path)
    (begins : path.segments.head?.map Segment.name = some word)
    (clear : ¬Conceals text word) : Shows text word := by
  rw [Conceals, Obscures, not_or, not_or] at clear
  obtain ⟨apart, unbroken, goesOn⟩ := clear
  have solid : ∀ char ∈ text.toList.head?, isBreak char = false := fun char isFirst =>
    Bool.eq_false_iff.mpr fun breaks => unbroken ⟨char, isFirst, breaks⟩
  have unrooted := Path.rooted_eq_false read solid apart
  obtain ⟨after, found⟩ := Path.word_of_capturedBy read ⟨unrooted, begins⟩ solid
  have spelled := (word_append found).symm
  refine ⟨after, spelled, ?_⟩
  -- Otherwise something other than a separator follows the word.
  by_contra ends
  rw [not_or] at ends
  exact goesOn ⟨after, spelled, ends.1, ends.2⟩

end Surface

open Surface

theorem dropSeparators_of_head? {text : List Char} (apart : text.head? ≠ some ':') :
    dropSeparators text = text := by
  unfold dropSeparators
  split
  case h_1 => exact absurd rfl apart
  case h_2 => rfl

namespace Config

variable {config : Config} {path : Path} {word : String}

theorem runtimePath_of_head? (apart : config.runtime.toList.head? ≠ some ':') :
    config.runtimePath = Path.ofText config.runtime := by
  rw [runtimePath, dropSeparators_of_head? apart, String.ofList_toList]

theorem begins_of_shows (read : config.runtimePath = .ok path) (anchored : word ∈ anchors)
    (shown : Shows config.runtime word) :
    path.rooted = false ∧ path.segments.head?.map Segment.name = some word := by
  have isWord := isWord_of_mem_anchors anchored
  have clear := shown.not_conceals isWord
  rw [runtimePath_of_head? fun colon => clear (.inl colon)] at read
  exact Path.begins_of_shows read shown isWord

/-- The text shows an anchor just if the path begins with one that the text does not
conceal. -/
theorem exists_shows_iff (read : config.runtimePath = .ok path)
    (begins : path.segments.head?.map Segment.name = some word) :
    (∃ anchor ∈ anchors, Shows config.runtime anchor) ↔
      word ∈ anchors ∧ ¬Conceals config.runtime word := by
  constructor
  · rintro ⟨anchor, anchored, shown⟩
    obtain ⟨-, begun⟩ := begins_of_shows read anchored shown
    obtain rfl : anchor = word := Option.some.inj (begun.symm.trans begins)
    exact ⟨anchored, shown.not_conceals (isWord_of_mem_anchors anchored)⟩
  · rintro ⟨anchored, clear⟩
    -- Nothing was dropped in front of what was read.
    rw [runtimePath_of_head? fun colon => clear (.inl colon)] at read
    exact ⟨word, anchored, Path.shows_of_begins read begins clear⟩

/-- The path is printed as it was read if its text shows an anchor, and from the root
of all names otherwise. -/
theorem runtimeTokens_of_read (read : config.runtimePath = .ok path) :
    ∃ rooted, Code.runtimeTokens config = Path.tokens { path with rooted := rooted } ∧
      (rooted = false ↔ ∃ anchor ∈ anchors, Shows config.runtime anchor) := by
  simp only [Code.runtimeTokens, read]
  split
  case isTrue compared =>
    have shown : ∃ anchor ∈ anchors, Shows config.runtime anchor := by
      simpa [anchors, shows_iff] using compared
    obtain ⟨anchor, anchored, isShown⟩ := shown
    have unrooted := (begins_of_shows read anchored isShown).1
    exact ⟨path.rooted, rfl, fun _ => ⟨anchor, anchored, isShown⟩, fun _ => unrooted⟩
  case isFalse compared =>
    have hidden : ¬∃ anchor ∈ anchors, Shows config.runtime anchor := by
      simpa [anchors, shows_iff] using compared
    exact ⟨true, rfl, iff_of_false Bool.true_eq_false.mp hidden⟩

/-- How the path of the registry's module is printed. -/
structure PrintsRuntime (config : Config) (printed : Path) : Prop where
  tokens : Code.runtimeTokens config = printed.tokens
  segments : ∃ path, config.runtimePath = .ok path ∧ path.segments = printed.segments
  /-- There is a separator in front unless the text shows that the path begins at a
  place that is found from here. -/
  separated : ∃ word, printed.segments.head?.map Segment.name = some word ∧
    (startsPathSeparator (Code.runtimeTokens config) = true ↔
      word ∉ anchors ∨ Conceals config.runtime word)
  /-- Without arguments, it is read again as what was printed. -/
  reads : (∀ segment ∈ printed.segments, segment.isPlain = true) →
    Path.ofTokens (Code.runtimeTokens config) = .ok printed

/-- A valid configuration has the path printed with the segments that were read, and
with a separator in front of them unless its text shows an anchor. -/
theorem printsRuntime_of_validate (valid : config.validate = .ok ()) :
    ∃ printed, config.PrintsRuntime printed := by
  obtain ⟨-, -, -, path, read⟩ := validate_eq_ok_iff.mp valid
  obtain ⟨rooted, printed, unrooted_iff⟩ := runtimeTokens_of_read read
  obtain ⟨tokens, -, isPath⟩ := Path.ofText_eq_ok_iff.mp read
  obtain ⟨-, named, first, more, -, segments, -⟩ := path_begins (Reader.run_eq_ok.mp isPath)
  have begins : path.segments.head?.map Segment.name = some first.name := by simp [segments]
  have nonempty : path.segments ≠ [] := by simp [segments]
  have isRooted : startsPathSeparator (Code.runtimeTokens config) = rooted := by
    rw [printed]
    exact Path.startsPathSeparator_tokens nonempty
  have separated : startsPathSeparator (Code.runtimeTokens config) = true ↔
      first.name ∉ anchors ∨ Conceals config.runtime first.name := by
    rw [isRooted, ← Bool.not_eq_false, unrooted_iff, exists_shows_iff read begins, not_and_or,
      not_not]
  refine ⟨⟨rooted, path.segments⟩, ?_⟩
  exact
    { tokens := printed
      segments := ⟨path, read, rfl⟩
      separated := ⟨first.name, begins, separated⟩
      reads := fun plain => printed ▸ Path.ofTokens_tokens nonempty named plain }

theorem printsRuntime_of_validate_shared :
    let config : Config := { runtime := "super::super :: registries" }
    config.validate = .ok () ∧ ∃ printed, config.PrintsRuntime printed ∧
      printed.segments.map Segment.name = ["super", "super", "registries"] ∧
      startsPathSeparator (Code.runtimeTokens config) = false := by
  intro config
  have valid : config.validate = .ok () := by decide +kernel
  have found : config.runtimePath.toOption.any
      (·.segments.map Segment.name = ["super", "super", "registries"]) = true := by
    decide +kernel
  obtain ⟨printed, prints⟩ := printsRuntime_of_validate valid
  obtain ⟨path, read, segments⟩ := prints.segments
  have names : printed.segments.map Segment.name = ["super", "super", "registries"] := by
    simpa [toOption_eq_some_iff.mpr read, segments] using found
  obtain ⟨word, begins, separated_iff⟩ := prints.separated
  obtain rfl : "super" = word := by
    rw [← List.head?_map, names] at begins
    exact Option.some.inj begins
  have shown : Shows config.runtime "super" := shows_iff.mpr (.inr (by decide))
  have anchored : "super" ∈ anchors := by decide
  refine ⟨valid, printed, prints, names, ?_⟩
  rw [← Bool.not_eq_true, separated_iff, not_or, not_not]
  exact ⟨anchored, shown.not_conceals (isWord_of_mem_anchors anchored)⟩

/-- Blanks behind the first word have a path near by printed from the root of all
names. -/
theorem rooted_spaced_runtime :
    let config : Config := { runtime := "crate :: support" }
    config.validate = .ok () ∧
      (∃ path, config.runtimePath = .ok path ∧
        path.segments.head?.map Segment.name = some "crate") ∧
      startsPathSeparator (Code.runtimeTokens config) = true := by
  intro config
  have found : config.runtimePath.toOption.any
      (·.segments.head?.map Segment.name = some "crate") = true := by
    decide +kernel
  obtain ⟨path, read, begins⟩ := (Option.any_eq_true ..).mp found
  exact ⟨by decide +kernel, ⟨path, toOption_eq_some_iff.mp read, of_decide_eq_true begins⟩,
    by decide +kernel⟩

end Config

end InterfaceWitness
