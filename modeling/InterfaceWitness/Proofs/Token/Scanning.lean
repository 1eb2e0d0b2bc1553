import InterfaceWitness.Proofs.Token.Word

/-!
What a text of words and path separators is read into: every word is one token
as it stands, although some begin like a literal.
-/

namespace InterfaceWitness

namespace Token

open Text

variable {char : Char} {spelled rest after text : List Char} {tokens : List Token}

/-- The characters that open literals and groups, and those of operators. -/
def marks : List Char := "\"'()[]\x7b\x7d0123456789~!@#$%^&*-=+|;:,<.>/?".toList

theorem not_mem_of_property {property : Char → Bool} {excluded : List Char}
    (lacking : excluded.any property = false) (holds : property char = true) :
    char ∉ excluded := by
  intro member
  simp [List.any_eq_false.mp lacking char member] at holds

theorem not_mem_marks (start : isIdentifierStart char = true) : char ∉ marks :=
  not_mem_of_property (by decide +kernel) start

/-- What goes on after the first letters of a literal's opening. -/
def quotes : List Char := ['"', '\'', '#']

theorem not_mem_quotes (continues : isIdentifierContinue char = true) : char ∉ quotes :=
  not_mem_of_property (by decide +kernel) continues

/-- A text that begins with no quote and no number sign. -/
def Unquoted (text : List Char) : Prop := ∀ char ∈ text.head?, char ∉ quotes

/-- A text that neither goes on with a word nor makes a literal of it. -/
def EndsWord (text : List Char) : Prop :=
  ∀ char ∈ text.head?, isIdentifierContinue char = false ∧ char ∉ quotes

theorem unquoted_append (continues : ∀ char ∈ rest, isIdentifierContinue char = true)
    (ends : EndsWord after) : Unquoted (rest ++ after) := by
  intro char isHead
  cases rest with
  | nil => exact (ends char isHead).2
  | cons first others =>
      obtain rfl : first = char := by simpa using isHead
      exact not_mem_quotes (continues first (List.mem_cons_self ..))

theorem afterRawString_eq_none {kind : StringKind} (unquoted : Unquoted text) :
    afterRawString kind text = none := by
  cases text with
  | nil => rfl
  | cons first others =>
      have differs := unquoted first rfl
      simp only [quotes, List.mem_cons, List.not_mem_nil, or_false, not_or] at differs
      simp [afterRawString, differs]

theorem afterRawString_raw {kind : StringKind} (start : isIdentifierStart char = true) :
    afterRawString kind ('#' :: char :: text) = none := by
  have noMark := not_mem_marks start
  have noSign : char ≠ '#' := fun equal => noMark (by rw [equal]; decide)
  have noQuote : char ≠ '"' := fun equal => noMark (by rw [equal]; decide)
  simp [afterRawString, noSign, noQuote]

theorem isDigit_of_isIdentifierStart (start : isIdentifierStart char = true) :
    char.isDigit = false := by
  cases digit : char.isDigit with
  | false => rfl
  | true =>
      simp only [Char.isDigit, Bool.and_eq_true, decide_eq_true_eq, ge_iff_le,
        UInt32.le_iff_toNat_le] at digit
      have isLow : char.toNat ∈ List.range' 48 10 := by
        rw [List.mem_range'_1]
        exact ⟨digit.1, Nat.lt_succ_of_le digit.2⟩
      have lacking : ∀ code ∈ List.range' 48 10, isIdentifierStart (Char.ofNat code) = false := by
        decide +kernel
      simpa [start] using lacking _ isLow

theorem afterFloat_eq_none (start : isIdentifierStart char = true) :
    afterFloat (char :: text) = none := by
  simp [afterFloat, isDigit_of_isIdentifierStart start]

theorem ten_le_of_hexDigit? {digit : Nat} (start : isIdentifierStart char = true)
    (found : hexDigit? char = some digit) : 10 ≤ digit := by
  have noDigit := isDigit_of_isIdentifierStart start
  simp only [Char.isDigit, Bool.and_eq_false_iff, decide_eq_false_iff_not] at noDigit
  unfold hexDigit? at found
  grind [Char.le_def, UInt32.le_iff_toNat_le, Char.toNat]

/-- A number in base ten begins neither with a letter nor with an underscore. -/
theorem afterRadix_eq_none (start : isIdentifierStart char = true) :
    afterRadix 10 true (char :: text) = none := by
  unfold afterRadix
  split
  case isTrue => rfl
  case isFalse =>
    split
    case h_1 digit found =>
      have large := ten_le_of_hexDigit? start found
      simp only [Nat.not_lt.mpr large, if_false, if_true]
    case h_2 => rfl

theorem afterWhole_eq_none (start : isIdentifierStart char = true) :
    afterWhole (char :: text) = none := by
  have noMark := not_mem_marks start
  have differs : char ≠ '0' := fun equal => noMark (by rw [equal]; decide)
  unfold afterWhole
  split
  case h_4 => rw [afterRadix_eq_none start, Option.bind_none]
  all_goals simp_all

theorem afterLiteral_eq_none (start : isIdentifierStart char = true)
    (unquoted : Unquoted rest) (raw : ∀ later, rest = 'r' :: later → Unquoted later) :
    afterLiteral (char :: rest) = none := by
  have noMark := not_mem_marks start
  unfold afterLiteral
  split
  case h_1 equal | h_8 equal =>
    obtain ⟨rfl, -⟩ := List.cons.inj equal
    exact absurd (by decide) noMark
  case h_2 equal =>
    obtain ⟨-, rfl⟩ := List.cons.inj equal
    rw [afterRawString_eq_none unquoted, Option.map_none]
  case h_3 equal | h_5 equal | h_7 equal =>
    obtain ⟨-, rfl⟩ := List.cons.inj equal
    exact absurd (by decide) (unquoted _ rfl)
  case h_4 later equal | h_6 later equal =>
    obtain ⟨-, rfl⟩ := List.cons.inj equal
    rw [afterRawString_eq_none (raw later rfl), Option.map_none]
  case h_9 => rw [afterFloat_eq_none start, afterWhole_eq_none start]; rfl

theorem punctuationAt_eq_none (start : isIdentifierStart char = true) :
    punctuationAt (char :: rest) = none := by
  have noMark := not_mem_marks start
  have noPunctuation : punctuationMarks.contains char = false := by
    rw [List.contains_eq_mem, decide_eq_false_iff_not]
    exact fun member => noMark ((by decide : punctuationMarks ⊆ marks) member)
  unfold punctuationAt
  split
  case h_1 equal =>
    obtain ⟨rfl, -⟩ := List.cons.inj equal
    exact absurd (by decide) noMark
  case h_2 first later _ equal =>
    obtain ⟨rfl, rfl⟩ := List.cons.inj equal
    have : startsPunctuation (char :: rest) = false := by
      unfold startsPunctuation
      split <;> simp_all
    simp [this]
  case h_3 equal => simp at equal

theorem literalOpenings_eq : literalOpenings = [['r', '"'], ['r', '#', '"'], ['r', '#', '#'],
    ['b', '"'], ['b', '\''], ['b', 'r', '"'], ['b', 'r', '#'], ['c', '"'], ['c', 'r', '"'],
    ['c', 'r', '#']] := by decide

/-- Every opening has a quote or a number sign behind its first letter or behind
an `r` that follows that. -/
theorem identifierWord_plain (unquoted : Unquoted rest)
    (raw : ∀ later, rest = 'r' :: later → Unquoted later) :
    identifierWord (char :: rest) = word (char :: rest) := by
  have noOpening : literalOpenings.any (·.isPrefixOf (char :: rest)) = false := by
    rw [literalOpenings_eq]
    cases rest with
    | nil => simp [List.isPrefixOf]
    | cons second later =>
        have noQuote := unquoted second rfl
        cases later with
        | nil =>
            simp only [quotes, List.mem_cons, not_or] at noQuote
            simp [List.isPrefixOf, Ne.symm noQuote.1, Ne.symm noQuote.2.1]
        | cons third others =>
            have noLaterQuote : second = 'r' → third ∉ quotes := fun equal =>
              raw (third :: others) (by rw [equal]) third rfl
            simp only [quotes, List.mem_cons, List.not_mem_nil, not_or] at noQuote noLaterQuote
            simp only [List.isPrefixOf, List.any_cons, List.any_nil]
            grind
  rw [identifierWord, noOpening, if_neg Bool.false_ne_true]

theorem identifierWord_raw (start : isIdentifierStart char = true) :
    identifierWord ('r' :: '#' :: char :: rest) = word ('r' :: '#' :: char :: rest) := by
  have noMark := not_mem_marks start
  have noSign : char ≠ '#' := fun equal => noMark (by rw [equal]; decide)
  have noQuote : char ≠ '"' := fun equal => noMark (by rw [equal]; decide)
  rw [identifierWord, literalOpenings_eq]
  simp [List.isPrefixOf, noSign.symm, noQuote.symm]

theorem faultyLiteral_eq :
    faultyLiteral.toList = ['(', '/', '*', 'E', 'R', 'R', 'O', 'R', '*', '/', ')'] := by decide

/-- The characters that open and close groups. -/
def brackets : List Char := "()[]\x7b\x7d".toList

theorem nextTokens_eq_leafAt (solid : isBreak char = false) (noBracket : char ∉ brackets) :
    nextTokens (char :: rest) = leafAt (char :: rest) := by
  simp only [isBreak, Bool.or_eq_false_iff, beq_eq_false_iff_ne] at solid
  obtain ⟨⟨apart, noSlash⟩, -⟩ := solid
  have noComment : afterComment (char :: rest) = none := by
    unfold afterComment
    split <;> simp_all
  have noDocumentation : documentationAt (char :: rest) = none := by
    unfold documentationAt
    split <;> simp_all
  have noFault : afterFaultyLiteral (char :: rest) = none := by
    have differs : '(' ≠ char := fun equal => noBracket (by rw [← equal]; decide)
    rw [afterFaultyLiteral, faultyLiteral_eq]
    simp [List.isPrefixOf, differs]
  have noOpener : Delimiter.ofOpener? char = none := by
    unfold Delimiter.ofOpener?
    split <;> first | rfl | exact absurd (by decide) noBracket
  have noCloser : Delimiter.ofCloser? char = none := by
    unfold Delimiter.ofCloser?
    split <;> first | rfl | exact absurd (by decide) noBracket
  simp only [nextTokens, apart, noComment, noDocumentation, noFault, noOpener, noCloser,
    Bool.false_eq_true, if_false]

theorem plainWord_of_endsWord (isWord : IsPlainWord spelled) (ends : EndsWord after) :
    plainWord (spelled ++ after) = some (spelled, after) := by
  cases spelled with
  | nil => exact isWord.elim
  | cons first rest =>
      obtain ⟨start, continues⟩ := isWord
      have stops : after.takeWhile isIdentifierContinue = [] ∧
          after.dropWhile isIdentifierContinue = after := by
        cases after with
        | nil => simp
        | cons char later => simp [(ends char rfl).1]
      rw [List.cons_append, plainWord, if_pos start, List.takeWhile_append_of_pos continues,
        List.dropWhile_append_of_pos continues, stops.1, stops.2, List.append_nil]

/-- No literal and no punctuation begins where a word does. -/
theorem leafAt_of_word (noLiteral : afterLiteral text = none)
    (noPunctuation : punctuationAt text = none)
    (isWord : identifierWord text = some (spelled, after)) :
    leafAt text = some ([.identifier (String.ofList spelled)], after) := by
  simp [leafAt, noLiteral, noPunctuation, isWord]

theorem leafAt_plainWord (isWord : IsPlainWord spelled) (ends : EndsWord after) :
    leafAt (spelled ++ after) = some ([.identifier (String.ofList spelled)], after) := by
  have found := plainWord_of_endsWord isWord ends
  cases spelled with
  | nil => exact isWord.elim
  | cons first rest =>
      obtain ⟨start, continues⟩ := isWord
      have unquoted : Unquoted (rest ++ after) := unquoted_append continues ends
      have unquotedLater : ∀ later, rest ++ after = 'r' :: later → Unquoted later := by
        intro later equal
        cases rest with
        | nil => exact absurd (ends 'r' (by rw [← List.nil_append after, equal]; rfl)).1 (by decide)
        | cons second others =>
            obtain ⟨-, rfl⟩ := List.cons.inj equal
            exact unquoted_append
              (fun char member => continues char (List.mem_cons_of_mem _ member)) ends
      refine leafAt_of_word (afterLiteral_eq_none start unquoted unquotedLater)
        (punctuationAt_eq_none start) ?_
      rw [List.cons_append, identifierWord_plain unquoted unquotedLater, ← List.cons_append]
      unfold word
      split
      case h_1 later equal =>
        have equal : rest ++ after = '#' :: later := (List.cons.inj equal).2
        exact absurd (by decide) (unquoted '#' (by rw [equal]; rfl))
      case h_2 => exact found

theorem leafAt_rawWord (isWord : IsPlainWord spelled) (raw : String.ofList spelled ∉ unrawWords)
    (ends : EndsWord after) :
    leafAt ('r' :: '#' :: spelled ++ after)
      = some ([.identifier (String.ofList ('r' :: '#' :: spelled))], after) := by
  have found := plainWord_of_endsWord isWord ends
  cases spelled with
  | nil => exact isWord.elim
  | cons first rest =>
      have start := isWord.1
      refine leafAt_of_word ?_ (punctuationAt_eq_none (by decide)) ?_
      · simp [afterLiteral, afterRawString_raw start]
      · rw [List.cons_append, List.cons_append, List.cons_append, identifierWord_raw start,
          ← List.cons_append, word, found]
        simp only [Option.bind_eq_bind, Option.bind_some, if_neg raw]

/-- A word is one token in front of whatever neither goes on with it nor makes
a literal of it. -/
theorem nextTokens_word (isWord : IsWord spelled) (ends : EndsWord after) :
    nextTokens (spelled ++ after) = some ([.identifier (String.ofList spelled)], after) := by
  have begins : ∀ char rest, isIdentifierStart char = true →
      nextTokens (char :: rest) = leafAt (char :: rest) := fun char rest start =>
    nextTokens_eq_leafAt (isBreak_of_isIdentifierStart start)
      fun member => not_mem_marks start ((by decide : brackets ⊆ marks) member)
  rcases isWord with plain | ⟨rest, rfl, plain, raw⟩
  · cases spelled with
    | nil => exact plain.elim
    | cons first rest => exact (begins _ _ plain.1).trans (leafAt_plainWord plain ends)
  · exact (begins _ _ (by decide)).trans (leafAt_rawWord plain raw ends)

theorem scan_of_nextTokens (next : nextTokens text = some (tokens, rest))
    (shorter : rest.length < text.length) : scan text = (scan rest).map (tokens ++ ·) := by
  have nonempty : text.isEmpty = false := by
    cases text with
    | nil => simp at shorter
    | cons => rfl
  rw [scan, next]
  simp [nonempty, shorter]

theorem scan_word (isWord : IsWord spelled) (ends : EndsWord after) :
    scan (spelled ++ after) = (scan after).map (.identifier (String.ofList spelled) :: ·) := by
  rw [scan_of_nextTokens (nextTokens_word isWord ends)
    (by simpa using List.length_pos_iff.mpr isWord.ne_nil)]
  rfl

theorem startsPunctuation_eq_false (start : isIdentifierStart char = true) :
    startsPunctuation (char :: rest) = false := by
  have noPunctuation : punctuationMarks.contains char = false := by
    rw [List.contains_eq_mem, decide_eq_false_iff_not]
    exact fun member => not_mem_marks start ((by decide : punctuationMarks ⊆ marks) member)
  unfold startsPunctuation
  split <;> simp_all

theorem startsPunctuation_colon : startsPunctuation (':' :: rest) = true := by
  unfold startsPunctuation
  split
  case h_3 equal =>
    obtain ⟨rfl, -⟩ := List.cons.inj equal
    decide
  all_goals simp_all

theorem punctuationAt_colon :
    punctuationAt (':' :: rest) = some ([.punctuation ':' (startsPunctuation rest)], rest) := by
  unfold punctuationAt
  split
  case h_2 equal =>
    obtain ⟨rfl, rfl⟩ := List.cons.inj equal
    rw [startsPunctuation_colon, if_pos rfl]
  all_goals simp_all

theorem nextTokens_colon :
    nextTokens (':' :: rest) = some ([.punctuation ':' (startsPunctuation rest)], rest) := by
  have noLiteral : afterLiteral (':' :: rest) = none := by
    simp [afterLiteral, afterFloat, afterWhole, afterRadix, hexDigit?]
  rw [nextTokens_eq_leafAt (by decide) (by decide), leafAt, noLiteral, punctuationAt_colon]

theorem scan_separator (start : isIdentifierStart char = true) :
    scan (':' :: ':' :: char :: rest) = (scan (char :: rest)).map (pathSeparator ++ ·) := by
  rw [scan_of_nextTokens nextTokens_colon (by simp), startsPunctuation_colon,
    scan_of_nextTokens nextTokens_colon (by simp), startsPunctuation_eq_false start,
    Option.map_map]
  rfl

theorem scan_nil : scan [] = some [] := by
  rw [scan]
  rfl

theorem scan_separator_word (after : List Char) (isWord : IsWord spelled) :
    scan (':' :: ':' :: (spelled ++ after))
      = (scan (spelled ++ after)).map (pathSeparator ++ ·) := by
  obtain ⟨char, rest, rfl, start⟩ := isWord.eq_cons
  exact scan_separator start

/-- Names with a separator before each. -/
def separatedText (names : List String) : List Char :=
  names.flatMap fun name => ':' :: ':' :: name.toList

/-- The tokens of names with a separator before each. -/
def separatedNames (names : List String) : List Token :=
  names.flatMap fun name => pathSeparator ++ [.identifier name]

theorem endsWord_nil : EndsWord [] := by
  simp [EndsWord]

theorem endsWord_colon : EndsWord (':' :: rest) := by
  intro char isHead
  obtain rfl : ':' = char := by simpa using isHead
  decide

theorem endsWord_separatedText (names : List String) : EndsWord (separatedText names) := by
  cases names with
  | nil => exact endsWord_nil
  | cons name rest => exact endsWord_colon

theorem scan_word_separatedText {name : String} {names : List String}
    (isWord : IsWord name.toList) (words : ∀ later ∈ names, IsWord later.toList) :
    scan (name.toList ++ separatedText names)
      = some (.identifier name :: separatedNames names) := by
  induction names generalizing name with
  | nil =>
      rw [scan_word isWord (endsWord_separatedText []), String.ofList_toList]
      simp [separatedText, separatedNames, scan_nil]
  | cons next rest inductionHypothesis =>
      have later := inductionHypothesis (words next (List.mem_cons_self ..))
        fun other member => words other (List.mem_cons_of_mem _ member)
      have begun : separatedText (next :: rest)
          = ':' :: ':' :: (next.toList ++ separatedText rest) := by simp [separatedText]
      rw [scan_word isWord (endsWord_separatedText _), String.ofList_toList, begun,
        scan_separator_word _ (words next (List.mem_cons_self ..)), later]
      simp [separatedNames]

theorem toList_intercalate_separator (name : String) (names : List String) :
    ("::".intercalate (name :: names)).toList = name.toList ++ separatedText names := by
  rw [String.toList_intercalate]
  induction names generalizing name with
  | nil => simp [separatedText]
  | cons next rest inductionHypothesis =>
      rw [List.map_cons, List.map_cons, List.intercalate_cons_cons, ← List.map_cons,
        inductionHypothesis]
      simp [separatedText]

end Token

end InterfaceWitness
