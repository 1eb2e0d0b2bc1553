import InterfaceWitness.Proofs.Token.Unbroken
import InterfaceWitness.Surface.Lookahead
import Mathlib.Data.List.TakeWhile

/-!
A text that reads as a name is a word as it stands unless reading it drops
something.
-/

namespace InterfaceWitness

namespace Token

open Text

variable {char : Char} {text name after rest suffix : List Char} {tokens : List Token}

def IsPlainWord : List Char → Prop
  | [] => False
  | first :: rest =>
      isIdentifierStart first = true ∧ ∀ char ∈ rest, isIdentifierContinue char = true

theorem plainWord_eq_nil : plainWord text = some (name, []) ↔ name = text ∧ IsPlainWord text := by
  cases text with
  | nil => simp [plainWord, IsPlainWord]
  | cons first rest =>
      simp only [plainWord, IsPlainWord, Option.ite_none_right_eq_some, Option.some.injEq,
        Prod.mk.injEq, List.dropWhile_eq_nil_iff]
      constructor
      · rintro ⟨start, rfl, continues⟩
        exact ⟨by rw [List.takeWhile_eq_self_iff.mpr continues], start, continues⟩
      · rintro ⟨rfl, start, continues⟩
        exact ⟨start, by rw [List.takeWhile_eq_self_iff.mpr continues], continues⟩

theorem plainWord_append (found : plainWord text = some (name, after)) : name ++ after = text := by
  cases text with
  | nil => simp [plainWord] at found
  | cons first rest =>
      obtain ⟨_, equal⟩ := Option.ite_none_right_eq_some.mp found
      obtain ⟨rfl, rfl⟩ := Prod.mk.inj (Option.some.inj equal)
      rw [List.cons_append, List.takeWhile_append_dropWhile]

theorem isPlainWord_of_plainWord (found : plainWord text = some (name, after)) :
    IsPlainWord name := by
  cases text with
  | nil => simp [plainWord] at found
  | cons first rest =>
      obtain ⟨start, equal⟩ := Option.ite_none_right_eq_some.mp found
      obtain ⟨rfl, -⟩ := Prod.mk.inj (Option.some.inj equal)
      exact ⟨start, fun char member => List.mem_takeWhile_imp member⟩

theorem IsPlainWord.append (isWord : IsPlainWord text)
    (continues : ∀ char ∈ suffix, isIdentifierContinue char = true) :
    IsPlainWord (text ++ suffix) := by
  cases text with
  | nil => exact isWord.elim
  | cons first rest =>
      refine ⟨isWord.1, fun char member => ?_⟩
      rcases List.mem_append.mp member with inside | added
      · exact isWord.2 char inside
      · exact continues char added

theorem IsPlainWord.unbroken (isWord : IsPlainWord text) : Unbroken text := by
  cases text with
  | nil => exact unbroken_nil
  | cons first rest =>
      exact unbroken_cons.mpr ⟨isBreak_of_isIdentifierStart isWord.1,
        fun char member => isBreak_of_isIdentifierContinue (isWord.2 char member)⟩

theorem word_append (found : word text = some (name, after)) : name ++ after = text := by
  unfold word at found
  split at found
  case h_1 rest =>
    simp only [Option.bind_eq_bind, Option.bind_eq_some_iff, Prod.exists,
      Option.ite_none_left_eq_some, Option.some.injEq, Prod.mk.injEq] at found
    obtain ⟨plain, _, found, _, rfl, rfl⟩ := found
    simpa using plainWord_append found
  case h_2 => exact plainWord_append found

/-- A word is plain or is written raw. -/
def IsWord (text : List Char) : Prop :=
  IsPlainWord text ∨
    ∃ rest, text = 'r' :: '#' :: rest ∧ IsPlainWord rest ∧ String.ofList rest ∉ unrawWords

theorem not_isPlainWord_raw : ¬ IsPlainWord ('r' :: '#' :: rest) := fun isWord =>
  absurd (isWord.2 '#' (List.mem_cons_self ..)) (by decide)

theorem word_eq_nil : (∃ name, word text = some (name, [])) ↔ IsWord text := by
  fun_cases word text with
  | case1 rest =>
      simp only [IsWord, not_isPlainWord_raw, false_or, List.cons.injEq, true_and,
        exists_eq_left', Option.bind_eq_bind, Option.bind_eq_some_iff, Prod.exists,
        Option.ite_none_left_eq_some, Option.some.injEq, Prod.mk.injEq]
      constructor
      · rintro ⟨_, name, after, found, raw, rfl, rfl⟩
        obtain ⟨rfl, isWord⟩ := plainWord_eq_nil.mp found
        exact ⟨isWord, raw⟩
      · rintro ⟨isWord, raw⟩
        exact ⟨_, rest, [], plainWord_eq_nil.mpr ⟨rfl, isWord⟩, raw, rfl, rfl⟩
  | case2 text plain =>
      simp only [plainWord_eq_nil, IsWord]
      constructor
      · rintro ⟨_, rfl, isWord⟩
        exact .inl isWord
      · rintro (isWord | ⟨rest, rfl, _⟩)
        · exact ⟨text, rfl, isWord⟩
        · exact absurd rfl (plain rest)

theorem isWord_of_word (found : word text = some (name, after)) : IsWord name := by
  unfold word at found
  split at found
  case h_1 rest =>
    simp only [Option.bind_eq_bind, Option.bind_eq_some_iff, Prod.exists,
      Option.ite_none_left_eq_some, Option.some.injEq, Prod.mk.injEq] at found
    obtain ⟨plain, _, found, raw, rfl, rfl⟩ := found
    exact .inr ⟨plain, rfl, isPlainWord_of_plainWord found, raw⟩
  case h_2 => exact .inl (isPlainWord_of_plainWord found)

theorem IsWord.ne_nil (isWord : IsWord text) : text ≠ [] := by
  rintro rfl
  rcases isWord with plain | ⟨_, equal, _⟩
  · exact plain
  · simp at equal

/-- The first character of a word begins an identifier. -/
theorem IsWord.eq_cons (isWord : IsWord text) :
    ∃ char rest, text = char :: rest ∧ isIdentifierStart char = true := by
  rcases isWord with plain | ⟨rest, rfl, -⟩
  · cases text with
    | nil => exact plain.elim
    | cons first rest => exact ⟨first, rest, rfl, plain.1⟩
  · exact ⟨'r', '#' :: rest, rfl, by decide⟩

theorem IsWord.colon_not_mem (isWord : IsWord text) : ':' ∉ text := by
  have plain : ∀ word, IsPlainWord word → ':' ∉ word := by
    intro word isPlain member
    cases word with
    | nil => exact isPlain.elim
    | cons first rest =>
        rcases List.mem_cons.mp member with rfl | inside
        · exact absurd isPlain.1 (by decide)
        · exact absurd (isPlain.2 ':' inside) (by decide)
  rcases isWord with isPlain | ⟨rest, rfl, isPlain, -⟩
  · exact plain text isPlain
  · simpa using plain rest isPlain

theorem IsWord.unbroken (isWord : IsWord text) : Unbroken text := by
  rcases isWord with plain | ⟨rest, rfl, plain, _⟩
  · exact plain.unbroken
  · simpa using ⟨by decide, by decide, plain.unbroken⟩

/-- A word may be lengthened by what does not end a word without raw form. -/
theorem IsWord.append (isWord : IsWord text)
    (continues : ∀ char ∈ suffix, isIdentifierContinue char = true)
    (apart : ∀ word ∈ unrawWords, ¬ suffix <:+ word.toList) : IsWord (text ++ suffix) := by
  rcases isWord with plain | ⟨rest, rfl, plain, _⟩
  · exact .inl (plain.append continues)
  · refine .inr ⟨rest ++ suffix, rfl, plain.append continues, fun unraw => ?_⟩
    exact apart _ unraw ⟨rest, by rw [String.toList_ofList]⟩

/-- One token begins a text; if it is an identifier, it is the word there. -/
structure Begins (text : List Char) (tokens : List Token) (after : List Char) : Prop where
  single : ∃ token, tokens = [token]
  word : ∀ spelled, tokens = [.identifier spelled] → word text = some (spelled.toList, after)

theorem begins_singleton {token : Token} (other : ∀ spelled, token ≠ .identifier spelled) :
    Begins text [token] after :=
  ⟨⟨token, rfl⟩, fun spelled equal => absurd (List.singleton_inj.mp equal) (other spelled)⟩

theorem begins_of_lifetimeAt (found : lifetimeAt rest = some (tokens, after)) :
    Begins text tokens after := by
  unfold lifetimeAt at found
  simp only [Option.bind_eq_bind, Option.bind_eq_some_iff, Prod.exists] at found
  obtain ⟨name, beyond, _, found⟩ := found
  grind [loneQuote, begins_singleton]

theorem begins_of_punctuationAt (found : punctuationAt text = some (tokens, after)) :
    Begins text tokens after := by
  unfold punctuationAt at found
  split at found
  case h_1 => exact begins_of_lifetimeAt found
  case h_2 =>
    obtain ⟨_, equal⟩ := Option.ite_none_right_eq_some.mp found
    obtain ⟨rfl, rfl⟩ := Prod.mk.inj (Option.some.inj equal)
    exact begins_singleton (by simp)
  case h_3 => simp at found

theorem begins_of_leafAt (found : leafAt text = some (tokens, after)) :
    Begins text tokens after := by
  unfold leafAt at found
  split at found
  case h_1 =>
    obtain ⟨rfl, rfl⟩ := Prod.mk.inj (Option.some.inj found)
    exact begins_singleton (by simp)
  case h_2 =>
    split at found
    case h_1 marked =>
      obtain rfl := Option.some.inj found
      exact begins_of_punctuationAt marked
    case h_2 =>
      obtain ⟨⟨name, rest⟩, named, equal⟩ := Option.map_eq_some_iff.mp found
      obtain ⟨rfl, rfl⟩ := Prod.mk.inj equal
      refine ⟨⟨_, rfl⟩, fun spelled same => ?_⟩
      obtain rfl : String.ofList name = spelled := by simpa using same
      rw [String.toList_ofList]
      exact (Option.ite_none_left_eq_some.mp named).2

/-- Where nothing is dropped, a text begins with a delimiter, the faulty literal or a
leaf. -/
theorem leafAt_of_nextTokens (solid : isBreak char = false)
    (next : nextTokens (char :: rest) = some (tokens, after)) :
    leafAt (char :: rest) = some (tokens, after) ∨ tokens = [.literal faultyLiteral] ∨
      ∃ delimiter, tokens = [.opening delimiter] ∨ tokens = [.closing delimiter] := by
  simp only [isBreak, Bool.or_eq_false_iff, beq_eq_false_iff_ne] at solid
  obtain ⟨⟨apart, noSlash⟩, _⟩ := solid
  have noComment : afterComment (char :: rest) = none := by
    unfold afterComment
    split <;> simp_all
  have noDocumentation : documentationAt (char :: rest) = none := by
    unfold documentationAt
    split <;> simp_all
  simp only [nextTokens, apart, noComment, noDocumentation, Bool.false_eq_true, if_false] at next
  split at next
  case h_1 =>
    obtain ⟨rfl, -⟩ := Prod.mk.inj (Option.some.inj next)
    exact .inr (.inl rfl)
  case h_2 =>
    split at next
    case h_1 =>
      obtain ⟨rfl, -⟩ := Prod.mk.inj (Option.some.inj next)
      exact .inr (.inr ⟨_, .inl rfl⟩)
    case h_2 =>
      obtain ⟨rfl, -⟩ := Prod.mk.inj (Option.some.inj next)
      exact .inr (.inr ⟨_, .inr rfl⟩)
    case h_3 => exact .inl next

theorem begins_of_nextTokens (solid : isBreak char = false)
    (next : nextTokens (char :: rest) = some (tokens, after)) :
    Begins (char :: rest) tokens after := by
  rcases leafAt_of_nextTokens solid next with leaf | rfl | ⟨delimiter, rfl | rfl⟩
  · exact begins_of_leafAt leaf
  all_goals exact begins_singleton (by simp)

theorem scan_cons (scanned : scan (char :: rest) = some tokens) :
    ∃ first after later, nextTokens (char :: rest) = some (first, after) ∧
      scan after = some later ∧ first ++ later = tokens := by
  unfold scan at scanned
  split at scanned
  case isTrue empty => simp at empty
  case isFalse =>
    split at scanned
    case h_1 => simp at scanned
    case h_2 first after next =>
      obtain ⟨_, equal⟩ := Option.ite_none_right_eq_some.mp scanned
      obtain ⟨later, scanned, joined⟩ := Option.map_eq_some_iff.mp equal
      exact ⟨first, after, later, next, scanned, joined⟩

/-- A mark that is read first stands first in the text. -/
theorem eq_of_leafAt {mark : Char} {joint : Bool}
    (leaf : leafAt (char :: rest) = some ([.punctuation mark joint], after)) : char = mark := by
  unfold leafAt at leaf
  split at leaf
  case h_1 => simp at leaf
  case h_2 =>
    split at leaf
    case h_2 => simp at leaf
    case h_1 marked =>
      obtain rfl := Option.some.inj leaf
      unfold punctuationAt at marked
      split at marked
      case h_1 equal =>
        -- Nothing but a lone quote is a mark where a lifetime might stand.
        obtain ⟨rfl, -⟩ := List.cons.inj equal
        simp only [lifetimeAt, Option.bind_eq_bind, Option.bind_eq_some_iff, Prod.exists] at marked
        obtain ⟨name, beyond, -, marked⟩ := marked
        grind [loneQuote]
      case h_2 equal =>
        obtain ⟨rfl, rfl⟩ := List.cons.inj equal
        obtain ⟨-, marked⟩ := Option.ite_none_right_eq_some.mp marked
        simp only [Option.some.injEq, Prod.mk.injEq, List.cons.injEq, punctuation.injEq] at marked
        exact marked.1.1.1
      case h_3 => simp at marked

theorem eq_of_scan {mark : Char} {joint : Bool} (solid : isBreak char = false)
    (scanned : scan (char :: rest) = some (.punctuation mark joint :: tokens)) : char = mark := by
  obtain ⟨first, after, later, next, -, joined⟩ := scan_cons scanned
  obtain ⟨token, rfl⟩ := (begins_of_nextTokens solid next).single
  obtain ⟨rfl, -⟩ := List.cons.inj joined
  rcases leafAt_of_nextTokens solid next with leaf | literal | ⟨delimiter, bracket | bracket⟩
  · exact eq_of_leafAt leaf
  · simp at literal
  all_goals simp at bracket

/-- Nothing in a text without breaks vanishes. -/
theorem eq_nil_of_scan (unbroken : Unbroken text) (scanned : scan text = some []) : text = [] := by
  cases text with
  | nil => rfl
  | cons char rest =>
      obtain ⟨first, after, later, next, _, joined⟩ := scan_cons scanned
      obtain ⟨token, rfl⟩ := (begins_of_nextTokens (unbroken_cons.mp unbroken).1 next).single
      simp at joined

/-- A text that begins with no break has its first word as it stands. -/
theorem word_of_scan {spelled : String} (solid : isBreak char = false)
    (scanned : scan (char :: rest) = some (.identifier spelled :: tokens)) :
    ∃ after, word (char :: rest) = some (spelled.toList, after) ∧ scan after = some tokens := by
  obtain ⟨first, after, later, next, behind, joined⟩ := scan_cons scanned
  have begins := begins_of_nextTokens solid next
  obtain ⟨token, rfl⟩ := begins.single
  obtain ⟨rfl, rfl⟩ : token = .identifier spelled ∧ later = tokens := by simpa using joined
  exact ⟨after, begins.word spelled rfl, behind⟩

theorem isWord_of_scan {spelled : String} (unbroken : Unbroken text)
    (scanned : scan text = some [.identifier spelled]) : IsWord text := by
  cases text with
  | nil => simp [scan] at scanned
  | cons char rest =>
      obtain ⟨after, named, scanned⟩ := word_of_scan (unbroken_cons.mp unbroken).1 scanned
      have unbrokenAfter : Unbroken after := by
        rw [← word_append named, unbroken_append] at unbroken
        exact unbroken.2
      obtain rfl := eq_nil_of_scan unbrokenAfter scanned
      exact word_eq_nil.mp ⟨_, named⟩

theorem scan_of_ofSource? {source : String} (read : ofSource? source = some tokens)
    (unmarked : source.toList.head? ≠ some '\ufeff') : scan source.toList = some tokens := by
  obtain ⟨scanned, -⟩ := Option.filter_eq_some_iff.mp read
  split at scanned
  case h_1 marked => simp [marked] at unmarked
  case h_2 => exact scanned

theorem unmarked_of_solid (solid : ∀ char ∈ text.head?, isBreak char = false) :
    text.head? ≠ some '\ufeff' :=
  fun marked => absurd (solid _ marked) (by decide)

/-- The first word of a source text that begins with no break. -/
theorem word_of_ofSource? {source spelled : String} {tokens : List Token}
    (read : ofSource? source = some (.identifier spelled :: tokens))
    (solid : ∀ char ∈ source.toList.head?, isBreak char = false) :
    ∃ after, word source.toList = some (spelled.toList, after) := by
  have scanned := scan_of_ofSource? read (unmarked_of_solid solid)
  cases text : source.toList with
  | nil => simp [text, scan] at scanned
  | cons char rest =>
      rw [text] at scanned
      obtain ⟨after, found, -⟩ := word_of_scan (solid char (by simp [text])) scanned
      exact ⟨after, found⟩

end Token

namespace Surface

theorem isWord_eq_true {text : String} : isWord text = true ↔ Token.IsWord text.toList := by
  rw [← Token.word_eq_nil]
  unfold isWord
  split
  case h_1 name equal => simp [equal]
  case h_2 other => simpa using other

variable {text suffix : String}

theorem readsAsName_eq_true : readsAsName text = true ↔
    ∃ word, Token.ofSource? text = some [.identifier word] ∧ word ∉ keywords := by
  unfold readsAsName
  split
  case h_1 word source => simp [source]
  case h_2 other =>
    constructor
    · intro reads
      cases reads
    · rintro ⟨word, source, _⟩
      exact absurd source (other word)

theorem isWord_iff_unbroken (reads : readsAsName text = true) :
    isWord text = true ↔ Token.Unbroken text.toList := by
  rw [isWord_eq_true]
  refine ⟨Token.IsWord.unbroken, fun unbroken => ?_⟩
  obtain ⟨spelled, source, -⟩ := readsAsName_eq_true.mp reads
  have unmarked := Token.unmarked_of_solid fun char isFirst =>
    unbroken char (List.mem_of_mem_head? isFirst)
  exact Token.isWord_of_scan unbroken (Token.scan_of_ofSource? source unmarked)

/-- A name may be lengthened as far as it may be printed. -/
theorem isWord_append_iff (reads : readsAsName text = true)
    (continues : suffix.toList.all Text.isIdentifierContinue = true)
    (apart : ∀ word ∈ Token.unrawWords, ¬ suffix.toList <:+ word.toList) :
    isWord (text ++ suffix) = true ↔ Token.Unbroken text.toList := by
  rw [isWord_eq_true, String.toList_append]
  constructor
  · intro isWord
    exact (Token.unbroken_append.mp isWord.unbroken).1
  · intro unbroken
    have isWord := isWord_eq_true.mp ((isWord_iff_unbroken reads).mpr unbroken)
    exact isWord.append (List.all_eq_true.mp continues) apart

end Surface

end InterfaceWitness
