import InterfaceWitness.Lowering
import InterfaceWitness.Proofs.Surface.Running
import InterfaceWitness.Proofs.Token.Scanning

/-!
Reading paths: what a path that was read begins with, and that the text of a
path of names reads as the path.
-/

namespace InterfaceWitness.Surface

open Reader Token

variable {inner : Nested} {inExpression : Bool} {stream rest : Stream} {later : List Token}
  {leftOver : Option Delimiter} {name : String} {names : List String} {rooted : Bool}

/-- The keywords that a segment of a path may be, but for the one of a type. -/
def segmentWords : List String := ["super", "self", "crate", "try"]

/-- The names that a segment with arguments may have. -/
def IsTypeName (name : String) : Prop := name = "Self" ∨ name ∉ keywords

instance (name : String) : Decidable (IsTypeName name) := inferInstanceAs (Decidable (_ ∨ _))

/-- The names that a segment may have. -/
def IsSegmentName (name : String) : Prop := name ∈ segmentWords ∨ IsTypeName name

instance (name : String) : Decidable (IsSegmentName name) := inferInstanceAs (Decidable (_ ∨ _))

theorem IsTypeName.not_mem_segmentWords (named : IsTypeName name) : name ∉ segmentWords := by
  intro member
  have absurd : ∀ word ∈ segmentWords, ¬ IsTypeName word := by decide
  exact absurd name member named

/-- A name with some property is none of the words without it. -/
theorem ne_of_apart {property : String → Prop} {words : List String}
    (apart : ∀ word ∈ words, ¬ property word) (holds : property name) :
    ∀ word ∈ words, name ≠ word := by
  rintro word member rfl
  exact apart name member holds

/-- Where a type begins as a path does. -/
def startsPathType (tokens : List Token) : Bool :=
  startsModuleWord tokens || startsPathSeparator tokens

theorem startsPathType_identifier :
    startsPathType (.identifier name :: later) = true ↔ name ∉ keywords ∨ name ∈ rootWords := by
  simp [startsPathType, startsModuleWord, startsName, startsWordOf, startsPathSeparator,
    startsOperator]

/-- A segment begins with its name.  It has arguments only if it is called
like a type. -/
theorem segment_eq_ok {found : Segment}
    (read : segment inner inExpression stream = .ok (found, rest)) :
    (∃ later, stream.tokens = .identifier found.name :: later) ∧
    ((∃ name, found = .plain name ∧ IsSegmentName name ∧ rest = stream.after 1) ∨
      ∃ name separated arguments count,
        found = .applied name separated arguments.items arguments.trailing ∧ IsTypeName name ∧
        angleArguments inner (stream.after count) = .ok (arguments, rest)) := by
  simp only [segment, look_bind, ite_eq_ok, bind_eq_ok, pure_eq_ok, anyWord_eq_ok, nameOr_eq_ok,
    operator_eq_ok, List.mem_singleton] at read
  rcases read with
    ⟨starts, name, _, ⟨later, begun, rfl⟩, rfl, rfl⟩
    | ⟨-, name, _, ⟨later, begun, named, rfl⟩, read⟩
  · refine ⟨⟨later, begun⟩, .inl ⟨name, rfl, .inl ?_, rfl⟩⟩
    simpa [startsWordOf, begun, segmentWords] using starts
  · rcases read with
      ⟨-, arguments, _, read, rfl, rfl⟩
      | ⟨-, ⟨-, _, _, ⟨-, -, rfl⟩, arguments, _, read, rfl, rfl⟩ | ⟨-, rfl, rfl⟩⟩
    · exact ⟨⟨later, begun⟩, .inr ⟨name, false, arguments, 1, rfl, named, read⟩⟩
    · rw [Stream.after_after] at read
      exact ⟨⟨later, begun⟩, .inr ⟨name, true, arguments, _, rfl, named, read⟩⟩
    · exact ⟨⟨later, begun⟩, .inl ⟨name, rfl, .inr named, rfl⟩⟩

theorem isSegmentName_of_segment {found : Segment}
    (read : segment inner inExpression stream = .ok (found, rest)) : IsSegmentName found.name := by
  obtain ⟨-, ⟨name, rfl, named, -⟩ | ⟨name, _, _, _, rfl, isType, -⟩⟩ := segment_eq_ok read
  · exact named
  · exact .inr isType

/-- A path begins with the name of its first segment, behind the separator if it
has one in front. -/
theorem path_begins {found : Path} (read : path inner inExpression stream = .ok (found, rest)) :
    found.rooted = startsPathSeparator stream.tokens ∧
      (∀ segment ∈ found.segments, IsSegmentName segment.name) ∧
      ∃ first more later, found.segments = first :: more ∧
        stream.tokens.drop (if found.rooted then 2 else 0) = .identifier first.name :: later := by
  simp only [path, bind_eq_ok, operator?_run, pure_eq_ok] at read
  obtain ⟨root, start, rooted, first, behind, isFirst, segments, _, others, rfl, rfl⟩ := read
  obtain ⟨kept, named⟩ : segments.head? = some first ∧
      ∀ segment ∈ segments, IsSegmentName segment.name := by
    refine Reads.extend (fun segments _ => segments.head? = some first ∧
      ∀ segment ∈ segments, IsSegmentName segment.name) (fun before => ?_) [first] _ _ _
      ⟨rfl, by simpa using isSegmentName_of_segment isFirst⟩ others
    refine .given fun ⟨headed, named⟩ => .look fun goesOn => .ite (fun _ => ?_) fun _ =>
      .pure fun _ _ => ⟨headed, named⟩
    refine .skip fun separator => .through (fun added _ => IsSegmentName added.name)
      (fun _ _ _ _ => isSegmentName_of_segment) fun added => .pure fun _ isNamed => ?_
    exact ⟨by simp [headed], List.forall_mem_append.mpr
      ⟨named, List.forall_mem_singleton.mpr isNamed⟩⟩
  obtain ⟨more, rfl⟩ := List.head?_eq_some_iff.mp kept
  obtain ⟨later, begun⟩ := (segment_eq_ok isFirst).1
  split at rooted
  case isTrue separated =>
    obtain ⟨rfl, rfl⟩ := Prod.mk.inj (Except.ok.inj rooted)
    exact ⟨separated.symm, named, first, more, later, rfl, begun⟩
  case isFalse apart =>
    obtain ⟨rfl, rfl⟩ := Prod.mk.inj (Except.ok.inj rooted)
    exact ⟨(Bool.eq_false_iff.mpr apart).symm, named, first, more, later, rfl, begun⟩

/-- A path without a separator in front begins with the name of its first
segment. -/
theorem path_eq_ok {found : Path} (read : path inner inExpression stream = .ok (found, rest))
    (unrooted : found.rooted = false) :
    ∃ first more later, found.segments = first :: more ∧
      stream.tokens = .identifier first.name :: later := by
  obtain ⟨-, -, first, more, later, segments, begun⟩ := path_begins read
  exact ⟨first, more, later, segments, by simpa [unrooted] using begun⟩

theorem Path.ofText_eq_ok_iff {text : String} {found : Path} :
    Path.ofText text = .ok found ↔
      ∃ tokens, ofSource? text = some tokens ∧ Path.ofTokens tokens = .ok found := by
  unfold Path.ofText
  split
  case h_1 source => simp [source]
  case h_2 tokens source => simp [source]

theorem exists_of_startsPathSeparator {tokens : List Token}
    (starts : startsPathSeparator tokens = true) :
    ∃ joint later, tokens = .punctuation ':' joint :: later := by
  cases tokens with
  | nil => cases starts
  | cons first later =>
      cases first with
      | punctuation char joint =>
          cases joint with
          | false => cases starts
          | true =>
              obtain ⟨isColon, -⟩ : char = ':' ∧ startsOperator [':'] later = true := by
                simpa [startsPathSeparator, startsOperator] using starts
              exact ⟨true, later, by rw [isColon]⟩
      | _ => cases starts

/-- A path has a separator in front only if its text begins with a colon or with
something that reading drops. -/
theorem Path.rooted_eq_false {text : String} {found : Path} (read : Path.ofText text = .ok found)
    (solid : ∀ char ∈ text.toList.head?, isBreak char = false)
    (apart : text.toList.head? ≠ some ':') : found.rooted = false := by
  by_contra isRooted
  rw [Bool.not_eq_false] at isRooted
  obtain ⟨tokens, source, read⟩ := Path.ofText_eq_ok_iff.mp read
  obtain ⟨rooted, -⟩ := path_begins (run_eq_ok.mp read)
  obtain ⟨joint, later, rfl⟩ := exists_of_startsPathSeparator (rooted.symm.trans isRooted)
  have scanned := scan_of_ofSource? source (unmarked_of_solid solid)
  cases spelled : text.toList with
  | nil =>
      rw [spelled, scan_nil] at scanned
      cases scanned
  | cons char rest =>
      rw [spelled] at scanned solid apart
      exact apart (congrArg some (eq_of_scan (solid char rfl) scanned))

/-- What neither gives a segment arguments nor goes on with them. -/
structure EndsSegment (later : List Token) : Prop where
  arguments : startsArguments later = false
  separated : (startsPathSeparator later && startsOperator ['<'] (behind (behind later))) = false

theorem segment_plain (named : IsSegmentName name) (ends : EndsSegment later) :
    segment inner false ⟨.identifier name :: later, leftOver⟩
      = .ok (.plain name, ⟨later, leftOver⟩) := by
  simp only [segment, look_bind, ite_eq_ok, bind_eq_ok, pure_eq_ok, anyWord_eq_ok, nameOr_eq_ok,
    List.mem_singleton]
  by_cases isWord : name ∈ segmentWords
  · exact .inl ⟨by simpa [startsWordOf, segmentWords] using isWord, name, _, ⟨later, rfl, rfl⟩,
      rfl, rfl⟩
  · refine .inr ⟨by simpa [startsWordOf, segmentWords] using isWord, name, _,
      ⟨later, rfl, named.resolve_left isWord, rfl⟩, .inr ⟨?_, .inr ⟨?_, rfl, rfl⟩⟩⟩
    · simp [Stream.after, ends.arguments]
    · simp [Stream.after, ends.separated]

theorem segment_applied {arguments : Separated Argument} (named : IsTypeName name)
    (opens : startsArguments later = true)
    (read : angleArguments inner ⟨later, leftOver⟩ = .ok (arguments, rest)) :
    segment inner false ⟨.identifier name :: later, leftOver⟩
      = .ok (.applied name false arguments.items arguments.trailing, rest) := by
  simp only [segment, look_bind, ite_eq_ok, bind_eq_ok, pure_eq_ok, nameOr_eq_ok,
    List.mem_singleton]
  refine .inr ⟨?_, name, _, ⟨later, rfl, named, rfl⟩,
    .inl ⟨?_, arguments, rest, read, rfl, rfl⟩⟩
  · simpa [startsWordOf, segmentWords] using named.not_mem_segmentWords
  · simp [Stream.after, opens]

/-- Tokens that read as a segment where nothing goes on with it. -/
structure Spells (inner : Nested) (tokens : List Token) (found : Segment) : Prop where
  begins : ∃ name more, tokens = .identifier name :: more
  reads : ∀ later leftOver, EndsSegment later →
    segment inner false ⟨tokens ++ later, leftOver⟩ = .ok (found, ⟨later, leftOver⟩)

theorem spells_plain (named : IsSegmentName name) :
    Spells inner [.identifier name] (.plain name) :=
  ⟨⟨name, [], rfl⟩, fun _ _ ends => segment_plain named ends⟩

/-- Segments with a separator before each. -/
def separatedSegments (segments : List (List Token × Segment)) : List Token :=
  segments.flatMap fun entry => pathSeparator ++ entry.1

section Segments

variable {others : List (List Token × Segment)}

theorem endsSegment_separated (spelled : ∀ entry ∈ others, Spells inner entry.1 entry.2)
    (ends : EndsSegment later) : EndsSegment (separatedSegments others ++ later) := by
  cases others with
  | nil => exact ends
  | cons entry rest =>
      obtain ⟨name, more, begun⟩ := (spelled entry (List.mem_cons_self ..)).begins
      have separator : ∀ more, EndsSegment (pathSeparator ++ .identifier name :: more) :=
        fun _ => ⟨rfl, rfl⟩
      simpa [separatedSegments, begun] using separator _

theorem extend_segments {before : List Segment}
    (spelled : ∀ entry ∈ others, Spells inner entry.1 entry.2) (ends : EndsSegment later)
    (stops : startsSegment later = false) :
    extend (fun segments => do
        if ← look startsSegment then
          let _ ← Reader.operator [':', ':']
          pure (some (segments ++ [← segment inner false]))
        else
          pure none) before ⟨separatedSegments others ++ later, leftOver⟩
      = .ok (before ++ others.map Prod.snd, ⟨later, leftOver⟩) := by
  induction others generalizing before with
  | nil =>
      rw [extend_done ⟨later, leftOver⟩]
      · simp
      · simp only [look_bind, ite_eq_ok, pure_eq_ok]
        exact .inr ⟨by simpa [separatedSegments] using stops, trivial, rfl⟩
  | cons entry rest inductionHypothesis =>
      obtain ⟨⟨name, more, begun⟩, read⟩ := spelled entry (List.mem_cons_self ..)
      have others : ∀ entry ∈ rest, Spells inner entry.1 entry.2 := fun other member =>
        spelled other (List.mem_cons_of_mem _ member)
      have separator : separatedSegments (entry :: rest) ++ later
          = .punctuation ':' true :: .punctuation ':' false
            :: (entry.1 ++ (separatedSegments rest ++ later)) := by
        simp [separatedSegments, pathSeparator, Token.operator]
      have stepped := read (separatedSegments rest ++ later) leftOver
        (endsSegment_separated others ends)
      rw [separator, extend_more (before ++ [entry.2])
        ⟨separatedSegments rest ++ later, leftOver⟩, inductionHypothesis others]
      · simp
      · simp only [look_bind, ite_eq_ok, bind_eq_ok, pure_eq_ok, operator_eq_ok]
        exact .inl ⟨by rw [begun]; rfl, _, _, ⟨rfl, rfl, rfl⟩, entry.2, _, stepped, rfl, rfl⟩
      · simp
        omega

/-- Segments that are spelled one after another read as a path. -/
theorem path_run (rooted : Bool) (leftOver : Option Delimiter) (first : List Token × Segment)
    (others : List (List Token × Segment)) (isFirst : Spells inner first.1 first.2)
    (spelled : ∀ entry ∈ others, Spells inner entry.1 entry.2) (ends : EndsSegment later)
    (stops : startsSegment later = false) :
    path inner false ⟨(if rooted then pathSeparator else []) ++ first.1
        ++ separatedSegments others ++ later, leftOver⟩
      = .ok (⟨rooted, first.2 :: others.map Prod.snd⟩, ⟨later, leftOver⟩) := by
  obtain ⟨name, more, begun⟩ := isFirst.begins
  have read := isFirst.reads (separatedSegments others ++ later) leftOver
    (endsSegment_separated spelled ends)
  have root : operator? [':', ':'] ⟨(if rooted then pathSeparator else []) ++ first.1
        ++ separatedSegments others ++ later, leftOver⟩
      = .ok (if rooted then pathSeparator else [],
        ⟨first.1 ++ (separatedSegments others ++ later), leftOver⟩) := by
    rw [operator?_run]
    cases rooted
    · rw [if_neg (by simp [begun, startsOperator])]
      simp
    · rw [if_pos (by simp [begun]; rfl)]
      simp [Stream.after, pathSeparator, Token.operator]
  simp only [path, bind_eq_ok, pure_eq_ok]
  refine ⟨_, _, root, first.2, _, read, _, _, extend_segments spelled ends stops, ?_, rfl⟩
  cases rooted <;> simp [pathSeparator, Token.operator]

end Segments

/-- The tokens of a path of plain names. -/
def nameTokens (rooted : Bool) (names : List String) : List Token :=
  (if rooted then pathSeparator else [])
    ++ match names with
      | [] => []
      | first :: more => .identifier first :: separatedNames more

theorem separatedSegments_plain (names : List String) :
    separatedSegments (names.map fun name => ([.identifier name], .plain name))
      = separatedNames names := by
  simp [separatedSegments, separatedNames, List.flatMap_map]

theorem tokens_plain (rooted : Bool) (names : List String) :
    Path.tokens ⟨rooted, names.map Segment.plain⟩ = nameTokens rooted names := by
  unfold Path.tokens nameTokens
  congr 1
  cases names with
  | nil => rfl
  | cons name rest =>
      induction rest generalizing name with
      | nil => rfl
      | cons next rest inductionHypothesis =>
          have later := inductionHypothesis next
          simp only [List.map_cons] at later
          simp [Segment.tokensOfAll, Segment.tokens, separatedNames, later]

theorem balanced_separatedNames (names : List String) :
    balanced [] (separatedNames names) = true := by
  induction names with
  | nil => rfl
  | cons name rest inductionHypothesis =>
      have begun : separatedNames (name :: rest)
          = .punctuation ':' true :: .punctuation ':' false :: .identifier name
            :: separatedNames rest := by simp [separatedNames, pathSeparator, Token.operator]
      rw [begun]
      simpa [balanced] using inductionHypothesis

theorem ofSource?_of_scan {source : String} {tokens : List Token}
    (unmarked : source.toList.head? ≠ some '\ufeff') (scanned : scan source.toList = some tokens)
    (isBalanced : balanced [] tokens = true) : ofSource? source = some tokens := by
  simp only [ofSource?, Option.filter_eq_some_iff]
  refine ⟨?_, isBalanced⟩
  split
  case h_1 marked => simp [marked] at unmarked
  case h_2 => exact scanned

theorem toList_pathText (rooted : Bool) (name : String) (names : List String) :
    (pathText rooted (name :: names)).toList
      = (if rooted then [':', ':'] else []) ++ (name.toList ++ separatedText names) := by
  rw [pathText, String.toList_append, toList_intercalate_separator]
  cases rooted <;> rfl

/-- The text of a path of words reads as their tokens. -/
theorem ofSource?_pathText (nonempty : names ≠ []) (words : ∀ word ∈ names, isWord word = true) :
    ofSource? (pathText rooted names) = some (nameTokens rooted names) := by
  obtain ⟨name, names, rfl⟩ := List.exists_cons_of_ne_nil nonempty
  have spelled := isWord_eq_true.mp (words name (List.mem_cons_self ..))
  have scanned := scan_word_separatedText spelled fun later member =>
    isWord_eq_true.mp (words later (List.mem_cons_of_mem _ member))
  obtain ⟨char, rest, begun, start⟩ := spelled.eq_cons
  have solid := isBreak_of_isIdentifierStart start
  apply ofSource?_of_scan
  · rw [toList_pathText]
    cases rooted with
    | true => simp
    | false =>
        rw [begun]
        intro equal
        obtain rfl : char = '\ufeff' := by simpa using equal
        exact absurd solid (by decide)
  · rw [toList_pathText]
    cases rooted with
    | true =>
        simpa [scanned, nameTokens] using scan_separator_word (separatedText names) spelled
    | false => simpa [nameTokens] using scanned
  · cases rooted <;> simpa [nameTokens, balanced, pathSeparator, Token.operator] using
      balanced_separatedNames names

/-- The names of a path as a declaration may have it. -/
structure LegalNames (rooted : Bool) (names : List String) : Prop where
  nonempty : names ≠ []
  words : ∀ name ∈ names, isWord name = true
  named : ∀ name ∈ names, IsSegmentName name
  /-- No type begins with the word `try`. -/
  start : rooted = false → names.head? ≠ some "try"

/-- The tokens of names that a path may have read as the path of the names. -/
theorem path_nameTokens (nonempty : names ≠ []) (named : ∀ name ∈ names, IsSegmentName name)
    (ends : EndsSegment later) (stops : startsSegment later = false) :
    path inner false ⟨nameTokens rooted names ++ later, leftOver⟩
      = .ok (⟨rooted, names.map .plain⟩, ⟨later, leftOver⟩) := by
  obtain ⟨first, more, rfl⟩ := List.exists_cons_of_ne_nil nonempty
  have spelled : ∀ entry ∈ more.map fun name => ([Token.identifier name], Segment.plain name),
      Spells inner entry.1 entry.2 := by
    intro entry member
    obtain ⟨name, isName, rfl⟩ := List.mem_map.mp member
    exact spells_plain (named name (List.mem_cons_of_mem _ isName))
  have read := path_run rooted leftOver ([.identifier first], .plain first) _
    (spells_plain (named first (List.mem_cons_self ..))) spelled ends stops
  rw [separatedSegments_plain] at read
  simpa [nameTokens, Function.comp_def] using read

theorem ofTokens_nameTokens (nonempty : names ≠ [])
    (named : ∀ name ∈ names, IsSegmentName name) :
    Path.ofTokens (nameTokens rooted names) = .ok ⟨rooted, names.map .plain⟩ := by
  have read : path (.forStream (nameTokens rooted names)) false
        ⟨nameTokens rooted names ++ [], none⟩ = .ok (⟨rooted, names.map .plain⟩, ⟨[], none⟩) :=
    path_nameTokens nonempty named ⟨rfl, rfl⟩ rfl
  rw [List.append_nil] at read
  exact run_eq_ok.mpr read

theorem Segment.exists_tokens (segment : Segment) :
    ∃ later, segment.tokens = .identifier segment.name :: later := by
  cases segment with
  | plain name => exact ⟨[], rfl⟩
  | applied name separated arguments trailing => simp [Segment.tokens, Segment.name]

/-- A path is printed with a separator in front just if it is rooted. -/
theorem Path.startsPathSeparator_tokens {found : Path} (nonempty : found.segments ≠ []) :
    startsPathSeparator found.tokens = found.rooted := by
  obtain ⟨rooted, segments⟩ := found
  obtain ⟨first, more, rfl⟩ := List.exists_cons_of_ne_nil nonempty
  obtain ⟨later, begun⟩ := first.exists_tokens
  cases rooted with
  | true => rfl
  | false => cases more <;> simp [Path.tokens, Segment.tokensOfAll, begun, startsPathSeparator,
      startsOperator]

theorem Segment.map_plain {segments : List Segment}
    (plain : ∀ segment ∈ segments, segment.isPlain = true) :
    (segments.map Segment.name).map .plain = segments := by
  have same : ∀ segment ∈ segments, (Segment.plain ∘ Segment.name) segment = id segment := by
    intro segment member
    cases segment with
    | plain name => rfl
    | applied name separated arguments trailing => cases plain _ member
  calc (segments.map Segment.name).map .plain
      = segments.map (Segment.plain ∘ Segment.name) := List.map_map
    _ = segments.map id := List.map_congr_left same
    _ = segments := List.map_id segments

/-- A path of names that may stand in one is read again as it was printed. -/
theorem Path.ofTokens_tokens {found : Path} (nonempty : found.segments ≠ [])
    (named : ∀ segment ∈ found.segments, IsSegmentName segment.name)
    (plain : ∀ segment ∈ found.segments, segment.isPlain = true) :
    Path.ofTokens found.tokens = .ok found := by
  obtain ⟨rooted, segments⟩ := found
  have printed : Path.tokens ⟨rooted, segments⟩
      = nameTokens rooted (segments.map Segment.name) := by
    rw [← tokens_plain, Segment.map_plain plain]
  have read : Path.ofTokens (nameTokens rooted (segments.map Segment.name))
      = .ok ⟨rooted, (segments.map Segment.name).map .plain⟩ :=
    ofTokens_nameTokens (by simpa using nonempty) (List.forall_mem_map.mpr named)
  rw [printed, read, Segment.map_plain plain]

theorem ofText_pathText (legal : LegalNames rooted names) :
    Path.ofText (pathText rooted names) = .ok ⟨rooted, names.map .plain⟩ := by
  rw [Path.ofText, ofSource?_pathText legal.nonempty legal.words]
  exact ofTokens_nameTokens legal.nonempty legal.named

end InterfaceWitness.Surface
