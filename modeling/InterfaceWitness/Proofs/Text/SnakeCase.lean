import InterfaceWitness.Text.SnakeCase

/-!
The shape of a name in snake case: words that are joined by single underscores,
none of them empty.
-/

namespace InterfaceWitness.Text

variable {char sign : Char} {text word run piece : List Char} {mode : CaseMode}

/-- What is cut has the properties that all characters have. -/
theorem forall_of_mem_cutWords {property : Char → Prop} (begun : ∀ char ∈ word, property char)
    (holds : ∀ char ∈ run, property char) (member : piece ∈ cutWords mode word run) :
    ∀ char ∈ piece, property char := by
  fun_induction cutWords mode word run with
  | case1 => simp at member
  | case2 mode word last =>
      obtain rfl := List.mem_singleton.mp member
      exact List.forall_mem_append.mpr ⟨begun, holds⟩
  | case3 mode word char next rest _ inductionHypothesis =>
      rw [List.forall_mem_cons] at holds
      rcases List.mem_cons.mp member with rfl | later
      · exact List.forall_mem_append.mpr ⟨begun, by simpa using holds.1⟩
      · exact inductionHypothesis (by simp) holds.2 later
  | case4 mode word char next rest _ _ inductionHypothesis =>
      rw [List.forall_mem_cons] at holds
      rcases List.mem_cons.mp member with rfl | later
      · exact begun
      · exact inductionHypothesis (by simpa using holds.1) holds.2 later
  | case5 mode word char next rest _ _ inductionHypothesis =>
      rw [List.forall_mem_cons] at holds
      exact inductionHypothesis
        (List.forall_mem_append.mpr ⟨begun, by simpa using holds.1⟩) holds.2 member

/-- A cut that is made in front of an uppercase letter leaves another one
behind. -/
theorem ne_nil_of_mem_cutWords (begun : mode = .upper → word ≠ [])
    (member : piece ∈ cutWords mode word run) : piece ≠ [] := by
  fun_induction cutWords mode word run with
  | case1 => simp at member
  | case2 mode word last =>
      obtain rfl := List.mem_singleton.mp member
      simp
  | case3 mode word char next rest _ inductionHypothesis =>
      rcases List.mem_cons.mp member with rfl | later
      · simp
      · exact inductionHypothesis (by simp) later
  | case4 mode word char next rest _ cut inductionHypothesis =>
      rcases List.mem_cons.mp member with rfl | later
      · exact begun cut.1
      · exact inductionHypothesis (by simp) later
  | case5 mode word char next rest _ _ inductionHypothesis =>
      exact inductionHypothesis (by simp) member

theorem ne_nil_of_mem_words (member : word ∈ words text) : word ≠ [] := by
  obtain ⟨run, _, cut⟩ := List.mem_flatMap.mp member
  exact ne_nil_of_mem_cutWords (by simp) cut

theorem isAlphanumeric_of_mem_words (member : word ∈ words text) :
    ∀ char ∈ word, isAlphanumeric char = true := by
  obtain ⟨run, isRun, cut⟩ := List.mem_flatMap.mp member
  exact forall_of_mem_cutWords (by simp) (splitRuns_keep isRun) cut

theorem ofNat_ne {code : Nat} (proper : sign ≠ '\x00') (different : code ≠ sign.toNat) :
    Char.ofNat code ≠ sign := by
  by_cases valid : code.isValidChar
  · have made : Char.ofNat code = Char.ofNatAux code valid := dif_pos valid
    rw [made]
    rintro rfl
    exact different rfl
  · have null : Char.ofNat code = '\x00' := dif_neg valid
    rw [null]
    exact proper.symm

theorem CaseRun.underscore_lt_lower? {caseRun : CaseRun} {code lower : Nat}
    (isRun : caseRun ∈ caseRuns) (mapped : caseRun.lower? code = some lower) :
    '_'.toNat < lower := by
  have above : ∀ caseRun ∈ caseRuns, '_'.toNat < caseRun.target := by decide +kernel
  have beyond := above caseRun isRun
  unfold lower? at mapped
  split at mapped <;> simp only [Option.some.injEq, reduceCtorEq] at mapped
  omega

/-- All letters with a lowercase form have it beyond the underscore. -/
theorem not_mem_lowercase (proper : sign ≠ '\x00') (low : sign.toNat ≤ '_'.toNat)
    (different : sign ≠ char) : sign ∉ lowercase char := by
  unfold lowercase
  split
  case isTrue =>
    have beyond : ∀ letter ∈ ['i', '\u0307'], '_'.toNat < letter.toNat := by simp
    intro member
    exact absurd low (Nat.not_le.mpr (beyond sign member))
  case isFalse =>
    split
    case h_1 code found =>
      obtain ⟨caseRun, isRun, mapped⟩ := List.exists_of_findSome?_eq_some found
      have beyond := CaseRun.underscore_lt_lower? isRun mapped
      have apart : Char.ofNat code ≠ sign := ofNat_ne proper (by omega)
      simpa using apart.symm
    case h_2 => simpa using different

theorem lowercase_ne_nil : lowercase char ≠ [] := by
  unfold lowercase
  split
  case isTrue => decide
  case isFalse => split <;> simp

theorem not_mem_lowercaseWord (proper : sign ≠ '\x00') (low : sign.toNat ≤ '_'.toNat)
    (absent : sign ∉ word) : sign ∉ lowercaseWord word := by
  fun_induction lowercaseWord word with
  | case1 => exact absent
  | case2 =>
      rw [List.mem_singleton]
      rintro rfl
      exact absurd low (by decide)
  | case3 char rest _ inductionHypothesis =>
      rw [List.mem_cons, not_or] at absent
      rw [List.mem_append, not_or]
      exact ⟨not_mem_lowercase proper low absent.1, inductionHypothesis absent.2⟩

theorem lowercaseWord_ne_nil (begun : word ≠ []) : lowercaseWord word ≠ [] := by
  fun_cases lowercaseWord word with
  | case1 => exact begun
  | case2 => decide
  | case3 char rest => simp [lowercase_ne_nil]

/-- A name in snake case is words, none of them empty and none with an
underscore in it, with one underscore between any two. -/
theorem exists_words_snakeCase (name : String) : ∃ pieces : List (List Char),
    (snakeCase name).toList = ['_'].intercalate pieces ∧
      ∀ piece ∈ pieces, piece ≠ [] ∧ '_' ∉ piece := by
  refine ⟨(words name.toList).map lowercaseWord, by rw [snakeCase, String.toList_ofList], ?_⟩
  intro piece member
  obtain ⟨word, isWord, rfl⟩ := List.mem_map.mp member
  have absent : '_' ∉ word := by
    intro present
    have alphanumeric := isAlphanumeric_of_mem_words isWord '_' present
    revert alphanumeric
    decide
  exact ⟨lowercaseWord_ne_nil (ne_nil_of_mem_words isWord),
    not_mem_lowercaseWord (by decide) (by decide) absent⟩

theorem head?_snakeCase (name : String) : (snakeCase name).toList.head? ≠ some '_' := by
  obtain ⟨pieces, joined, shape⟩ := exists_words_snakeCase name
  rw [joined]
  cases pieces with
  | nil => simp
  | cons first rest =>
      obtain ⟨begun, absent⟩ := shape first (List.mem_cons_self ..)
      cases first with
      | nil => exact absurd rfl begun
      | cons char others =>
          have different : char ≠ '_' := by
            rintro rfl
            simp at absent
          cases rest <;> simp [List.intercalate_cons_cons, different]

theorem forall_mem_intercalate {property : Char → Prop} {separator : List Char}
    {pieces : List (List Char)} (between : ∀ char ∈ separator, property char)
    (holds : ∀ piece ∈ pieces, ∀ char ∈ piece, property char) :
    ∀ char ∈ separator.intercalate pieces, property char := by
  induction pieces with
  | nil => simp
  | cons first rest inductionHypothesis =>
      have begun := holds first (List.mem_cons_self ..)
      have later := inductionHypothesis fun piece member =>
        holds piece (List.mem_cons_of_mem _ member)
      cases rest with
      | nil => simpa using begun
      | cons next others =>
          rw [List.intercalate_cons_cons]
          intro char member
          rcases List.mem_append.mp member with inside | behind
          · exact (List.mem_append.mp inside).elim (begun char) (between char)
          · exact later char behind

theorem numberSign_not_mem_snakeCase (name : String) : '#' ∉ (snakeCase name).toList := by
  have differs : ∀ char ∈ (snakeCase name).toList, char ≠ '#' := by
    rw [snakeCase, String.toList_ofList]
    refine forall_mem_intercalate (by simp) fun piece member => ?_
    obtain ⟨word, isWord, rfl⟩ := List.mem_map.mp member
    have absent : '#' ∉ word := fun present =>
      absurd (isAlphanumeric_of_mem_words isWord '#' present) (by decide)
    rintro char present rfl
    exact not_mem_lowercaseWord (by decide) (by decide) absent present
  exact fun present => differs '#' present rfl

end InterfaceWitness.Text
