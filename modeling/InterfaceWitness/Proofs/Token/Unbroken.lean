import InterfaceWitness.Proofs.Text.SnakeCase
import InterfaceWitness.Token.Reading

/-!
Texts with nothing in them that vanishes when they are read.
-/

namespace InterfaceWitness

namespace Text

/-- The members of a set whose last boundary ends it. -/
def CodePointSet.members : CodePointSet → List Nat
  | first :: beyond :: rest => List.range' first (beyond - first) ++ members rest
  | _ => []

theorem CodePointSet.mem_members {set : CodePointSet} {code : Nat} (ends : set.length % 2 = 0)
    (contained : set.contains code = true) : code ∈ set.members := by
  fun_induction members with
  | case1 first beyond rest inductionHypothesis =>
      rw [List.mem_append]
      by_cases below : code < first
      · simp [contains_of_lt _ below] at contained
      · rw [contains_of_le _ (Nat.not_lt.mp below)] at contained
        by_cases inside : code < beyond
        · left
          simp only [List.mem_range'_1]
          omega
        · rw [contains_of_le _ (Nat.not_lt.mp inside), Bool.not_not] at contained
          have restEnds : rest.length % 2 = 0 := by
            simp only [List.length_cons] at ends
            omega
          exact .inr (inductionHypothesis restEnds contained)
  | case2 set short =>
      match set with
      | [] => simp at contained
      | [_] => simp at ends
      | first :: beyond :: rest => exact absurd rfl (short first beyond rest)

end Text

namespace Token

open Text

/-- Whether a character separates tokens, begins a comment or marks the byte
order. -/
def isBreak (char : Char) : Bool :=
  isSeparator char || char == '/' || char == '\ufeff'

def Unbroken (text : List Char) : Prop :=
  ∀ char ∈ text, isBreak char = false

instance (text : List Char) : Decidable (Unbroken text) :=
  List.decidableBAll _ text

variable {char image : Char} {text left right : List Char}

@[simp]
theorem unbroken_nil : Unbroken [] := by simp [Unbroken]

@[simp]
theorem unbroken_cons : Unbroken (char :: text) ↔ isBreak char = false ∧ Unbroken text := by
  simp [Unbroken]

@[simp]
theorem unbroken_append : Unbroken (left ++ right) ↔ Unbroken left ∧ Unbroken right := by
  simp only [Unbroken, List.mem_append, or_imp, forall_and]

theorem Unbroken.isBlank (unbroken : Unbroken text) (member : char ∈ text) :
    isBlank char = false := by
  have solid := unbroken char member
  simp only [isBreak, isSeparator, Bool.or_eq_false_iff] at solid
  exact solid.1.1.1.1

/-- The code points of all breaks. -/
def breakCodes : List Nat :=
  [0x2f, 0xfeff, 0x200e, 0x200f] ++ blanks.members

theorem toNat_mem_breakCodes (breaks : isBreak char = true) : char.toNat ∈ breakCodes := by
  simp only [isBreak, isSeparator, Bool.or_eq_true, beq_iff_eq] at breaks
  rcases breaks with (((blank | rfl) | rfl) | rfl) | rfl
  · exact List.mem_append_right _ (CodePointSet.mem_members (by decide) blank)
  all_goals decide

/-- No break has a property that the characters of a table lack. -/
theorem isBreak_eq_false {property : Char → Bool}
    (apart : ∀ code ∈ breakCodes, property (Char.ofNat code) = false)
    (holds : property char = true) : isBreak char = false := by
  cases breaks : isBreak char with
  | false => rfl
  | true =>
      have absent := apart _ (toNat_mem_breakCodes breaks)
      rw [Char.ofNat_toNat, holds] at absent
      exact absent

theorem isBreak_of_isIdentifierStart (start : isIdentifierStart char = true) :
    isBreak char = false :=
  isBreak_eq_false (by decide +kernel) start

theorem isBreak_of_isIdentifierContinue (continues : isIdentifierContinue char = true) :
    isBreak char = false :=
  isBreak_eq_false (by decide +kernel) continues

theorem isBreak_of_isAlphanumeric (alphanumeric : isAlphanumeric char = true) :
    isBreak char = false :=
  isBreak_eq_false (by decide +kernel) alphanumeric

theorem isBreak_ofNat {code : Nat} (apart : code ∉ breakCodes) :
    isBreak (Char.ofNat code) = false := by
  by_cases valid : code.isValidChar
  · have made : Char.ofNat code = Char.ofNatAux code valid := dif_pos valid
    rw [made]
    cases breaks : isBreak (Char.ofNatAux code valid) with
    | false => rfl
    | true => exact absurd (toNat_mem_breakCodes breaks) apart
  · have null : Char.ofNat code = '\x00' := dif_neg valid
    rw [null]
    decide

theorem CaseRun.not_mem_breakCodes {run : CaseRun} {code lower : Nat} (isRun : run ∈ caseRuns)
    (mapped : run.lower? code = some lower) : lower ∉ breakCodes := by
  have apart : ∀ run ∈ caseRuns, ∀ other ∈ breakCodes,
      ¬ (run.target ≤ other ∧ other ≤ run.target + (run.last - run.first)) := by
    decide +kernel
  intro breaks
  apply apart run isRun lower breaks
  unfold CaseRun.lower? at mapped
  split at mapped <;> simp only [Option.some.injEq, reduceCtorEq] at mapped
  omega

theorem unbroken_lowercase (solid : isBreak char = false) : Unbroken (lowercase char) := by
  unfold lowercase
  split
  case isTrue => decide
  case isFalse =>
    split
    case h_1 code found =>
      obtain ⟨run, isRun, mapped⟩ := List.exists_of_findSome?_eq_some found
      simpa using isBreak_ofNat (CaseRun.not_mem_breakCodes isRun mapped)
    case h_2 => simpa using solid

theorem unbroken_lowercaseWord (unbroken : Unbroken text) : Unbroken (lowercaseWord text) := by
  fun_induction lowercaseWord text with
  | case1 => exact unbroken
  | case2 => decide
  | case3 char rest _ inductionHypothesis =>
      rw [unbroken_cons] at unbroken
      rw [unbroken_append]
      exact ⟨unbroken_lowercase unbroken.1, inductionHypothesis unbroken.2⟩

theorem unbroken_of_mem_words {name piece : List Char} (member : piece ∈ words name) :
    Unbroken piece :=
  fun char present => isBreak_of_isAlphanumeric (isAlphanumeric_of_mem_words member char present)

/-- A name in snake case has no breaks, whatever it is made from. -/
theorem unbroken_snakeCase (name : String) : Unbroken (snakeCase name).toList := by
  rw [snakeCase, String.toList_ofList]
  have solid : isBreak '_' = false := by decide
  refine forall_mem_intercalate (List.forall_mem_singleton.mpr solid) fun piece member => ?_
  obtain ⟨word, isWord, rfl⟩ := List.mem_map.mp member
  exact unbroken_lowercaseWord (unbroken_of_mem_words isWord)

end Token

end InterfaceWitness
