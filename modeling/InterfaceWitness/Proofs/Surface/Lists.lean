import InterfaceWitness.Code.Expr
import InterfaceWitness.Proofs.Surface.Running

/-!
Printed lists read back: with a comma after each item up to the end of a group,
or with a comma between any two up to a closing angle bracket.
-/

namespace InterfaceWitness.Surface

open Reader Token
open Code (commaSeparated commaTerminated)

/-- What may follow an item of a list. -/
inductive EndsItem : List Token → Prop where
  | nothing : EndsItem []
  | comma (more : List Token) : EndsItem (Token.comma :: more)
  | angle (more : List Token) : EndsItem (.punctuation '>' false :: more)

/-- Tokens that a reader makes an item of a list of them. -/
structure ReadsItem {α : Type} (item : Reader α) (tokens : List Token) (value : α) : Prop where
  begins : ∃ first more, tokens = first :: more ∧ (∀ delimiter, first ≠ .closing delimiter) ∧
    ∀ joint, first ≠ .punctuation '>' joint
  reads : ∀ later leftOver, EndsItem later →
    item ⟨tokens ++ later, leftOver⟩ = .ok (value, ⟨later, leftOver⟩)

variable {α : Type} {item : Reader α} {items : List (List Token × α)} {before : List α}
  {tokens start later : List Token} {value : α} {leftOver : Option Delimiter}
  {separator : List Char} {stop finished : List Token → Bool}

theorem ReadsItem.ended (reads : ReadsItem item tokens value) :
    ended (tokens ++ later) = false := by
  obtain ⟨first, more, rfl, noCloser, -⟩ := reads.begins
  cases first with
  | closing delimiter => exact absurd rfl (noCloser delimiter)
  | _ => rfl

theorem ReadsItem.startsAngle (reads : ReadsItem item tokens value) :
    startsOperator ['>'] (tokens ++ later) = false := by
  obtain ⟨first, more, rfl, -, noAngle⟩ := reads.begins
  cases first with
  | punctuation char joint =>
      have other : char ≠ '>' := by
        rintro rfl
        exact noAngle joint rfl
      simpa [startsOperator] using other
  | _ => rfl

theorem ReadsItem.length_pos (reads : ReadsItem item tokens value) : 0 < tokens.length := by
  obtain ⟨first, more, rfl, -⟩ := reads.begins
  simp

/-- An item with a comma after it. -/
theorem step_comma
    (read : item ⟨start, leftOver⟩ = .ok (value, ⟨Token.comma :: later, leftOver⟩))
    (goesOn : stop start = false) (unfinished : stop (Token.comma :: later) = false) :
    Separated.step [','] stop stop (fun _ => do pure (← item, false)) ⟨before, true⟩
        ⟨start, leftOver⟩
      = .ok (some ⟨before ++ [value], true⟩, ⟨later, leftOver⟩) := by
  simp only [Separated.step, look_bind, ite_eq_ok, bind_eq_ok, pure_eq_ok, operator_eq_ok]
  exact .inr ⟨by simp [goesOn], (value, false), _, ⟨value, _, read, rfl, rfl⟩,
    .inr ⟨by simp [unfinished], _, _, ⟨rfl, rfl, rfl⟩, rfl, rfl⟩⟩

/-- The last item of a list, without a separator after it. -/
theorem step_last (read : item ⟨start, leftOver⟩ = .ok (value, ⟨later, leftOver⟩))
    (goesOn : stop start = false) (isLast : finished later = true) :
    Separated.step separator stop finished (fun _ => do pure (← item, false)) ⟨before, true⟩
        ⟨start, leftOver⟩
      = .ok (some ⟨before ++ [value], false⟩, ⟨later, leftOver⟩) := by
  simp only [Separated.step, look_bind, ite_eq_ok, bind_eq_ok, pure_eq_ok, operator_eq_ok]
  exact .inr ⟨by simp [goesOn], (value, false), _, ⟨value, _, read, rfl, rfl⟩,
    .inl ⟨by simp [isLast], rfl, rfl⟩⟩

theorem step_stops {found : Separated α} {stream : Stream}
    (stops : (!found.trailing || stop stream.tokens) = true) :
    Separated.step separator stop finished (fun _ => do pure (← item, false)) found stream
      = .ok (none, stream) := by
  simp only [Separated.step, look_bind, stops, if_true]
  rfl

theorem commaTerminated_cons (rest : List (List Token)) :
    commaTerminated (tokens :: rest) ++ later
      = tokens ++ Token.comma :: (commaTerminated rest ++ later) := by
  simp [commaTerminated]

theorem read_commaTerminated (delimiter : Delimiter) (before : List α) (later : List Token)
    (leftOver : Option Delimiter) (reads : ∀ entry ∈ items, ReadsItem item entry.1 entry.2) :
    extend (Separated.step [','] ended ended fun _ => do pure (← item, false)) ⟨before, true⟩
        ⟨commaTerminated (items.map Prod.fst) ++ .closing delimiter :: later, leftOver⟩
      = .ok (⟨before ++ items.map Prod.snd, true⟩, ⟨.closing delimiter :: later, leftOver⟩) := by
  induction items generalizing before with
  | nil =>
      rw [extend_done _ (step_stops rfl)]
      simp [commaTerminated]
  | cons entry rest inductionHypothesis =>
      have isItem := reads entry (List.mem_cons_self ..)
      rw [List.map_cons, commaTerminated_cons,
        extend_more _ _ (step_comma (isItem.reads _ leftOver (.comma _)) isItem.ended rfl),
        inductionHypothesis _ fun other member => reads other (List.mem_cons_of_mem _ member)]
      · simp
      · simp
        omega

theorem read_commaSeparated (before : List α) (later : List Token)
    (leftOver : Option Delimiter) (reads : ∀ entry ∈ items, ReadsItem item entry.1 entry.2) :
    extend (Separated.step [','] (startsOperator ['>']) (startsOperator ['>'])
          fun _ => do pure (← item, false)) ⟨before, true⟩
        ⟨commaSeparated (items.map Prod.fst) ++ .punctuation '>' false :: later, leftOver⟩
      = .ok (⟨before ++ items.map Prod.snd, items.isEmpty⟩,
        ⟨.punctuation '>' false :: later, leftOver⟩) := by
  induction items generalizing before with
  | nil =>
      rw [extend_done _ (step_stops rfl)]
      simp [commaSeparated]
  | cons entry rest inductionHypothesis =>
      have isItem := reads entry (List.mem_cons_self ..)
      cases rest with
      | nil =>
          rw [List.map_singleton, commaSeparated,
            extend_more _ _
              (step_last (isItem.reads _ leftOver (.angle later)) isItem.startsAngle rfl),
            extend_done _ (step_stops rfl)]
          · simp
          · simpa using isItem.length_pos
      | cons next others =>
          have split : commaSeparated ((entry :: next :: others).map Prod.fst)
                ++ .punctuation '>' false :: later
              = entry.1 ++ Token.comma :: (commaSeparated ((next :: others).map Prod.fst)
                ++ .punctuation '>' false :: later) := by
            simp [commaSeparated]
          rw [split,
            extend_more _ _
              (step_comma (isItem.reads _ leftOver (.comma _)) isItem.startsAngle rfl),
            inductionHypothesis _ fun other member => reads other (List.mem_cons_of_mem _ member)]
          · simp
          · simp
            omega

end InterfaceWitness.Surface
