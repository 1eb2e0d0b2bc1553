import InterfaceWitness.Proofs.Surface.Running
import InterfaceWitness.Surface.Nested

/-!
Readers take tokens off the front of a stream and do nothing else to it.  What a
reader is put together from decides this, so instance search finds it: here are
the primitive readers and the ways to put readers together.
-/

namespace InterfaceWitness.Surface

namespace Reader

/-- A reader that leaves an end of the tokens that it was given. -/
class Advances {α : Type} (reader : Reader α) : Prop where
  suffix : ∀ stream value rest, reader stream = .ok (value, rest) → rest.tokens <:+ stream.tokens

namespace Advances

variable {α β : Type} {reader : Reader α} {next : α → Reader β}

/-- A reader that takes nothing. -/
theorem of_unmoved
    (unmoved : ∀ stream value rest, reader stream = .ok (value, rest) → rest = stream) :
    Advances reader where
  suffix stream value rest read := unmoved stream value rest read ▸ List.suffix_rfl

/-! ## Putting readers together -/

instance (value : α) : Advances (pure value : Reader α) :=
  of_unmoved fun _ _ _ read => (pure_eq_ok.mp read).2.symm

theorem bind [Advances reader] (others : ∀ value, Advances (next value)) :
    Advances (reader >>= next) where
  suffix := by
    intro stream value rest read
    obtain ⟨found, between, isFirst, isNext⟩ := bind_eq_ok.mp read
    exact ((others found).suffix _ _ _ isNext).trans (suffix _ _ _ isFirst)

instance [Advances reader] [others : ∀ value, Advances (next value)] :
    Advances (reader >>= next) :=
  bind others

instance (convert : α → β) [Advances reader] : Advances (convert <$> reader) := by
  rw [← bind_pure_comp]
  infer_instance

theorem ite {test : Prop} [Decidable test] {negative : Reader α} (holds : Advances reader)
    (fails : Advances negative) : Advances (if test then reader else negative) := by
  split <;> assumption

instance {test : Prop} [Decidable test] {negative : Reader α} [holds : Advances reader]
    [fails : Advances negative] : Advances (if test then reader else negative) :=
  ite holds fails

instance (step : α → Reader (Option α)) [∀ value, Advances (step value)] (start : α) :
    Advances (extend step start) where
  suffix := by
    intro stream value rest read
    fun_induction extend step start stream with
    | case1 => cases read
    | case2 start stream left stepped =>
        obtain ⟨-, rfl⟩ := Prod.mk.inj (Except.ok.inj read)
        exact suffix _ _ _ stepped
    | case3 start stream next left stepped _ inductionHypothesis =>
        exact (inductionHypothesis read).trans (suffix _ _ _ stepped)
    | case4 start stream next left stepped =>
        obtain ⟨-, rfl⟩ := Prod.mk.inj (Except.ok.inj read)
        exact suffix _ _ _ stepped

instance [Advances reader] : Advances (attempt reader) where
  suffix := by
    intro stream value rest read
    unfold attempt at read
    split at read
    case h_1 found left isRead =>
      obtain ⟨-, rfl⟩ := Prod.mk.inj (Except.ok.inj read)
      exact suffix _ _ _ isRead
    case h_2 =>
      obtain ⟨-, rfl⟩ := Prod.mk.inj (Except.ok.inj read)
      exact List.suffix_rfl

instance : Advances (peeking reader) := of_unmoved <| by
  intro stream value rest read
  unfold peeking at read
  split at read
  case h_1 => exact (Prod.mk.inj (Except.ok.inj read)).2.symm
  case h_2 => cases read

instance : Advances (lookAfter reader) := of_unmoved <| by
  intro stream value rest read
  unfold lookAfter at read
  split at read <;> exact (Prod.mk.inj (Except.ok.inj read)).2.symm

/-! ## Primitive readers -/

instance (error : ReadError) : Advances (fail error : Reader α) where
  suffix _ _ _ read := nomatch read

instance : Advances atEnd := of_unmoved fun _ _ _ read => (Prod.mk.inj (Except.ok.inj read)).2.symm

instance : Advances upcoming :=
  of_unmoved fun _ _ _ read => (Prod.mk.inj (Except.ok.inj read)).2.symm

instance (test : List Token → Bool) : Advances (look test) :=
  of_unmoved fun _ _ _ read => (Prod.mk.inj (Except.ok.inj read)).2.symm

instance (start : List Token) : Advances (since start) :=
  of_unmoved fun _ _ _ read => (Prod.mk.inj (Except.ok.inj read)).2.symm

instance (what : String) : Advances (want what : Reader α) := by unfold want; infer_instance

instance (several : List String) : Advances (wantOneOf several : Reader α) := by
  unfold wantOneOf; infer_instance

instance (tokens : List Token) (several : List String) :
    Advances (wantAhead tokens several : Reader α) := by
  unfold wantAhead; infer_instance

instance (reason : String) : Advances (refuse reason : Reader α) := by
  unfold refuse; infer_instance

instance (count : Nat) : Advances (drop count) where
  suffix := by
    intro stream value rest read
    obtain ⟨-, rfl⟩ := Prod.mk.inj (Except.ok.inj read)
    exact List.drop_suffix ..

instance (delimiter : Delimiter) : Advances (close delimiter) where
  suffix := by
    intro stream value rest read
    unfold close at read
    split at read
    all_goals
      obtain ⟨-, rfl⟩ := Prod.mk.inj (Except.ok.inj read)
      exact List.drop_suffix ..

instance (characters : List Char) : Advances (operator characters) := by
  unfold operator; infer_instance

instance (characters : List Char) : Advances (operator? characters) := by
  unfold operator?; infer_instance

instance (text : String) : Advances (word text) := by unfold word; infer_instance

instance (text : String) : Advances (word? text) := by unfold word?; infer_instance

instance (what : String) : Advances (anyWord what) := by
  unfold anyWord
  refine bind fun tokens => ?_
  split <;> infer_instance

instance : Advances name := by
  unfold name
  refine bind fun tokens => ?_
  split <;> infer_instance

instance (words : List String) : Advances (nameOr words) := by unfold nameOr; infer_instance

instance : Advances lifetime := by
  unfold lifetime
  refine bind fun tokens => ?_
  split <;> infer_instance

instance : Advances lifetime? := by unfold lifetime?; infer_instance

instance : Advances literal := by
  unfold literal
  refine bind fun starts => ite (bind fun tokens => ?_) inferInstance
  split <;> infer_instance

instance : Advances group := by
  unfold group
  refine bind fun tokens => ?_
  split <;> infer_instance

/-! ## Groups and lists -/

instance (delimiter : Delimiter) [Advances reader] : Advances (within delimiter reader) := by
  unfold within; infer_instance

instance (delimiter : Delimiter) (reader : Reader (List Token)) [Advances reader] :
    Advances (delimited delimiter reader) := by
  unfold delimited; infer_instance

instance (continues : List Token → Bool) (item : Reader (List Token)) [Advances item] :
    Advances (readWhile continues item) := by
  unfold readWhile; infer_instance

instance (separator : List Char) (stop finished : List Token → Bool)
    (item : List α → Reader (α × Bool)) [∀ before, Advances (item before)]
    (found : Separated α) : Advances (Separated.step separator stop finished item found) := by
  unfold Separated.step; infer_instance

instance (separator : List Char) (stop : List Token → Bool) [Advances reader] :
    Advances (Separated.read separator stop reader) := by
  unfold Separated.read; infer_instance

instance (separator : List Char) (stop : List Token → Bool) [Advances reader] :
    Advances (Separated.readLenient separator stop reader) := by
  unfold Separated.readLenient; infer_instance

instance (item : List α → Reader (α × Bool)) [∀ before, Advances (item before)] :
    Advances (Separated.readAll item) := by
  unfold Separated.readAll; infer_instance

instance (item : Reader (List Token)) [Advances item] : Advances (commaList item) := by
  unfold commaList; infer_instance

end Advances

/-- What lasts as tokens are taken still holds behind a reader. -/
theorem Reads.advance {α : Type} {before : Stream → Prop} (reader : Reader α) [Advances reader]
    (lasting : Lasting before) : Reads before reader fun _ => before :=
  fun stream value rest begins read =>
    lasting stream rest (Advances.suffix stream value rest read).subset begins

end Reader

/-! ## What is nested -/

open Reader (Advances)

/-- The readers of the next level take tokens off the front. -/
class Nested.Advances (inner : Nested) : Prop where
  type : ∀ sums, Reader.Advances (inner.type sums)
  bound : ∀ place, Reader.Advances (inner.bound place)
  operand : ∀ structures, Reader.Advances (inner.operand structures)
  operations : ∀ structures least left, Reader.Advances (inner.operations structures least left)
  leading : Reader.Advances inner.leading
  pattern : Reader.Advances inner.pattern
  statements : Reader.Advances inner.statements
  item : Reader.Advances inner.item
  fields : Reader.Advances inner.fields

attribute [instance] Nested.Advances.type Nested.Advances.bound Nested.Advances.operand
  Nested.Advances.operations Nested.Advances.leading Nested.Advances.pattern
  Nested.Advances.statements Nested.Advances.item Nested.Advances.fields

end InterfaceWitness.Surface
