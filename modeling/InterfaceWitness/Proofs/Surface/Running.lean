import InterfaceWitness.Surface.Separated

/-!
Running readers: what each step does to a stream, and what a reader that has
given something has gone through.
-/

namespace InterfaceWitness.Surface

/-- What is left of a stream after its first tokens. -/
def Stream.after (stream : Stream) (count : Nat) : Stream :=
  { stream with tokens := stream.tokens.drop count }

@[simp]
theorem Stream.tokens_after (stream : Stream) (count : Nat) :
    (stream.after count).tokens = stream.tokens.drop count := rfl

@[simp]
theorem Stream.after_after (stream : Stream) (count more : Nat) :
    (stream.after count).after more = stream.after (count + more) := by
  simp [after]

namespace Reader

variable {α β : Type} {stream rest : Stream} {text : String} {out : β × Stream}

theorem bind_run (reader : Reader α) (next : α → Reader β) (stream : Stream) :
    (reader >>= next) stream = match reader stream with
      | .ok (value, rest) => next value rest
      | .error error => .error error := by
  simp only [Bind.bind, StateT.bind, Except.bind]
  cases reader stream <;> rfl

theorem pure_run (value : α) (stream : Stream) :
    (pure value : Reader α) stream = .ok (value, stream) := rfl

theorem fail_run (error : ReadError) (stream : Stream) :
    (fail error : Reader α) stream = .error error := rfl

theorem upcoming_bind (next : List Token → Reader β) (stream : Stream) :
    (upcoming >>= next) stream = next stream.tokens stream := rfl

theorem look_bind (test : List Token → Bool) (next : Bool → Reader β) (stream : Stream) :
    (look test >>= next) stream = next (test stream.tokens) stream := rfl

theorem atEnd_bind (next : Bool → Reader β) (stream : Stream) :
    (atEnd >>= next) stream = next (ended stream.tokens) stream := rfl

theorem drop_bind (count : Nat) (next : Unit → Reader β) (stream : Stream) :
    (drop count >>= next) stream = next () (stream.after count) := rfl

theorem want_run (what : String) (stream : Stream) :
    (want what : Reader α) stream = .error (.expected what (ended stream.tokens)) := rfl

theorem ite_run {test : Prop} [Decidable test] (positive negative : Reader α) (stream : Stream) :
    (if test then positive else negative) stream
      = if test then positive stream else negative stream := by
  split <;> rfl

theorem bind_eq_ok {reader : Reader α} {next : α → Reader β} :
    (reader >>= next) stream = .ok out ↔
      ∃ value rest, reader stream = .ok (value, rest) ∧ next value rest = .ok out := by
  rw [bind_run]
  split
  case h_1 value rest equal => simp [equal, and_assoc]
  case h_2 error equal => simp [equal]

theorem pure_eq_ok {value found : α} :
    (pure value : Reader α) stream = .ok (found, rest) ↔ value = found ∧ stream = rest := by
  simp [pure_run]

theorem ite_eq_ok {test : Prop} [Decidable test] {positive negative : Reader β} :
    (if test then positive else negative) stream = .ok out ↔
      test ∧ positive stream = .ok out ∨ ¬test ∧ negative stream = .ok out := by
  split <;> simp [*]

theorem operator_run (characters : List Char) (stream : Stream) :
    operator characters stream =
      if startsOperator characters stream.tokens then
        .ok (Token.operator characters, stream.after characters.length)
      else .error (.expected (quotedText (String.ofList characters)) false) := by
  rw [operator, look_bind]
  exact ite_run ..

theorem operator_eq_ok {characters : List Char} {taken : List Token} :
    operator characters stream = .ok (taken, rest) ↔
      startsOperator characters stream.tokens = true ∧ taken = Token.operator characters ∧
        rest = stream.after characters.length := by
  rw [operator_run]
  split
  case isTrue starts => simp [starts, eq_comm]
  case isFalse fails => simp [fails]

theorem operator?_run (characters : List Char) (stream : Stream) :
    operator? characters stream =
      if startsOperator characters stream.tokens then
        .ok (Token.operator characters, stream.after characters.length)
      else .ok ([], stream) := by
  rw [operator?, look_bind, ite_run]
  split
  case isTrue starts => rw [operator_run, if_pos starts]
  case isFalse => rfl

theorem anyWord_eq_ok {what : String} :
    anyWord what stream = .ok (text, rest) ↔
      ∃ later, stream.tokens = .identifier text :: later ∧ rest = stream.after 1 := by
  obtain ⟨tokens, leftOver⟩ := stream
  simp only [anyWord, upcoming_bind]
  rcases tokens with - | ⟨first, later⟩
  · simp [want_run]
  · cases first <;> simp [want_run, drop_bind, pure_run, eq_comm]

theorem name_eq_ok :
    name stream = .ok (text, rest) ↔
      ∃ later, stream.tokens = .identifier text :: later ∧ text ∉ keywords ∧
        rest = stream.after 1 := by
  obtain ⟨tokens, leftOver⟩ := stream
  simp only [name, upcoming_bind]
  rcases tokens with - | ⟨first, later⟩
  · simp [want_run]
  · cases first with
    | identifier found =>
        simp only [List.contains_eq_mem, decide_eq_true_eq, ite_run, fail_run, drop_bind, pure_run,
          List.cons.injEq, Token.identifier.injEq]
        split <;> grind
    | _ => simp [want_run]

theorem nameOr_eq_ok {words : List String} :
    nameOr words stream = .ok (text, rest) ↔
      ∃ later, stream.tokens = .identifier text :: later ∧ (text ∈ words ∨ text ∉ keywords) ∧
        rest = stream.after 1 := by
  simp only [nameOr, look_bind, ite_run]
  have starts : ∀ later, stream.tokens = .identifier text :: later →
      (startsWordOf words stream.tokens = true ↔ text ∈ words) := by
    intro later begun
    simp [startsWordOf, begun]
  split <;> simp only [anyWord_eq_ok, name_eq_ok] <;> grind

theorem run_eq_ok {reader : Reader α} {tokens : List Token} {value : α} :
    run reader tokens = .ok value ↔ reader ⟨tokens, none⟩ = .ok (value, ⟨[], none⟩) := by
  have ran : StateT.run reader ⟨tokens, none⟩ = reader ⟨tokens, none⟩ := rfl
  rw [run, ran]
  split
  case h_1 error failed => simp [failed]
  case h_2 found left read =>
    obtain ⟨remaining, leftOver⟩ := left
    rw [read]
    cases leftOver <;> cases remaining <;> simp

theorem extend_more {step : α → Reader (Option α)} {value : α} (next : α) (rest : Stream)
    (stepped : step value stream = .ok (some next, rest))
    (shorter : rest.tokens.length < stream.tokens.length) :
    extend step value stream = extend step next rest := by
  rw [extend, stepped]
  exact if_pos shorter

theorem extend_done {step : α → Reader (Option α)} {value : α} (rest : Stream)
    (stepped : step value stream = .ok (none, rest)) :
    extend step value stream = .ok (value, rest) := by
  rw [extend, stepped]

/-- A reader that starts where `before` holds gives, if anything, a value that
`after` holds of, with what it leaves of the stream. -/
def Reads (before : Stream → Prop) (reader : Reader α) (after : α → Stream → Prop) : Prop :=
  ∀ stream value rest, before stream → reader stream = .ok (value, rest) → after value rest

/-- What still holds of a stream when tokens have been taken from it. -/
def Lasting (kept : Stream → Prop) : Prop :=
  ∀ stream rest, rest.tokens ⊆ stream.tokens → kept stream → kept rest

namespace Reads

variable {before : Stream → Prop} {reader : Reader α} {next : α → Reader β}
  {after : α → Stream → Prop} {last : β → Stream → Prop} {test : List Token → Bool}

theorem of_stronger {stronger : Stream → Prop} (implies : ∀ stream, stronger stream → before stream)
    (reads : Reads before reader after) : Reads stronger reader after :=
  fun stream value rest begins read => reads stream value rest (implies stream begins) read

theorem pure {value : α} (holds : ∀ stream, before stream → after value stream) :
    Reads before (Pure.pure value) after := by
  intro stream found rest begins read
  obtain ⟨rfl, rfl⟩ := pure_eq_ok.mp read
  exact holds stream begins

theorem fail {error : ReadError} : Reads before (fail error) after := by
  intro stream value rest _ read
  simp [fail_run] at read

theorem want {what : String} : Reads before (want what) after := by
  intro stream value rest _ read
  simp [want_run] at read

/-- What holds between two readers leads from the one to the other. -/
theorem through (middle : α → Stream → Prop) (first : Reads before reader middle)
    (others : ∀ value, Reads (middle value) (next value) last) :
    Reads before (reader >>= next) last := by
  intro stream value rest begins read
  obtain ⟨found, between, isFirst, isNext⟩ := bind_eq_ok.mp read
  exact others found between value rest (first _ _ _ begins isFirst) isNext

theorem bind (first : Reads before reader after)
    (others : ∀ value, Reads (after value) (next value) last) :
    Reads before (reader >>= next) last :=
  through after first others

/-- Whatever comes first, what follows gives what is needed. -/
theorem skip (others : ∀ value, Reads (fun _ => True) (next value) last) :
    Reads before (reader >>= next) last :=
  through (fun _ _ => True) (fun _ _ _ _ _ => trivial) others

/-- What does not depend on the stream holds from then on. -/
theorem given {holds : Prop} (reads : holds → Reads (fun _ => True) reader after) :
    Reads (fun _ => holds) reader after :=
  fun stream value rest begins read => reads begins stream value rest trivial read

theorem ite {condition : Prop} [Decidable condition] {negative : Reader α}
    (holds : condition → Reads before reader after)
    (fails : ¬condition → Reads before negative after) :
    Reads before (if condition then reader else negative) after := by
  split
  case isTrue positive => exact holds positive
  case isFalse negative => exact fails negative

theorem look {next : Bool → Reader β} (others : ∀ answer, Reads before (next answer) last) :
    Reads before (look test >>= next) last :=
  fun stream value rest begins read => others _ stream value rest begins read

/-- What was seen holds where the reader goes on. -/
theorem looked {next : Bool → Reader β}
    (others : ∀ answer, Reads (fun stream => before stream ∧ test stream.tokens = answer)
      (next answer) last) : Reads before (Reader.look test >>= next) last :=
  fun stream value rest begins read => others _ stream value rest ⟨begins, rfl⟩ read

theorem operator {characters : List Char} (lasting : Lasting before) :
    Reads before (Reader.operator characters) fun _ => before := by
  intro stream taken rest begins read
  obtain ⟨-, -, rfl⟩ := operator_eq_ok.mp read
  exact lasting stream _ (List.drop_subset ..) begins

theorem operator? {characters : List Char} (lasting : Lasting before) :
    Reads before (Reader.operator? characters) fun _ => before :=
  .look fun _ => .ite (fun _ => .operator lasting) fun _ => .pure fun _ begins => begins

theorem close {delimiter : Delimiter} (lasting : Lasting before) :
    Reads before (Reader.close delimiter) fun _ => before := by
  intro stream _ rest begins read
  unfold Reader.close at read
  split at read
  all_goals
    obtain ⟨-, rfl⟩ := Prod.mk.inj (Except.ok.inj read)
    exact lasting stream _ (List.drop_subset ..) begins

theorem within {delimiter : Delimiter} (inside : Stream → Prop) {left : α → Stream → Prop}
    (opens : ∀ stream, before stream → inside (stream.after 1))
    (content : Reads inside reader left)
    (closes : ∀ value, Reads (left value) (Reader.close delimiter) fun _ => after value) :
    Reads before (Reader.within delimiter reader) after := by
  refine .look fun starts => .ite (fun _ => ?_) fun _ => .want
  refine .through (fun _ => inside) (fun stream _ rest begins dropped => ?_) fun _ => ?_
  · obtain ⟨-, rfl⟩ := Prod.mk.inj (Except.ok.inj dropped)
    exact opens stream begins
  · exact .bind content fun value => .bind (closes value) fun _ => .pure fun _ closed => closed

theorem extend {step : α → Reader (Option α)} (kept : α → Stream → Prop)
    (steps : ∀ value, Reads (kept value) (step value) fun next => kept (next.getD value))
    (start : α) : Reads (kept start) (Reader.extend step start) kept := by
  intro stream value rest begins read
  fun_induction Reader.extend step start stream with
  | case1 => simp at read
  | case2 start stream left stepped =>
      obtain ⟨rfl, rfl⟩ := Prod.mk.inj (Except.ok.inj read)
      exact steps _ _ _ _ begins stepped
  | case3 start stream next left stepped _ inductionHypothesis =>
      exact inductionHypothesis (steps _ _ _ _ begins stepped) read
  | case4 start stream next left stepped =>
      obtain ⟨rfl, rfl⟩ := Prod.mk.inj (Except.ok.inj read)
      exact steps _ _ _ _ begins stepped

end Reads

end Reader

namespace Separated

open Reader

variable {α : Type} {separator : List Char} {stop finished : List Token → Bool}
  {item : List α → Reader (α × Bool)}

/-- A list keeps what each of its items keeps, if the separators do no harm. -/
theorem reads_extend_step (holds : List α → Stream → Prop)
    (items : ∀ found, Reads (holds found) (item found) fun value => holds (found ++ [value.1]))
    (separators : ∀ found, Reads (holds found) (operator separator) fun _ => holds found) :
    Reads (holds []) (extend (step separator stop finished item) empty)
      fun found => holds found.items := by
  refine Reads.extend (fun found => holds found.items) (fun found => ?_) empty
  refine .look fun stops => .ite (fun _ => .pure fun _ begins => begins) fun _ => ?_
  refine .bind (items found.items) fun value => .look fun ends => ?_
  refine .ite (fun _ => .pure fun _ kept => kept) fun _ => ?_
  exact .bind (separators _) fun _ => .pure fun _ kept => kept

end Separated

end InterfaceWitness.Surface
