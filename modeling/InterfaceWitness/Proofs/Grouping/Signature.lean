import InterfaceWitness.Proofs.Lowering
import InterfaceWitness.Proofs.Surface.Outline

/-!
What groups around types change in a function.  A type is lowered as it is
without them, but a group around the type of a parameter may hide that it is a
reference, or that the reference is to a text or a slice.
-/

namespace InterfaceWitness

open Surface

namespace TypeExpr

mutual

theorem ofSource_outline : (source : SourceType) → ofSource source.outline = ofSource source
  | .parenthesized inner => ofSource_outline inner
  | .grouped inner => ofSource_outline inner
  | .tuple elements _ => by
      simp only [SourceType.outline, ofSource, ofSources_outline elements]
  | .path rooted segments => ofSegments_outline segments rooted []
  | .reference .. => rfl
  | .slice _ => rfl
  | .bareBound .. => rfl
  | .other _ => rfl

theorem ofSources_outline : (sources : List SourceType) →
    ofSources (SourceType.outlineAll sources) = ofSources sources
  | [] => rfl
  | source :: rest => by
      simp only [SourceType.outlineAll, ofSources, ofSource_outline source, ofSources_outline rest]

theorem ofSegments_outline : (segments : List Segment) → (rooted : Bool) →
    (names : List String) →
    ofSegments rooted names (Segment.outlineAll segments) = ofSegments rooted names segments
  | [], _, _ => rfl
  | .plain name :: rest, rooted, names => ofSegments_outline rest rooted (names ++ [name])
  | [.applied name _ arguments _], _, _ => by
      simp only [Segment.outlineAll, Segment.outline, ofSegments, ofArguments_outline arguments]
  | .applied .. :: _ :: _, _, _ => rfl

theorem ofArguments_outline : (arguments : List Argument) →
    ofArguments (Argument.outlineAll arguments) = ofArguments arguments
  | [] => rfl
  | .type source :: rest => by
      simp only [Argument.outlineAll, Argument.outline, ofArguments, ofSource_outline source,
        ofArguments_outline rest]
  | .lifetime _ :: _ => rfl
  | .other _ :: _ => rfl

end

variable {left right type : SourceType} {found : TypeExpr}

theorem ofSource_congr (same : left.outline = right.outline) : ofSource left = ofSource right := by
  rw [← ofSource_outline left, same, ofSource_outline right]

theorem ofBorrowed_of_sized (sized : type.isUnsized = false) :
    ofBorrowed type = ofSource type := by
  unfold ofBorrowed
  split
  case h_1 => cases sized
  case h_2 => cases sized
  case h_3 => rfl

/-- A text and a slice are lowered in another way where they are lent. -/
theorem ofSource_ne_of_ofBorrowed (isUnsized : type.isUnsized = true)
    (lent : ofBorrowed type = .ok found) : ofSource type ≠ .ok found := by
  intro owned
  rcases SourceType.isUnsized_eq_true.mp isUnsized with rfl | ⟨element, rfl⟩
  · obtain rfl := Except.ok.inj lent
    have differs : pathText false ["str"] ≠ "String" := by decide
    exact differs (identifier.inj (Except.ok.inj owned))
  · cases owned

theorem ofBorrowed_congr (same : left.outline = right.outline)
    (shown : left.isUnsized = right.isUnsized) : ofBorrowed left = ofBorrowed right := by
  cases isUnsized : left.isUnsized with
  | false =>
      rw [ofBorrowed_of_sized isUnsized, ofBorrowed_of_sized (shown ▸ isUnsized),
        ofSource_congr same]
  | true =>
      rcases SourceType.isUnsized_eq_true.mp isUnsized with rfl | ⟨element, rfl⟩ <;>
        rcases SourceType.isUnsized_eq_true.mp (shown ▸ isUnsized) with rfl | ⟨other, rfl⟩
      · rfl
      · cases same
      · cases same
      · have inside : element.outline = other.outline := SourceType.slice.inj same
        simp only [ofBorrowed, ofSource_congr inside]

theorem isUnsized_eq_of_ofBorrowed (same : left.outline = right.outline)
    (isLeft : ofBorrowed left = .ok found) (isRight : ofBorrowed right = .ok found) :
    left.isUnsized = right.isUnsized := by
  cases onLeft : left.isUnsized <;> cases onRight : right.isUnsized
  · rfl
  · rw [ofBorrowed_of_sized onLeft, ofSource_congr same] at isLeft
    exact absurd isLeft (ofSource_ne_of_ofBorrowed onRight isRight)
  · rw [ofBorrowed_of_sized onRight, ← ofSource_congr same] at isRight
    exact absurd isRight (ofSource_ne_of_ofBorrowed onLeft isLeft)
  · rfl

end TypeExpr

theorem eq_of_prefix_append {α : Type} {before all : List α} {left right : α}
    (leads : before ++ [left] <+: all) (alsoLeads : before ++ [right] <+: all) : left = right := by
  have equal : before ++ [left] = before ++ [right] :=
    (List.prefix_of_prefix_length_le leads alsoLeads (by simp)).eq_of_length (by simp)
  exact List.singleton_inj.mp (List.append_cancel_left equal)

section Parameters

variable {left right type : SourceType} {found : TypeExpr × Passing}

theorem loweredParameter_of_value (appears : type.appearance = .value) :
    loweredParameter type = (do pure (← TypeExpr.ofSource type, .owned)) := by
  cases type with
  | reference => cases appears
  | _ => rfl

theorem loweredParameter_eq_ok (lowered : loweredParameter type = .ok found) :
    type.appearance = .value ∧ found.2 = .owned ∨
      ∃ lifetime referent, type = .reference lifetime false referent ∧
        TypeExpr.ofBorrowed referent = .ok found.1 ∧ found.2 = .borrowed := by
  cases type with
  | reference lifetime isMutable referent =>
      cases isMutable with
      | true => cases lowered
      | false =>
          simp only [loweredParameter, bind_eq_ok_iff, pure_eq_ok_iff] at lowered
          obtain ⟨expr, lent, rfl⟩ := lowered
          exact .inr ⟨lifetime, referent, rfl, lent, rfl⟩
  | _ =>
      simp only [loweredParameter, bind_eq_ok_iff, pure_eq_ok_iff] at lowered
      obtain ⟨_, _, rfl⟩ := lowered
      exact .inl ⟨rfl, rfl⟩

/-- The type of a parameter is lowered as its outline if it shows the same. -/
theorem loweredParameter_congr (same : left.outline = right.outline)
    (shown : left.appearance = right.appearance) :
    loweredParameter left = loweredParameter right := by
  cases appears : left.appearance with
  | value =>
      rw [loweredParameter_of_value appears, loweredParameter_of_value (shown ▸ appears),
        TypeExpr.ofSource_congr same]
  | reference isUnsized =>
      obtain ⟨_, isMutable, referent, rfl, isLeft⟩ :=
        SourceType.exists_of_appearance_eq_reference appears
      obtain ⟨_, _, other, rfl, isRight⟩ :=
        SourceType.exists_of_appearance_eq_reference (shown ▸ appears)
      obtain ⟨-, rfl, inside⟩ := SourceType.reference.inj same
      cases isMutable with
      | true => rfl
      | false =>
          simp only [loweredParameter,
            TypeExpr.ofBorrowed_congr inside (isLeft.trans isRight.symm)]

theorem appearance_eq_of_loweredParameter (same : left.outline = right.outline)
    (isLeft : loweredParameter left = .ok found) (isRight : loweredParameter right = .ok found) :
    left.appearance = right.appearance := by
  rcases loweredParameter_eq_ok isLeft with ⟨onLeft, owned⟩ | ⟨_, referent, rfl, lent, borrowed⟩
  · rcases loweredParameter_eq_ok isRight with ⟨onRight, _⟩ | ⟨_, _, rfl, _, borrowed⟩
    · rw [onLeft, onRight]
    · cases owned.symm.trans borrowed
  · rcases loweredParameter_eq_ok isRight with ⟨_, owned⟩ | ⟨_, other, rfl, alsoLent, _⟩
    · cases owned.symm.trans borrowed
    · obtain ⟨-, -, inside⟩ := SourceType.reference.inj same
      exact congrArg Appearance.reference
        (TypeExpr.isUnsized_eq_of_ofBorrowed inside lent alsoLent)

end Parameters

namespace Method

variable {method other left right lowered : Method} {index : Nat} {input : Input}
  {lefts rights inputs : List Input}

/-- Adds one input, of which `index` came before. -/
def addInput (method : Method) (index : Nat) : Input → Except LoweringFault Method
  | .receiver _ receiver =>
      if receiver.type.isSome then .error .typedReceiver
      else .ok { method with receiver := .ofInput receiver }
  | .typed _ pattern type => do
      let (lowered, passing) ← loweredParameter type
      let parameter : Parameter := ⟨inputLabel pattern index, lowered, passing⟩
      pure { method with parameters := method.parameters ++ [parameter] }
  | .variadic _ => .ok method

theorem addInputs_cons : method.addInputs index (input :: inputs)
    = method.addInput index input >>= fun next => next.addInputs (index + 1) inputs := by
  cases input with
  | receiver attributes found =>
      simp only [addInputs, addInput]
      split <;> rfl
  | typed attributes pattern type =>
      simp only [addInputs, addInput, bind_assoc, pure_bind]
  | variadic tokens => rfl

theorem addInput_congr {first second : Input} (same : first.outline = second.outline)
    (shown : first.appearance? = second.appearance?) :
    method.addInput index first = method.addInput index second := by
  cases first with
  | receiver attributes found =>
      cases second with
      | receiver _ found' =>
          obtain ⟨-, receivers⟩ := Input.receiver.inj same
          obtain ⟨reference, isMutable, types⟩ := ReceiverInput.mk.inj receivers
          have typed : found.type.isSome = found'.type.isSome := by
            simpa using congrArg Option.isSome types
          have receiver : Receiver.ofInput found = Receiver.ofInput found' := by
            simp only [Receiver.ofInput, reference, isMutable]
          simp only [addInput, typed, receiver]
      | _ => cases same
  | typed attributes pattern type =>
      cases second with
      | typed _ pattern' type' =>
          obtain ⟨-, patterns, types⟩ := Input.typed.inj same
          have forms : pattern.form = pattern'.form := (Pattern.mk.inj patterns).2
          have label : inputLabel pattern index = inputLabel pattern' index := by
            simp only [inputLabel, Pattern.boundName?, forms]
          simp only [addInput, label,
            loweredParameter_congr types (Option.some.inj shown)]
      | _ => cases same
  | variadic tokens =>
      cases second with
      | variadic _ => rfl
      | _ => cases same

theorem addInputs_congr (same : lefts.map Input.outline = rights.map Input.outline)
    (shown : lefts.map Input.appearance? = rights.map Input.appearance?) :
    method.addInputs index lefts = method.addInputs index rights := by
  induction lefts generalizing rights method index with
  | nil =>
      obtain rfl := List.map_eq_nil_iff.mp same.symm
      rfl
  | cons left lefts inductionHypothesis =>
      cases rights with
      | nil => cases same
      | cons right rights =>
          obtain ⟨first, others⟩ := List.cons.inj same
          obtain ⟨appears, appear⟩ := List.cons.inj shown
          rw [addInputs_cons, addInputs_cons, addInput_congr first appears]
          congr 1
          funext next
          exact inductionHypothesis others appear

theorem parameters_of_addInput (untyped : input.appearance? = none)
    (added : method.addInput index input = .ok lowered) :
    lowered.parameters = method.parameters := by
  cases input with
  | receiver attributes found =>
      simp only [addInput] at added
      split at added
      case isTrue => cases added
      case isFalse =>
        obtain rfl := Except.ok.inj added
        rfl
  | typed attributes pattern type => cases untyped
  | variadic tokens =>
      obtain rfl := Except.ok.inj added
      rfl

theorem prefix_of_addInput (added : method.addInput index input = .ok lowered) :
    method.parameters <+: lowered.parameters := by
  cases input with
  | typed attributes pattern type =>
      simp only [addInput, bind_eq_ok_iff, pure_eq_ok_iff] at added
      obtain ⟨_, _, rfl⟩ := added
      exact List.prefix_append ..
  | _ =>
      have kept := parameters_of_addInput rfl added
      exact kept ▸ List.prefix_rfl

theorem prefix_of_addInputs (added : method.addInputs index inputs = .ok lowered) :
    method.parameters <+: lowered.parameters := by
  induction inputs generalizing method index with
  | nil =>
      obtain rfl := Except.ok.inj added
      exact List.prefix_rfl
  | cons input rest inductionHypothesis =>
      rw [addInputs_cons, bind_eq_ok_iff] at added
      obtain ⟨next, isNext, added⟩ := added
      exact (prefix_of_addInput isNext).trans (inductionHypothesis added)

/-- Two inputs of one outline that add the same show the same. -/
theorem appearance?_of_addInput {first second : Input} {all : List Parameter}
    (same : first.outline = second.outline) (before : method.parameters = other.parameters)
    (isLeft : method.addInput index first = .ok left) (leads : left.parameters <+: all)
    (isRight : other.addInput index second = .ok right) (alsoLeads : right.parameters <+: all) :
    first.appearance? = second.appearance? ∧ left.parameters = right.parameters := by
  cases first with
  | typed attributes pattern type =>
      cases second with
      | typed _ pattern' type' =>
          obtain ⟨-, -, types⟩ := Input.typed.inj same
          simp only [addInput, bind_eq_ok_iff, pure_eq_ok_iff] at isLeft isRight
          obtain ⟨found, onLeft, rfl⟩ := isLeft
          obtain ⟨found', onRight, rfl⟩ := isRight
          simp only [before] at leads alsoLeads ⊢
          have equal := eq_of_prefix_append leads alsoLeads
          obtain ⟨-, lowered, passing⟩ := Parameter.mk.inj equal
          obtain rfl : found = found' := Prod.ext lowered passing
          exact ⟨congrArg some (appearance_eq_of_loweredParameter types onLeft onRight),
            by rw [equal]⟩
      | _ => cases same
  | receiver attributes found =>
      cases second with
      | receiver _ _ =>
          refine ⟨rfl, ?_⟩
          rw [parameters_of_addInput rfl isLeft, before, parameters_of_addInput rfl isRight]
      | _ => cases same
  | variadic tokens =>
      cases second with
      | variadic _ =>
          refine ⟨rfl, ?_⟩
          rw [parameters_of_addInput rfl isLeft, before, parameters_of_addInput rfl isRight]
      | _ => cases same

theorem appearances_of_addInputs (same : lefts.map Input.outline = rights.map Input.outline)
    (before : method.parameters = other.parameters)
    (isLeft : method.addInputs index lefts = .ok left)
    (isRight : other.addInputs index rights = .ok right)
    (after : left.parameters = right.parameters) :
    lefts.map Input.appearance? = rights.map Input.appearance? := by
  induction lefts generalizing rights method other index with
  | nil =>
      obtain rfl := List.map_eq_nil_iff.mp same.symm
      rfl
  | cons first lefts inductionHypothesis =>
      cases rights with
      | nil => cases same
      | cons second rights =>
          obtain ⟨outline, others⟩ := List.cons.inj same
          rw [addInputs_cons, bind_eq_ok_iff] at isLeft isRight
          obtain ⟨next, onLeft, isLeft⟩ := isLeft
          obtain ⟨next', onRight, isRight⟩ := isRight
          obtain ⟨appears, equal⟩ := appearance?_of_addInput outline before onLeft
            (prefix_of_addInputs isLeft) onRight (after ▸ prefix_of_addInputs isRight)
          have appear := inductionHypothesis others equal isLeft isRight
          rw [List.map_cons, List.map_cons, appears, appear]

variable {signature other : Signature}

theorem ofSignature_congr (same : signature.outline = other.outline)
    (shown : signature.inputs.items.map Input.appearance?
      = other.inputs.items.map Input.appearance?) :
    ofSignature signature = .ok lowered ↔ ofSignature other = .ok lowered := by
  obtain ⟨-, isAsync, isUnsafe, -, name, generics, inputs, output, -⟩ := Signature.mk.inj same
  have parameters := (Separated.mk.inj generics).1
  have refused : ∀ parameters : List GenericParameter, parameters.any (·.kind ≠ .type)
      = (parameters.map GenericParameter.kind).any (· ≠ .type) := by
    intro parameters
    rw [List.any_map]
    rfl
  have kinds : signature.generics.items.map GenericParameter.kind
      = other.generics.items.map GenericParameter.kind := by
    simpa [Function.comp_def] using congrArg (List.map GenericParameter.kind) parameters
  have names : signature.generics.items.map GenericParameter.name
      = other.generics.items.map GenericParameter.name := by
    simpa [Function.comp_def] using congrArg (List.map GenericParameter.name) parameters
  have outputs : signature.output.map TypeExpr.ofSource = other.output.map TypeExpr.ofSource := by
    simpa [Function.comp_def, TypeExpr.ofSource_outline]
      using congrArg (Option.map TypeExpr.ofSource) output
  rw [ofSignature_eq_ok_iff, ofSignature_eq_ok_iff, isAsync, isUnsafe, name, refused, refused,
    kinds, names, outputs, addInputs_congr (Separated.mk.inj inputs).1 shown]

theorem appearances_of_ofSignature (same : signature.outline = other.outline)
    (isLeft : ofSignature signature = .ok lowered) (isRight : ofSignature other = .ok lowered) :
    signature.inputs.items.map Input.appearance? = other.inputs.items.map Input.appearance? := by
  obtain ⟨-, -, -, -, -, -, inputs, -, -⟩ := Signature.mk.inj same
  obtain ⟨-, -, -, method, onLeft, made⟩ := ofSignature_eq_ok_iff.mp isLeft
  obtain ⟨-, -, -, method', onRight, made'⟩ := ofSignature_eq_ok_iff.mp isRight
  have left : lowered.parameters = method.parameters := by
    rcases made with ⟨-, rfl⟩ | ⟨_, -, rfl⟩ <;> rfl
  have right : lowered.parameters = method'.parameters := by
    rcases made' with ⟨-, rfl⟩ | ⟨_, -, rfl⟩ <;> rfl
  refine appearances_of_addInputs (Separated.mk.inj inputs).1 ?_ onLeft onRight
    (left.symm.trans right)
  rfl

end Method

end InterfaceWitness
