import InterfaceWitness.Lowering
import InterfaceWitness.Proofs.Emission
import InterfaceWitness.Proofs.Surface.Signature

/-!
What the items of a trait become in its interface: the constrained associated
types and the requirements, each in the order of the declaration.
-/

namespace InterfaceWitness

open Surface (Input Signature TraitItem TraitDeclaration SourceType)

/-- Whether a function takes an input by shared reference. -/
def Surface.Input.isShared : Input → Bool
  | .receiver _ found => found.reference.isSome && !found.isMutable
  | .typed _ _ (.reference _ isMutable _) => !isMutable
  | _ => false

/-- The inputs of a function, variable arguments apart, by whether they are
taken by shared reference. -/
def Surface.Input.sharing (inputs : List Input) : List Bool :=
  (inputs.filter (!·.isVariadic)).map Input.isShared

namespace Surface.Input

variable {attributes : List Token} {inputs : List Input}

@[simp]
theorem sharing_nil : sharing [] = [] := rfl

@[simp]
theorem sharing_receiver {found : ReceiverInput} :
    sharing (.receiver attributes found :: inputs)
      = (found.reference.isSome && !found.isMutable) :: sharing inputs := rfl

@[simp]
theorem sharing_typed {pattern : Pattern} {type : SourceType} :
    sharing (.typed attributes pattern type :: inputs)
      = isShared (.typed attributes pattern type) :: sharing inputs := rfl

@[simp]
theorem sharing_variadic {tokens : List Token} :
    sharing (.variadic tokens :: inputs) = sharing inputs := rfl

end Surface.Input

/-- Whether a parameter of a field is lent to an implementation. -/
def FieldParameter.isLent (parameter : FieldParameter) : Bool :=
  parameter.passing = .borrowed

namespace Method

variable {method lowered : Method} {index : Nat} {inputs : List Input} {signature : Signature}

theorem isShared_eq {attributes : List Token} {pattern : Surface.Pattern} {type : SourceType}
    {found : TypeExpr × Passing} (lowered : loweredParameter type = .ok found) :
    Input.isShared (.typed attributes pattern type) = decide (found.2 = .borrowed) := by
  unfold loweredParameter at lowered
  split at lowered
  case h_1 => simp at lowered
  case h_2 =>
    simp only [bind_eq_ok_iff, pure_eq_ok_iff] at lowered
    obtain ⟨_, _, rfl⟩ := lowered
    rfl
  case h_3 other _ =>
    simp only [bind_eq_ok_iff, pure_eq_ok_iff] at lowered
    obtain ⟨_, _, rfl⟩ := lowered
    unfold Input.isShared
    split
    case h_2 isMutable _ equal =>
      cases isMutable <;> simp_all
    all_goals simp_all

theorem isLent_forField (type : TypeExpr) (passing : Passing) :
    FieldParameter.isLent ⟨type, passing.forField⟩ = decide (passing = .borrowed) := by
  cases passing <;> rfl

/-- The parameters of a method as they are passed on, the receiver apart. -/
def lending (method : Method) : List Bool :=
  method.parameters.map fun parameter => decide (parameter.passing = .borrowed)

/-- Inputs without a receiver add their parameters and nothing else. -/
theorem addInputs_eq_ok (typed : ∀ input ∈ inputs, input.isReceiver = false)
    (added : method.addInputs index inputs = .ok lowered) :
    lowered.name = method.name ∧ lowered.receiver = method.receiver ∧
      lowered.lending = method.lending ++ Input.sharing inputs := by
  induction inputs generalizing method index with
  | nil =>
      obtain rfl := Except.ok.inj added
      simp
  | cons input rest inductionHypothesis =>
      have later : ∀ input ∈ rest, input.isReceiver = false := fun _ member =>
        typed _ (List.mem_cons_of_mem _ member)
      cases input with
      | receiver attributes found => simp [Input.isReceiver] at typed
      | typed attributes pattern type =>
          simp only [addInputs, bind_eq_ok_iff] at added
          obtain ⟨⟨expr, passing⟩, isType, added⟩ := added
          obtain ⟨name, receiver, lending⟩ := inductionHypothesis later added
          refine ⟨name, receiver, ?_⟩
          rw [lending]
          simp [Method.lending, isShared_eq isType]
      | variadic tokens =>
          exact inductionHypothesis later added

theorem fieldParameters_isLent (method : Method) :
    (Requirement.method method).fieldParameters.map FieldParameter.isLent
      = method.receiver.passing?.toList.map (fun passing => decide (passing = .borrowed))
        ++ method.lending := by
  rw [Requirement.fieldParameters, lending, List.map_append, List.map_map, List.map_map]
  congr 1
  exact List.map_congr_left fun parameter _ => isLent_forField ..

theorem ofSignature_eq_ok_iff : ofSignature signature = .ok lowered ↔
    signature.isAsync = false ∧ signature.isUnsafe = false ∧
      signature.generics.items.any (·.kind ≠ .type) = false ∧
      ∃ method, addInputs ⟨signature.name, [], .static,
          signature.generics.items.map Surface.GenericParameter.name, none⟩ 0 signature.inputs.items
            = .ok method ∧
        (signature.output.map TypeExpr.ofSource = none ∧ method = lowered ∨
          ∃ output, signature.output.map TypeExpr.ofSource = some (.ok output) ∧
            { method with output := some output } = lowered) := by
  simp only [ofSignature, refuse_eq_ok_iff, bind_eq_ok_iff, Bool.not_eq_true]
  refine and_congr_right fun _ => and_congr_right fun _ => and_congr_right fun _ =>
    exists_congr fun method => and_congr_right fun _ => ?_
  cases signature.output with
  | none => simp
  | some source =>
      cases source with
      | reference => simp [throw, throwThe, MonadExceptOf.throw, TypeExpr.ofSource]
      | _ => simp only [bind_eq_ok_iff, pure_eq_ok_iff, Option.map_some, Option.some.injEq,
          reduceCtorEq, false_and, false_or]

/-- The receiver comes first in the field of a function, as it does in its
signature. -/
theorem ofSignature_eq_ok (made : Method.ofSignature signature = .ok lowered)
    (first : signature.ReceiverFirst) :
    lowered.name = signature.name ∧
      (Requirement.method lowered).fieldParameters.map FieldParameter.isLent
        = Input.sharing signature.inputs.items := by
  obtain ⟨-, -, -, method, added, made⟩ := ofSignature_eq_ok_iff.mp made
  have same : lowered.name = method.name ∧ lowered.receiver = method.receiver ∧
      lowered.parameters = method.parameters := by
    rcases made with ⟨-, rfl⟩ | ⟨_, -, rfl⟩
    · exact ⟨rfl, rfl, rfl⟩
    · exact ⟨rfl, rfl, rfl⟩
  rw [fieldParameters_isLent, same.1, same.2.1, Method.lending, same.2.2, ← Method.lending]
  have static : (∀ input ∈ signature.inputs.items, input.isReceiver = false) →
      method.name = signature.name ∧
        method.receiver.passing?.toList.map (fun passing => decide (passing = .borrowed))
          ++ method.lending = Input.sharing signature.inputs.items := by
    intro typed
    obtain ⟨name, receiver, lending⟩ := addInputs_eq_ok typed added
    refine ⟨name, ?_⟩
    rw [receiver, lending]
    simp [Receiver.passing?, Method.lending]
  cases inputs : signature.inputs.items with
  | nil => exact inputs ▸ static (by simp [inputs])
  | cons input rest =>
      rw [Signature.ReceiverFirst, inputs, List.tail_cons] at first
      rw [inputs] at added static
      cases input with
      | receiver attributes found =>
          simp only [addInputs] at added
          split at added
          case isTrue => simp at added
          case isFalse =>
            obtain ⟨name, receiver, lending⟩ := addInputs_eq_ok first added
            refine ⟨name, ?_⟩
            rw [receiver, lending]
            cases reference : found.reference <;> cases isMutable : found.isMutable <;>
              simp [Receiver.ofInput, Receiver.passing?, Method.lending, reference, isMutable]
      | typed attributes pattern type => exact static (List.forall_mem_cons.mpr ⟨rfl, first⟩)
      | variadic tokens => exact static (List.forall_mem_cons.mpr ⟨rfl, first⟩)

end Method

/-- Whether the witness of an item is embedded. -/
def Surface.TraitItem.isNested (nested : List String) : TraitItem → Bool
  | .associatedType _ item => item.name ∈ nested
  | _ => false

def Surface.TraitItem.isRequirement : TraitItem → Bool
  | .constant .. => true
  | .function .. => true
  | _ => false

/-- The field that the witness of an associated type is embedded in. -/
inductive Nests : TraitItem → WitnessField → Prop where
  | associatedType {attributes : List Token} {item : Surface.AssociatedTypeItem}
      {constraint : String} :
      Nests (.associatedType attributes item)
        ⟨Text.snakeCase item.name, .nested constraint (witnessName constraint) item.name⟩

/-- The requirement that an item is lowered to. -/
inductive Requires : TraitItem → Requirement → Prop where
  | constant {attributes : List Token} {item : Surface.ConstantItem} {type : TypeExpr} :
      Requires (.constant attributes item) (.property ⟨item.name, type, true, true⟩)
  | function {attributes body : List Token} {signature : Signature} {method : Method}
      (named : method.name = signature.name)
      (lent : (Requirement.method method).fieldParameters.map FieldParameter.isLent
        = Input.sharing signature.inputs.items) :
      Requires (.function attributes signature body) (.method method)

namespace Interface

variable {start interface : Interface} {nested : List String} {item : TraitItem}

theorem nestedFields_append (associated : AssociatedType) :
    nestedFields { start with associatedTypes := start.associatedTypes ++ [associated] }
      = start.nestedFields ++ (associated.constraint.map fun constraint =>
        ⟨Text.snakeCase associated.name,
          .nested constraint (witnessName constraint) associated.name⟩).toList := by
  cases constrained : associated.constraint <;> simp [nestedFields, constrained]

/-- What an item adds to an interface. -/
theorem addItem_eq_ok (first : item.ReceiverFirst)
    (added : start.addItem nested item = .ok interface) :
    interface.name = start.name ∧ interface.options = start.options ∧
      (∃ fields, interface.nestedFields = start.nestedFields ++ fields ∧
        List.Forall₂ Nests ([item].filter (·.isNested nested)) fields) ∧
      ∃ requirements, interface.requirements = start.requirements ++ requirements ∧
        List.Forall₂ Requires ([item].filter (·.isRequirement)) requirements := by
  cases item with
  | associatedType attributes declared =>
      simp only [addItem, bind_eq_ok_iff, pure_eq_ok_iff] at added
      obtain ⟨associated, made, rfl⟩ := added
      refine ⟨rfl, rfl, ⟨_, nestedFields_append associated, ?_⟩, [], by simp, .nil⟩
      unfold AssociatedType.ofItem at made
      split at made
      case isTrue => simp at made
      case isFalse =>
        split at made
        case isFalse foreign =>
          obtain rfl := Except.ok.inj made
          simp [Surface.TraitItem.isNested, foreign]
        case isTrue isNested =>
          split at made
          case h_2 => simp at made
          case h_1 constraint _ =>
            obtain rfl := Except.ok.inj made
            simpa [Surface.TraitItem.isNested, isNested] using Nests.associatedType
  | constant attributes declared =>
      simp only [addItem, bind_eq_ok_iff, pure_eq_ok_iff] at added
      obtain ⟨type, _, rfl⟩ := added
      exact ⟨rfl, rfl, ⟨[], by simp [nestedFields], .nil⟩, _, rfl, .cons .constant .nil⟩
  | function attributes signature body =>
      simp only [addItem, bind_eq_ok_iff, pure_eq_ok_iff] at added
      obtain ⟨method, made, rfl⟩ := added
      obtain ⟨named, lent⟩ := Method.ofSignature_eq_ok made first
      exact ⟨rfl, rfl, ⟨[], by simp [nestedFields], .nil⟩, _, rfl,
        .cons (.function named lent) .nil⟩
  | other tokens => simp [addItem] at added

theorem addItems_eq_ok {items : List TraitItem} (first : ∀ item ∈ items, item.ReceiverFirst)
    (added : items.foldlM (·.addItem nested ·) start = .ok interface) :
    interface.name = start.name ∧ interface.options = start.options ∧
      (∃ fields, interface.nestedFields = start.nestedFields ++ fields ∧
        List.Forall₂ Nests (items.filter (·.isNested nested)) fields) ∧
      ∃ requirements, interface.requirements = start.requirements ++ requirements ∧
        List.Forall₂ Requires (items.filter (·.isRequirement)) requirements := by
  induction items generalizing start with
  | nil =>
      obtain rfl := Except.ok.inj added
      exact ⟨rfl, rfl, ⟨[], by simp, .nil⟩, [], by simp, .nil⟩
  | cons item rest inductionHypothesis =>
      rw [List.foldlM_cons, bind_eq_ok_iff] at added
      obtain ⟨middle, stepped, added⟩ := added
      obtain ⟨name, options, ⟨fields, nests, isField⟩, requirements, requires, isRequirement⟩ :=
        addItem_eq_ok (first item (List.mem_cons_self ..)) stepped
      obtain ⟨name', options', ⟨moreFields, nests', areFields⟩, more, requires', areRequirements⟩ :=
        inductionHypothesis (fun other member => first other (List.mem_cons_of_mem _ member)) added
      refine ⟨name'.trans name, options'.trans options,
        ⟨fields ++ moreFields, by rw [nests', nests, List.append_assoc], ?_⟩,
        requirements ++ more, by rw [requires', requires, List.append_assoc], ?_⟩
      · rw [← List.singleton_append, List.filter_append]
        exact List.rel_append isField areFields
      · rw [← List.singleton_append, List.filter_append]
        exact List.rel_append isRequirement areRequirements

variable {declaration : TraitDeclaration} {options : GenerationOptions}

theorem ofTrait_eq_ok_iff : ofTrait declaration options nested = .ok interface ↔
    declaration.generics.items.isEmpty = true ∧ declaration.constraints.isSome = false ∧
      nested.find? (!declares declaration ·) = none ∧
      declaration.items.foldlM (·.addItem nested ·)
        (⟨declaration.name, .ofVisibility declaration.visibility, [], [], options⟩ : Interface)
          = .ok interface := by
  simp only [ofTrait, refuse_eq_ok_iff, Bool.or_eq_true, Bool.not_eq_true', not_or,
    Bool.not_eq_false, Bool.not_eq_true, and_assoc]
  refine and_congr_right fun _ => and_congr_right fun _ => ?_
  cases nested.find? (!declares declaration ·) with
  | none => simp
  | some missing =>
      simp [throw, throwThe, MonadExceptOf.throw, Bind.bind, Except.bind]

end Interface

end InterfaceWitness
