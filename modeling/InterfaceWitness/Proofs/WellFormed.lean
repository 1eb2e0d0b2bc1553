import InterfaceWitness.Proofs.Grouping.Signature
import InterfaceWitness.Proofs.Lowered
import InterfaceWitness.Proofs.Refusal
import InterfaceWitness.Proofs.Surface.Declaration

/-!
What the types of a trait are lowered to.  Each type of the interface stands for
the type that is written at its place, path by path, and only a generic type
without arguments keeps it from being printed.
-/

namespace InterfaceWitness

open Surface

namespace TypeExpr

variable {type : TypeExpr} {types : List TypeExpr} {rooted : Bool} {names : List String}

/-- The types that a type is put together from. -/
def components : TypeExpr → List TypeExpr
  | .identifier _ => []
  | .generic _ arguments => arguments
  | .function parameters output => parameters ++ output.toList
  | .tuple elements => elements
  | .optional inner => [inner]

/-- A type that stands somewhere in another, or is the other. -/
inductive Part (part : TypeExpr) : TypeExpr → Prop
  | whole : Part part part
  | inside {type component : TypeExpr} :
      component ∈ type.components → Part part component → Part part type

theorem Lowered.of_component (lowered : type.Lowered) :
    ∀ component ∈ type.components, component.Lowered := by
  cases lowered with
  | identifier => simp [components]
  | generic _ _ areLowered _ => exact areLowered
  | tuple areLowered => exact areLowered
  | optional lowered => exact List.forall_mem_singleton.mpr lowered

/-- Induction from the components of a type to the type. -/
@[elab_as_elim]
theorem Lowered.by_components {holds : TypeExpr → Prop}
    (step : ∀ type, type.Lowered → (∀ component ∈ type.components, holds component) → holds type)
    (lowered : type.Lowered) : holds type := by
  induction lowered with
  | identifier legal => exact step _ (.identifier legal) (by simp [components])
  | generic legal isType areLowered isGeneric inductionHypothesis =>
      exact step _ (.generic legal isType areLowered isGeneric) inductionHypothesis
  | tuple areLowered inductionHypothesis => exact step _ (.tuple areLowered) inductionHypothesis
  | optional lowered inductionHypothesis =>
      exact step _ (.optional lowered) (List.forall_mem_singleton.mpr inductionHypothesis)

theorem Lowered.of_part {part : TypeExpr} (lowered : type.Lowered) (isPart : Part part type) :
    part.Lowered := by
  induction isPart with
  | whole => exact lowered
  | inside member _ inductionHypothesis =>
      exact inductionHypothesis (lowered.of_component _ member)

/-! ## The check -/

theorem checkTypeName_pathText (legal : LegalNames rooted names) :
    checkTypeName (pathText rooted names) = .ok () := by
  have shown : (pathText rooted names).toList.all Text.isBlank = false := by
    obtain ⟨name, names, rfl⟩ := List.exists_cons_of_ne_nil legal.nonempty
    have spelled := isWord_eq_true.mp (legal.words name (List.mem_cons_self ..))
    obtain ⟨char, rest, begun, _⟩ := spelled.eq_cons
    have solid : Text.isBlank char = false := spelled.unbroken.isBlank (by simp [begun])
    simp [toList_pathText, begun, solid]
  rw [checkTypeName, shown, ofText_pathText legal]
  rfl

theorem checkAll_eq_error_iff :
    (∃ fault, checkAll types = .error fault) ↔
      ∃ type ∈ types, ∃ fault, type.check = .error fault := by
  induction types with
  | nil => simp [checkAll]
  | cons type rest inductionHypothesis =>
      simp only [checkAll, bind_eq_error_iff, List.exists_mem_cons_iff, ← inductionHypothesis]
      cases type.check <;> simp

/-- A lowered type fails the check if it is a generic type without arguments or if
a component fails. -/
theorem Lowered.check_step (lowered : type.Lowered) :
    (∃ fault, type.check = .error fault) ↔
      (∃ base, type = .generic base []) ∨
        ∃ component ∈ type.components, ∃ fault, component.check = .error fault := by
  cases lowered with
  | identifier legal => simp [check, checkTypeName_pathText legal, components]
  | @generic rooted names last arguments legal _ _ _ =>
      rw [check, checkTypeName_pathText legal]
      cases arguments with
      | nil => simp [bind_eq_error_iff]
      | cons argument rest => simp [bind_eq_error_iff, components, checkAll_eq_error_iff]
  | tuple => simp [check, components, checkAll_eq_error_iff]
  | optional => simp [check, components]

theorem Lowered.check_eq_error_iff (lowered : type.Lowered) :
    (∃ fault, type.check = .error fault) ↔ ∃ base, Part (.generic base []) type := by
  constructor
  -- Down to the component that fails, and back up from the generic type.
  · refine by_components (fun type lowered inside failed => ?_) lowered
    rcases lowered.check_step.mp failed with ⟨base, rfl⟩ | ⟨component, member, failed⟩
    · exact ⟨base, .whole⟩
    · obtain ⟨base, isPart⟩ := inside component member failed
      exact ⟨base, .inside member isPart⟩
  · rintro ⟨base, isPart⟩
    generalize emptied : TypeExpr.generic base [] = part at isPart
    induction isPart with
    | whole => exact lowered.check_step.mpr (.inl ⟨base, emptied.symm⟩)
    | inside member _ inductionHypothesis =>
        exact lowered.check_step.mpr
          (.inr ⟨_, member, inductionHypothesis (lowered.of_component _ member)⟩)

/-- A type as lowering makes it. -/
structure WellFormed (type : TypeExpr) : Prop where
  noFunction : ∀ parameters output, ¬Part (.function parameters output) type
  /-- An option is never a generic type of one argument. -/
  noGenericOption : ∀ base inner, Part (.generic base [inner]) type → isOptionPath base = false
  /-- Only a generic type without arguments fails the check. -/
  check_eq_error_iff :
    (∃ fault, type.check = .error fault) ↔ ∃ base, Part (.generic base []) type

theorem Lowered.wellFormed (lowered : type.Lowered) : type.WellFormed where
  noFunction parameters output isPart := nomatch lowered.of_part isPart
  noGenericOption base inner isPart := by
    obtain _ | ⟨_, _, _, isGeneric⟩ := lowered.of_part isPart
    by_contra isOption
    simp [TypeExpr.applied, isOption] at isGeneric
  check_eq_error_iff := lowered.check_eq_error_iff

/-! ## What a type stands for -/

/-- A type that stands for one that is written.  It has the same shape, groups
apart, and each of its names is a path of the same segments without arguments.  A
generic type of one argument is an option if it has the path of one. -/
inductive StandsFor : TypeExpr → SourceType → Prop
  | parenthesized {type : TypeExpr} {inner : SourceType} :
      StandsFor type inner → StandsFor type (.parenthesized inner)
  | grouped {type : TypeExpr} {inner : SourceType} :
      StandsFor type inner → StandsFor type (.grouped inner)
  | tuple {types : List TypeExpr} {elements : List SourceType} {trailing : Bool} :
      List.Forall₂ StandsFor types elements →
      StandsFor (.tuple types) (.tuple elements trailing)
  | identifier {name : String} {rooted : Bool} {names : List String} :
      Path.ofText name = .ok ⟨rooted, names.map .plain⟩ →
      StandsFor (.identifier name) (.path rooted (names.map .plain))
  | generic {base last : String} {rooted separated trailing : Bool} {names : List String}
      {types : List TypeExpr} {arguments : List SourceType} :
      Path.ofText base = .ok ⟨rooted, (names ++ [last]).map .plain⟩ →
      List.Forall₂ StandsFor types arguments →
      StandsFor (.generic base types) (.path rooted
        (names.map .plain ++ [.applied last separated (arguments.map .type) trailing]))
  | optional {inner : TypeExpr} {last : String} {rooted separated trailing : Bool}
      {names : List String} {argument : SourceType} :
      isOptionPath (pathText rooted (names ++ [last])) = true → StandsFor inner argument →
      StandsFor (.optional inner) (.path rooted
        (names.map .plain ++ [.applied last separated [.type argument] trailing]))

theorem standsFor_applied {last : String} {separated trailing : Bool} {arguments : List SourceType}
    (legal : LegalNames rooted (names ++ [last])) (stand : List.Forall₂ StandsFor types arguments) :
    (TypeExpr.applied (pathText rooted (names ++ [last])) types).StandsFor (.path rooted
      (names.map .plain ++ [.applied last separated (arguments.map .type) trailing])) := by
  unfold TypeExpr.applied
  split
  -- One argument: the path decides whether it is an option.
  case h_1 inner =>
    obtain ⟨argument, _, isInner, ⟨⟩, rfl⟩ := List.forall₂_cons_left_iff.mp stand
    split
    case isTrue isOption => exact .optional isOption isInner
    case isFalse => exact .generic (ofText_pathText legal) stand
  case h_2 => exact .generic (ofText_pathText legal) stand

mutual

theorem standsFor_ofSource : (source : SourceType) → {type : TypeExpr} → source.Legal →
    ofSource source = .ok type → type.StandsFor source
  | .parenthesized inner, _, .parenthesized legal, made =>
      .parenthesized (standsFor_ofSource inner legal made)
  | .grouped inner, _, .grouped legal, made => .grouped (standsFor_ofSource inner legal made)
  | .tuple elements _, _, .tuple legal, made => by
      simp only [ofSource, bind_eq_ok_iff, pure_eq_ok_iff] at made
      obtain ⟨types, areTypes, rfl⟩ := made
      exact .tuple (standFor_ofSources elements legal areTypes)
  | .path rooted segments, _, .path nonempty start legal, made =>
      standsFor_ofSegments segments rooted [] legal
        (SourceType.Legal.path nonempty start legal).legalNames made

theorem standFor_ofSources : (sources : List SourceType) → {types : List TypeExpr} →
    (∀ source ∈ sources, source.Legal) → ofSources sources = .ok types →
    List.Forall₂ StandsFor types sources
  | [], _, _, made => by
      obtain rfl := Except.ok.inj made
      exact .nil
  | source :: rest, _, legal, made => by
      simp only [ofSources, bind_eq_ok_iff, pure_eq_ok_iff] at made
      obtain ⟨type, isType, types, areTypes, rfl⟩ := made
      have ⟨first, others⟩ := List.forall_mem_cons.mp legal
      exact .cons (standsFor_ofSource source first isType) (standFor_ofSources rest others areTypes)

/-- The names read so far go with the segments that follow. -/
theorem standsFor_ofSegments : (segments : List Segment) → (rooted : Bool) →
    (names : List String) → {type : TypeExpr} → (∀ segment ∈ segments, segment.Legal) →
    LegalNames rooted (names ++ segments.map Segment.name) →
    ofSegments rooted names segments = .ok type →
    type.StandsFor (.path rooted (names.map .plain ++ segments))
  | [], rooted, names, _, _, isPath, made => by
      obtain rfl := Except.ok.inj made
      rw [List.map_nil, List.append_nil] at isPath
      rw [List.append_nil]
      exact .identifier (ofText_pathText isPath)
  | .plain name :: rest, rooted, names, _, legal, isPath, made => by
      have stands := standsFor_ofSegments rest rooted (names ++ [name])
        (List.forall_mem_cons.mp legal).2 (by simpa [Segment.name] using isPath) made
      simpa using stands
  | [.applied name _ arguments _], _, _, _, legal, isPath, made => by
      simp only [ofSegments, bind_eq_ok_iff, pure_eq_ok_iff] at made
      obtain ⟨types, areTypes, rfl⟩ := made
      cases legal _ (List.mem_singleton_self _) with
      | applied _ _ legal =>
          obtain ⟨sources, rfl, stand⟩ := standFor_ofArguments arguments legal areTypes
          exact standsFor_applied isPath stand
  | .applied .. :: _ :: _, _, _, _, _, _, made => nomatch made

theorem standFor_ofArguments : (arguments : List Argument) → {types : List TypeExpr} →
    (∀ argument ∈ arguments, argument.Legal) → ofArguments arguments = .ok types →
    ∃ sources : List SourceType, arguments = sources.map .type ∧
      List.Forall₂ StandsFor types sources
  | [], _, _, made => by
      obtain rfl := Except.ok.inj made
      exact ⟨[], rfl, .nil⟩
  | .type source :: rest, _, legal, made => by
      simp only [ofArguments, bind_eq_ok_iff, pure_eq_ok_iff] at made
      obtain ⟨type, isType, types, areTypes, rfl⟩ := made
      have ⟨.type first, others⟩ := List.forall_mem_cons.mp legal
      obtain ⟨sources, rfl, stand⟩ := standFor_ofArguments rest others areTypes
      exact ⟨source :: sources, rfl, .cons (standsFor_ofSource source first isType) stand⟩
  | .lifetime _ :: _, _, _, made => nomatch made
  | .other _ :: _, _, _, made => nomatch made

end

theorem lowered_and_standsFor {source : SourceType} (formed : source.Formed)
    (made : ofSource source = .ok type) : type.Lowered ∧ type.StandsFor source :=
  have legal := legal_of_ofSource source formed made
  ⟨lowered_ofSource source legal made, standsFor_ofSource source legal made⟩

end TypeExpr

/-! ## Parameters -/

/-- A parameter that stands for one of a type that is written.  A text and a slice
that are lent are held as an owned text and a vector. -/
inductive Parameter.StandsFor : Parameter → SourceType → Prop
  | owned {label : String} {type : TypeExpr} {source : SourceType} :
      type.StandsFor source → StandsFor ⟨label, type, .owned⟩ source
  | text {label : String} {lifetime : Option String} :
      StandsFor ⟨label, .identifier "String", .borrowed⟩
        (.reference lifetime false (.path false [.plain "str"]))
  | elements {label : String} {type : TypeExpr} {lifetime : Option String} {element : SourceType} :
      type.StandsFor element →
      StandsFor ⟨label, .generic "Vec" [type], .borrowed⟩
        (.reference lifetime false (.slice element))
  | lent {label : String} {type : TypeExpr} {lifetime : Option String} {referent : SourceType} :
      referent ≠ .path false [.plain "str"] → type.StandsFor referent →
      StandsFor ⟨label, type, .borrowed⟩ (.reference lifetime false referent)

namespace TypeExpr

theorem lowered_string : (TypeExpr.identifier "String").Lowered :=
  @Lowered.identifier false ["String"] ⟨by decide, by decide, by decide, by decide⟩

theorem lowered_vec {element : TypeExpr} (lowered : element.Lowered) :
    (TypeExpr.generic "Vec" [element]).Lowered :=
  @Lowered.generic false [] "Vec" _ ⟨by decide, by decide, by decide, by decide⟩ (by decide)
    (List.forall_mem_singleton.mpr lowered) rfl

end TypeExpr

theorem standsFor_of_ofBorrowed {referent : SourceType} {type : TypeExpr} (label : String)
    (lifetime : Option String) (formed : referent.Formed)
    (lent : TypeExpr.ofBorrowed referent = .ok type) :
    type.Lowered ∧
      Parameter.StandsFor ⟨label, type, .borrowed⟩ (.reference lifetime false referent) := by
  unfold TypeExpr.ofBorrowed at lent
  split at lent
  case h_1 =>
    obtain rfl := Except.ok.inj lent
    exact ⟨TypeExpr.lowered_string, .text⟩
  case h_2 element =>
    simp only [bind_eq_ok_iff, pure_eq_ok_iff] at lent
    obtain ⟨type, made, rfl⟩ := lent
    cases formed with
    | slice formed =>
        obtain ⟨isLowered, stands⟩ := TypeExpr.lowered_and_standsFor formed made
        exact ⟨TypeExpr.lowered_vec isLowered, .elements stands⟩
  case h_3 noText _ =>
    obtain ⟨isLowered, stands⟩ := TypeExpr.lowered_and_standsFor formed lent
    exact ⟨isLowered, .lent noText stands⟩

theorem standsFor_of_loweredParameter {source : SourceType} {found : TypeExpr × Passing}
    (label : String) (formed : source.Formed) (lowered : loweredParameter source = .ok found) :
    found.1.Lowered ∧ Parameter.StandsFor ⟨label, found.1, found.2⟩ source := by
  unfold loweredParameter at lowered
  split at lowered
  case h_1 => cases lowered
  case h_2 lifetime referent =>
    simp only [bind_eq_ok_iff, pure_eq_ok_iff] at lowered
    obtain ⟨type, lent, rfl⟩ := lowered
    cases formed with
    | reference formed => exact standsFor_of_ofBorrowed label lifetime formed lent
  case h_3 =>
    simp only [bind_eq_ok_iff, pure_eq_ok_iff] at lowered
    obtain ⟨type, made, rfl⟩ := lowered
    obtain ⟨isLowered, stands⟩ := TypeExpr.lowered_and_standsFor formed made
    exact ⟨isLowered, .owned stands⟩

/-! ## Requirements -/

def Surface.Input.type? : Input → Option SourceType
  | .typed _ _ type => some type
  | _ => none

/-- A requirement that stands for a constant or a function. -/
inductive Requirement.StandsFor : Requirement → TraitItem → Prop
  | constant {attributes : List Token} {item : ConstantItem} {type : TypeExpr} :
      type.StandsFor item.type →
      StandsFor (.property ⟨item.name, type, true, true⟩) (.constant attributes item)
  | function {attributes body : List Token} {signature : Signature} {method : Method}
      (named : method.name = signature.name)
      (parameters : List.Forall₂ Parameter.StandsFor method.parameters
        (signature.inputs.items.filterMap Input.type?))
      (output : Option.Rel TypeExpr.StandsFor method.output signature.output) :
      StandsFor (.method method) (.function attributes signature body)

theorem Requirement.StandsFor.static {requirement : Requirement} {item : TraitItem}
    (stands : requirement.StandsFor item) (property : Property)
    (isProperty : requirement = .property property) : property.isStatic = true := by
  cases stands with
  | constant =>
      obtain rfl := Requirement.property.inj isProperty
      rfl
  | function => cases isProperty

namespace Method

variable {method next : Method} {index : Nat} {input : Input} {inputs : List Input}
  {signature : Signature}

/-- What one input adds to a method. -/
theorem addInput_eq_ok (formed : input.Formed) (added : method.addInput index input = .ok next) :
    next.name = method.name ∧ next.output = method.output ∧
      ∃ parameters, next.parameters = method.parameters ++ parameters ∧
        List.Forall₂ (fun parameter source =>
          parameter.type.Lowered ∧ Parameter.StandsFor parameter source)
          parameters input.type?.toList := by
  cases input with
  | receiver attributes found =>
      simp only [addInput] at added
      split at added
      case isTrue => cases added
      case isFalse =>
        obtain rfl := Except.ok.inj added
        exact ⟨rfl, rfl, [], by simp, .nil⟩
  | typed attributes pattern type =>
      simp only [addInput, bind_eq_ok_iff, pure_eq_ok_iff] at added
      obtain ⟨found, lowered, rfl⟩ := added
      exact ⟨rfl, rfl, [_], rfl, .cons (standsFor_of_loweredParameter _ formed lowered) .nil⟩
  | variadic tokens =>
      obtain rfl := Except.ok.inj added
      exact ⟨rfl, rfl, [], by simp, .nil⟩

theorem standFor_of_addInputs (formed : ∀ input ∈ inputs, input.Formed)
    (added : method.addInputs index inputs = .ok next) :
    next.name = method.name ∧ next.output = method.output ∧
      ∃ parameters, next.parameters = method.parameters ++ parameters ∧
        List.Forall₂ (fun parameter source =>
          parameter.type.Lowered ∧ Parameter.StandsFor parameter source)
          parameters (inputs.filterMap Input.type?) := by
  induction inputs generalizing method index with
  | nil =>
      obtain rfl := Except.ok.inj added
      exact ⟨rfl, rfl, [], by simp, .nil⟩
  | cons input rest inductionHypothesis =>
      have ⟨first, others⟩ := List.forall_mem_cons.mp formed
      rw [addInputs_cons, bind_eq_ok_iff] at added
      obtain ⟨middle, stepped, added⟩ := added
      obtain ⟨name, output, parameters, extended, stand⟩ := addInput_eq_ok first stepped
      obtain ⟨name', output', more, extended', stand'⟩ := inductionHypothesis others added
      refine ⟨name'.trans name, output'.trans output, parameters ++ more, ?_, ?_⟩
      · rw [extended', extended, List.append_assoc]
      · have split : (input :: rest).filterMap Input.type?
            = input.type?.toList ++ rest.filterMap Input.type? := by
          cases typed : input.type? <;> simp [typed]
        rw [split]
        exact List.rel_append stand stand'

theorem standsFor_of_ofSignature {attributes body : List Token} (formed : signature.Formed)
    (made : ofSignature signature = .ok next) :
    (∀ type ∈ (Requirement.method next).types, type.Lowered) ∧
      (Requirement.method next).StandsFor (.function attributes signature body) := by
  obtain ⟨-, -, -, method, added, made⟩ := ofSignature_eq_ok_iff.mp made
  obtain ⟨name, output, parameters, extended, stand⟩ := standFor_of_addInputs formed.inputs added
  obtain ⟨areLowered, stand⟩ := (List.forall₂_and_left _ _).mp stand
  simp only [List.nil_append] at extended
  have parametersLowered : ∀ type ∈ method.parameters.map Parameter.type, type.Lowered := by
    rw [extended]
    exact List.forall_mem_map.mpr areLowered
  rw [← extended] at stand
  cases written : signature.output with
  | none =>
      obtain rfl : method = next := by simpa [written] using made
      refine ⟨?_, .function name stand ?_⟩
      · rw [Requirement.types, output, Option.toList_none, List.append_nil]
        exact parametersLowered
      · rw [output, written]
        exact .none
  | some source =>
      obtain ⟨type, isOutput, rfl⟩ : ∃ type, TypeExpr.ofSource source = .ok type ∧
          { method with output := some type } = next := by simpa [written] using made
      obtain ⟨isLowered, stands⟩ :=
        TypeExpr.lowered_and_standsFor (formed.output source written) isOutput
      refine ⟨?_, .function name stand ?_⟩
      · exact List.forall_mem_append.mpr
          ⟨parametersLowered, List.forall_mem_singleton.mpr isLowered⟩
      · rw [written]
        exact .some stands

end Method

/-! ## Traits -/

namespace Interface

variable {start next interface : Interface} {nested : List String} {item : TraitItem}

/-- What an item adds to the requirements. -/
theorem standFor_of_addItem (formed : item.Formed) (added : start.addItem nested item = .ok next) :
    ∃ requirements, next.requirements = start.requirements ++ requirements ∧
      List.Forall₂ (fun requirement item =>
        (∀ type ∈ requirement.types, type.Lowered) ∧ Requirement.StandsFor requirement item)
        requirements ([item].filter (·.isRequirement)) := by
  cases item with
  | associatedType attributes declared =>
      simp only [addItem, bind_eq_ok_iff, pure_eq_ok_iff] at added
      obtain ⟨associated, _, rfl⟩ := added
      exact ⟨[], by simp, .nil⟩
  | constant attributes declared =>
      simp only [addItem, bind_eq_ok_iff, pure_eq_ok_iff] at added
      obtain ⟨type, made, rfl⟩ := added
      obtain ⟨isLowered, stands⟩ := TypeExpr.lowered_and_standsFor formed made
      exact ⟨_, rfl, .cons ⟨List.forall_mem_singleton.mpr isLowered, .constant stands⟩ .nil⟩
  | function attributes signature body =>
      simp only [addItem, bind_eq_ok_iff, pure_eq_ok_iff] at added
      obtain ⟨method, made, rfl⟩ := added
      exact ⟨_, rfl, .cons (Method.standsFor_of_ofSignature formed made) .nil⟩
  | other tokens => cases added

theorem standFor_of_addItems {items : List TraitItem} (formed : ∀ item ∈ items, item.Formed)
    (added : items.foldlM (·.addItem nested ·) start = .ok next) :
    ∃ requirements, next.requirements = start.requirements ++ requirements ∧
      List.Forall₂ (fun requirement item =>
        (∀ type ∈ requirement.types, type.Lowered) ∧ Requirement.StandsFor requirement item)
        requirements (items.filter (·.isRequirement)) := by
  induction items generalizing start with
  | nil =>
      obtain rfl := Except.ok.inj added
      exact ⟨[], by simp, .nil⟩
  | cons item rest inductionHypothesis =>
      have ⟨first, others⟩ := List.forall_mem_cons.mp formed
      rw [List.foldlM_cons, bind_eq_ok_iff] at added
      obtain ⟨middle, stepped, added⟩ := added
      obtain ⟨requirements, extended, stand⟩ := standFor_of_addItem first stepped
      obtain ⟨more, extended', stand'⟩ := inductionHypothesis others added
      refine ⟨requirements ++ more, by rw [extended', extended, List.append_assoc], ?_⟩
      rw [← List.singleton_append, List.filter_append]
      exact List.rel_append stand stand'

/-- What a trait requires stands for what is written, in order; each of its types
is well formed, and no constant is taken for one of a value. -/
theorem standFor_of_ofTrait {tokens : List Token} {declaration : TraitDeclaration}
    {options : GenerationOptions}
    (words : ∀ name, .identifier name ∈ tokens → isWord name = true)
    (read : TraitDeclaration.ofTokens tokens = .ok declaration)
    (lowered : ofTrait declaration options nested = .ok interface) :
    List.Forall₂ Requirement.StandsFor interface.requirements
        (declaration.items.filter (·.isRequirement)) ∧
      (∀ requirement ∈ interface.requirements, ∀ type ∈ requirement.types, type.WellFormed) ∧
      (∀ property, .property property ∈ interface.requirements → property.isStatic = true) ∧
      ∀ config owner name,
        interface.emit config ≠ .error (.unsupported owner name .instanceConstant) := by
  obtain ⟨-, -, -, added⟩ := ofTrait_eq_ok_iff.mp lowered
  have formed := TraitDeclaration.formed_of_ofTokens words read
  obtain ⟨requirements, extended, stand⟩ := standFor_of_addItems formed added
  obtain rfl : interface.requirements = requirements := by simpa using extended
  obtain ⟨areLowered, stand⟩ := (List.forall₂_and_left _ _).mp stand
  have static : ∀ requirement ∈ interface.requirements,
      ∀ property, requirement = .property property → property.isStatic = true :=
    ((List.forall₂_and_left _ _).mp (stand.imp fun _ _ stands => ⟨stands.static, stands⟩)).1
  refine ⟨stand, fun requirement member type isType =>
    (areLowered requirement member type isType).wellFormed,
    fun property member => static _ member property rfl, ?_⟩
  intro config owner name refused
  obtain ⟨property, member, ofValue⟩ := exists_property_of_emit refused
  rw [static _ member property rfl] at ofValue
  cases ofValue

/-- A text and a slice that are lent, a path with a raw name, and a vector that has
lost its argument. -/
theorem standFor_of_ofTrait_depot :
    let tokens := Token.ofFragment
      ("trait Depot \x7b const LIMIT: (Option<::core::u8>); "
        ++ "fn load(key: &str, ids: &[crate::r#type::Id]) -> (Self, Vec<>); \x7d")
    (∀ name, .identifier name ∈ tokens → isWord name = true) ∧
      ∃ declaration interface, TraitDeclaration.ofTokens tokens = .ok declaration ∧
        ofTrait declaration {} [] = .ok interface ∧
        interface.requirements = [
          .property ⟨"LIMIT", .optional (.identifier "::core::u8"), true, true⟩,
          .method ⟨"load", [⟨"key", .identifier "String", .borrowed⟩,
            ⟨"ids", .generic "Vec" [.identifier "crate::r#type::Id"], .borrowed⟩],
            .static, [], some (.tuple [.identifier "Self", .generic "Vec" []])⟩] ∧
        List.Forall₂ Requirement.StandsFor interface.requirements
          (declaration.items.filter (·.isRequirement)) ∧
        (∀ requirement ∈ interface.requirements, ∀ type ∈ requirement.types, type.WellFormed) ∧
        (∀ property, .property property ∈ interface.requirements → property.isStatic = true) ∧
        ∀ config owner name,
          interface.emit config ≠ .error (.unsupported owner name .instanceConstant) := by
  intro tokens
  have ⟨checked, ran⟩ : tokens.all (fun token =>
        token ≠ .identifier token.text || isWord token.text) = true ∧
      ((TraitDeclaration.ofTokens tokens).toOption.bind fun declaration =>
        (ofTrait declaration {} []).toOption.map Interface.requirements) = some [
          .property ⟨"LIMIT", .optional (.identifier "::core::u8"), true, true⟩,
          .method ⟨"load", [⟨"key", .identifier "String", .borrowed⟩,
            ⟨"ids", .generic "Vec" [.identifier "crate::r#type::Id"], .borrowed⟩],
            .static, [], some (.tuple [.identifier "Self", .generic "Vec" []])⟩] := by
    decide +kernel
  have words : ∀ name, .identifier name ∈ tokens → isWord name = true := by
    intro name member
    simpa [Token.text] using List.all_eq_true.mp checked _ member
  simp only [Option.bind_eq_some_iff, Option.map_eq_some_iff, toOption_eq_some_iff] at ran
  obtain ⟨declaration, read, interface, lowered, required⟩ := ran
  exact ⟨words, declaration, interface, read, lowered, required,
    standFor_of_ofTrait words read lowered⟩

end Interface

end InterfaceWitness
