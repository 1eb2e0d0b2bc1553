import InterfaceWitness.Proofs.Grouping.Signature

/-!
What groups around types change in the interface of a trait: nothing but for
what the types of parameters show.
-/

namespace InterfaceWitness

open Surface

namespace AssociatedType

theorem witnessedTrait?_outline (bound : Bound) :
    witnessedTrait? bound.outline = witnessedTrait? bound := by
  cases bound with
  | trait path isPlain tokens =>
      cases isPlain with
      | false => rfl
      | true =>
          simp only [Bound.outline, witnessedTrait?, Path.outline, Segment.outlineAll_eq_map,
            List.getLast?_map]
          rcases path.segments.getLast? with - | ⟨name | _⟩ <;> rfl
  | _ => rfl

theorem ofItem_congr {left right : AssociatedTypeItem} (same : left.outline = right.outline)
    (nested : List String) : ofItem left nested = ofItem right nested := by
  obtain ⟨name, generics, bounds, -, -⟩ := AssociatedTypeItem.mk.inj same
  have isEmpty : left.generics.items.isEmpty = right.generics.items.isEmpty := by
    simpa using congrArg List.isEmpty (Separated.mk.inj generics).1
  have constraints : left.bounds.items.findSome? witnessedTrait?
      = right.bounds.items.findSome? witnessedTrait? := by
    simpa [List.findSome?_map, Function.comp_def, witnessedTrait?_outline]
      using congrArg (List.findSome? witnessedTrait?) (Separated.mk.inj bounds).1
  simp only [ofItem, name, isEmpty, constraints]

end AssociatedType

namespace Interface

variable {interface other next left right : Interface} {nested : List String} {item : TraitItem}
  {lefts rights items : List TraitItem} {all : List Requirement}

theorem addItem_congr {first second : TraitItem} (same : first.outline = second.outline)
    (shown : first.appearances = second.appearances) :
    interface.addItem nested first = .ok next ↔ interface.addItem nested second = .ok next := by
  cases first with
  | associatedType attributes item =>
      cases second with
      | associatedType _ item' =>
          simp only [addItem,
            AssociatedType.ofItem_congr (TraitItem.associatedType.inj same).2]
      | _ => cases same
  | constant attributes item =>
      cases second with
      | constant _ item' =>
          obtain ⟨name, type, -⟩ := ConstantItem.mk.inj (TraitItem.constant.inj same).2
          simp only [addItem, name, TypeExpr.ofSource_congr type]
      | _ => cases same
  | function attributes signature body =>
      cases second with
      | function _ signature' _ =>
          have outline := (TraitItem.function.inj same).2.1
          simp only [addItem, bind_eq_ok_iff, Method.ofSignature_congr outline shown]
      | _ => cases same
  | other tokens =>
      cases second with
      | other _ => rfl
      | _ => cases same

theorem addItems_congr (same : lefts.map TraitItem.outline = rights.map TraitItem.outline)
    (shown : lefts.map TraitItem.appearances = rights.map TraitItem.appearances) :
    lefts.foldlM (·.addItem nested ·) interface = .ok next ↔
      rights.foldlM (·.addItem nested ·) interface = .ok next := by
  induction lefts generalizing rights interface with
  | nil =>
      obtain rfl := List.map_eq_nil_iff.mp same.symm
      rfl
  | cons first lefts inductionHypothesis =>
      cases rights with
      | nil => cases same
      | cons second rights =>
          obtain ⟨outline, others⟩ := List.cons.inj same
          obtain ⟨appears, appear⟩ := List.cons.inj shown
          simp only [List.foldlM_cons, bind_eq_ok_iff, addItem_congr outline appears,
            inductionHypothesis others appear]

theorem prefix_of_addItem (added : interface.addItem nested item = .ok next) :
    interface.requirements <+: next.requirements := by
  cases item with
  | other tokens => cases added
  | associatedType attributes declared =>
      simp only [addItem, bind_eq_ok_iff, pure_eq_ok_iff] at added
      obtain ⟨_, _, rfl⟩ := added
      exact List.prefix_rfl
  | _ =>
      simp only [addItem, bind_eq_ok_iff, pure_eq_ok_iff] at added
      obtain ⟨_, _, rfl⟩ := added
      exact List.prefix_append ..

theorem prefix_of_addItems (added : items.foldlM (·.addItem nested ·) interface = .ok next) :
    interface.requirements <+: next.requirements := by
  induction items generalizing interface with
  | nil =>
      obtain rfl := Except.ok.inj added
      exact List.prefix_rfl
  | cons item rest inductionHypothesis =>
      rw [List.foldlM_cons, bind_eq_ok_iff] at added
      obtain ⟨middle, stepped, added⟩ := added
      exact (prefix_of_addItem stepped).trans (inductionHypothesis added)

/-- Two items of one outline that require the same show the same. -/
theorem appearances_of_addItem {first second : TraitItem}
    (same : first.outline = second.outline) (before : interface.requirements = other.requirements)
    (isLeft : interface.addItem nested first = .ok left) (leads : left.requirements <+: all)
    (isRight : other.addItem nested second = .ok right) (alsoLeads : right.requirements <+: all) :
    first.appearances = second.appearances ∧ left.requirements = right.requirements := by
  cases first with
  | associatedType attributes declared =>
      cases second with
      | associatedType _ _ =>
          simp only [addItem, bind_eq_ok_iff, pure_eq_ok_iff] at isLeft isRight
          obtain ⟨_, _, rfl⟩ := isLeft
          obtain ⟨_, _, rfl⟩ := isRight
          exact ⟨rfl, before⟩
      | _ => cases same
  | constant attributes declared =>
      cases second with
      | constant _ _ =>
          simp only [addItem, bind_eq_ok_iff, pure_eq_ok_iff] at isLeft isRight
          obtain ⟨_, _, rfl⟩ := isLeft
          obtain ⟨_, _, rfl⟩ := isRight
          simp only [before] at leads alsoLeads ⊢
          exact ⟨rfl, by rw [eq_of_prefix_append leads alsoLeads]⟩
      | _ => cases same
  | function attributes signature body =>
      cases second with
      | function _ signature' _ =>
          simp only [addItem, bind_eq_ok_iff, pure_eq_ok_iff] at isLeft isRight
          obtain ⟨method, onLeft, rfl⟩ := isLeft
          obtain ⟨method', onRight, rfl⟩ := isRight
          simp only [before] at leads alsoLeads ⊢
          obtain rfl : method = method' :=
            Requirement.method.inj (eq_of_prefix_append leads alsoLeads)
          have outline := (TraitItem.function.inj same).2.1
          exact ⟨Method.appearances_of_ofSignature outline onLeft onRight, rfl⟩
      | _ => cases same
  | other tokens => cases isLeft

theorem appearances_of_addItems (same : lefts.map TraitItem.outline = rights.map TraitItem.outline)
    (before : interface.requirements = other.requirements)
    (isLeft : lefts.foldlM (·.addItem nested ·) interface = .ok left)
    (isRight : rights.foldlM (·.addItem nested ·) other = .ok right)
    (after : left.requirements = right.requirements) :
    lefts.map TraitItem.appearances = rights.map TraitItem.appearances := by
  induction lefts generalizing rights interface other with
  | nil =>
      obtain rfl := List.map_eq_nil_iff.mp same.symm
      rfl
  | cons first lefts inductionHypothesis =>
      cases rights with
      | nil => cases same
      | cons second rights =>
          obtain ⟨outline, others⟩ := List.cons.inj same
          rw [List.foldlM_cons, bind_eq_ok_iff] at isLeft isRight
          obtain ⟨next, onLeft, isLeft⟩ := isLeft
          obtain ⟨next', onRight, isRight⟩ := isRight
          obtain ⟨appear, equal⟩ := appearances_of_addItem outline before onLeft
            (prefix_of_addItems isLeft) onRight (after ▸ prefix_of_addItems isRight)
          rw [List.map_cons, List.map_cons, appear, inductionHypothesis others equal isLeft isRight]

section Declarations

variable {first second : TraitDeclaration} {options : GenerationOptions}

theorem declares_outline (declaration : TraitDeclaration) (name : String) :
    declares declaration.outline name = declares declaration name := by
  simp only [declares, TraitDeclaration.outline, List.any_map]
  congr 1
  funext item
  cases item <;> rfl

theorem ofTrait_congr (same : first.outline = second.outline)
    (shown : first.appearances = second.appearances) :
    ofTrait first options nested = .ok interface ↔
      ofTrait second options nested = .ok interface := by
  obtain ⟨-, visibility, -, name, generics, -, constraints, -, items⟩ :=
    TraitDeclaration.mk.inj same
  have isEmpty : first.generics.items.isEmpty = second.generics.items.isEmpty := by
    simpa using congrArg List.isEmpty (Separated.mk.inj generics).1
  have constrained : first.constraints.isSome = second.constraints.isSome := by
    simpa [WhereClause.outline] using congrArg Option.isSome constraints
  have declared : declares first = declares second := by
    funext name
    rw [← declares_outline first, same, declares_outline]
  rw [ofTrait_eq_ok_iff, ofTrait_eq_ok_iff, visibility, name, isEmpty, constrained, declared,
    addItems_congr items shown]

theorem appearances_of_ofTrait (same : first.outline = second.outline)
    (isFirst : ofTrait first options nested = .ok interface)
    (isSecond : ofTrait second options nested = .ok interface) :
    first.appearances = second.appearances := by
  obtain ⟨-, -, -, added⟩ := ofTrait_eq_ok_iff.mp isFirst
  obtain ⟨-, -, -, added'⟩ := ofTrait_eq_ok_iff.mp isSecond
  obtain ⟨-, -, -, -, -, -, -, -, items⟩ := TraitDeclaration.mk.inj same
  refine appearances_of_addItems items ?_ added added' rfl
  rfl

/-- The groups around types make no difference to the interface of a trait
exactly if the types of its parameters show the same, or if it has none with
either. -/
theorem regrouped_iff (same : first.outline = second.outline) :
    (∀ interface, ofTrait first options nested = .ok interface ↔
        ofTrait second options nested = .ok interface) ↔
      first.appearances = second.appearances ∨
        ∀ interface, ofTrait first options nested ≠ .ok interface ∧
          ofTrait second options nested ≠ .ok interface := by
  constructor
  · intro unchanged
    by_cases lowered : ∃ interface, ofTrait first options nested = .ok interface
    · obtain ⟨interface, isFirst⟩ := lowered
      exact .inl (appearances_of_ofTrait same isFirst ((unchanged interface).mp isFirst))
    · rw [not_exists] at lowered
      exact .inr fun interface =>
        ⟨lowered interface, fun isSecond => lowered interface ((unchanged interface).mpr isSecond)⟩
  · rintro (shown | neither) interface
    · exact ofTrait_congr same shown
    · exact iff_of_false (neither interface).1 (neither interface).2

theorem regrouped_iff_codec :
    let named (name : String) : SourceType := .path false [.plain name]
    let codec (width output : SourceType) : TraitDeclaration :=
      { attributes := []
        visibility := .everywhere
        modifiers := []
        name := "Codec"
        generics := ⟨[], false⟩
        supertraits := ⟨[], false⟩
        constraints := none
        innerAttributes := []
        items := [.constant [] ⟨"WIDTH", width, []⟩, .function []
          { isConstant := false
            isAsync := false
            isUnsafe := false
            convention := []
            name := "decode"
            generics := ⟨[], false⟩
            inputs := ⟨[.typed [] ⟨[.identifier "text"], .binding "text"⟩
              (.reference none false (named "str"))], false⟩
            output := some output
            constraints := none } []] }
    let option (inner : SourceType) : SourceType :=
      .path false [.applied "Option" false [.type inner] false]
    let bare := codec (named "u8") (option (named "Self"))
    let grouped := codec (.parenthesized (named "u8"))
      (.grouped (option (.parenthesized (named "Self"))))
    bare.outline = grouped.outline ∧
      (∀ interface, ofTrait bare {} [] = .ok interface ↔ ofTrait grouped {} [] = .ok interface) ∧
      ∃ interface, ofTrait grouped {} [] = .ok interface := by
  intro named codec option bare grouped
  have same : bare.outline = grouped.outline := rfl
  exact ⟨same, (regrouped_iff same).mpr (.inl rfl), _, rfl⟩

/-- A text that is lent in parentheses is not lowered to an owned one. -/
theorem regrouped_text :
    let taking (referent : SourceType) : TraitDeclaration :=
      { attributes := []
        visibility := .inherited
        modifiers := []
        name := "X"
        generics := ⟨[], false⟩
        supertraits := ⟨[], false⟩
        constraints := none
        innerAttributes := []
        items := [.function []
          { isConstant := false
            isAsync := false
            isUnsafe := false
            convention := []
            name := "f"
            generics := ⟨[], false⟩
            inputs := ⟨[.typed [] ⟨[.identifier "x"], .binding "x"⟩
              (.reference none false referent)], false⟩
            output := none
            constraints := none } [Token.semicolon]] }
    let text : SourceType := .path false [.plain "str"]
    let lowered (type : String) : Interface :=
      ⟨"X", .unmarked, [.method ⟨"f", [⟨"x", .identifier type, .borrowed⟩], .static, [], none⟩],
        [], {}⟩
    (taking text).outline = (taking (.parenthesized text)).outline ∧
      ofTrait (taking text) {} [] = .ok (lowered "String") ∧
      ofTrait (taking (.parenthesized text)) {} [] = .ok (lowered "str") ∧
      lowered "str" ≠ lowered "String" := by
  intro taking text lowered
  exact ⟨rfl, rfl, rfl, by decide⟩

end Declarations

end Interface

end InterfaceWitness
