import InterfaceWitness.Proofs.Transform.Positions

/-!
Where routing fails.  The subject blocks a position that it stands at without
being convertible there, and the first blocked position is the one reported.
-/

namespace InterfaceWitness

open TypeExpr (Occurs)

namespace TypeExpr

/-- The subject stands at or below a generic or a function type. -/
def Blocked (type : TypeExpr) : Prop :=
  ∃ formers, Occurs selfType formers type ∧ (.generic ∈ formers ∨ .function ∈ formers)

theorem not_blocked_of_routable {type : TypeExpr}
    (routable : type.routable SubjectNames.primary = true) : ¬type.Blocked := by
  rintro ⟨formers, occurs, below⟩
  have passed := formers_of_routable occurs routable
  rcases below with generic | function
  · simpa using passed _ generic
  · simpa using passed _ function

theorem routable_of_not_blocked : (type : TypeExpr) → ¬type.Blocked →
    type.routable SubjectNames.primary = true
  | .identifier name, _ => routable_identifier name
  | .generic base arguments, free => by
      rw [routable_generic, Bool.eq_false_iff, ne_eq, mentions_primary_iff_occurs]
      rintro ⟨formers, occurs⟩
      exact free ⟨formers, occurs, .inl (by cases occurs <;> simp)⟩
  | .function parameters output, free => by
      rw [routable_function, Bool.eq_false_iff, ne_eq, mentions_primary_iff_occurs]
      rintro ⟨formers, occurs⟩
      exact free ⟨formers, occurs, .inr (by cases occurs <;> simp)⟩
  | .tuple elements, free => by
      refine routable_tuple.mpr fun element member => routable_of_not_blocked element ?_
      rintro ⟨formers, occurs, below⟩
      exact free ⟨_, .element member occurs, by simpa using below⟩
  | .optional inner, free => by
      refine routable_optional.mpr (routable_of_not_blocked inner ?_)
      rintro ⟨formers, occurs, below⟩
      exact free ⟨_, .inner occurs, by simpa using below⟩

theorem routable_iff_not_blocked {type : TypeExpr} :
    type.routable SubjectNames.primary = true ↔ ¬type.Blocked :=
  ⟨not_blocked_of_routable, routable_of_not_blocked type⟩

theorem mentions_of_blocked {type : TypeExpr} (blocked : type.Blocked) :
    type.mentions SubjectNames.primary = true := by
  obtain ⟨formers, occurs, _⟩ := blocked
  exact mentions_primary_iff_occurs.mpr ⟨formers, occurs⟩

end TypeExpr

/-- Whether the subject stands at a position and cannot be converted there.
What is changed in place has to be the subject itself. -/
def FieldParameter.Blocked (position : FieldParameter) : Prop :=
  if position.passing = .inout then
    position.type.HasSubject ∧ position.type ≠ .identifier selfType
  else position.type.Blocked

namespace FieldParameter

variable {position : FieldParameter}

theorem mentions_of_blocked (blocked : position.Blocked) :
    position.type.mentions SubjectNames.primary = true := by
  unfold Blocked at blocked
  split at blocked
  · exact TypeExpr.mentions_primary_iff_hasSubject.mpr blocked.1
  · exact TypeExpr.mentions_of_blocked blocked

theorem route?_eq_none_iff : position.route? SubjectNames.primary = none ↔ position.Blocked := by
  unfold Blocked
  simp only [route?_eq, ← TypeExpr.mentions_primary_iff_hasSubject, ne_eq,
    ← TypeExpr.isNamed_selfType]
  by_cases mentioned : position.type.mentions SubjectNames.primary = true
  · by_cases changed : position.passing = .inout
    · simp [mentioned, changed]
    · simp [mentioned, changed, TypeExpr.routable_iff_not_blocked]
  · have free : ¬position.type.Blocked := fun blocked =>
      mentioned (TypeExpr.mentions_of_blocked blocked)
    simp [mentioned, free]

/-- The route of one position, or the type that has none. -/
def routeOrType (position : FieldParameter) : Except TypeExpr ParameterRoute :=
  match position.route? SubjectNames.primary with
  | some route => .ok route
  | none => .error position.type

theorem routeOrType_eq_error_iff {type : TypeExpr} :
    position.routeOrType = .error type ↔ position.Blocked ∧ position.type = type := by
  rw [← route?_eq_none_iff]
  unfold routeOrType
  split <;> simp_all

theorem exists_routeOrType_eq_ok_iff :
    (∃ route, position.routeOrType = .ok route) ↔ ¬position.Blocked := by
  rw [← route?_eq_none_iff]
  unfold routeOrType
  split <;> simp_all

end FieldParameter

namespace FunctionField

/-- The parameters of a function, then its result as one more position. -/
def positions (function : FunctionField) : List FieldParameter :=
  function.parameters ++ function.output.toList.map (⟨·, .owned⟩)

/-- The first position that the subject blocks has this type. -/
def BlockedAt (function : FunctionField) (type : TypeExpr) : Prop :=
  ∃ before position after, function.positions = before ++ position :: after ∧
    (∀ earlier ∈ before, ¬earlier.Blocked) ∧ position.Blocked ∧ position.type = type

def Blocked (function : FunctionField) : Prop :=
  ∃ position ∈ function.positions, position.Blocked

variable {function : FunctionField} {type : TypeExpr}

theorem blockedAt_iff : function.BlockedAt type ↔
    function.positions.mapM FieldParameter.routeOrType = .error type := by
  simp only [BlockedAt, mapM_eq_error_iff, FieldParameter.routeOrType_eq_error_iff,
    FieldParameter.exists_routeOrType_eq_ok_iff]

theorem blocked_iff : function.Blocked ↔ ∃ type, function.BlockedAt type := by
  constructor
  · rintro ⟨position, member, blocked⟩
    cases ran : function.positions.mapM FieldParameter.routeOrType with
    | error type => exact ⟨type, blockedAt_iff.mpr ran⟩
    | ok routes =>
        have routed := exists_of_mapM_eq_ok ran member
        exact absurd blocked (FieldParameter.exists_routeOrType_eq_ok_iff.mp routed)
  · rintro ⟨type, before, position, after, split, _, blocked, _⟩
    exact ⟨position, by simp [split], blocked⟩

/-- A function that never mentions the subject is forwarded as it is, and no
position of it is blocked. -/
theorem not_blocked_of_not_mentions
    (parameters : ∀ parameter ∈ function.parameters,
      parameter.type.mentions SubjectNames.primary = false)
    (output : ∀ type ∈ function.output, type.mentions SubjectNames.primary = false) :
    ¬function.Blocked := by
  rintro ⟨position, member, blocked⟩
  have mentioned := FieldParameter.mentions_of_blocked blocked
  rcases List.mem_append.mp member with isParameter | isOutput
  · simp [parameters position isParameter] at mentioned
  · obtain ⟨type, isType, rfl⟩ := List.mem_map.mp isOutput
    simp [output type (Option.mem_toList.mp isType)] at mentioned

/-- A function has no routes exactly if the subject blocks one of its positions. -/
theorem transport_eq_error_iff :
    function.transport SubjectNames.primary = .error type ↔ function.BlockedAt type := by
  unfold transport
  split
  case isTrue unmentioned =>
    simp only [Bool.and_eq_true, Bool.not_eq_true', List.any_eq_false, Bool.not_eq_true,
      Option.any_eq_false] at unmentioned
    have free := not_blocked_of_not_mentions unmentioned.1 (by simpa using unmentioned.2)
    simp only [reduceCtorEq, false_iff]
    exact fun blocked => free (blocked_iff.mpr ⟨type, blocked⟩)
  case isFalse =>
    rw [blockedAt_iff, positions, List.mapM_append, bind_eq_error_iff, bind_eq_error_iff]
    refine or_congr Iff.rfl (exists_congr fun routes => and_congr_right fun _ => ?_)
    -- Results are not routed by `route?`: both sides are compared for each kind of result.
    cases function.output with
    | none => simp
    | some output =>
        simp only [Option.toList_some, List.map_cons, List.map_nil, List.mapM_cons, List.mapM_nil,
          bind_eq_error_iff, pure_ne_error, and_false, exists_false, or_false]
        by_cases mentioned : output.mentions SubjectNames.primary = true
        · by_cases routable : output.routable SubjectNames.primary = true
          · simp [FieldParameter.routeOrType, FieldParameter.route?_eq, mentioned, routable]
          · rw [if_neg (by simp [mentioned]), if_neg routable, bind_eq_error_iff]
            simp [FieldParameter.routeOrType, FieldParameter.route?_eq, mentioned, routable]
        · simp [FieldParameter.routeOrType, FieldParameter.route?_eq, mentioned]

end FunctionField

namespace WitnessField

/-- Whether the subject blocks a position of a field, which is then a function. -/
def Blocked (field : WitnessField) : Prop :=
  ∃ function, field.kind = .function function ∧ function.Blocked

variable {field : WitnessField}

/-- The error names the interface, the requirement and the type in the way. -/
theorem route_eq_error_iff {interface : String} {error : GenerateError} :
    field.route interface = .error error ↔
      ∃ function type, field.kind = .function function ∧ function.BlockedAt type ∧
        error = .unsupported interface function.requirement (.unconvertible type) := by
  constructor
  · intro failed
    obtain ⟨function, type, isFunction, unrouted, rfl⟩ := route_eq_error failed
    exact ⟨function, type, isFunction, FunctionField.transport_eq_error_iff.mp unrouted, rfl⟩
  · rintro ⟨function, type, isFunction, blocked, rfl⟩
    have unrouted := FunctionField.transport_eq_error_iff.mpr blocked
    simp only [route, isFunction, unrouted]

theorem exists_route_eq_ok_iff (interface : String) :
    (∃ route, field.route interface = .ok route) ↔ ¬field.Blocked := by
  have failing : (∃ error, field.route interface = .error error) ↔ field.Blocked := by
    simp only [route_eq_error_iff, Blocked, FunctionField.blocked_iff]
    constructor
    · rintro ⟨_, function, type, isFunction, blocked, _⟩
      exact ⟨function, isFunction, type, blocked⟩
    · rintro ⟨function, isFunction, type, blocked⟩
      exact ⟨_, function, type, isFunction, blocked, rfl⟩
  rw [← failing]
  cases field.route interface <;> simp

end WitnessField

namespace WitnessSpec

/-- Routing fails exactly if a field is blocked, with an error that names the
requirement of the first one, and succeeds for all other witnesses. -/
theorem transforms_eq_error_iff_blocked (spec : WitnessSpec) (interface : String) :
    (∀ error, spec.transforms interface = .error error ↔
      spec.transformKind ≠ .none ∧ ∃ before field after function type,
        spec.fields = before ++ field :: after ∧ (∀ earlier ∈ before, ¬earlier.Blocked) ∧
        field.kind = .function function ∧ function.BlockedAt type ∧
        error = .unsupported interface function.requirement (.unconvertible type)) ∧
    ((∃ definitions, spec.transforms interface = .ok definitions) ↔
      spec.transformKind = .none ∨ ∀ field ∈ spec.fields, ¬field.Blocked) := by
  constructor
  · intro error
    simp only [transforms_eq_error_iff, WitnessField.exists_route_eq_ok_iff,
      WitnessField.route_eq_error_iff]
    constructor
    · rintro ⟨used, before, field, after, split, free, function, type, first⟩
      exact ⟨used, before, field, after, function, type, split, free, first⟩
    · rintro ⟨used, before, field, after, function, type, split, free, first⟩
      exact ⟨used, before, field, after, split, free, function, type, first⟩
  · simp only [← WitnessField.exists_route_eq_ok_iff interface,
      ← exists_mapM_eq_ok_iff, mapM_eq_ok_iff, transforms_eq_ok_iff]
    constructor
    · rintro ⟨definitions, ⟨unused, _⟩ | ⟨_, routes, routed, _⟩⟩
      · exact .inl unused
      · exact .inr ⟨routes, routed⟩
    · rintro routed
      by_cases unused : spec.transformKind = .none
      · exact ⟨[], .inl ⟨unused, rfl⟩⟩
      · obtain ⟨routes, fields⟩ := routed.resolve_left unused
        exact ⟨_, .inr ⟨unused, routes, fields, rfl⟩⟩

/-- The collection in the result of `at` is in the way, and what comes later
is not looked at. -/
theorem transforms_eq_error_iff_blocked_indexing :
    let indexing : WitnessSpec :=
      { interface := "Indexing"
        structName := "IndexingWitness"
        access := .exported
        genericParameters := ["A", "Key"]
        fields := [
          ⟨"key", .nested "Keyed" "KeyedWitness" "Key"⟩,
          ⟨"sizes", .function ⟨"sizes", [], some (.generic "Vec" [.identifier "usize"]), .call,
            .invariant⟩⟩,
          ⟨"at", .function ⟨"at",
            [⟨.identifier "Self", .inout⟩, ⟨.optional (.identifier "Self"), .owned⟩],
            some (.tuple [.identifier "u8", .generic "Vec" [.identifier "Self"]]), .call,
            .invariant⟩⟩,
          ⟨"split", .function ⟨"split", [⟨.generic "Self" [.identifier "u8"], .owned⟩], none, .call,
            .contravariant⟩⟩]
        constructorParameters := ["key", "sizes", "at", "split"]
        transformKind := .iso
        options := {} }
    let error : GenerateError := .unsupported "Indexing" "at"
      (.unconvertible (.tuple [.identifier "u8", .generic "Vec" [.identifier "Self"]]))
    indexing.transforms "Indexing" = .error error ∧
      ∃ before field after function type,
        indexing.fields = before ++ field :: after ∧ (∀ earlier ∈ before, ¬earlier.Blocked) ∧
        field.kind = .function function ∧ function.BlockedAt type ∧
        error = .unsupported "Indexing" function.requirement (.unconvertible type) := by
  intro indexing error
  have failed : indexing.transforms "Indexing" = .error error := by decide +kernel
  exact ⟨failed, (((transforms_eq_error_iff_blocked indexing "Indexing").1 error).mp failed).2⟩

end WitnessSpec

end InterfaceWitness
