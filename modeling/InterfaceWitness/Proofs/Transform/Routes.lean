import InterfaceWitness.Proofs.Failing
import InterfaceWitness.Proofs.Mentions

/-!
The routes of a field, and where its types mention the subject.
-/

namespace InterfaceWitness

variable {names : SubjectNames} {parameter : FieldParameter} {function : FunctionField}
  {transport : Transport}

/-- A position has the variance of an input exactly if it mentions a subject. -/
theorem FieldParameter.route?_eq (parameter : FieldParameter) (names : SubjectNames) :
    parameter.route? names =
      if parameter.type.mentions names = false then some .pass
      else if parameter.passing = .inout then
        if parameter.type.isNamed selfType then some .inout else none
      else if parameter.type.routable names then some .pullBack
      else none := by
  unfold route? TypeExpr.inputVariance
  cases parameter.type.mentions names <;> cases parameter.passing <;> simp

theorem FieldParameter.route?_eq_some {route : ParameterRoute} :
    parameter.route? names = some route ↔
      match route with
      | .pass => parameter.type.mentions names = false
      | .pullBack => parameter.type.mentions names = true ∧ parameter.passing ≠ .inout ∧
          parameter.type.routable names = true
      | .inout => parameter.type.mentions names = true ∧ parameter.passing = .inout ∧
          parameter.type.isNamed selfType = true := by
  rw [route?_eq]
  cases parameter.type.mentions names <;> by_cases changed : parameter.passing = .inout <;>
    cases parameter.type.isNamed selfType <;> cases parameter.type.routable names <;>
    cases route <;> simp [changed]

/-- Parameters with their routes. -/
abbrev ParametersRouted (names : SubjectNames) : List FieldParameter → List ParameterRoute → Prop :=
  List.Forall₂ fun parameter route => parameter.route? names = some route

theorem exists_route_of_mem {parameters : List FieldParameter} {routes : List ParameterRoute}
    (routed : ParametersRouted names parameters routes) (member : parameter ∈ parameters) :
    ∃ route ∈ routes, parameter.route? names = some route := by
  induction routed with
  | nil => simp at member
  | cons isRoute _ inductionHypothesis =>
      rcases List.mem_cons.mp member with rfl | inRest
      · exact ⟨_, List.mem_cons_self .., isRoute⟩
      · obtain ⟨route, isLater, found⟩ := inductionHypothesis inRest
        exact ⟨route, List.mem_cons_of_mem _ isLater, found⟩

theorem exists_parameter_of_mem {parameters : List FieldParameter} {routes : List ParameterRoute}
    {route : ParameterRoute} (routed : ParametersRouted names parameters routes)
    (member : route ∈ routes) :
    ∃ parameter ∈ parameters, parameter.route? names = some route := by
  induction routed with
  | nil => simp at member
  | cons isRoute _ inductionHypothesis =>
      rcases List.mem_cons.mp member with rfl | inRest
      · exact ⟨_, List.mem_cons_self .., isRoute⟩
      · obtain ⟨parameter, isLater, found⟩ := inductionHypothesis inRest
        exact ⟨parameter, List.mem_cons_of_mem _ isLater, found⟩

/-- A result passes as it is, or the subject in it can be converted. -/
def FunctionField.OutputRouted (function : FunctionField) (names : SubjectNames)
    (route : OutputRoute) : Prop :=
  ∀ type ∈ function.output, (route = .pass ∧ type.mentions names = false) ∨
    (route = .map ∧ type.routable names = true)

/-- A field is forwarded if it never mentions the subject; otherwise each
parameter and the result have a route of their own. -/
theorem FunctionField.transport_eq_ok (routed : function.transport names = .ok transport) :
    (transport = .forward ∧
      (∀ parameter ∈ function.parameters, parameter.type.mentions names = false) ∧
      ∀ type ∈ function.output, type.mentions names = false) ∨
    ∃ parameters output, transport = .rebuild parameters output ∧
      ParametersRouted names function.parameters parameters ∧
      function.OutputRouted names output := by
  unfold FunctionField.transport at routed
  split at routed
  case isTrue unmentioned =>
    left
    simp only [Bool.and_eq_true, Bool.not_eq_true', List.any_eq_false, Bool.not_eq_true,
      Option.any_eq_false] at unmentioned
    simp only [Except.ok.injEq] at routed
    exact ⟨routed.symm, unmentioned.1, by simpa using unmentioned.2⟩
  case isFalse =>
    right
    simp only [bind_eq_ok_iff, mapM_eq_ok_iff] at routed
    obtain ⟨parameters, routes, outputRouted⟩ := routed
    have parameterRoutes : ParametersRouted names function.parameters parameters := by
      refine routes.imp fun parameter route stepped => ?_
      split at stepped
      case h_1 found => simpa [found] using stepped
      case h_2 => simp at stepped
    obtain ⟨output, rfl, isRouted⟩ : ∃ output, transport = .rebuild parameters output ∧
        function.OutputRouted names output := by
      unfold OutputRouted
      cases isOutput : function.output with
      | none => exact ⟨.pass, (by simpa [isOutput] using outputRouted : _ = _).symm, by simp⟩
      | some type =>
          simp only [isOutput] at outputRouted
          split at outputRouted
          case isTrue unmentioned =>
            exact ⟨.pass, (by simpa using outputRouted : _ = _).symm, by simpa using unmentioned⟩
          case isFalse =>
            split at outputRouted
            case isTrue routable =>
              exact ⟨.map, (by simpa using outputRouted : _ = _).symm, by simpa using routable⟩
            case isFalse =>
              simp [throw, throwThe, MonadExceptOf.throw, Bind.bind, Except.bind] at outputRouted
    exact ⟨parameters, output, rfl, parameterRoutes, isRouted⟩

/-- A result is converted where it mentions the subject. -/
theorem FunctionField.output_of_transport {names : SubjectNames}
    {parameters : List ParameterRoute} {output : OutputRoute}
    (routed : function.transport names = .ok (.rebuild parameters output)) :
    match output with
    | .pass => ∀ type ∈ function.output, type.mentions names = false
    | .map => ∃ type, function.output = some type ∧ type.mentions names = true ∧
        type.routable names = true := by
  unfold FunctionField.transport at routed
  split at routed
  case isTrue => simp at routed
  case isFalse =>
    simp only [bind_eq_ok_iff] at routed
    obtain ⟨_, _, outputRouted⟩ := routed
    cases isOutput : function.output with
    | none =>
        simp only [isOutput, bind_eq_ok_iff, pure_eq_ok_iff] at outputRouted
        obtain ⟨_, rfl, made⟩ := outputRouted
        obtain ⟨-, rfl⟩ := Transport.rebuild.inj made
        simp
    | some type =>
        simp only [isOutput] at outputRouted
        split at outputRouted
        case isTrue unmentioned =>
          simp only [pure_bind, pure_eq_ok_iff] at outputRouted
          obtain ⟨-, rfl⟩ := Transport.rebuild.inj outputRouted
          simpa using unmentioned
        case isFalse mentioned =>
          split at outputRouted
          case isTrue routable =>
            simp only [pure_bind, pure_eq_ok_iff] at outputRouted
            obtain ⟨-, rfl⟩ := Transport.rebuild.inj outputRouted
            exact ⟨type, rfl, by simpa using mentioned, routable⟩
          case isFalse =>
            obtain ⟨_, thrown, _⟩ := bind_eq_ok_iff.mp outputRouted
            cases thrown

theorem FunctionField.needsTo_iff (routed : function.transport names = .ok transport) :
    transport.needsTo = true ↔
      ∃ parameter ∈ function.parameters, parameter.type.mentions names = true := by
  rcases transport_eq_ok routed with ⟨rfl, unmentioned, _⟩ | ⟨routes, output, rfl, parameters, _⟩
  · simpa [Transport.needsTo] using unmentioned
  · simp only [Transport.needsTo, List.any_eq_true, decide_eq_true_eq]
    constructor
    · rintro ⟨route, isRoute, converted⟩
      obtain ⟨parameter, isParameter, found⟩ := exists_parameter_of_mem parameters isRoute
      rw [FieldParameter.route?_eq_some] at found
      refine ⟨parameter, isParameter, ?_⟩
      cases route with
      | pass => exact absurd rfl converted
      | pullBack => exact found.1
      | inout => exact found.1
    · rintro ⟨parameter, isParameter, mentioned⟩
      obtain ⟨route, isRoute, found⟩ := exists_route_of_mem parameters isParameter
      rw [FieldParameter.route?_eq_some] at found
      refine ⟨route, isRoute, ?_⟩
      rintro rfl
      simp [found] at mentioned

theorem FunctionField.hasInout_iff (routed : function.transport names = .ok transport) :
    transport.hasInout = true ↔ ∃ parameter ∈ function.parameters,
      parameter.passing = .inout ∧ parameter.type.mentions names = true := by
  rcases transport_eq_ok routed with ⟨rfl, unmentioned, _⟩ | ⟨routes, output, rfl, parameters, _⟩
  · simp only [Transport.hasInout, reduceCtorEq, false_iff]
    rintro ⟨parameter, isParameter, _, mentioned⟩
    simp [unmentioned parameter isParameter] at mentioned
  · simp only [Transport.hasInout, List.contains_iff_mem]
    constructor
    · intro isRoute
      obtain ⟨parameter, isParameter, found⟩ := exists_parameter_of_mem parameters isRoute
      rw [FieldParameter.route?_eq_some] at found
      exact ⟨parameter, isParameter, found.2.1, found.1⟩
    · rintro ⟨parameter, isParameter, changed, mentioned⟩
      obtain ⟨route, isRoute, found⟩ := exists_route_of_mem parameters isParameter
      rw [FieldParameter.route?_eq_some] at found
      cases route with
      | pass => simp [found] at mentioned
      | pullBack => exact absurd changed found.2.1
      | inout => exact isRoute

theorem FunctionField.needsFrom_iff (routed : function.transport names = .ok transport) :
    transport.needsFrom = true ↔
      (∃ type ∈ function.output, type.mentions names = true) ∨ transport.hasInout = true := by
  rcases transport_eq_ok routed with ⟨rfl, _, unmentioned⟩ | ⟨routes, output, rfl, _, _⟩
  · simpa [Transport.needsFrom, Transport.hasInout] using unmentioned
  · have isOutput := output_of_transport routed
    simp only [Transport.needsFrom, Transport.hasInout, Bool.or_eq_true, decide_eq_true_eq]
    refine or_congr_left ?_
    cases output with
    | pass => simpa using isOutput
    | map =>
        obtain ⟨type, declared, mentioned, _⟩ := isOutput
        simpa using ⟨type, declared, mentioned⟩

theorem WitnessField.transport_eq_ok {field : WitnessField} {interface : String}
    {route : FieldRoute} (routed : field.route interface = .ok route)
    (isFunction : field.kind = .function function) :
    function.transport SubjectNames.primary = .ok route.transport := by
  unfold WitnessField.route at routed
  rw [isFunction] at routed
  dsimp only at routed
  split at routed
  case h_1 transport transported =>
    obtain rfl : (⟨field.name, transport⟩ : FieldRoute) = _ := Except.ok.inj routed
    exact transported
  case h_2 => simp at routed

/-- A field without a route is a function, and the error names its requirement. -/
theorem WitnessField.route_eq_error {field : WitnessField} {interface : String}
    {error : GenerateError} (failed : field.route interface = .error error) :
    ∃ function type, field.kind = .function function ∧
      function.transport SubjectNames.primary = .error type ∧
      error = .unsupported interface function.requirement (.unconvertible type) := by
  unfold WitnessField.route at failed
  split at failed
  case h_1 => simp at failed
  case h_2 function isFunction =>
    split at failed
    case h_1 => simp at failed
    case h_2 type unrouted =>
      obtain rfl := Except.error.inj failed
      exact ⟨function, type, isFunction, unrouted, rfl⟩

end InterfaceWitness
