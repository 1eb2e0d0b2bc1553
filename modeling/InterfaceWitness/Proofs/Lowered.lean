import InterfaceWitness.Proofs.Surface.Legal

/-!
The type expressions that types are lowered to: every name is that of a path
which may be written there again.
-/

namespace InterfaceWitness

open Surface

namespace Surface

variable {rooted : Bool} {segments : List Segment}

theorem Segment.Legal.word {segment : Segment} (legal : segment.Legal) :
    isWord segment.name = true := by
  cases legal <;> assumption

theorem Segment.Legal.named {segment : Segment} (legal : segment.Legal) :
    IsSegmentName segment.name := by
  cases legal with
  | plain _ named => exact named
  | applied _ named _ => exact .inr named

theorem SourceType.Legal.legalNames (legal : (SourceType.path rooted segments).Legal) :
    LegalNames rooted (segments.map Segment.name) := by
  cases legal with
  | path nonempty start legal =>
      exact {
        nonempty := by simpa using nonempty
        words := List.forall_mem_map.mpr fun segment member => (legal segment member).word
        named := List.forall_mem_map.mpr fun segment member => (legal segment member).named
        start }

end Surface

namespace TypeExpr

variable {rooted : Bool} {names : List String} {type : TypeExpr} {types : List TypeExpr}

/-- What a legal type is lowered to. -/
inductive Lowered : TypeExpr → Prop
  | identifier {rooted : Bool} {names : List String} :
      LegalNames rooted names → Lowered (.identifier (pathText rooted names))
  | generic {rooted : Bool} {names : List String} {last : String} {arguments : List TypeExpr} :
      LegalNames rooted (names ++ [last]) → IsTypeName last →
      (∀ argument ∈ arguments, argument.Lowered) →
      TypeExpr.applied (pathText rooted (names ++ [last])) arguments
        = .generic (pathText rooted (names ++ [last])) arguments →
      Lowered (.generic (pathText rooted (names ++ [last])) arguments)
  | tuple {elements : List TypeExpr} :
      (∀ element ∈ elements, element.Lowered) → Lowered (.tuple elements)
  | optional {inner : TypeExpr} : inner.Lowered → Lowered (.optional inner)

theorem lowered_applied {last : String} (legal : LegalNames rooted (names ++ [last]))
    (isType : IsTypeName last) (lowered : ∀ type ∈ types, type.Lowered) :
    (TypeExpr.applied (pathText rooted (names ++ [last])) types).Lowered := by
  by_cases isOption : ∃ inner, types = [inner] ∧
      isOptionPath (pathText rooted (names ++ [last])) = true
  · obtain ⟨inner, rfl, isOption⟩ := isOption
    simpa [TypeExpr.applied, isOption] using .optional (lowered inner (List.mem_singleton_self _))
  · have isGeneric : TypeExpr.applied (pathText rooted (names ++ [last])) types
        = .generic (pathText rooted (names ++ [last])) types := by
      unfold TypeExpr.applied
      split
      case h_1 inner => exact if_neg fun holds => isOption ⟨inner, rfl, holds⟩
      case h_2 => rfl
    rw [isGeneric]
    exact .generic legal isType lowered isGeneric

mutual

theorem lowered_ofSource : (source : SourceType) → {type : TypeExpr} → source.Legal →
    ofSource source = .ok type → type.Lowered
  | .parenthesized inner, _, .parenthesized legal, made => lowered_ofSource inner legal made
  | .grouped inner, _, .grouped legal, made => lowered_ofSource inner legal made
  | .tuple elements _, _, .tuple legal, made => by
      simp only [ofSource, bind_eq_ok_iff, pure_eq_ok_iff] at made
      obtain ⟨types, areTypes, rfl⟩ := made
      exact .tuple (lowered_ofSources elements legal areTypes)
  | .path rooted segments, _, .path nonempty start legal, made =>
      lowered_ofSegments segments rooted [] legal
        (SourceType.Legal.path nonempty start legal).legalNames made

theorem lowered_ofSources : (sources : List SourceType) → {types : List TypeExpr} →
    (∀ source ∈ sources, source.Legal) → ofSources sources = .ok types →
    ∀ type ∈ types, type.Lowered
  | [], _, _, made => by
      obtain rfl := Except.ok.inj made
      simp
  | source :: rest, _, legal, made => by
      simp only [ofSources, bind_eq_ok_iff, pure_eq_ok_iff] at made
      obtain ⟨type, isType, types, areTypes, rfl⟩ := made
      have ⟨first, others⟩ := List.forall_mem_cons.mp legal
      exact List.forall_mem_cons.mpr
        ⟨lowered_ofSource source first isType, lowered_ofSources rest others areTypes⟩

theorem lowered_ofSegments : (segments : List Segment) → (rooted : Bool) →
    (names : List String) → {type : TypeExpr} → (∀ segment ∈ segments, segment.Legal) →
    LegalNames rooted (names ++ segments.map Segment.name) →
    ofSegments rooted names segments = .ok type → type.Lowered
  | [], _, _, _, _, isPath, made => by
      obtain rfl := Except.ok.inj made
      exact .identifier (by simpa using isPath)
  | .plain name :: rest, _, _, _, legal, isPath, made =>
      lowered_ofSegments rest _ _ (List.forall_mem_cons.mp legal).2
        (by simpa [Segment.name] using isPath) made
  | [.applied name _ arguments _], _, _, _, legal, isPath, made => by
      simp only [ofSegments, bind_eq_ok_iff, pure_eq_ok_iff] at made
      obtain ⟨types, areTypes, rfl⟩ := made
      cases legal _ (List.mem_singleton_self _) with
      | applied _ isType legal =>
          exact lowered_applied isPath isType (lowered_ofArguments arguments legal areTypes)
  | .applied .. :: _ :: _, _, _, _, _, _, made => nomatch made

theorem lowered_ofArguments : (arguments : List Argument) → {types : List TypeExpr} →
    (∀ argument ∈ arguments, argument.Legal) → ofArguments arguments = .ok types →
    ∀ type ∈ types, type.Lowered
  | [], _, _, made => by
      obtain rfl := Except.ok.inj made
      simp
  | .type source :: rest, _, legal, made => by
      simp only [ofArguments, bind_eq_ok_iff, pure_eq_ok_iff] at made
      obtain ⟨type, isType, types, areTypes, rfl⟩ := made
      have ⟨.type first, others⟩ := List.forall_mem_cons.mp legal
      exact List.forall_mem_cons.mpr
        ⟨lowered_ofSource source first isType, lowered_ofArguments rest others areTypes⟩
  | .lifetime _ :: _, _, _, made => nomatch made
  | .other _ :: _, _, _, made => nomatch made

end

end TypeExpr

end InterfaceWitness
