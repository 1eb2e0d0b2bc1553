import InterfaceWitness.Proofs.Code.Spelling
import InterfaceWitness.Proofs.Lowered
import InterfaceWitness.Proofs.Subject
import InterfaceWitness.Proofs.Surface.Type

/-!
A lowered type that is printed reads back as itself, with the parameters in scope
in place of the names that stand for them.
-/

namespace InterfaceWitness

open Surface Code

namespace TypeExpr

mutual

/-- A type with other names for its identifiers.  The bases of generic types are
kept. -/
def mapIdentifiers (rename : String → String) : TypeExpr → TypeExpr
  | .identifier name => .identifier (rename name)
  | .generic base arguments => .generic base (mapIdentifiersAll rename arguments)
  | .function parameters output =>
      .function (mapIdentifiersAll rename parameters) (mapIdentifiersOutput rename output)
  | .tuple elements => .tuple (mapIdentifiersAll rename elements)
  | .optional inner => .optional (mapIdentifiers rename inner)

def mapIdentifiersAll (rename : String → String) : List TypeExpr → List TypeExpr
  | [] => []
  | type :: rest => mapIdentifiers rename type :: mapIdentifiersAll rename rest

def mapIdentifiersOutput (rename : String → String) : Option TypeExpr → Option TypeExpr
  | none => none
  | some output => some (mapIdentifiers rename output)

end

/-- Whether a type is an option does not depend on the names in its arguments. -/
theorem applied_mapIdentifiersAll {base : String} {arguments : List TypeExpr}
    (isGeneric : TypeExpr.applied base arguments = .generic base arguments)
    (rename : String → String) :
    TypeExpr.applied base (mapIdentifiersAll rename arguments)
      = .generic base (mapIdentifiersAll rename arguments) := by
  match arguments with
  | [] => rfl
  | [inner] =>
      refine if_neg fun isOption => ?_
      simp [TypeExpr.applied, isOption] at isGeneric
  | _ :: _ :: _ => rfl

theorem ofSegments_plain (rooted : Bool) (before names : List String) :
    ofSegments rooted before (names.map .plain)
      = .ok (.identifier (pathText rooted (before ++ names))) := by
  induction names generalizing before with
  | nil => simp [ofSegments]
  | cons name rest inductionHypothesis => simp [ofSegments, inductionHypothesis]

theorem ofSegments_applied {arguments : List Argument} {types : List TypeExpr}
    (made : ofArguments arguments = .ok types) (rooted : Bool) (before names : List String)
    (last : String) (separated trailing : Bool) :
    ofSegments rooted before (names.map .plain ++ [.applied last separated arguments trailing])
      = .ok (.applied (pathText rooted (before ++ names ++ [last])) types) := by
  induction names generalizing before with
  | nil => simp [ofSegments, made]
  | cons name rest inductionHypothesis => simp [ofSegments, inductionHypothesis]

theorem ofArguments_types (sources : List SourceType) :
    ofArguments (sources.map .type) = ofSources sources := by
  induction sources with
  | nil => rfl
  | cons source rest inductionHypothesis => simp [ofArguments, ofSources, inductionHypothesis]

end TypeExpr

namespace Code

namespace Scope

variable {scope : Scope} {name parameter : String} {rooted : Bool} {names : List String}

/-- The parameters are identifiers that no keyword is among. -/
structure Legal (scope : Scope) : Prop where
  words : ∀ parameter ∈ scope.parameters, isWord parameter = true
  named : ∀ parameter ∈ scope.parameters, parameter ∉ keywords

/-- What a named type is called where the parameters are in scope: the interface's
own type by the subject, an associated type by its name alone. -/
def renamed (scope : Scope) (name : String) : String :=
  let projected := String.ofList (name.toList.drop (selfType ++ "::").length)
  if name = selfType then scope.subject
  else if name = selfType ++ "::" ++ projected ∧ projected ∈ scope.associated then projected
  else name

theorem Legal.renamed_eq (legal : scope.Legal) (name : String) :
    scope.renamed name = (scope.parameter? name).getD name := by
  by_cases isSelf : name = selfType
  · simp [renamed, parameter?, isSelf]
  · rw [renamed, parameter?, if_neg isSelf, if_neg isSelf]
    cases found : scope.associated.find? (namesSubject name) with
    | none =>
        refine if_neg fun ⟨projects, member⟩ => ?_
        have other : String.ofList (name.toList.drop (selfType ++ "::").length) ≠ selfType :=
          fun equal => legal.named _ (List.mem_cons_of_mem _ member) (by rw [equal]; decide)
        exact List.find?_eq_none.mp found _ member (namesSubject_iff.mpr (.inr ⟨other, projects⟩))
    | some subject =>
        have member := List.mem_of_find?_eq_some found
        rcases namesSubject_iff.mp (List.find?_some found) with rfl | ⟨-, rfl⟩
        · -- A word is no projection.
          refine if_neg fun ⟨projects, _⟩ => ?_
          have isWord := isWord_eq_true.mp (legal.words name (List.mem_cons_of_mem _ member))
          refine isWord.colon_not_mem ?_
          rw [projects]
          simp [selfType]
        · have projected : String.ofList ((selfType ++ "::" ++ subject).toList.drop
              (selfType ++ "::").length) = subject := by
            rw [String.toList_append, ← String.length_toList, List.drop_left, String.ofList_toList]
          rw [projected]
          exact if_pos ⟨rfl, member⟩

theorem mem_parameters_of_parameter? (found : scope.parameter? name = some parameter) :
    parameter ∈ scope.parameters := by
  unfold parameter? at found
  split at found
  · obtain rfl := Option.some.inj found
    exact List.mem_cons_self ..
  · exact List.mem_cons_of_mem _ (List.mem_of_find?_eq_some found)

theorem Legal.legalNames (legal : scope.Legal) (member : parameter ∈ scope.parameters) :
    LegalNames false [parameter] where
  nonempty := by simp
  words := by simpa using legal.words parameter member
  named := by simpa using .inr (.inr (legal.named parameter member))
  start := by
    rintro - ⟨rfl⟩
    exact legal.named _ member (by decide)

theorem pathTokens_pathText (path : LegalNames rooted names) :
    pathTokens (pathText rooted names) = nameTokens rooted names := by
  rw [pathTokens, ofText_pathText path]
  exact tokens_plain rooted names

/-- A scope makes the path of another name of a path. -/
theorem Legal.resolve_pathText (legal : scope.Legal) (path : LegalNames rooted names) :
    ∃ rooted' names', LegalNames rooted' names' ∧
      scope.resolve (pathText rooted names) = nameTokens rooted' names' ∧
      pathText rooted' names' = scope.renamed (pathText rooted names) := by
  rw [resolve, legal.renamed_eq]
  cases found : scope.parameter? (pathText rooted names) with
  | none => exact ⟨rooted, names, path, pathTokens_pathText path, rfl⟩
  | some parameter =>
      exact ⟨false, [parameter], legal.legalNames (mem_parameters_of_parameter? found), rfl,
        by simp [pathText]⟩

end Scope

variable {scope : Scope} {tokens : List Token}

theorem length_lt_of_generic {base : String} {arguments : List TypeExpr}
    (member : tokens ∈ typeTokensOfAll scope arguments) :
    tokens.length < (typeTokens scope (.generic base arguments)).length := by
  have inside := length_le_commaSeparated member
  simp [typeTokens, angled, Token.operator]
  omega

theorem length_lt_of_tuple {elements : List TypeExpr}
    (member : tokens ∈ typeTokensOfAll scope elements) :
    tokens.length < (typeTokens scope (.tuple elements)).length := by
  have inside := length_le_commaTerminated member
  simp [typeTokens, parenthesized, Token.delimited]
  omega

theorem length_lt_of_optional {inner : TypeExpr} :
    (typeTokens scope inner).length < (typeTokens scope (.optional inner)).length := by
  simp [typeTokens, angled, Token.operator]
  omega

theorem legalNames_option : LegalNames true (["core", "option"] ++ ["Option"]) where
  nonempty := by simp
  words := by decide +kernel
  named := by decide
  start := nofun

mutual

/-- A lowered type is read back wherever types are read that deep.  Each level
takes at least one token. -/
theorem readsType_typeTokens (legal : scope.Legal) : (type : TypeExpr) → {depth : Nat} →
    type.Lowered → (typeTokens scope type).length < depth →
    ∃ source, ReadsType (.ofDepth depth) (typeTokens scope type) source ∧
      TypeExpr.ofSource source = .ok (type.mapIdentifiers scope.renamed)
  | _, 0, _, bound => absurd bound (Nat.not_lt_zero _)
  | .identifier _, _ + 1, .identifier path, _ => by
      obtain ⟨rooted, names, path, resolved, renamed⟩ := legal.resolve_pathText path
      refine ⟨.path rooted (names.map .plain), ?_, ?_⟩
      · rw [typeTokens, resolved]
        exact readsType_names path
      · rw [TypeExpr.mapIdentifiers, ← renamed]
        exact TypeExpr.ofSegments_plain rooted [] names
  | .generic _ arguments, _ + 1,
      @TypeExpr.Lowered.generic rooted names last _ path isType lowered isGeneric, bound => by
      have printed : typeTokens scope (.generic (pathText rooted (names ++ [last])) arguments)
          = appliedTokens rooted names last (typeTokensOfAll scope arguments) := by
        rw [typeTokens, Scope.pathTokens_pathText path]
        rfl
      obtain ⟨items, written, reads, made⟩ := readsTypes_typeTokensOfAll legal arguments lowered
        fun _ member => (length_lt_of_generic member).trans_le (Nat.le_of_lt_succ bound)
      have areArguments : TypeExpr.ofArguments (typeArguments items).items
          = .ok (TypeExpr.mapIdentifiersAll scope.renamed arguments) := by
        rw [← made, ← TypeExpr.ofArguments_types, List.map_map]
        rfl
      refine ⟨_, by rw [printed, ← written]; exact readsType_applied path isType reads, ?_⟩
      rw [TypeExpr.ofSource, TypeExpr.ofSegments_applied areArguments, List.nil_append,
        TypeExpr.applied_mapIdentifiersAll isGeneric]
      rfl
  | .tuple elements, _ + 1, .tuple lowered, bound => by
      obtain ⟨items, written, reads, made⟩ := readsTypes_typeTokensOfAll legal elements lowered
        fun _ member => (length_lt_of_tuple member).trans_le (Nat.le_of_lt_succ bound)
      refine ⟨_, by rw [typeTokens, ← written]; exact readsType_tuple reads, ?_⟩
      rw [TypeExpr.ofSource, made]
      rfl
  | .optional inner, _ + 1, .optional lowered, bound => by
      have printed : typeTokens scope (.optional inner)
          = appliedTokens true ["core", "option"] "Option" [typeTokens scope inner] := rfl
      obtain ⟨source, reads, made⟩ := readsType_typeTokens legal inner lowered
        (length_lt_of_optional.trans_le (Nat.le_of_lt_succ bound))
      have areArguments :
          TypeExpr.ofArguments (typeArguments [(typeTokens scope inner, source)]).items
            = .ok [inner.mapIdentifiers scope.renamed] := by
        simp only [typeArguments, List.map_singleton, TypeExpr.ofArguments, made]
        rfl
      have areRead : ∀ entry ∈ [(typeTokens scope inner, source)],
          ReadsType (.ofDepth _) entry.1 entry.2 := List.forall_mem_singleton.mpr reads
      have applied := readsType_applied legalNames_option (by decide) areRead
      refine ⟨_, by rw [printed]; exact applied, ?_⟩
      rw [TypeExpr.ofSource, TypeExpr.ofSegments_applied areArguments]
      rfl

theorem readsTypes_typeTokensOfAll (legal : scope.Legal) : (types : List TypeExpr) →
    {depth : Nat} → (∀ type ∈ types, type.Lowered) →
    (∀ tokens ∈ typeTokensOfAll scope types, tokens.length < depth) →
    ∃ items : List (List Token × SourceType), items.map Prod.fst = typeTokensOfAll scope types ∧
      (∀ entry ∈ items, ReadsType (.ofDepth depth) entry.1 entry.2) ∧
      TypeExpr.ofSources (items.map Prod.snd)
        = .ok (TypeExpr.mapIdentifiersAll scope.renamed types)
  | [], _, _, _ => ⟨[], rfl, by simp, rfl⟩
  | type :: rest, _, lowered, bound => by
      have ⟨first, others⟩ := List.forall_mem_cons.mp lowered
      have ⟨firstBound, othersBound⟩ := List.forall_mem_cons.mp bound
      obtain ⟨source, reads, made⟩ := readsType_typeTokens legal type first firstBound
      obtain ⟨items, written, areRead, areMade⟩ :=
        readsTypes_typeTokensOfAll legal rest others othersBound
      refine ⟨(typeTokens scope type, source) :: items, ?_, ?_, ?_⟩
      · rw [List.map_cons, written, typeTokensOfAll]
      · exact List.forall_mem_cons.mpr ⟨reads, areRead⟩
      · simp only [List.map_cons, TypeExpr.ofSources, made, areMade]
        rfl

end

/-- A type that is printed in a scope reads back as itself, but for the names that
stand for parameters. -/
def Scope.Restores (scope : Scope) (type : TypeExpr) : Prop :=
  ∃ source, SourceType.ofTokens (typeTokens scope type) = .ok source ∧
    TypeExpr.ofSource source = .ok (type.mapIdentifiers scope.renamed)

theorem Scope.Legal.restores (legal : scope.Legal) {type : TypeExpr} (lowered : type.Lowered) :
    scope.Restores type := by
  have bound : (typeTokens scope type).length < 8 * (typeTokens scope type).length + 17 := by
    omega
  obtain ⟨source, reads, made⟩ := readsType_typeTokens legal type lowered bound
  have read := reads.reads [] none .nothing
  rw [List.append_nil] at read
  exact ⟨source, Reader.run_eq_ok.mpr read, made⟩

/-- Every type that can be lowered, whether it was read from the words of a
declaration or put together from such, is restored. -/
theorem Scope.restores_of_ofSource (legal : scope.Legal) :
    (∀ tokens source type, (∀ name, .identifier name ∈ tokens → isWord name = true) →
      SourceType.ofTokens tokens = .ok source → TypeExpr.ofSource source = .ok type →
      scope.Restores type) ∧
    ∀ source type, source.Legal → TypeExpr.ofSource source = .ok type → scope.Restores type := by
  have restores : ∀ source type, source.Legal → TypeExpr.ofSource source = .ok type →
      scope.Restores type := fun source type isLegal made =>
    legal.restores (TypeExpr.lowered_ofSource source isLegal made)
  exact ⟨fun tokens source type words read made =>
    restores source type (SourceType.legal_of_ofTokens words read made) made, restores⟩

theorem Scope.restores_of_ofSource_nested :
    let scope : Scope := ⟨"A", ["Item"]⟩
    let tokens := Token.ofFragment "(Self, std::option::Option<Self::Item>, Vec<(Item,)>)"
    let type : TypeExpr := .tuple [.identifier "Self", .optional (.identifier "Self::Item"),
      .generic "Vec" [.tuple [.identifier "Item"]]]
    scope.Legal ∧ (∀ name, .identifier name ∈ tokens → isWord name = true) ∧
      ∃ source, SourceType.ofTokens tokens = .ok source ∧ TypeExpr.ofSource source = .ok type ∧
      ∃ again, SourceType.ofTokens (typeTokens scope type) = .ok again ∧
        TypeExpr.ofSource again = .ok (.tuple [.identifier "A", .optional (.identifier "Item"),
          .generic "Vec" [.tuple [.identifier "Item"]]]) := by
  intro scope tokens type
  have legal : scope.Legal := ⟨by decide +kernel, by decide⟩
  have checked : tokens.all (fun token =>
      token ≠ .identifier token.text || isWord token.text) = true := by
    decide +kernel
  have words : ∀ name, .identifier name ∈ tokens → isWord name = true := by
    intro name member
    simpa [Token.text] using List.all_eq_true.mp checked _ member
  have ran : ((SourceType.ofTokens tokens).toOption.bind fun source =>
      (TypeExpr.ofSource source).toOption) = some type := by
    decide +kernel
  simp only [Option.bind_eq_some_iff, toOption_eq_some_iff] at ran
  obtain ⟨source, read, made⟩ := ran
  have renamed : type.mapIdentifiers scope.renamed = .tuple [.identifier "A",
      .optional (.identifier "Item"), .generic "Vec" [.tuple [.identifier "Item"]]] := by
    decide +kernel
  refine ⟨legal, words, source, read, made, ?_⟩
  rw [← renamed]
  exact (restores_of_ofSource legal).1 tokens source type words read made

end Code

end InterfaceWitness
