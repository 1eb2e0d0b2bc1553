import InterfaceWitness.Code.Printing

/-!
A type is printed by spelling its named nodes one by one.
-/

namespace InterfaceWitness

namespace Code

variable {text : String} {tokens left right : List Token} {items : List (List Token)}

@[simp]
theorem identifier_mem_commaSeparated :
    .identifier text ∈ commaSeparated items ↔ ∃ item ∈ items, .identifier text ∈ item := by
  fun_induction commaSeparated items with
  | case1 => simp
  | case2 last => simp
  | case3 item rest _ inductionHypothesis => simp [inductionHypothesis, Token.comma]

@[simp]
theorem identifier_mem_commaTerminated :
    .identifier text ∈ commaTerminated items ↔ ∃ item ∈ items, .identifier text ∈ item := by
  simp [commaTerminated, Token.comma]

theorem length_le_commaSeparated (member : tokens ∈ items) :
    tokens.length ≤ (commaSeparated items).length := by
  fun_induction commaSeparated items with
  | case1 => simp at member
  | case2 last => simp [List.mem_singleton.mp member]
  | case3 first rest _ inductionHypothesis =>
      rcases List.mem_cons.mp member with rfl | isLater
      · simp
      · have shorter := inductionHypothesis isLater
        simp
        omega

theorem length_le_commaTerminated (member : tokens ∈ items) :
    tokens.length ≤ (commaTerminated items).length := by
  induction items with
  | nil => simp at member
  | cons first rest inductionHypothesis =>
      have split : commaTerminated (first :: rest)
          = first ++ Token.comma :: commaTerminated rest := by
        simp [commaTerminated]
      rw [split, List.length_append, List.length_cons]
      rcases List.mem_cons.mp member with rfl | isLater
      · omega
      · have shorter := inductionHypothesis isLater
        omega

@[simp]
theorem identifier_mem_parenthesized :
    .identifier text ∈ parenthesized tokens ↔ .identifier text ∈ tokens := by
  simp [parenthesized, Token.delimited]

@[simp]
theorem identifier_mem_angled :
    .identifier text ∈ angled tokens ↔ .identifier text ∈ tokens := by
  simp [angled, Token.operator]

@[simp]
theorem identifier_mem_rootPath {segments : List String} :
    .identifier text ∈ rootPath segments ↔ text ∈ segments := by
  simp [rootPath, Token.pathSeparator, Token.operator]

/-- The words of the types that every witness is written with. -/
def typeWords : List String :=
  ["std", "sync", "Arc", "dyn", "Fn", "core", "marker", "Send", "Sync", "option", "Option", "mut"]

theorem identifier_mem_functionTrait {output : Option (List Token)} (foreign : text ∉ typeWords) :
    .identifier text ∈ functionTrait items output ↔
      (∃ item ∈ items, .identifier text ∈ item) ∨ ∃ type ∈ output, .identifier text ∈ type := by
  have notFn : text ≠ "Fn" := by
    rintro rfl
    exact foreign (by decide)
  cases output <;> simp [functionTrait, Token.arrow, Token.operator, notFn]

theorem identifier_mem_sharedFunction (foreign : text ∉ typeWords) :
    .identifier text ∈ sharedFunction tokens ↔ .identifier text ∈ tokens := by
  simp only [typeWords, List.mem_cons, List.not_mem_nil, or_false, not_or] at foreign
  simp [sharedFunction, sharedPath, sendAndSync, Token.operator, foreign]

end Code

namespace TypeExpr

open Code

mutual

/-- The tokens of a type whose named nodes are spelled as given. -/
def spelledBy (spell : NamedNode → List Token) : TypeExpr → List Token
  | .identifier name => spell ⟨name, false⟩
  | .generic base arguments =>
      spell ⟨base, true⟩ ++ angled (commaSeparated (spelledByAll spell arguments))
  | .function parameters output =>
      sharedFunction (functionTrait (spelledByAll spell parameters)
        (spelledByOutput spell output))
  | .tuple elements => parenthesized (commaTerminated (spelledByAll spell elements))
  | .optional inner => rootPath ["core", "option", "Option"] ++ angled (spelledBy spell inner)

def spelledByAll (spell : NamedNode → List Token) : List TypeExpr → List (List Token)
  | [] => []
  | type :: rest => spelledBy spell type :: spelledByAll spell rest

def spelledByOutput (spell : NamedNode → List Token) : Option TypeExpr → Option (List Token)
  | none => none
  | some output => some (spelledBy spell output)

end

variable {spell other : NamedNode → List Token} {text : String}

mutual

theorem spelledBy_congr : (type : TypeExpr) → (∀ node ∈ type.nodes, spell node = other node) →
    type.spelledBy spell = type.spelledBy other
  | .identifier name, same => same _ (List.mem_singleton.mpr rfl)
  | .generic base arguments, same => by
      rw [spelledBy, spelledBy, same _ (List.mem_cons_self ..),
        spelledByAll_congr arguments fun node member => same node (List.mem_cons_of_mem _ member)]
  | .function parameters output, same => by
      rw [spelledBy, spelledBy,
        spelledByAll_congr parameters fun node member => same node (List.mem_append_left _ member),
        spelledByOutput_congr output fun node member => same node (List.mem_append_right _ member)]
  | .tuple elements, same => by rw [spelledBy, spelledBy, spelledByAll_congr elements same]
  | .optional inner, same => by rw [spelledBy, spelledBy, spelledBy_congr inner same]

theorem spelledByAll_congr : (types : List TypeExpr) →
    (∀ node ∈ nodesOfAll types, spell node = other node) →
    spelledByAll spell types = spelledByAll other types
  | [], _ => rfl
  | type :: rest, same => by
      rw [spelledByAll, spelledByAll,
        spelledBy_congr type fun node member => same node (List.mem_append_left _ member),
        spelledByAll_congr rest fun node member => same node (List.mem_append_right _ member)]

theorem spelledByOutput_congr : (output : Option TypeExpr) →
    (∀ node ∈ nodesOfOutput output, spell node = other node) →
    spelledByOutput spell output = spelledByOutput other output
  | none, _ => rfl
  | some output, same => by rw [spelledByOutput, spelledByOutput, spelledBy_congr output same]

end

mutual

/-- A word that no type is written with comes from a named node. -/
theorem identifier_mem_spelledBy (foreign : text ∉ typeWords) : (type : TypeExpr) →
    (.identifier text ∈ type.spelledBy spell ↔ ∃ node ∈ type.nodes, .identifier text ∈ spell node)
  | .identifier name => by simp [spelledBy, nodes]
  | .generic base arguments => by
      simp [spelledBy, nodes, identifier_mem_spelledByAll foreign arguments]
  | .function parameters output => by
      simp only [spelledBy, nodes, identifier_mem_sharedFunction foreign,
        identifier_mem_functionTrait foreign, identifier_mem_spelledByAll foreign parameters,
        identifier_mem_spelledByOutput foreign output, List.mem_append, or_and_right, exists_or]
  | .tuple elements => by simp [spelledBy, nodes, identifier_mem_spelledByAll foreign elements]
  | .optional inner => by
      simp only [typeWords, List.mem_cons, List.not_mem_nil, or_false, not_or] at foreign
      simp [spelledBy, nodes, identifier_mem_spelledBy (by simpa [typeWords] using foreign) inner,
        foreign]

theorem identifier_mem_spelledByAll (foreign : text ∉ typeWords) : (types : List TypeExpr) →
    ((∃ item ∈ spelledByAll spell types, .identifier text ∈ item) ↔
      ∃ node ∈ nodesOfAll types, .identifier text ∈ spell node)
  | [] => by simp [spelledByAll, nodesOfAll]
  | type :: rest => by
      simp only [spelledByAll, nodesOfAll, List.mem_cons, or_and_right, exists_or, exists_eq_left,
        identifier_mem_spelledBy foreign type, identifier_mem_spelledByAll foreign rest,
        List.mem_append]

theorem identifier_mem_spelledByOutput (foreign : text ∉ typeWords) :
    (output : Option TypeExpr) →
    ((∃ type ∈ spelledByOutput spell output, .identifier text ∈ type) ↔
      ∃ node ∈ nodesOfOutput output, .identifier text ∈ spell node)
  | none => by simp [spelledByOutput, nodesOfOutput]
  | some output => by
      simp [spelledByOutput, nodesOfOutput, identifier_mem_spelledBy foreign output]

end

end TypeExpr

namespace Code

/-- What a scope makes of a named node: only identifiers are resolved. -/
def Scope.spelling (scope : Scope) (node : NamedNode) : List Token :=
  if node.isBase then pathTokens node.name else scope.resolve node.name

mutual

theorem typeTokens_eq_spelledBy (scope : Scope) : (type : TypeExpr) →
    typeTokens scope type = type.spelledBy scope.spelling
  | .identifier _ => rfl
  | .generic _ arguments => by
      rw [typeTokens, TypeExpr.spelledBy, typeTokensOfAll_eq_spelledByAll scope arguments]
      rfl
  | .function parameters output => by
      rw [typeTokens, TypeExpr.spelledBy, typeTokensOfAll_eq_spelledByAll scope parameters,
        typeTokensOfOutput_eq_spelledByOutput scope output]
  | .tuple elements => by
      rw [typeTokens, TypeExpr.spelledBy, typeTokensOfAll_eq_spelledByAll scope elements]
  | .optional inner => by rw [typeTokens, TypeExpr.spelledBy, typeTokens_eq_spelledBy scope inner]

theorem typeTokensOfAll_eq_spelledByAll (scope : Scope) : (types : List TypeExpr) →
    typeTokensOfAll scope types = TypeExpr.spelledByAll scope.spelling types
  | [] => rfl
  | type :: rest => by
      rw [typeTokensOfAll, TypeExpr.spelledByAll, typeTokens_eq_spelledBy scope type,
        typeTokensOfAll_eq_spelledByAll scope rest]

theorem typeTokensOfOutput_eq_spelledByOutput (scope : Scope) : (output : Option TypeExpr) →
    typeTokensOfOutput scope output = TypeExpr.spelledByOutput scope.spelling output
  | none => rfl
  | some output => by
      rw [typeTokensOfOutput, TypeExpr.spelledByOutput, typeTokens_eq_spelledBy scope output]

end

end Code

end InterfaceWitness
