import InterfaceWitness.Proofs.Surface.Advancing
import InterfaceWitness.Surface.Depth

/-!
The readers of the whole grammar take tokens off the front of a stream.  Where
what comes next depends on the form of what was read, the forms are told apart
here; the rest is left to instance search.
-/

namespace InterfaceWitness.Surface

open Reader (Advances fail)

set_option synthInstance.maxSize 2000

variable (inner : Nested) [inner.Advances]

/-! ## What is nested -/

instance (structures : Bool) : Advances (inner.expressionWhere structures) := by
  unfold Nested.expressionWhere; infer_instance

instance : Advances inner.expression := by unfold Nested.expression; infer_instance

instance : Advances inner.condition := by unfold Nested.condition; infer_instance

instance (sums : Bool) : Advances (inner.typeTokens sums) := by
  unfold Nested.typeTokens; infer_instance

instance (sums : Bool) : Advances (inner.output sums) := by unfold Nested.output; infer_instance

instance : Advances inner.block := by unfold Nested.block; infer_instance

instance (delimiter : Delimiter) : Advances (inner.expressionList delimiter) := by
  unfold Nested.expressionList; infer_instance

/-! ## Attributes and paths -/

instance : Advances modulePath := by unfold modulePath; infer_instance

instance (isNegative : Bool) (text : String) : Advances (fieldNumber isNegative text) := by
  unfold fieldNumber
  split <;> infer_instance

instance : Advances fieldLabel := by
  unfold fieldLabel
  refine .bind fun isName => .ite inferInstance (.bind fun isNumber => .ite (.bind fun tokens => ?_)
    inferInstance)
  split <;> infer_instance

instance : Advances (attributeValue inner) := by unfold attributeValue; infer_instance

instance : Advances (attributeContent inner) := by unfold attributeContent; infer_instance

instance : Advances (outerAttribute inner) := by unfold outerAttribute; infer_instance

instance : Advances (innerAttribute inner) := by unfold innerAttribute; infer_instance

instance : Advances (outerAttributes inner) := by unfold outerAttributes; infer_instance

instance : Advances (innerAttributes inner) := by unfold innerAttributes; infer_instance

instance : Advances (body inner) := by unfold body; infer_instance

instance : Advances (constantArgument inner) := by unfold constantArgument; infer_instance

instance : Advances (argument inner) := by
  unfold argument
  refine .bind fun isLifetime => .ite inferInstance (.bind fun isConstant =>
    .ite inferInstance (.bind fun type => ?_))
  split <;> infer_instance

instance : Advances (angleArguments inner) := by unfold angleArguments; infer_instance

instance (inExpression : Bool) : Advances (segment inner inExpression) := by
  unfold segment; infer_instance

instance (inExpression : Bool) : Advances (path inner inExpression) := by
  unfold path; infer_instance

instance (inExpression : Bool) : Advances (qualifiedPath inner inExpression) := by
  unfold qualifiedPath; infer_instance

instance : Advances (expressionPath inner) := by unfold expressionPath; infer_instance

instance : Advances macroArguments := by unfold macroArguments; infer_instance

/-! ## Bounds and generic parameters -/

instance : Advances capturedName := by unfold capturedName; infer_instance

instance : Advances captures := by unfold captures; infer_instance

instance : Advances lifetimeParameter := by unfold lifetimeParameter; infer_instance

instance : Advances (typeParameter inner) := by unfold typeParameter; infer_instance

instance : Advances (constantParameter inner) := by unfold constantParameter; infer_instance

instance (starts : List String) : Advances (genericParameter inner starts) := by
  unfold genericParameter; infer_instance

instance : Advances (declaredParameter inner) := by
  unfold declaredParameter
  refine .bind fun found => ?_
  split <;> infer_instance

instance : Advances (generics inner) := by unfold generics; infer_instance

instance : Advances (binder? inner) := by unfold binder?; infer_instance

instance : Advances (callArguments inner) := by unfold callArguments; infer_instance

instance (place : BoundPlace) : Advances (constantMark place) := by
  unfold constantMark; infer_instance

instance : Advances (traitPath inner) := by
  unfold traitPath
  refine .bind fun found => ?_
  split <;> infer_instance

instance (place : BoundPlace) : Advances (traitBound inner place) := by
  unfold traitBound; infer_instance

instance (place : BoundPlace) : Advances (bound inner place) := by
  unfold bound
  refine .bind fun start => .bind fun isLifetime => .ite inferInstance (.bind fun captures =>
    .ite inferInstance (.bind fun isParenthesized => ?_))
  -- Both branches go on in one local function, which has to be opened first.
  simp only
  refine .ite (.bind fun found => ?_) (.bind fun found => ?_) <;> split <;> infer_instance

instance : Advances (predicate inner) := by unfold predicate; infer_instance

instance : Advances (whereClause inner) := by unfold whereClause; infer_instance

/-! ## Types -/

instance : Advances builtin := by unfold builtin; infer_instance

instance : Advances abi := by unfold abi; infer_instance

instance : Advances abi? := by unfold abi?; infer_instance

instance (sums : Bool) (place : BoundPlace) : Advances (boundSum inner sums place) := by
  unfold boundSum; infer_instance

instance (sums : Bool) (place : BoundPlace) (fault : String) :
    Advances (traitSum inner sums place fault) := by
  unfold traitSum; infer_instance

instance (sums : Bool) : Advances (objectBounds inner sums) := by
  unfold objectBounds; infer_instance

instance : Advances (addedBounds inner) := by unfold addedBounds; infer_instance

instance : Advances (parenthesizedContent inner) := by unfold parenthesizedContent; infer_instance

instance (sums : Bool) : Advances (parenthesizedType inner sums) := by
  unfold parenthesizedType
  refine .bind fun content => ?_
  split
  case h_3 type => split <;> infer_instance
  all_goals infer_instance

instance : Advances variadicParameter := by unfold variadicParameter; infer_instance

instance (isFirst : Bool) : Advances (parameterLabel isFirst) := by
  unfold parameterLabel; infer_instance

instance : Advances (mutableSelfParameter inner) := by unfold mutableSelfParameter; infer_instance

instance (isFirst : Bool) : Advances (functionTypeParameter inner isFirst) := by
  unfold functionTypeParameter; infer_instance

instance : Advances (functionType inner) := by unfold functionType; infer_instance

instance (sums : Bool) (binder : Option (List Token)) (found : Path) :
    Advances (pathSum inner sums binder found) := by
  unfold pathSum; infer_instance

instance (sums : Bool) (binder : Option (List Token)) : Advances (pathType inner sums binder) := by
  unfold pathType; infer_instance

instance : Advances (arrayOrSlice inner) := by unfold arrayOrSlice; infer_instance

instance : Advances (pointerType inner) := by unfold pointerType; infer_instance

instance : Advances (referenceType inner) := by unfold referenceType; infer_instance

instance (sums : Bool) : Advances (sourceType inner sums) := by
  unfold sourceType
  refine .bind fun binder => .bind fun follows => .ite inferInstance (.bind fun opens =>
    .ite inferInstance (.bind fun isFunction => .ite inferInstance (.bind fun isBuiltin =>
    .ite inferInstance (.bind fun isPath => .ite inferInstance (.bind fun isQualified =>
    .ite inferInstance (.bind fun isObject => .ite inferInstance ?_))))))
  infer_instance

/-! ## Patterns -/

instance : Advances patternDots := by unfold patternDots; infer_instance

instance : Advances rangeDots := by unfold rangeDots; infer_instance

instance : Advances (alternatives inner) := by unfold alternatives; infer_instance

instance : Advances (alternativesTokens inner) := by unfold alternativesTokens; infer_instance

instance : Advances (patternBound inner) := by unfold patternBound; infer_instance

instance (isOpenEnded : Bool) : Advances (rangeRest inner isOpenEnded) := by
  unfold rangeRest
  refine .bind fun found => ?_
  split <;> infer_instance

instance (start : List Token) : Advances (rangeFrom inner start) := by
  unfold rangeFrom
  refine .bind fun dots => .bind fun found => ?_
  split <;> infer_instance

instance : Advances (rangeTo inner) := by
  unfold rangeTo
  refine .bind fun dots => .bind fun found => ?_
  split <;> infer_instance

instance : Advances (literalPattern inner) := by
  unfold literalPattern
  refine .bind fun found => ?_
  split <;> infer_instance

instance : Advances (fieldPattern inner) := by unfold fieldPattern; infer_instance

instance : Advances (structurePatternItem inner) := by unfold structurePatternItem; infer_instance

instance : Advances (pathPattern inner) := by unfold pathPattern; infer_instance

instance : Advances (bindingPattern inner) := by unfold bindingPattern; infer_instance

instance : Advances (sliceElement inner) := by unfold sliceElement; infer_instance

instance : Advances (pattern inner) := by unfold pattern; infer_instance

/-! ## Expressions -/

instance : Advances checkCast := by unfold checkCast; infer_instance

instance (structures : Bool) (precedence : Precedence) :
    Advances (rightOperand inner structures precedence) := by
  unfold rightOperand; infer_instance

instance (structures isOpenEnded : Bool) : Advances (rangeEnd inner structures isOpenEnded) := by
  unfold rangeEnd; infer_instance

instance (structures : Bool) : Advances (rangeExpression inner structures) := by
  unfold rangeExpression; infer_instance

instance (structures : Bool) (least : Precedence) (left : Expression) :
    Advances (operation inner structures least left) := by
  unfold operation
  refine .bind fun tokens => .ite inferInstance ?_
  split <;> infer_instance

instance (structures : Bool) (least : Precedence) (left : Expression) :
    Advances (operations inner structures least left) := by
  unfold operations; infer_instance

instance : Advances (member inner) := by
  unfold member
  refine .bind fun label => ?_
  split <;> infer_instance

instance (isNegative : Bool) (numbers : List String) :
    Advances (fieldNumberTokens isNegative numbers) := by
  fun_induction fieldNumberTokens isNegative numbers <;> infer_instance

instance : Advances (afterDot inner) := by
  unfold afterDot
  refine .bind fun isNumber => ?_
  simp only
  refine .ite (.bind fun tokens => .bind fun fields => ?_) ?_
  all_goals
    refine .bind fun numbers => ?_
    split <;> infer_instance

instance (expression : Expression) : Advances (trailer inner expression) := by
  unfold trailer; infer_instance

instance (expression : Expression) : Advances (trailers inner expression) := by
  unfold trailers; infer_instance

instance : Advances (fieldValue inner) := by unfold fieldValue; infer_instance

instance : Advances (structureItem inner) := by unfold structureItem; infer_instance

instance (structures : Bool) : Advances (pathExpression inner structures) := by
  unfold pathExpression; infer_instance

instance : Advances (closureParameter inner) := by unfold closureParameter; infer_instance

instance (structures : Bool) : Advances (closure inner structures) := by
  unfold closure; infer_instance

instance : Advances (asyncBlock inner) := by unfold asyncBlock; infer_instance

instance : Advances (parenthesizedExpression inner) := by
  unfold parenthesizedExpression; infer_instance

instance : Advances (bracketedExpression inner) := by unfold bracketedExpression; infer_instance

instance : Advances (jumpValue inner) := by unfold jumpValue; infer_instance

instance (structures : Bool) : Advances (breakExpression inner structures) := by
  unfold breakExpression; infer_instance

instance (structures : Bool) : Advances (letExpression inner structures) := by
  unfold letExpression; infer_instance

instance : Advances (guardedBlock inner) := by unfold guardedBlock; infer_instance

instance : Advances (conditional inner) := by unfold conditional; infer_instance

instance : Advances (whileLoop inner) := by unfold whileLoop; infer_instance

instance : Advances (forLoop inner) := by unfold forLoop; infer_instance

instance : Advances (matchArm inner) := by unfold matchArm; infer_instance

instance : Advances (matchExpression inner) := by unfold matchExpression; infer_instance

instance (label : List Token) : Advances (loopForm inner label) := by
  unfold loopForm; infer_instance

instance : Advances (blockForm inner) := by unfold blockForm; infer_instance

instance : Advances (becomeExpression inner) := by unfold becomeExpression; infer_instance

instance (structures : Bool) : Advances (operandHead inner structures) := by
  unfold operandHead; infer_instance

instance : Advances referenceMark := by unfold referenceMark; infer_instance

instance (structures : Bool) (start attributes : List Token) :
    Advances (appliedOperand inner structures start attributes) := by
  unfold appliedOperand
  refine .bind fun head => .bind fun value => ?_
  split <;> infer_instance

instance (structures : Bool) : Advances (operand inner structures) := by
  unfold operand
  refine .bind fun start => .bind fun attributes => .bind fun next => .ite inferInstance ?_
  split <;> infer_instance

instance : Advances (leadingExpression inner) := by unfold leadingExpression; infer_instance

/-! ## Signatures -/

instance : Advances visibility := by unfold visibility; infer_instance

instance (allowsSafe : Bool) : Advances (qualifiers allowsSafe) := by
  unfold qualifiers; infer_instance

instance (allowsSafe : Bool) : Advances (signatureFollows allowsSafe) := by
  unfold signatureFollows; infer_instance

instance : Advances (receiver inner) := by unfold receiver; infer_instance

instance : Advances variadicDots := by unfold variadicDots; infer_instance

instance (attributes : List Token) : Advances (input inner attributes) := by
  unfold input
  refine .bind fun isVariadic => .ite inferInstance (.bind fun found => ?_)
  split <;> infer_instance

instance (before : List Input) : Advances (inputAfter inner before) := by
  unfold inputAfter; infer_instance

instance (allowsSafe : Bool) : Advances (markedSignature inner allowsSafe) := by
  unfold markedSignature; infer_instance

instance : Advances (signature inner) := by unfold signature; infer_instance

/-! ## Traits -/

instance : Advances macroCallItem := by unfold macroCallItem; infer_instance

instance (stop : List Token → Bool) : Advances (declaredBounds inner stop) := by
  unfold declaredBounds; infer_instance

instance {α : Type} (value : Reader α) [Advances value] : Advances (assigned? value) := by
  unfold assigned?; infer_instance

instance (attributes : List Token) : Advances (functionItem inner attributes) := by
  unfold functionItem; infer_instance

instance (attributes : List Token) : Advances (constantItem inner attributes) := by
  unfold constantItem; infer_instance

instance (attributes : List Token) : Advances (typeItem inner attributes) := by
  unfold typeItem; infer_instance

instance : Advances (markedItem inner) := by unfold markedItem; infer_instance

instance : Advances (traitItem inner) := by unfold traitItem; infer_instance

instance : Advances (traitItems inner) := by unfold traitItems; infer_instance

instance (attributes : List Token) (visibility : Visibility) (modifiers : List Token)
    (name : String) (generics : Generics) :
    Advances (restOfTrait inner attributes visibility modifiers name generics) := by
  unfold restOfTrait; infer_instance

instance : Advances (traitDeclaration inner) := by unfold traitDeclaration; infer_instance

/-! ## Items -/

instance (allowsRoot : Bool) (depth : Nat) :
    Advances (useTree allowsRoot depth) := by
  induction depth generalizing allowsRoot with
  | zero => exact inferInstanceAs (Advances (fail _))
  | succ depth inductionHypothesis =>
      unfold useTree
      infer_instance

instance : Advances useItem := by
  unfold useItem
  infer_instance

instance : Advances externCrateItem := by unfold externCrateItem; infer_instance

instance : Advances macroItem := by unfold macroItem; infer_instance

instance : Advances macroDeclaration := by unfold macroDeclaration; infer_instance

instance (value : Reader (List Token)) [Advances value] : Advances (definition? value) := by
  unfold definition?; infer_instance

instance : Advances (staticItem inner) := by unfold staticItem; infer_instance

instance : Advances (restOfConstant inner) := by unfold restOfConstant; infer_instance

instance : Advances (constantDeclaration inner) := by unfold constantDeclaration; infer_instance

instance : Advances (functionDeclaration inner) := by unfold functionDeclaration; infer_instance

instance (place : ConstraintPlace) : Advances (typeDeclaration inner place) := by
  unfold typeDeclaration; infer_instance

instance : Advances (typeAlias inner) := by unfold typeAlias; infer_instance

instance : Advances (namedField inner) := by unfold namedField; infer_instance

instance : Advances (namedFields inner) := by unfold namedFields; infer_instance

instance : Advances (unnamedFields inner) := by unfold unnamedFields; infer_instance

instance : Advances (structureFields inner) := by unfold structureFields; infer_instance

instance : Advances (structItem inner) := by unfold structItem; infer_instance

instance : Advances (variant inner) := by unfold variant; infer_instance

instance : Advances (enumItem inner) := by unfold enumItem; infer_instance

instance : Advances (unionItem inner) := by unfold unionItem; infer_instance

instance (item : Reader (List Token)) [Advances item] : Advances (itemsBlock inner item) := by
  unfold itemsBlock; infer_instance

instance : Advances (moduleItem inner) := by unfold moduleItem; infer_instance

instance : Advances (foreignFunction inner) := by unfold foreignFunction; infer_instance

instance : Advances (foreignStatic inner) := by unfold foreignStatic; infer_instance

instance : Advances (foreignType inner) := by unfold foreignType; infer_instance

instance (item : Reader (Option (List Token))) [Advances item] :
    Advances (attributedItem inner item) := by
  unfold attributedItem
  refine .bind fun start => .bind fun attributes => .bind fun found => ?_
  split <;> infer_instance

instance (allowsDefault allowsSafe : Bool) : Advances (itemStart allowsDefault allowsSafe) := by
  unfold itemStart; infer_instance

instance : Advances (foreignItem inner) := by unfold foreignItem; infer_instance

instance : Advances (foreignModule inner) := by unfold foreignModule; infer_instance

instance : Advances (implementedConstant inner) := by unfold implementedConstant; infer_instance

instance : Advances (implementedType inner) := by unfold implementedType; infer_instance

instance : Advances (implementedItem inner) := by unfold implementedItem; infer_instance

instance : Advances (implementationHead inner) := by unfold implementationHead; infer_instance

instance : Advances (implementation inner) := by unfold implementation; infer_instance

instance : Advances (restOfTraitAlias inner) := by unfold restOfTraitAlias; infer_instance

instance : Advances (traitOrAlias inner) := by unfold traitOrAlias; infer_instance

instance (next : List Token) : Advances (externItem inner next) := by
  unfold externItem; infer_instance

instance (next : List Token) : Advances (unsafeItem inner next) := by
  unfold unsafeItem; infer_instance

instance : Advances (itemContent inner) := by unfold itemContent; infer_instance

instance : Advances (item inner) := by unfold item; infer_instance

/-! ## Statements -/

instance : Advances (diverging inner) := by unfold diverging; infer_instance

instance : Advances (localBinding inner) := by unfold localBinding; infer_instance

instance (attributes : List Token) : Advances (expressionStatement inner attributes) := by
  unfold expressionStatement; infer_instance

instance : Advances (statement inner) := by
  unfold statement
  refine .bind fun start => .bind fun attributes => .bind fun afterPath => .ite inferInstance
    (.bind fun isBinding => .ite inferInstance (.bind fun isItem => .ite (.bind fun content => ?_)
      inferInstance))
  split <;> infer_instance

instance (tokens : List Token) : Advances (spacedStatement inner tokens) := by
  unfold spacedStatement; infer_instance

instance : Advances (statements inner) := by unfold statements; infer_instance

/-! ## Every depth -/

instance : inner.outward.Advances where
  type sums := inferInstanceAs (Advances (sourceType inner sums))
  bound place := inferInstanceAs (Advances (bound inner place))
  operand structures := inferInstanceAs (Advances (operand inner structures))
  operations structures least left :=
    inferInstanceAs (Advances (operations inner structures least left))
  leading := inferInstanceAs (Advances (leadingExpression inner))
  pattern := inferInstanceAs (Advances (pattern inner))
  statements := inferInstanceAs (Advances (statements inner))
  item := inferInstanceAs (Advances (item inner))
  fields := inferInstanceAs (Advances (namedFields inner))

omit [inner.Advances]

instance (depth : Nat) : (Nested.ofDepth depth).Advances := by
  induction depth with
  | zero => constructor <;> intros <;> exact inferInstanceAs (Advances (fail _))
  | succ depth inductionHypothesis =>
      exact inferInstanceAs (Nested.outward (.ofDepth depth)).Advances

end InterfaceWitness.Surface
