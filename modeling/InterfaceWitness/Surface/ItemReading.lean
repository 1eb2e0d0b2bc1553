import InterfaceWitness.Surface.TraitReading

/-!
Reading items.  Some forms that an item may have are kept as they are written;
their readers give no tokens.
-/

namespace InterfaceWitness.Surface

open Reader

/-- The words that an item may begin with, in the order in which a message
lists them. -/
def itemWords : List String :=
  ["fn", "extern", "use", "static", "const", "unsafe", "mod", "type", "struct", "enum", "union",
    "trait", "auto", "impl", "default", "macro"]

/-- Words as a message lists them.  One that is there, but does not help, is
left out. -/
def wordsBut (tokens : List Token) (words : List String) : List String :=
  (words.filter (!startsWord · tokens)).map quotedText

def startsTry (tokens : List Token) : Bool :=
  startsWord "try" tokens

/-! ## Imports -/

/-- What an import names.  A brace groups what is imported from one place, and
groups may hold groups `depth` deep.  Where it is allowed, a path in a group
may begin with a separator. -/
def useTree (allowsRoot : Bool) : Nat → Reader (List Token)
  | 0 => fail (.leftOver none)
  | depth + 1 => do
      let start ← upcoming
      if startsName start || startsWordOf ["self", "super", "crate", "try"] start then
        let name ← anyWord "identifier"
        if ← look startsPathSeparator then
          let separator ← operator [':', ':']
          pure (.identifier name :: separator ++ (← useTree false depth))
        else if ← look (startsWord "as") then
          let keyword ← word "as"
          if ← look fun tokens => startsName tokens || startsWord "_" tokens then
            pure (.identifier name :: keyword ++ [.identifier (← nameOr ["_"])])
          else
            refuse "expected identifier or underscore"
        else
          pure [.identifier name]
      else if startsOperator ['*'] start then operator ['*']
      else if startsOpening .brace start then
        delimited .brace (commaList do
          let root ← if allowsRoot then operator? [':', ':'] else pure []
          pure (root ++ (← useTree (allowsRoot && root.isEmpty) depth)))
      else
        wantOneOf ["identifier", "`self`", "`super`", "`crate`", "`try`", "`*`", "curly braces"]

def useItem : Reader (List Token) := do
  let visibility ← visibility
  let keyword ← word "use"
  let root ← operator? [':', ':']
  let tree ← useTree root.isEmpty ((← upcoming).length + 1)
  pure (visibility.tokens ++ keyword ++ root ++ tree ++ (← operator [';']))

def externCrateItem : Reader (List Token) := do
  let visibility ← visibility
  let linkage ← word "extern"
  let keyword ← word "crate"
  let name ← nameOr ["self"]
  let rename ←
    if ← look (startsWord "as") then
      let keyword ← word "as"
      pure (keyword ++ [.identifier (← nameOr ["_"])])
    else
      pure []
  pure (visibility.tokens ++ linkage ++ keyword ++ .identifier name :: rename
    ++ (← operator [';']))

/-! ## Macros -/

/-- The call of a macro, which may be given a name. -/
def macroItem : Reader (List Token) := do
  let path ← modulePath
  let bang ← operator ['!']
  let name ←
    if ← look fun tokens => startsName tokens || startsTry tokens then
      pure [.identifier (← nameOr ["try"])]
    else
      pure []
  let arguments ← group
  let ending ←
    if arguments.getLast? = some (.closing .brace) then pure [] else operator [';']
  pure (path ++ bang ++ name ++ arguments ++ ending)

/-- The declaration of a macro that has no rules of its own. -/
def macroDeclaration : Reader Unit := do
  let _ ← word "macro"
  let _ ← name
  let isApplied ← look (startsOpening .parenthesis)
  if isApplied then let _ ← group
  if ← look (startsOpening .brace) then let _ ← group
  else wantOneOf (if isApplied then ["curly braces"] else ["parentheses", "curly braces"])

section Readers

variable (inner : Nested)

/-- The definition after an equals sign, with the sign. -/
def definition? (value : Reader (List Token)) : Reader (List Token) := do
  pure (((← assigned? value).map (Token.operator ['='] ++ ·)).getD [])

/-! ## Values -/

/-- A static without a type or without a value is kept as it is written. -/
def staticItem : Reader (Option (List Token)) := do
  let visibility ← visibility
  let keyword ← word "static"
  let mutability ← word? "mut"
  let name ← name
  if ← look (startsOperator ['=']) then
    let _ ← definition? inner.expression
    let _ ← operator [';']
    pure none
  else
    let colon ← operator [':']
    let type ← inner.typeTokens true
    if ← look (startsOperator [';']) then
      let _ ← operator [';']
      pure none
    else
      let sign ← operator ['=']
      let value ← inner.expression
      let ending ← operator [';']
      pure (some (visibility.tokens ++ keyword ++ mutability ++ .identifier name :: colon ++ type
        ++ sign ++ value ++ ending))

/-- The name, type and value of a constant.  One with parameters, bounds or no
value is kept as it is written. -/
def restOfConstant : Reader (Option (List Token)) := do
  let keyword ← word "const"
  if !(← look fun tokens => startsName tokens || startsWord "_" tokens) then
    wantOneOf ["identifier", "`_`"]
  else
    let name ← nameOr ["_"]
    let isGeneric ← look (startsOperator ['<'])
    let _ ← generics inner
    let colon ← operator [':']
    let type ← inner.typeTokens true
    let value ← definition? inner.expression
    let constraints ← whereClause inner
    let ending ← operator [';']
    if isGeneric || constraints.isSome || value.isEmpty then pure none
    else pure (some (keyword ++ .identifier name :: colon ++ type ++ value ++ ending))

def constantDeclaration : Reader (Option (List Token)) := do
  let visibility ← visibility
  pure ((← restOfConstant inner).map (visibility.tokens ++ ·))

/-- A function without a body is kept as it is written. -/
def functionDeclaration : Reader (Option (List Token)) := do
  let visibility ← visibility
  let default ← word? "default"
  let signature ← signature inner
  if ← look (startsOperator [';']) then
    let _ ← operator [';']
    pure none
  else
    pure (some (visibility.tokens ++ default ++ signature.tokens ++ (← body inner)))

/-! ## Types -/

inductive ConstraintPlace where
  | beforeDefinition
  | afterDefinition
  | either
  deriving DecidableEq, Repr

/-- A type with whatever may be said of it.  The parts are read in any case;
what the place does not allow makes the whole be kept as it is written. -/
structure TypeDeclaration where
  head : List Token
  isBounded : Bool
  definition : List Token
  constraints : WhereClause

def typeDeclaration (place : ConstraintPlace) : Reader TypeDeclaration := do
  let keyword ← word "type"
  let name ← name
  let generics ← generics inner
  let isBounded ← look (startsOperator [':'])
  let _ ← declaredBounds inner endsTypeBounds
  let early ← if place = .afterDefinition then pure none else whereClause inner
  let definition ← definition? (inner.typeTokens true)
  let late ←
    if place = .beforeDefinition || early.isSome then pure none else whereClause inner
  let _ ← operator [';']
  pure ⟨keyword ++ .identifier name :: generics.tokens, isBounded, definition, early.or late⟩

def typeAlias : Reader (Option (List Token)) := do
  let visibility ← visibility
  let type ← typeDeclaration inner .beforeDefinition
  if type.isBounded || type.definition.isEmpty then pure none
  else
    pure (some (visibility.tokens ++ type.head ++ type.constraints.tokens ++ type.definition
      ++ [Token.semicolon]))

def namedField : Reader (List Token) := do
  let attributes ← outerAttributes inner
  let visibility ← visibility
  let isUnnamed ← look (startsWord "_")
  let name ← nameOr ["_"]
  let colon ← operator [':']
  let head := attributes ++ visibility.tokens ++ .identifier name :: colon
  if isUnnamed && (← look fun tokens => startsWord "struct" tokens
      || (startsWord "union" tokens && startsOpening .brace (behind tokens))) then
    let start ← upcoming
    let _ ← anyWord "identifier"
    let _ ← inner.fields
    pure (head ++ (← since start))
  else
    pure (head ++ (← inner.typeTokens true))

def namedFields : Reader (List Token) :=
  delimited .brace (commaList (namedField inner))

def unnamedFields : Reader (List Token) :=
  delimited .parenthesis (commaList do
    let attributes ← outerAttributes inner
    let visibility ← visibility
    pure (attributes ++ visibility.tokens ++ (← inner.typeTokens true)))

/-- The fields of a structure, where constraints stand in front of named ones
and behind the others. -/
def structureFields : Reader (List Token) := do
  let constraints ← whereClause inner
  if constraints.isNone && (← look (startsOpening .parenthesis)) then
    let fields ← unnamedFields inner
    let constraints ← whereClause inner
    if ← look (startsOperator [';']) then
      pure (fields ++ constraints.tokens ++ (← operator [';']))
    else
      wantOneOf (if constraints.isSome then ["`;`"] else ["`where`", "`;`"])
  else if ← look (startsOpening .brace) then
    pure (constraints.tokens ++ (← namedFields inner))
  else if ← look (startsOperator [';']) then
    pure (constraints.tokens ++ (← operator [';']))
  else
    wantOneOf (if constraints.isSome then ["curly braces", "`;`"]
      else ["`where`", "parentheses", "curly braces", "`;`"])

def structItem : Reader (List Token) := do
  let visibility ← visibility
  let keyword ← word "struct"
  let name ← name
  let generics ← generics inner
  pure (visibility.tokens ++ keyword ++ .identifier name :: generics.tokens
    ++ (← structureFields inner))

/-- A case of an enumeration; that it is marked as visible does not show. -/
def variant : Reader (List Token) := do
  let attributes ← outerAttributes inner
  let _ ← visibility
  let name ← name
  let fields ←
    if ← look (startsOpening .brace) then namedFields inner
    else if ← look (startsOpening .parenthesis) then unnamedFields inner
    else pure []
  pure (attributes ++ .identifier name :: fields ++ (← definition? inner.expression))

def enumItem : Reader (List Token) := do
  let visibility ← visibility
  let keyword ← word "enum"
  let name ← name
  let generics ← generics inner
  let constraints ← whereClause inner
  pure (visibility.tokens ++ keyword ++ .identifier name :: generics.tokens ++ constraints.tokens
    ++ (← delimited .brace (commaList (variant inner))))

def unionItem : Reader (List Token) := do
  let visibility ← visibility
  let keyword ← word "union"
  let name ← name
  let generics ← generics inner
  let constraints ← whereClause inner
  pure (visibility.tokens ++ keyword ++ .identifier name :: generics.tokens ++ constraints.tokens
    ++ (← namedFields inner))

/-! ## Groups of items -/

/-- A brace with attributes of its own and items. -/
def itemsBlock (item : Reader (List Token)) : Reader (List Token) :=
  delimited .brace do
    let attributes ← innerAttributes inner
    pure (attributes ++ (← readWhile (!ended ·) item))

def moduleItem : Reader (List Token) := do
  let visibility ← visibility
  let unsafety ← word? "unsafe"
  let keyword ← word "mod"
  let name ← nameOr ["try"]
  let content ←
    if ← look (startsOperator [';']) then operator [';']
    else if ← look (startsOpening .brace) then itemsBlock inner inner.item
    else wantOneOf ["`;`", "curly braces"]
  pure (visibility.tokens ++ unsafety ++ keyword ++ .identifier name :: content)

/-- A function of another language.  One that is marked as safe or has a body
is kept as it is written. -/
def foreignFunction : Reader (Option (List Token)) := do
  let visibility ← visibility
  let (isSafe, signature) ← markedSignature inner true
  if ← look (startsOpening .brace) then
    let _ ← body inner
    pure none
  else
    let ending ← operator [';']
    if isSafe then pure none
    else pure (some (visibility.tokens ++ signature.tokens ++ ending))

/-- A static of another language.  One that says whether it is safe or has a
value is kept as it is written. -/
def foreignStatic : Reader (Option (List Token)) := do
  let visibility ← visibility
  let unsafety ← word? "unsafe"
  let safety ← if unsafety.isEmpty then word? "safe" else pure []
  let keyword ← word "static"
  let mutability ← word? "mut"
  let name ← name
  let colon ← operator [':']
  let type ← inner.typeTokens true
  let value ← definition? inner.expression
  let ending ← operator [';']
  if !unsafety.isEmpty || !safety.isEmpty || !value.isEmpty then pure none
  else
    pure (some (visibility.tokens ++ keyword ++ mutability ++ .identifier name :: colon ++ type
      ++ ending))

def foreignType : Reader (Option (List Token)) := do
  let visibility ← visibility
  let type ← typeDeclaration inner .either
  if type.isBounded || !type.definition.isEmpty then pure none
  else
    pure (some (visibility.tokens ++ type.head ++ type.constraints.tokens ++ [Token.semicolon]))

/-- Attributes and an item, which is as it was written if there are no tokens
for it. -/
def attributedItem (item : Reader (Option (List Token))) : Reader (List Token) := do
  let start ← upcoming
  let attributes ← outerAttributes inner
  match ← item with
  | some tokens => pure (attributes ++ tokens)
  | none => since start

def startsForeignStatic (tokens : List Token) : Bool :=
  startsWord "static" tokens
    || (startsWordOf ["unsafe", "safe"] tokens && startsWord "static" (behind tokens))

/-- What tells the kind of an item. -/
structure ItemStart where
  isVisible : Bool
  isDefault : Bool
  isFunction : Bool
  /-- The tokens behind what says where the item is visible. -/
  tokens : List Token

def itemStart (allowsDefault allowsSafe : Bool) : Reader ItemStart :=
  peeking do
    let visibility ← visibility
    let isDefault ← look fun tokens => allowsDefault && startsWord "default" tokens
      && !startsOperator ['!'] (behind tokens)
    if isDefault then let _ ← word "default"
    let isFunction ← signatureFollows allowsSafe
    pure ⟨!visibility.isInherited, isDefault, isFunction, ← upcoming⟩

def foreignItem : Reader (List Token) :=
  attributedItem inner do
    let start ← itemStart false true
    if start.isFunction then foreignFunction inner
    else if startsForeignStatic start.tokens then foreignStatic inner
    else if startsWord "type" start.tokens then foreignType inner
    else if !start.isVisible && startsMacroPath start.tokens then some <$> macroCallItem
    else
      wantAhead start.tokens (["`fn`", "`static`", "`type`"]
        ++ if start.isVisible then [] else macroPathStarts)

/-- Declarations of another language. -/
def foreignModule : Reader (List Token) := do
  let unsafety ← word? "unsafe"
  let convention ← abi
  pure (unsafety ++ convention ++ (← itemsBlock inner (foreignItem inner)))

/-! ## Implementations -/

def implementedConstant : Reader (Option (List Token)) := do
  let visibility ← visibility
  let default ← word? "default"
  pure ((← restOfConstant inner).map (visibility.tokens ++ default ++ ·))

/-- A type without a definition or with bounds is kept as it is written. -/
def implementedType : Reader (Option (List Token)) := do
  let visibility ← visibility
  let default ← word? "default"
  let type ← typeDeclaration inner .afterDefinition
  if type.isBounded || type.definition.isEmpty then pure none
  else
    pure (some (visibility.tokens ++ default ++ type.head ++ type.definition
      ++ type.constraints.tokens ++ [Token.semicolon]))

def implementedItem : Reader (List Token) :=
  attributedItem inner do
    let start ← itemStart true false
    if start.isFunction then functionDeclaration inner
    else if startsWord "const" start.tokens then implementedConstant inner
    else if startsWord "type" start.tokens then implementedType inner
    else if !start.isVisible && !start.isDefault && startsMacroPath start.tokens then
      some <$> macroCallItem
    else
      wantAhead start.tokens (wordsBut start.tokens
          ((if start.isDefault then [] else ["default"]) ++ ["fn", "const", "type"])
        ++ if start.isVisible || start.isDefault then [] else macroPathStarts)

def startsConstantTrait (tokens : List Token) : Bool :=
  startsWord "const" tokens
    || (startsOperator ['?'] tokens && startsWord "const" (behind tokens))

/-- What is implemented and for what, and whether it is a trait that no path
names. -/
def implementationHead : Reader (Bool × List Token) := do
  let start ← upcoming
  let polarity ←
    if startsOperator ['!'] start && !startsOpening .brace (behind start) then operator ['!']
    else pure []
  let first ← inner.type true
  if ← look (startsWord "for") then
    let keyword ← word "for"
    let subject ← inner.typeTokens true
    let isPath : Bool := match first with
      | .path .. => true
      | _ => false
    pure (!isPath, polarity ++ first.tokens ++ keyword ++ subject)
  else if polarity.isEmpty then pure (false, first.tokens)
  else pure (false, ← since start)

/-- An implementation.  One that is marked as visible, of a constant trait or
of what no path names is kept as it is written. -/
def implementation : Reader (Option (List Token)) := do
  let visibility ← visibility
  let default ← word? "default"
  let unsafety ← word? "unsafe"
  let keyword ← word "impl"
  let generics ← if ← look startsParameters then generics inner else pure .empty
  let isConstant ← look startsConstantTrait
  if isConstant then
    let _ ← operator? ['?']
    let _ ← word "const"
  let (isUnnamed, head) ← implementationHead inner
  let constraints ← whereClause inner
  let items ← itemsBlock inner (implementedItem inner)
  if !visibility.isInherited || isConstant || isUnnamed then pure none
  else
    pure (some (default ++ unsafety ++ keyword ++ generics.tokens ++ head ++ constraints.tokens
      ++ items))

/-! ## Traits -/

/-- Bounds under a name. -/
def restOfTraitAlias : Reader (List Token) := do
  let sign ← operator ['=']
  let bounds ← Separated.read ['+']
    (fun tokens => startsWord "where" tokens || startsOperator [';'] tokens)
    (inner.bound .declared)
  let constraints ← whereClause inner
  pure (sign ++ boundsTokens bounds ++ constraints.tokens ++ (← operator [';']))

def traitOrAlias : Reader (List Token) := do
  let visibility ← visibility
  let keyword ← word "trait"
  let name ← name
  let generics ← generics inner
  let next ← upcoming
  if startsOpening .brace next || startsOperator [':'] next || startsWord "where" next then
    pure (← restOfTrait inner [] visibility [] name generics).tokens
  else if startsOperator ['='] next then
    pure (visibility.tokens ++ keyword ++ .identifier name :: generics.tokens
      ++ (← restOfTraitAlias inner))
  else
    wantOneOf ["curly braces", "`:`", "`where`", "`=`"]

/-! ## All kinds of items -/

/-- An item that begins with `extern`, which `next` is behind. -/
def externItem (next : List Token) : Reader (List Token) := do
  if startsWord "crate" next then externCrateItem
  else if startsOpening .brace next
      || (startsString next && startsOpening .brace (behind next)) then foreignModule inner
  else if startsString next then
    wantAhead (behind next) ["curly braces"]
  else
    wantAhead next ["`crate`", "curly braces", "string literal"]

def startsAutomaticTrait (tokens : List Token) : Bool :=
  startsWord "auto" tokens && startsWord "trait" (behind tokens)

/-- An item that begins with `unsafe`, which `next` is behind. -/
def unsafeItem (next : List Token) : Reader (Option (List Token)) := do
  if startsWord "trait" next || startsAutomaticTrait next then
    pure (some (← traitDeclaration inner).tokens)
  else if startsWord "impl" next then implementation inner
  else if startsWord "extern" next then some <$> foreignModule inner
  else if startsWord "mod" next then some <$> moduleItem inner
  else
    wantAhead next (wordsBut next ["trait", "auto", "impl", "extern", "mod"])

def itemContent : Reader (Option (List Token)) := do
  let start ← itemStart false false
  let tokens := start.tokens
  let second := behind tokens
  if start.isFunction then functionDeclaration inner
  else if startsWord "extern" tokens then some <$> externItem inner second
  else if startsWord "use" tokens then some <$> useItem
  else if startsWord "static" tokens then staticItem inner
  else if startsWord "const" tokens then constantDeclaration inner
  else if startsWord "unsafe" tokens then unsafeItem inner second
  else if startsWord "mod" tokens then some <$> moduleItem inner
  else if startsWord "type" tokens then typeAlias inner
  else if startsWord "struct" tokens then some <$> structItem inner
  else if startsWord "enum" tokens then some <$> enumItem inner
  else if startsWord "union" tokens && startsName second then some <$> unionItem inner
  else if startsWord "trait" tokens then some <$> traitOrAlias inner
  else if startsAutomaticTrait tokens then pure (some (← traitDeclaration inner).tokens)
  else if startsWord "impl" tokens
      || (startsWord "default" tokens && !startsOperator ['!'] second) then implementation inner
  else if startsWord "macro" tokens then
    let _ ← visibility
    macroDeclaration
    pure none
  else if !start.isVisible && startsMacroPath tokens then some <$> macroItem
  else
    wantAhead tokens (wordsBut tokens itemWords
      ++ if start.isVisible then [] else macroPathStarts)

def item : Reader (List Token) :=
  attributedItem inner (itemContent inner)

end Readers

end InterfaceWitness.Surface
