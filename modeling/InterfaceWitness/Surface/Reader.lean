import InterfaceWitness.Surface.Lookahead

/-!
Readers of token streams.  A reader takes tokens off the front of a stream or
says what it would have needed.  What is left in a group when it is closed is
a fault of its own, which counts only if nothing else is wrong.
-/

namespace InterfaceWitness.Surface

inductive ReadError where
  /-- The text holds something that is no token. -/
  | notTokens
  /-- Something is left over, in a group if a delimiter is given. -/
  | leftOver (delimiter : Option Delimiter)
  /-- The stream has ended where anything would do. -/
  | ended
  /-- What was needed, and whether the stream had ended. -/
  | expected (what : String) (atEnd : Bool)
  | keyword (word : String)
  | refused (reason : String) (atEnd : Bool)
  deriving DecidableEq, Repr

namespace ReadError

def atEndText : Bool → String
  | true => "unexpected end of input, "
  | false => ""

def message : ReadError → String
  | .notTokens => "cannot parse string into token stream"
  | .leftOver none => "unexpected token"
  | .leftOver (some delimiter) =>
      "unexpected token, expected `" ++ String.singleton delimiter.closer ++ "`"
  | .ended => "unexpected end of input"
  | .expected what atEnd => atEndText atEnd ++ "expected " ++ what
  | .keyword word => "expected identifier, found keyword `" ++ word ++ "`"
  | .refused reason atEnd => atEndText atEnd ++ reason

end ReadError

structure Stream where
  tokens : List Token
  /-- The delimiter of the first group that something was left in. -/
  leftOver : Option Delimiter

abbrev Reader := StateT Stream (Except ReadError)

/-- One thing, or several of which one is needed. -/
def alternativesText : List String → String
  | [only] => only
  | [first, second] => first ++ " or " ++ second
  | several => "one of: " ++ ", ".intercalate several

def quotedText (text : String) : String := "`" ++ text ++ "`"

namespace Reader

def fail {α : Type} (error : ReadError) : Reader α := fun _ => .error error

def atEnd : Reader Bool := fun stream => .ok (ended stream.tokens, stream)

/-- Fails for want of `what`. -/
def want {α : Type} (what : String) : Reader α := do
  fail (.expected what (← atEnd))

def wantOneOf {α : Type} (several : List String) : Reader α :=
  want (alternativesText several)

/-- Fails for want of something further on, where `tokens` stand. -/
def wantAhead {α : Type} (tokens : List Token) (several : List String) : Reader α :=
  fail (.expected (alternativesText several) (ended tokens))

/-- Fails because what comes next is not allowed. -/
def refuse {α : Type} (reason : String) : Reader α := do
  fail (.refused reason (← atEnd))

/-- The tokens that are still to be read. -/
def upcoming : Reader (List Token) := fun stream => .ok (stream.tokens, stream)

/-- Looks ahead without taking anything. -/
def look (test : List Token → Bool) : Reader Bool := fun stream =>
  .ok (test stream.tokens, stream)

/-- The tokens that were taken since `start` was to be read, as they are
written. -/
def since (start : List Token) : Reader (List Token) := fun stream =>
  .ok (start.take (start.length - stream.tokens.length), stream)

/-- A reader that fails takes nothing and gives nothing. -/
def attempt {α : Type} (reader : Reader α) : Reader (Option α) := fun stream =>
  match reader stream with
  | .ok (value, rest) => .ok (some value, rest)
  | .error _ => .ok (none, stream)

/-- What a reader gives, without taking anything. -/
def peeking {α : Type} (reader : Reader α) : Reader α := fun stream =>
  match reader stream with
  | .ok (value, _) => .ok (value, stream)
  | .error error => .error error

/-- What would come next after a reader; nothing if it fails. -/
def lookAfter {α : Type} (reader : Reader α) : Reader (List Token) := fun stream =>
  match reader stream with
  | .ok (_, rest) => .ok (rest.tokens, stream)
  | .error _ => .ok ([], stream)

def drop (count : Nat) : Reader Unit := fun stream =>
  .ok ((), { stream with tokens := stream.tokens.drop count })

/-- An operator, which need not be written apart from what follows it. -/
def operator (characters : List Char) : Reader (List Token) := do
  if ← look (startsOperator characters) then
    drop characters.length
    pure (Token.operator characters)
  else
    fail (.expected (quotedText (String.ofList characters)) false)

def operator? (characters : List Char) : Reader (List Token) := do
  if ← look (startsOperator characters) then operator characters else pure []

def word (text : String) : Reader (List Token) := do
  if ← look (startsWord text) then
    drop 1
    pure [.identifier text]
  else
    want (quotedText text)

def word? (text : String) : Reader (List Token) := do
  if ← look (startsWord text) then word text else pure []

/-- A word of any kind. -/
def anyWord (what : String) : Reader String := do
  match ← upcoming with
  | .identifier text :: _ =>
      drop 1
      pure text
  | _ => want what

/-- An identifier that is no keyword. -/
def name : Reader String := do
  match ← upcoming with
  | .identifier text :: _ =>
      if keywords.contains text then fail (.keyword text)
      else
        drop 1
        pure text
  | _ => want "identifier"

/-- An identifier, or one of some words that usually are none. -/
def nameOr (words : List String) : Reader String := do
  if ← look (startsWordOf words) then anyWord "identifier" else name

def lifetime : Reader String := do
  match ← upcoming with
  | .lifetime text :: _ =>
      drop 1
      pure text
  | _ => want "lifetime"

def lifetime? : Reader (Option String) := do
  if ← look startsLifetime then some <$> lifetime else pure none

/-- A literal, perhaps with a sign. -/
def literal : Reader (List Token) := do
  if ← look startsLiteral then
    match ← upcoming with
    | .punctuation sign _ :: .literal text :: _ =>
        drop 2
        pure [.punctuation sign false, .literal text]
    | first :: _ =>
        drop 1
        pure [first]
    | [] => want "literal"
  else
    want "literal"

/-- Closes a group: whatever is left before the closing delimiter is passed
over and noted. -/
def close (delimiter : Delimiter) : Reader Unit := fun stream =>
  if ended stream.tokens then .ok ((), { stream with tokens := stream.tokens.drop 1 })
  else
    .ok ((), ⟨stream.tokens.drop (innerLength 0 stream.tokens + 1),
      stream.leftOver.or (some delimiter)⟩)

/-- What stands between a pair of delimiters. -/
def within {α : Type} (delimiter : Delimiter) (inner : Reader α) : Reader α := do
  if ← look (startsOpening delimiter) then
    drop 1
    let value ← inner
    close delimiter
    pure value
  else
    want delimiter.description

/-- What stands between a pair of delimiters, with the delimiters. -/
def delimited (delimiter : Delimiter) (inner : Reader (List Token)) : Reader (List Token) := do
  pure (Token.delimited delimiter (← within delimiter inner))

/-- A delimited group of whatever kind, with its delimiters. -/
def group : Reader (List Token) := do
  match ← upcoming with
  | .opening delimiter :: rest =>
      let inner := rest.take (innerLength 0 rest)
      drop (inner.length + 2)
      pure (Token.delimited delimiter inner)
  | _ => want "delimiter"

/-- Goes on from a value as long as `step` finds more and takes something. -/
def extend {α : Type} (step : α → Reader (Option α)) (value : α) (stream : Stream) :
    Except ReadError (α × Stream) :=
  match step value stream with
  | .error error => .error error
  | .ok (none, rest) => .ok (value, rest)
  | .ok (some next, rest) =>
      if rest.tokens.length < stream.tokens.length then extend step next rest
      else .ok (next, rest)
termination_by stream.tokens.length

/-- Reads while `continues` holds and puts the tokens together. -/
def readWhile (continues : List Token → Bool) (item : Reader (List Token)) :
    Reader (List Token) :=
  extend (fun tokens => do
    if ← look continues then
      let more ← item
      pure (some (tokens ++ more))
    else
      pure none) []

/-- Runs a reader over a whole stream. -/
def run {α : Type} (reader : Reader α) (tokens : List Token) : Except ReadError α :=
  match StateT.run reader ⟨tokens, none⟩ with
  | .error error => .error error
  | .ok (value, rest) =>
      match rest.leftOver, rest.tokens with
      | some delimiter, _ => .error (.leftOver (some delimiter))
      | none, [] => .ok value
      | none, _ => .error (.leftOver none)

end Reader

end InterfaceWitness.Surface
