import InterfaceWitness.Text.IdentifierCharacter
import InterfaceWitness.Text.Quoted

/-!
Literals at the head of a text.  Every recogniser gives what follows the
literal, or nothing when there is none.
-/

namespace InterfaceWitness.Token

open Text

/-- The three kinds of string literal: characters, bytes, and characters none
of which is null. -/
inductive StringKind where
  | characters
  | bytes
  | terminated
  deriving DecidableEq, Repr

namespace StringKind

def admits (kind : StringKind) (char : Char) : Bool :=
  match kind with
  | .characters => true
  | .bytes => char.toNat < 128
  | .terminated => char != '\x00'

def admitsHex (kind : StringKind) (high low : Char) : Bool :=
  match hexDigit? high, hexDigit? low with
  | some first, some second =>
      match kind with
      | .characters => first < 8
      | .bytes => true
      | .terminated => 0 < first + second
  | _, _ => false

/-- Whether `rest`, after the opening brace of a code point escape, is one
that the string may hold. -/
def admitsCode (kind : StringKind) (rest : List Char) : Bool :=
  match kind, codeDigits 0 0 rest with
  | .characters, some _ => true
  | .terminated, some (char, _) => char != '\x00'
  | _, _ => false

def admitsSimple (kind : StringKind) (char : Char) : Bool :=
  (simpleEscape? char).isSome && !(kind = .terminated && char = '0')

end StringKind

/-- After the opening quote.  What a code point escape or a continued line
holds after its first characters needs no look of its own. -/
def afterString (kind : StringKind) : List Char → Option (List Char)
  | [] => none
  | '"' :: rest => some rest
  | '\r' :: '\n' :: rest => afterString kind rest
  | '\r' :: _ => none
  | '\\' :: 'x' :: high :: low :: rest =>
      if kind.admitsHex high low then afterString kind rest else none
  | '\\' :: 'u' :: '\x7b' :: rest =>
      if kind.admitsCode rest then afterString kind rest else none
  | '\\' :: '\n' :: rest => afterString kind rest
  | '\\' :: '\r' :: '\n' :: rest => afterString kind rest
  | '\\' :: char :: rest => if kind.admitsSimple char then afterString kind rest else none
  | char :: rest => if kind.admits char then afterString kind rest else none

/-- After the opening quote of a string that ends with a quote and `pounds`
number signs. -/
def afterRawContent (kind : StringKind) (pounds : Nat) : List Char → Option (List Char)
  | [] => none
  | '"' :: rest =>
      if rest.take pounds = List.replicate pounds '#' then some (rest.drop pounds)
      else afterRawContent kind pounds rest
  | '\r' :: '\n' :: rest => afterRawContent kind pounds rest
  | '\r' :: _ => none
  | char :: rest => if kind.admits char then afterRawContent kind pounds rest else none

def afterRawString (kind : StringKind) (text : List Char) : Option (List Char) :=
  let pounds := (text.takeWhile (· == '#')).length
  match text.drop pounds with
  | '"' :: rest => if pounds < 256 then afterRawContent kind pounds rest else none
  | _ => none

/-- After the opening quote of a character. -/
def afterCharacter : List Char → Option (List Char)
  | '\\' :: 'x' :: high :: low :: '\'' :: rest =>
      if StringKind.characters.admitsHex high low then some rest else none
  | '\\' :: 'u' :: '\x7b' :: rest =>
      match codeDigits 0 0 rest with
      | some (_, '\'' :: after) => some after
      | _ => none
  | '\\' :: char :: '\'' :: rest =>
      if (simpleEscape? char).isSome then some rest else none
  | '\\' :: _ => none
  | _ :: '\'' :: rest => some rest
  | _ => none

/-- After the opening quote of a byte. -/
def afterByte : List Char → Option (List Char)
  | '\\' :: 'x' :: high :: low :: '\'' :: rest =>
      if StringKind.bytes.admitsHex high low then some rest else none
  | '\\' :: char :: '\'' :: rest =>
      if (simpleEscape? char).isSome then some rest else none
  | '\\' :: _ => none
  | char :: '\'' :: rest => if char.toNat < 128 then some rest else none
  | _ => none

/-- Drops a word that directly follows a literal. -/
def afterSuffix : List Char → List Char
  | [] => []
  | char :: rest =>
      if isIdentifierStart char then rest.dropWhile isIdentifierContinue else char :: rest

/-- Digits and underscores up to an exponent or to what no number holds, with
whether there was a point and whether an exponent follows. -/
def afterDigits (pointed : Bool) : List Char → Option (Bool × Bool × List Char)
  | [] => some (pointed, false, [])
  | char :: rest =>
      if char.isDigit || char == '_' then afterDigits pointed rest
      else if char == '.' && !pointed then
        match rest with
        | [] => some (true, false, [])
        | next :: _ =>
            if next == '.' || isIdentifierStart next then none else afterDigits true rest
      else if char == 'e' || char == 'E' then some (pointed, true, rest)
      else some (pointed, false, char :: rest)

/-- After the letter of an exponent: one sign at most, then a digit at least. -/
def afterExponent (signed digits : Bool) : List Char → Option (List Char)
  | [] => if digits then some [] else none
  | char :: rest =>
      if char.isDigit then afterExponent signed true rest
      else if char == '_' then afterExponent signed digits rest
      else if (char == '+' || char == '-') && !digits then
        if signed then none else afterExponent true digits rest
      else if digits then some (char :: rest)
      else none

/-- A number ends where no word goes on. -/
def numberEnd (text : List Char) : Option (List Char) :=
  let rest := afterSuffix text
  match rest with
  | char :: _ => if isIdentifierContinue char then none else some rest
  | [] => some []

/-- A number with a point or an exponent.  A letter that begins no exponent
is a suffix if there was a point. -/
def afterFloat (text : List Char) : Option (List Char) :=
  match text with
  | first :: rest =>
      if first.isDigit then
        match afterDigits false rest with
        | some (pointed, true, exponent) =>
            match afterExponent false false exponent with
            | some after => numberEnd after
            | none =>
                if pointed then numberEnd (text.drop (text.length - exponent.length - 1))
                else none
        | some (true, false, after) => numberEnd after
        | _ => none
      else none
  | [] => none

/-- The digits of a whole number; a digit that the base lacks is a fault, a
letter that it lacks is not part of them. -/
def afterRadix (base : Nat) (empty : Bool) : List Char → Option (List Char)
  | [] => if empty then none else some []
  | char :: rest =>
      if char == '_' then
        if empty && base == 10 then none else afterRadix base empty rest
      else
        match hexDigit? char with
        | some digit =>
            if digit < base then afterRadix base false rest
            else if digit < 10 then none
            else if empty then none else some (char :: rest)
        | none => if empty then none else some (char :: rest)

def afterWhole : List Char → Option (List Char)
  | '0' :: 'x' :: rest => (afterRadix 16 true rest).bind numberEnd
  | '0' :: 'o' :: rest => (afterRadix 8 true rest).bind numberEnd
  | '0' :: 'b' :: rest => (afterRadix 2 true rest).bind numberEnd
  | text => (afterRadix 10 true text).bind numberEnd

def afterLiteral : List Char → Option (List Char)
  | '"' :: rest => (afterString .characters rest).map afterSuffix
  | 'r' :: rest => (afterRawString .characters rest).map afterSuffix
  | 'b' :: '"' :: rest => (afterString .bytes rest).map afterSuffix
  | 'b' :: 'r' :: rest => (afterRawString .bytes rest).map afterSuffix
  | 'c' :: '"' :: rest => (afterString .terminated rest).map afterSuffix
  | 'c' :: 'r' :: rest => (afterRawString .terminated rest).map afterSuffix
  | 'b' :: '\'' :: rest => (afterByte rest).map afterSuffix
  | '\'' :: rest => (afterCharacter rest).map afterSuffix
  | text => (afterFloat text).orElse fun _ => afterWhole text

/-- What a string literal stands for: its text with the escapes undone. -/
def stringContent : List Char → List Char
  | [] => []
  | '"' :: _ => []
  | '\r' :: '\n' :: rest => '\n' :: stringContent rest
  | '\\' :: '\n' :: rest => continuedContent rest
  | '\\' :: '\r' :: rest => continuedContent rest
  | '\\' :: 'x' :: high :: low :: rest =>
      match unescape ['x', high, low] with
      | some (char, _) => char :: stringContent rest
      | none => stringContent rest
  | '\\' :: 'u' :: '\x7b' :: rest =>
      match codeDigits 0 0 rest with
      | some (char, _) => char :: afterBrace rest
      | none => stringContent rest
  | '\\' :: char :: rest =>
      match simpleEscape? char with
      | some plain => plain :: stringContent rest
      | none => stringContent rest
  | char :: rest => char :: stringContent rest
where
  /-- A backslash at the end of a line takes the white space after it away. -/
  continuedContent : List Char → List Char
    | [] => []
    | char :: rest => if isBlank char then continuedContent rest else stringContent (char :: rest)
  afterBrace : List Char → List Char
    | [] => []
    | '\x7d' :: rest => stringContent rest
    | _ :: rest => afterBrace rest

/-- The value of a string literal, if the literal is one. -/
def stringValue? (text : String) : Option String :=
  match text.toList with
  | '"' :: rest => some (String.ofList (stringContent rest))
  | 'r' :: rest =>
      let pounds := (rest.takeWhile (· == '#')).length
      let content := rest.drop (pounds + 1)
      match afterRawContent .characters pounds content with
      | some after =>
          some (String.ofList (content.take (content.length - after.length - pounds - 1)))
      | none => none
  | _ => none

end InterfaceWitness.Token
