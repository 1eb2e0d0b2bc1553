/-!
Tokens of source text.  A stream is a plain list in which delimiters are tokens
of their own; the streams read from source are balanced.
-/

namespace InterfaceWitness

inductive Delimiter where
  | parenthesis
  | brace
  | bracket
  deriving DecidableEq, Repr

def Delimiter.opener : Delimiter → Char
  | .parenthesis => '('
  | .brace => '\x7b'
  | .bracket => '['

def Delimiter.closer : Delimiter → Char
  | .parenthesis => ')'
  | .brace => '\x7d'
  | .bracket => ']'

def Delimiter.ofOpener? : Char → Option Delimiter
  | '(' => some .parenthesis
  | '\x7b' => some .brace
  | '[' => some .bracket
  | _ => none

def Delimiter.ofCloser? : Char → Option Delimiter
  | ')' => some .parenthesis
  | '\x7d' => some .brace
  | ']' => some .bracket
  | _ => none

/-- What a message calls a group with this delimiter. -/
def Delimiter.description : Delimiter → String
  | .parenthesis => "parentheses"
  | .brace => "curly braces"
  | .bracket => "square brackets"

@[simp]
theorem Delimiter.ofOpener?_opener (delimiter : Delimiter) :
    Delimiter.ofOpener? delimiter.opener = some delimiter := by
  cases delimiter <;> rfl

@[simp]
theorem Delimiter.ofCloser?_closer (delimiter : Delimiter) :
    Delimiter.ofCloser? delimiter.closer = some delimiter := by
  cases delimiter <;> rfl

inductive Token where
  /-- A word, a raw one with its `r#`. -/
  | identifier (text : String)
  /-- A lifetime, with its quote. -/
  | lifetime (text : String)
  | literal (text : String)
  /-- A joint character is directly followed by another one. -/
  | punctuation (char : Char) (joint : Bool)
  | opening (delimiter : Delimiter)
  | closing (delimiter : Delimiter)
  deriving DecidableEq, Repr

namespace Token

def text : Token → String
  | .identifier text => text
  | .lifetime text => text
  | .literal text => text
  | .punctuation char _ => String.singleton char
  | .opening delimiter => String.singleton delimiter.opener
  | .closing delimiter => String.singleton delimiter.closer

/-- A quote in front of a literal, where a lifetime might have stood. -/
def loneQuote : Token := .punctuation '\'' true

/-- The tokens of a stream, one blank between any two.  A lone quote does not
show. -/
def flatText (tokens : List Token) : String :=
  " ".intercalate ((tokens.filter (· ≠ loneQuote)).map text)

/-- An operator: its characters are joint up to the last one. -/
def operator : List Char → List Token
  | [] => []
  | [last] => [.punctuation last false]
  | char :: rest => .punctuation char true :: operator rest

def comma : Token := .punctuation ',' false

def colon : Token := .punctuation ':' false

def semicolon : Token := .punctuation ';' false

def pathSeparator : List Token := operator [':', ':']

def arrow : List Token := operator ['-', '>']

def delimited (delimiter : Delimiter) (tokens : List Token) : List Token :=
  .opening delimiter :: tokens ++ [.closing delimiter]

/-- Every delimiter is closed by its partner, those of `opened` included. -/
def balanced : List Delimiter → List Token → Bool
  | opened, [] => opened.isEmpty
  | opened, .opening delimiter :: rest => balanced (delimiter :: opened) rest
  | [], .closing _ :: _ => false
  | innermost :: outer, .closing delimiter :: rest =>
      innermost = delimiter && balanced outer rest
  | opened, _ :: rest => balanced opened rest

end Token

end InterfaceWitness
