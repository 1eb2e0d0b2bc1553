import InterfaceWitness.Token.Number
import InterfaceWitness.Token.Reading

/-!
What a list of tokens begins with.  A closing delimiter ends the list for
whatever is read between it and its partner.
-/

namespace InterfaceWitness.Surface

/-- Whether nothing is left before the next closing delimiter. -/
def ended : List Token → Bool
  | [] => true
  | .closing _ :: _ => true
  | _ => false

/-- How many tokens stand before the partner of a delimiter that is open
`depth` times over. -/
def innerLength : Nat → List Token → Nat
  | _, [] => 0
  | depth, .opening _ :: rest => innerLength (depth + 1) rest + 1
  | 0, .closing _ :: _ => 0
  | depth + 1, .closing _ :: rest => innerLength depth rest + 1
  | depth, _ :: rest => innerLength depth rest + 1

/-- What stands behind the first token, or behind the whole group that it
opens. -/
def behind : List Token → List Token
  | [] => []
  | .opening _ :: rest => rest.drop (innerLength 0 rest + 1)
  | .closing _ :: _ => []
  | _ :: rest => rest

/-- Whether an operator comes next: its characters, joint but for the last. -/
def startsOperator : List Char → List Token → Bool
  | [], _ => true
  | [last], .punctuation char _ :: _ => char = last
  | first :: rest, .punctuation char true :: tokens => char = first && startsOperator rest tokens
  | _, _ => false

def startsWord (word : String) : List Token → Bool
  | .identifier text :: _ => text = word
  | _ => false

def startsAnyWord : List Token → Bool
  | .identifier _ :: _ => true
  | _ => false

def startsWordOf (words : List String) : List Token → Bool
  | .identifier text :: _ => words.contains text
  | _ => false

def startsLifetime : List Token → Bool
  | .lifetime _ :: _ => true
  | _ => false

def startsOpening (delimiter : Delimiter) : List Token → Bool
  | .opening found :: _ => found = delimiter
  | _ => false

def startsGroup : List Token → Bool
  | .opening _ :: _ => true
  | _ => false

/-- The words that cannot name anything unless written raw. -/
def keywords : List String :=
  ["_", "abstract", "as", "async", "await", "become", "box", "break", "const", "continue",
    "crate", "do", "dyn", "else", "enum", "extern", "false", "final", "fn", "for", "if", "impl",
    "in", "let", "loop", "macro", "match", "mod", "move", "mut", "override", "priv", "pub", "ref",
    "return", "Self", "self", "static", "struct", "super", "trait", "true", "try", "type",
    "typeof", "unsafe", "unsized", "use", "virtual", "where", "while", "yield"]

def startsName : List Token → Bool
  | .identifier text :: _ => !keywords.contains text
  | _ => false

/-- A literal: a number may have a minus sign, and truth values are words. -/
def startsLiteral : List Token → Bool
  | .literal _ :: _ => true
  | .identifier text :: _ => text = "true" || text = "false"
  | .punctuation '-' _ :: .literal text :: _ => Token.isNumber text
  | _ => false

/-- A number of the kind that `test` picks out, perhaps with a minus sign. -/
def startsNumber (test : String → Bool) : List Token → Bool
  | .literal text :: _ => Token.isNumber text && test text
  | .punctuation '-' _ :: .literal text :: _ => Token.isNumber text && test text
  | _ => false

def startsString : List Token → Bool
  | .literal text :: _ => Token.isStringLiteral text
  | _ => false

def startsPathSeparator (tokens : List Token) : Bool :=
  startsOperator [':', ':'] tokens

def startsColon (tokens : List Token) : Bool :=
  startsOperator [':'] tokens && !startsPathSeparator tokens

def startsAssignment (tokens : List Token) : Bool :=
  startsOperator ['='] tokens && !startsOperator ['=', '>'] tokens

def startsArrow (tokens : List Token) : Bool :=
  startsOperator ['-', '>'] tokens

def startsDots (tokens : List Token) : Bool :=
  startsOperator ['.', '.'] tokens

def startsEllipsis (tokens : List Token) : Bool :=
  startsOperator ['.', '.', '.'] tokens

/-- The dot in front of a field or a method. -/
def startsDot (tokens : List Token) : Bool :=
  startsOperator ['.'] tokens && !startsDots tokens

/-- The mark behind the path of a macro. -/
def startsBang (tokens : List Token) : Bool :=
  startsOperator ['!'] tokens && !startsOperator ['!', '='] tokens

/-- The bar between patterns, of which one has to match. -/
def startsBar (tokens : List Token) : Bool :=
  startsOperator ['|'] tokens && !startsOperator ['|', '|'] tokens
    && !startsOperator ['|', '='] tokens

/-- The keywords that a path may begin with. -/
def rootWords : List String := ["super", "self", "Self", "crate"]

def startsModuleWord (tokens : List Token) : Bool :=
  startsName tokens || startsWordOf rootWords tokens

/-- Angle brackets open arguments unless they are part of a comparison or of
an assignment. -/
def startsArguments (tokens : List Token) : Bool :=
  startsOperator ['<'] tokens && !startsOperator ['<', '='] tokens
    && !startsOperator ['<', '<', '='] tokens

/-- Whether angle brackets that may begin a path or a list of parameters are
taken for the latter. -/
def startsParameters (tokens : List Token) : Bool :=
  let second := behind tokens
  let third := behind second
  startsOperator ['<'] tokens
    && (startsOperator ['>'] second || startsOperator ['#'] second || startsWord "const" second
      || ((startsLifetime second || startsName second)
        && (startsOperator ['>'] third || startsOperator [','] third || startsColon third
          || startsOperator ['='] third)))

/-- Whether a text reads as one identifier, blanks and comments aside. -/
def readsAsName (text : String) : Bool :=
  match Token.ofSource? text with
  | some [.identifier word] => !keywords.contains word
  | _ => false

/-- Whether a text is an identifier, a keyword or a raw word as it stands. -/
def isWord (text : String) : Bool :=
  match Token.word text.toList with
  | some (_, []) => true
  | _ => false

end InterfaceWitness.Surface
