import InterfaceWitness.Token
import InterfaceWitness.Token.Literal

/-!
Reading source text into tokens.  Comments and white space separate tokens and
vanish, a documentation comment becomes the attribute that it stands for.
-/

namespace InterfaceWitness.Token

open Text

/-- The words that have no raw form. -/
def unrawWords : List String := ["_", "super", "self", "Self", "crate"]

/-- A word at the head of a text and what follows it. -/
def plainWord : List Char → Option (List Char × List Char)
  | [] => none
  | char :: rest =>
      if isIdentifierStart char then
        some (char :: rest.takeWhile isIdentifierContinue, rest.dropWhile isIdentifierContinue)
      else
        none

def word : List Char → Option (List Char × List Char)
  | 'r' :: '#' :: rest => do
      let (name, after) ← plainWord rest
      if String.ofList name ∈ unrawWords then none else some ('r' :: '#' :: name, after)
  | text => plainWord text

/-- Beginnings of literals that no word may have. -/
def literalOpenings : List (List Char) :=
  ["r\"", "r#\"", "r##", "b\"", "b'", "br\"", "br#", "c\"", "cr\"", "cr#"].map String.toList

def identifierWord (text : List Char) : Option (List Char × List Char) :=
  if literalOpenings.any (·.isPrefixOf text) then none else word text

def punctuationMarks : List Char := "~!@#$%^&*-=+|;:,<.>/?'".toList

/-- Whether a punctuation character comes next; the slash of a comment is none. -/
def startsPunctuation : List Char → Bool
  | '/' :: '/' :: _ => false
  | '/' :: '*' :: _ => false
  | char :: _ => punctuationMarks.contains char
  | [] => false

/-- A quote and a word are a lifetime where no second quote closes a character
and no number sign opens a raw text. -/
def lifetimeAt (rest : List Char) : Option (List Token × List Char) := do
  let (name, after) ← word rest
  match after with
  | '\'' :: _ => none
  | '#' :: _ => if "r#".toList.isPrefixOf rest then pure () else none
  | _ => pure ()
  if (identifierWord rest).isSome then
    some ([.lifetime (String.ofList ('\'' :: name))], after)
  else
    some ([loneQuote], rest)

def punctuationAt : List Char → Option (List Token × List Char)
  | '\'' :: rest => lifetimeAt rest
  | char :: rest =>
      if startsPunctuation (char :: rest) then
        some ([.punctuation char (startsPunctuation rest)], rest)
      else
        none
  | [] => none

def leafAt (text : List Char) : Option (List Token × List Char) :=
  match afterLiteral text with
  | some rest =>
      some ([.literal (String.ofList (text.take (text.length - rest.length)))], rest)
  | none =>
      match punctuationAt text with
      | some leaf => some leaf
      | none => (identifierWord text).map fun (name, rest) =>
          ([.identifier (String.ofList name)], rest)

/-- A line up to its end, which is not part of it. -/
def lineOf : List Char → List Char
  | [] => []
  | '\n' :: _ => []
  | '\r' :: '\n' :: _ => []
  | char :: rest => char :: lineOf rest

/-- What follows a block comment that is open `depth` times. -/
def afterBlock (depth : Nat) : List Char → Option (List Char)
  | '/' :: '*' :: rest => afterBlock (depth + 1) rest
  | '*' :: '/' :: rest => if depth ≤ 1 then some rest else afterBlock (depth - 1) rest
  | _ :: rest => afterBlock depth rest
  | [] => none

/-- What follows a comment that documents nothing. -/
def afterComment : List Char → Option (List Char)
  | '/' :: '/' :: '/' :: '/' :: rest => some (rest.drop (lineOf rest).length)
  | '/' :: '/' :: '/' :: _ => none
  | '/' :: '/' :: '!' :: _ => none
  | '/' :: '/' :: rest => some (rest.drop (lineOf rest).length)
  | '/' :: '*' :: '*' :: '/' :: rest => some rest
  | '/' :: '*' :: '*' :: '*' :: rest => afterBlock 1 ('*' :: '*' :: rest)
  | '/' :: '*' :: '*' :: _ => none
  | '/' :: '*' :: '!' :: _ => none
  | '/' :: '*' :: rest => afterBlock 1 rest
  | _ => none

/-- Carriage returns only before line feeds. -/
def hasLoneReturn : List Char → Bool
  | [] => false
  | '\r' :: '\n' :: rest => hasLoneReturn rest
  | '\r' :: _ => true
  | _ :: rest => hasLoneReturn rest

def documentation (inner : Bool) (comment : List Char) : Option (List Token) :=
  if hasLoneReturn comment then none
  else
    some ((if inner then [.punctuation '#' false, .punctuation '!' false]
        else [.punctuation '#' false])
      ++ delimited .bracket [.identifier "doc", .punctuation '=' false,
        .literal (stringLiteral (String.ofList comment))])

def lineDocumentation (inner : Bool) (rest : List Char) : Option (List Token × List Char) :=
  (documentation inner (lineOf rest)).map (·, rest.drop (lineOf rest).length)

/-- The content of a block comment is what stands before its last two
characters. -/
def blockDocumentation (inner : Bool) (rest : List Char) : Option (List Token × List Char) := do
  let after ← afterBlock 1 rest
  let tokens ← documentation inner (rest.take (rest.length - after.length - 2))
  some (tokens, after)

def documentationAt : List Char → Option (List Token × List Char)
  | '/' :: '/' :: '!' :: rest => lineDocumentation true rest
  | '/' :: '*' :: '!' :: rest => blockDocumentation true rest
  | '/' :: '/' :: '/' :: rest => lineDocumentation false rest
  | '/' :: '*' :: '*' :: rest => blockDocumentation false rest
  | _ => none

/-- The two direction marks separate tokens as white space does. -/
def isSeparator (char : Char) : Bool :=
  isBlank char || char == '\u200e' || char == '\u200f'

/-- The text that stands for an expression nobody could make sense of.  It is
one literal, although it looks like a pair of parentheses. -/
def faultyLiteral : String := "(/*ERROR*/)"

def afterFaultyLiteral (text : List Char) : Option (List Char) :=
  if faultyLiteral.toList.isPrefixOf text then some (text.drop faultyLiteral.toList.length)
  else none

/-- The tokens that begin a text, none for a separator, and what follows them. -/
def nextTokens : List Char → Option (List Token × List Char)
  | [] => none
  | char :: rest =>
      if isSeparator char then some ([], rest)
      else
        match afterComment (char :: rest) with
        | some after => some ([], after)
        | none =>
            match documentationAt (char :: rest) with
            | some result => some result
            | none =>
                match afterFaultyLiteral (char :: rest) with
                | some after => some ([.literal faultyLiteral], after)
                | none =>
                    match Delimiter.ofOpener? char, Delimiter.ofCloser? char with
                    | some delimiter, _ => some ([.opening delimiter], rest)
                    | none, some delimiter => some ([.closing delimiter], rest)
                    | none, none => leafAt (char :: rest)

/-- All tokens of a text, whether balanced or not. -/
def scan (text : List Char) : Option (List Token) :=
  if text.isEmpty then some []
  else
    match nextTokens text with
    | none => none
    | some (tokens, rest) =>
        if rest.length < text.length then (scan rest).map (tokens ++ ·) else none
termination_by text.length

/-- The tokens of a source text, which may begin with a byte order mark. -/
def ofSource? (source : String) : Option (List Token) :=
  let text :=
    match source.toList with
    | '\ufeff' :: rest => rest
    | text => text
  (scan text).filter (balanced [])

/-- The tokens of a fragment that is known to be well formed. -/
def ofFragment (source : String) : List Token :=
  (ofSource? source).getD []

end InterfaceWitness.Token
