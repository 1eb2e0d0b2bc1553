import InterfaceWitness.Text.Blank
import InterfaceWitness.Text.Visible

/-!
Text between double quotes, with escapes for what cannot stand for itself.
-/

namespace InterfaceWitness.Text

/-- The escape that names a code point. -/
def codeEscape (char : Char) : List Char :=
  ['\\', 'u', '\x7b'] ++ Nat.toDigits 16 char.toNat ++ ['\x7d']

def escape (char : Char) : List Char :=
  match char with
  | '\x00' => ['\\', '0']
  | '\t' => ['\\', 't']
  | '\r' => ['\\', 'r']
  | '\n' => ['\\', 'n']
  | '"' => ['\\', '"']
  | '\\' => ['\\', '\\']
  | char => if isVisible char then [char] else codeEscape char

/-- Text in quotes, as values are shown in messages. -/
def quoted (text : String) : String :=
  String.ofList ('"' :: text.toList.flatMap escape ++ ['"'])

def isOctalDigit (char : Char) : Bool :=
  '0' ≤ char && char ≤ '7'

/-- Escapes a text for a string literal, where a null before an octal digit
has to be written in full. -/
def escapeLiteral : List Char → List Char
  | [] => []
  | '\x00' :: next :: rest =>
      (if isOctalDigit next then ['\\', 'x', '0', '0'] else ['\\', '0'])
        ++ escapeLiteral (next :: rest)
  | char :: rest => escape char ++ escapeLiteral rest

/-- The string literal that stands for `text`. -/
def stringLiteral (text : String) : String :=
  String.ofList ('"' :: escapeLiteral text.toList ++ ['"'])

def hexDigit? (char : Char) : Option Nat :=
  if '0' ≤ char ∧ char ≤ '9' then some (char.toNat - 48)
  else if 'a' ≤ char ∧ char ≤ 'f' then some (char.toNat - 87)
  else if 'A' ≤ char ∧ char ≤ 'F' then some (char.toNat - 55)
  else none

/-- The character with this code point, if there is one. -/
def scalar? (code : Nat) : Option Char :=
  if code < 0xD800 ∨ (0xE000 ≤ code ∧ code < 0x110000) then some (Char.ofNat code) else none

/-- The rest of a `\u` escape after its opening brace: at most six hexadecimal
digits, underscores anywhere but in front. -/
def codeDigits (value : Nat) (count : Nat) : List Char → Option (Char × List Char)
  | [] => none
  | char :: rest =>
      if char = '_' ∧ 0 < count then codeDigits value count rest
      else if char = '\x7d' ∧ 0 < count then (scalar? value).map (·, rest)
      else
        match hexDigit? char with
        | some digit => if count < 6 then codeDigits (16 * value + digit) (count + 1) rest else none
        | none => none

/-- The escapes of one character. -/
def simpleEscape? : Char → Option Char
  | 'n' => some '\n'
  | 'r' => some '\r'
  | 't' => some '\t'
  | '\\' => some '\\'
  | '\'' => some '\''
  | '"' => some '"'
  | '0' => some '\x00'
  | _ => none

/-- The character that an escape stands for, after its backslash. -/
def unescape : List Char → Option (Char × List Char)
  | 'x' :: high :: low :: rest => do
      let code := 16 * (← hexDigit? high) + (← hexDigit? low)
      if code < 128 then some (Char.ofNat code, rest) else none
  | 'u' :: '\x7b' :: rest => codeDigits 0 0 rest
  | char :: rest => (simpleEscape? char).map (·, rest)
  | [] => none

end InterfaceWitness.Text
