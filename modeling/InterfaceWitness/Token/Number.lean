import InterfaceWitness.Text.IdentifierCharacter
import InterfaceWitness.Text.Quoted

/-!
The numbers that literals stand for.  Every number is whole or has a point or
an exponent; only a whole one has a value here.
-/

namespace InterfaceWitness.Token

open Text

/-- A whole number with the suffix that is written directly after it. -/
structure WholeNumber where
  value : Nat
  suffix : String
  deriving DecidableEq, Repr

namespace WholeNumber

def isSuffix : List Char → Bool
  | [] => false
  | first :: rest => isIdentifierStart first && rest.all isIdentifierContinue

/-- Whether what follows the letter of an exponent makes one: a sign, or digits
that nothing but a suffix follows. -/
def isExponent (digits : Bool) : List Char → Bool
  | [] => digits
  | char :: rest =>
      if char == '_' then isExponent digits rest
      else if char == '+' || char == '-' then true
      else if char.isDigit then isExponent true rest
      else digits && isSuffix (char :: rest)

def finish (value : Option Nat) (suffix : List Char) : Option WholeNumber :=
  if suffix.isEmpty || isSuffix suffix then value.map (⟨·, String.ofList suffix⟩) else none

/-- Reads the digits after those that `value` is made of.  Underscores do not
count. -/
def afterDigits (base : Nat) (value : Option Nat) : List Char → Option WholeNumber
  | [] => finish value []
  | char :: rest =>
      if char == '_' then afterDigits base value rest
      else if base == 10 && char == '.' then none
      else if base == 10 && (char == 'e' || char == 'E') then
        if isExponent false rest then none else finish value (char :: rest)
      else
        match hexDigit? char with
        | some digit =>
            if digit < base then afterDigits base (some (value.getD 0 * base + digit)) rest
            else if digit < 10 then none
            else finish value (char :: rest)
        | none => finish value (char :: rest)

def ofText? (text : String) : Option WholeNumber :=
  match text.toList with
  | '0' :: 'x' :: digits => afterDigits 16 none digits
  | '0' :: 'o' :: digits => afterDigits 8 none digits
  | '0' :: 'b' :: digits => afterDigits 2 none digits
  | char :: digits => if char.isDigit then afterDigits 10 none (char :: digits) else none
  | [] => none

end WholeNumber

/-- Whether a literal is a number. -/
def isNumber (text : String) : Bool :=
  (text.toList.head?.map Char.isDigit).getD false

/-- Whether a literal is a number with a point or an exponent. -/
def isFractional (text : String) : Bool :=
  isNumber text && (WholeNumber.ofText? text).isNone

/-- Whether a literal is a string of characters. -/
def isStringLiteral (text : String) : Bool :=
  text.toList.head? = some '"' || text.toList.head? = some 'r'

end InterfaceWitness.Token
