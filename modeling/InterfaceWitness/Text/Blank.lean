import InterfaceWitness.Text.CodePointSet

/-! White space, after the Unicode property White_Space. -/

namespace InterfaceWitness.Text

def blanks : CodePointSet :=
  [9, 14, 32, 33, 133, 134, 160, 161, 5760, 5761, 8192, 8203, 8232, 8234, 8239,
   8240, 8287, 8288, 12288, 12289]

def isBlank (char : Char) : Bool :=
  blanks.contains char.toNat

/-- Removes white space from both ends. -/
def trim (text : List Char) : List Char :=
  ((text.dropWhile isBlank).reverse.dropWhile isBlank).reverse

end InterfaceWitness.Text
