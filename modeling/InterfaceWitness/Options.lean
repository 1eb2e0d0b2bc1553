import InterfaceWitness.Text.Blank

/-!
The options of a generation and the words that turn them on.
-/

namespace InterfaceWitness

inductive GenerationOption where
  | utilities
  | conformance
  deriving DecidableEq, Repr

def GenerationOption.display : GenerationOption → String
  | .utilities => "utilities"
  | .conformance => "conformanceInit"

def GenerationOption.ofWord? : String → Option GenerationOption
  | "utilities" => some .utilities
  | "conformanceInit" => some .conformance
  | "conformance_init" => some .conformance
  | _ => none

@[simp]
theorem GenerationOption.ofWord?_display (option : GenerationOption) :
    GenerationOption.ofWord? option.display = some option := by
  cases option <;> rfl

structure GenerationOptions where
  utilities : Bool := false
  conformance : Bool := false
  deriving DecidableEq, Repr

namespace GenerationOptions

def enable (options : GenerationOptions) : GenerationOption → GenerationOptions
  | .utilities => { options with utilities := true }
  | .conformance => { options with conformance := true }

def contains (options : GenerationOptions) : GenerationOption → Bool
  | .utilities => options.utilities
  | .conformance => options.conformance

theorem contains_enable (options : GenerationOptions) (option asked : GenerationOption) :
    (options.enable option).contains asked = (option == asked || options.contains asked) := by
  cases option <;> cases asked <;> rfl

/-- A word without the white space around it and the points in front. -/
def trimWord (word : String) : String :=
  String.ofList ((Text.trim word.toList).dropWhile (· == '.'))

/-- The options that the words turn on; other words are skipped. -/
def ofWords (words : List String) : GenerationOptions :=
  words.foldl (fun options word =>
    match GenerationOption.ofWord? (trimWord word) with
    | some option => options.enable option
    | none => options) {}

end GenerationOptions

end InterfaceWitness
