import InterfaceWitness.Text.Letter

/-!
Snake case.  A name is cut at everything that is neither letter nor digit,
after a lowercase letter that an uppercase one follows, and before the last of
several uppercase letters when a lowercase one follows it.
-/

namespace InterfaceWitness.Text

/-- The maximal runs of characters that satisfy `keep`, the empty ones
included. -/
def splitRuns (keep : Char → Bool) : List Char → List (List Char)
  | [] => [[]]
  | char :: rest =>
      if keep char then
        match splitRuns keep rest with
        | [] => [[char]]
        | run :: runs => (char :: run) :: runs
      else
        [] :: splitRuns keep rest

/-- The case of the last cased letter since the last cut. -/
inductive CaseMode where
  | uncased
  | lower
  | upper
  deriving DecidableEq, Repr

def CaseMode.after (mode : CaseMode) (char : Char) : CaseMode :=
  if isLowercase char then .lower
  else if isUppercase char then .upper
  else mode

/-- The words of one run, of which `word` holds the first characters. -/
def cutWords (mode : CaseMode) (word : List Char) : List Char → List (List Char)
  | [] => []
  | [last] => [word ++ [last]]
  | char :: next :: rest =>
      if mode.after char = .lower ∧ isUppercase next then
        (word ++ [char]) :: cutWords .uncased [] (next :: rest)
      else if mode = .upper ∧ isUppercase char ∧ isLowercase next then
        word :: cutWords .uncased [char] (next :: rest)
      else
        cutWords (mode.after char) (word ++ [char]) (next :: rest)

def words (name : List Char) : List (List Char) :=
  (splitRuns isAlphanumeric name).flatMap (cutWords .uncased [])

/-- A capital sigma that ends a word has a lowercase form of its own. -/
def lowercaseWord : List Char → List Char
  | [] => []
  | ['Σ'] => ['ς']
  | char :: rest => lowercase char ++ lowercaseWord rest

def snakeCase (name : String) : String :=
  String.ofList (['_'].intercalate ((words name.toList).map lowercaseWord))

theorem splitRuns_keep {keep : Char → Bool} {text run : List Char}
    (member : run ∈ splitRuns keep text) : ∀ char ∈ run, keep char = true := by
  induction text generalizing run with
  | nil => simp_all [splitRuns]
  | cons char rest inductionHypothesis =>
      unfold splitRuns at member
      split at member
      · rename_i kept
        cases runs : splitRuns keep rest with
        | nil => simp_all
        | cons first others =>
            rw [runs] at member inductionHypothesis
            rcases List.mem_cons.mp member with equality | later
            · subst equality
              simpa [kept] using inductionHypothesis (List.mem_cons_self ..)
            · exact inductionHypothesis (List.mem_cons_of_mem _ later)
      · rcases List.mem_cons.mp member with equality | later
        · simp [equality]
        · exact inductionHypothesis later

end InterfaceWitness.Text
