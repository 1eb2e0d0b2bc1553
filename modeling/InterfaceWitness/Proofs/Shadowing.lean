import InterfaceWitness.Proofs.Emission
import InterfaceWitness.Proofs.Surface.Path
import InterfaceWitness.Proofs.Token.Word

/-!
Which paths of a requirement a generated type parameter takes over.  The check
compares the parameter with the text in front of the first separator, whereas
the path begins with the first word of the text.
-/

namespace InterfaceWitness

namespace Surface

/-- Whether a path begins with a type parameter and so names something of it. -/
def Path.CapturedBy (path : Path) (parameter : String) : Prop :=
  path.rooted = false ∧ path.segments.head?.map Segment.name = some parameter

instance (path : Path) (parameter : String) : Decidable (path.CapturedBy parameter) :=
  inferInstanceAs (Decidable (_ ∧ _))

/-- Whether a text that begins with a word does not have it in front of its
first separator: either something that reading drops comes before it, or
something other than a separator after it. -/
def Obscures (text word : String) : Prop :=
  (∃ char ∈ text.toList.head?, Token.isBreak char = true) ∨
    ∃ after, text.toList = word.toList ++ after ∧ after ≠ [] ∧ ¬ [':', ':'] <+: after

theorem Path.word_of_capturedBy {text parameter : String} {path : Path}
    (read : Path.ofText text = .ok path) (captured : path.CapturedBy parameter)
    (solid : ∀ char ∈ text.toList.head?, Token.isBreak char = false) :
    ∃ after, Token.word text.toList = some (parameter.toList, after) := by
  obtain ⟨tokens, source, read⟩ := Path.ofText_eq_ok_iff.mp read
  obtain ⟨first, more, later, segments, begun⟩ :=
    path_eq_ok (Reader.run_eq_ok.mp read) captured.1
  have named : first.name = parameter := by simpa [segments] using captured.2
  simp only at begun
  rw [begun, named] at source
  exact Token.word_of_ofSource? source solid

end Surface

namespace TypeExpr

variable {config : Config} {interface : Interface} {type : TypeExpr} {node : NamedNode}

theorem pathHead_append {word : List Char} (noColon : ':' ∉ word) (after : List Char) :
    pathHead (word ++ after) = word ++ pathHead after := by
  induction word with
  | nil => rfl
  | cons char rest inductionHypothesis =>
      simp only [List.mem_cons, not_or] at noColon
      rw [List.cons_append, pathHead, inductionHypothesis noColon.2, List.cons_append]
      rintro _ equal
      exact absurd equal.symm noColon.1

theorem pathHead_eq_nil {after : List Char} (ends : after = [] ∨ [':', ':'] <+: after) :
    pathHead after = [] := by
  rcases ends with rfl | ⟨rest, rfl⟩
  · rfl
  · rfl

/-- A word in front of a separator or of nothing at all is what the check sees. -/
theorem shadowingParameter?_of_word {name parameter : String} {after : List Char}
    (isWord : Token.IsWord parameter.toList) (spelled : name.toList = parameter.toList ++ after)
    (ends : after = [] ∨ [':', ':'] <+: after)
    (taken : parameter = config.subject ∨ parameter = config.target) :
    shadowingParameter? name config = some parameter := by
  have head : String.ofList (pathHead name.toList) = parameter := by
    rw [spelled, pathHead_append isWord.colon_not_mem, pathHead_eq_nil ends,
      List.append_nil, String.ofList_toList]
  have nonempty : parameter ≠ "" := by
    rintro rfl
    exact isWord.ne_nil rfl
  simp only [shadowingParameter?, head, if_pos (And.intro nonempty taken)]

theorem path_of_checkTypeName {name : String} (checked : checkTypeName name = .ok ()) :
    ∃ path, Surface.Path.ofText name = .ok path := by
  unfold checkTypeName at checked
  split at checked
  case isTrue => simp at checked
  case isFalse =>
    split at checked
    case h_1 path read => exact ⟨path, read⟩
    case h_2 => simp at checked

mutual

/-- Every name in a type that has passed the check reads as a path. -/
theorem path_of_check : (type : TypeExpr) → type.check = .ok () → ∀ node ∈ type.nodes,
    ∃ path, Surface.Path.ofText node.name = .ok path
  | .identifier name, checked, node, member => by
      obtain rfl := List.mem_singleton.mp member
      exact path_of_checkTypeName checked
  | .generic base arguments, checked, node, member => by
      simp only [check, bind_eq_ok_iff, refuse_eq_ok_iff] at checked
      obtain ⟨_, named, _, others⟩ := checked
      rcases List.mem_cons.mp member with rfl | inside
      · exact path_of_checkTypeName named
      · exact path_of_checkAll arguments others node inside
  | .function parameters output, checked, node, member => by
      simp only [check, bind_eq_ok_iff] at checked
      obtain ⟨_, inputs, result⟩ := checked
      rcases List.mem_append.mp member with inside | inside
      · exact path_of_checkAll parameters inputs node inside
      · exact path_of_checkOutput output result node inside
  | .tuple elements, checked, node, member => path_of_checkAll elements checked node member
  | .optional inner, checked, node, member => path_of_check inner checked node member

theorem path_of_checkAll : (types : List TypeExpr) → checkAll types = .ok () →
    ∀ node ∈ nodesOfAll types, ∃ path, Surface.Path.ofText node.name = .ok path
  | [], _, node, member => by simp [nodesOfAll] at member
  | type :: rest, checked, node, member => by
      simp only [checkAll, bind_eq_ok_iff] at checked
      obtain ⟨_, first, others⟩ := checked
      rcases List.mem_append.mp member with inside | inside
      · exact path_of_check type first node inside
      · exact path_of_checkAll rest others node inside

theorem path_of_checkOutput : (output : Option TypeExpr) → checkOutput output = .ok () →
    ∀ node ∈ nodesOfOutput output, ∃ path, Surface.Path.ofText node.name = .ok path
  | none, _, node, member => by simp [nodesOfOutput] at member
  | some output, checked, node, member => path_of_check output checked node member

end

theorem checkIn_eq_ok_iff : type.checkIn interface config = .ok () ↔
    type.check = .ok () ∧ type.unknownProjection? interface = none ∧
      type.shadowed? config = none := by
  have refused : ∀ (fault : InterfaceFault) (next : Unit → Except InterfaceFault Unit),
      (throw fault >>= next) ≠ .ok () := by
    simp [throw, throwThe, MonadExceptOf.throw, Bind.bind, Except.bind]
  unfold checkIn
  cases type.check with
  | error fault => simpa using refused (.type fault) _
  | ok passed =>
      cases type.unknownProjection? interface with
      | some name => simpa using refused (.unknownProjection name) _
      | none =>
          cases type.shadowed? config with
          | some shadowed => simp [throw, throwThe, MonadExceptOf.throw]
          | none => simp

theorem checkIn_eq_ok (checked : type.checkIn interface config = .ok ()) :
    type.check = .ok () ∧ type.shadowed? config = none := by
  obtain ⟨passed, -, unshadowed⟩ := checkIn_eq_ok_iff.mp checked
  exact ⟨passed, unshadowed⟩

end TypeExpr

namespace Interface

variable {interface : Interface} {config : Config} {spec : WitnessSpec}

/-- Every name in a requirement of an accepted interface reads as a path, and a
type parameter of the witness captures the path only where the name obscures
what it begins with. -/
theorem obscures_of_captured (emitted : interface.emit config = .ok spec) :
    ∀ requirement ∈ interface.requirements, ∀ type ∈ requirement.types, ∀ node ∈ type.nodes,
      ∃ path, Surface.Path.ofText node.name = .ok path ∧
        ∀ parameter, parameter = config.subject ∨ parameter = config.target →
          path.CapturedBy parameter → Surface.Obscures node.name parameter := by
  intro requirement required type isType node member
  obtain ⟨named, unshadowed⟩ := TypeExpr.checkIn_eq_ok (checkIn_of_emit emitted required isType)
  obtain ⟨path, read⟩ := TypeExpr.path_of_check type named node member
  refine ⟨path, read, fun parameter taken captured => ?_⟩
  rw [Surface.Obscures, or_iff_not_imp_left]
  intro begins
  have solid : ∀ char ∈ node.name.toList.head?, Token.isBreak char = false := fun char isFirst =>
    Bool.eq_false_iff.mpr fun breaks => begins ⟨char, isFirst, breaks⟩
  obtain ⟨after, found⟩ := Surface.Path.word_of_capturedBy read captured solid
  have spelled := (Token.word_append found).symm
  refine ⟨after, spelled, ?_⟩
  -- Otherwise the parameter is the text in front of the first separator.
  by_contra shown
  have ends : after = [] ∨ [':', ':'] <+: after := by
    by_cases empty : after = []
    · exact .inl empty
    · exact .inr (by simpa [empty] using shown)
  have caught :=
    TypeExpr.shadowingParameter?_of_word (Token.isWord_of_word found) spelled ends taken
  have missed := List.findSome?_eq_none_iff.mp unshadowed node member
  simp [caught] at missed

theorem obscures_of_captured_seed :
    let seed := "/* own */ A::Seed"
    let seeded : Interface :=
      { name := "Seeded"
        access := .exported
        requirements := [.method
          { name := "grow"
            parameters := [⟨"seeds", .generic "Vec" [.identifier seed], .owned⟩]
            receiver := .borrowed
            generics := []
            output := some (.identifier "Self") }]
        associatedTypes := []
        options := {} }
    seeded.emit {} = .ok (seeded.witness {}) ∧
      ∃ path, Surface.Path.ofText seed = .ok path ∧ path.CapturedBy "A" ∧
        Surface.Obscures seed "A" := by
  intro seed seeded
  have emitted : seeded.emit {} = .ok (seeded.witness {}) := by decide +kernel
  have captured : (Surface.Path.ofText seed).toOption.any (·.CapturedBy "A") = true := by
    decide +kernel
  obtain ⟨path, read, obscures⟩ := obscures_of_captured emitted _ (List.mem_singleton.mpr rfl) _
    (List.mem_cons_self ..) ⟨seed, false⟩ (by decide)
  have isCaptured : path.CapturedBy "A" := by
    simpa [toOption_eq_some_iff.mpr read] using captured
  exact ⟨emitted, path, read, isCaptured, obscures "A" (.inl rfl) isCaptured⟩

/-- Blanks around the separator hide the subject from the check. -/
theorem captured_spaced_path :
    let config : Config := {}
    let spaced : Interface :=
      ⟨"X", .unmarked, [.property ⟨"p", .identifier "A :: Y", true, false⟩], [], {}⟩
    config.validate = .ok () ∧ spaced.emit config = .ok (spaced.witness config) ∧
      ∃ path, Surface.Path.ofText "A :: Y" = .ok path ∧ path.CapturedBy config.subject := by
  intro config spaced
  have captured : (Surface.Path.ofText "A :: Y").toOption.any (·.CapturedBy config.subject)
      = true := by
    decide +kernel
  obtain ⟨path, read, isCaptured⟩ := (Option.any_eq_true ..).mp captured
  exact ⟨by decide +kernel, by decide +kernel, path, toOption_eq_some_iff.mp read,
    of_decide_eq_true isCaptured⟩

end Interface

end InterfaceWitness
