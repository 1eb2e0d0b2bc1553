import InterfaceWitness.Proofs.Refusal

/-!
Generating a unit of interfaces.  Each fares as it does alone, unless an
earlier one has its name.
-/

namespace InterfaceWitness

/-- No other fault has the text of a repeated declaration. -/
theorem InterfaceFault.message_eq_declaredTwice {fault : InterfaceFault} :
    fault.message = InterfaceFault.declaredTwice.message ↔ fault = .declaredTwice := by
  constructor
  · intro same
    have begins : fault.message.toList.take 11 = "interface i".toList := by
      rw [same]
      unfold message
      simp
    unfold message at begins
    cases fault with
    | declaredTwice => rfl
    | type fault =>
        unfold TypeFault.message at begins
        cases fault <;> simp at begins
    | fieldTwice name nested => cases nested <;> simp at begins
    | _ => simp at begins
  · rintro rfl
    rfl

/-- An error that says of an interface, and of no requirement, that it is
declared again. -/
def GenerateError.TellsRepetition (error : GenerateError) (interface : String) : Prop :=
  ∃ fault : InterfaceFault, error = .malformed interface none fault ∧
    fault.message = "interface is declared more than once in this unit"

theorem GenerateError.tellsRepetition_iff {error : GenerateError} {interface : String} :
    error.TellsRepetition interface ↔ error = .malformed interface none .declaredTwice := by
  constructor
  · rintro ⟨fault, rfl, told⟩
    rw [InterfaceFault.message_eq_declaredTwice.mp told]
  · rintro rfl
    exact ⟨.declaredTwice, rfl, rfl⟩

theorem witnessName_injective : Function.Injective witnessName := by
  intro left right equal
  simpa [witnessName] using equal

namespace Interface

variable {config : Config} {interface : Interface} {interfaces : List Interface} {index : Nat}
  {name : String}

/-- Whether an interface before the one at `index` has a name, whatever became
of that interface. -/
def DeclaredBefore (interfaces : List Interface) (index : Nat) (name : String) : Prop :=
  ∃ place < index, ∃ prior, interfaces[place]? = some prior ∧ prior.name = name

theorem declaredBefore_iff :
    DeclaredBefore interfaces index name ↔ name ∈ (interfaces.take index).map Interface.name := by
  rw [DeclaredBefore, List.mem_map]
  constructor
  · rintro ⟨place, before, prior, found, named⟩
    refine ⟨prior, List.mem_iff_getElem?.mpr ⟨place, ?_⟩, named⟩
    rw [List.getElem?_take_of_lt before, found]
  · rintro ⟨prior, member, named⟩
    obtain ⟨place, found⟩ := List.mem_iff_getElem?.mp member
    rw [List.getElem?_take] at found
    obtain ⟨before, found⟩ := Option.ite_none_right_eq_some.mp found
    exact ⟨place, before, prior, found, named⟩

theorem structName_of_generate {generated : Generated}
    (ok : interface.generate config = .ok generated) :
    generated.spec.structName = witnessName interface.name := by
  obtain ⟨_, definitions, _, rfl⟩ := generate_eq_ok ok
  rfl

/-- The loop over a unit, of which some names have been met already. -/
theorem getElem?_generateAfter (earlier : List String) :
    (generateAfter config earlier interfaces)[index]? = interfaces[index]?.map fun interface =>
      if interface.name ∈ earlier ++ (interfaces.take index).map Interface.name
      then .error (.malformed interface.name none .declaredTwice)
      else interface.generate config := by
  induction interfaces generalizing earlier index with
  | nil => simp [generateAfter]
  | cons first rest inductionHypothesis =>
      cases index with
      | zero => simp [generateAfter]
      | succ index =>
          have met : ∀ name, name ∈ first.name :: earlier ++ (rest.take index).map Interface.name ↔
              name ∈ earlier ++ ((first :: rest).take (index + 1)).map Interface.name := by
            intro name
            simp only [List.cons_append, List.mem_cons, List.mem_append, List.take_succ_cons,
              List.map_cons]
            exact or_left_comm
          simp only [generateAfter, List.getElem?_cons_succ, inductionHypothesis, met]

theorem length_generateAfter (earlier : List String) :
    (generateAfter config earlier interfaces).length = interfaces.length := by
  induction interfaces generalizing earlier with
  | nil => rfl
  | cons first rest inductionHypothesis => simp [generateAfter, inductionHypothesis]

/-- The names of the records that a unit gives. -/
def structNames (outcomes : List (Except GenerateError Generated)) : List String :=
  (outcomes.filterMap Except.toOption).map fun generated => generated.spec.structName

@[simp]
theorem structNames_error (error : GenerateError)
    (outcomes : List (Except GenerateError Generated)) :
    structNames (.error error :: outcomes) = structNames outcomes := rfl

@[simp]
theorem structNames_ok (generated : Generated)
    (outcomes : List (Except GenerateError Generated)) :
    structNames (.ok generated :: outcomes)
      = generated.spec.structName :: structNames outcomes := rfl

/-- The records that the loop gives have names of their own, also apart from
those of the interfaces that have been met. -/
theorem nodup_structNames_generateAfter (earlier : List String) :
    (structNames (generateAfter config earlier interfaces)).Nodup ∧
      ∀ name ∈ earlier,
        witnessName name ∉ structNames (generateAfter config earlier interfaces) := by
  induction interfaces generalizing earlier with
  | nil => simp [generateAfter, structNames]
  | cons first rest inductionHypothesis =>
      obtain ⟨nodup, apart⟩ := inductionHypothesis (first.name :: earlier)
      have apartEarlier : ∀ name ∈ earlier, witnessName name ∉
          structNames (generateAfter config (first.name :: earlier) rest) := by
        intro name member
        exact apart name (List.mem_cons_of_mem _ member)
      rw [generateAfter]
      by_cases met : first.name ∈ earlier
      · rw [if_pos met, structNames_error]
        exact ⟨nodup, apartEarlier⟩
      · rw [if_neg met]
        cases result : first.generate config with
        | error error =>
            rw [structNames_error]
            exact ⟨nodup, apartEarlier⟩
        | ok generated =>
            rw [structNames_ok, structName_of_generate result]
            refine ⟨List.nodup_cons.mpr ⟨apart _ (List.mem_cons_self ..), nodup⟩, ?_⟩
            intro name member repeated
            rcases List.mem_cons.mp repeated with equal | later
            · exact met (witnessName_injective equal ▸ member)
            · exact apartEarlier name member later

/-- How a unit of interfaces fares. -/
structure FareAlone (config : Config) (interfaces : List Interface) : Prop where
  length : (generateUnit config interfaces).length = interfaces.length
  /-- An interface is told to be declared again just where an earlier one has
  its name. -/
  repeated : ∀ (index : Nat) (interface : Interface), interfaces[index]? = some interface →
    ((∃ error, (generateUnit config interfaces)[index]? = some (.error error) ∧
        error.TellsRepetition interface.name) ↔
      DeclaredBefore interfaces index interface.name)
  /-- Everywhere else it fares as it does alone. -/
  alone : ∀ (index : Nat) (interface : Interface), interfaces[index]? = some interface →
    ¬DeclaredBefore interfaces index interface.name →
    (generateUnit config interfaces)[index]? = some (interface.generate config)
  /-- Of the other interfaces, only the names matter. -/
  apart : ∀ (others : List Interface) (index : Nat),
    others.map Interface.name = interfaces.map Interface.name →
    others[index]? = interfaces[index]? →
    (generateUnit config others)[index]? = (generateUnit config interfaces)[index]?
  distinct : (structNames (generateUnit config interfaces)).Nodup

theorem getElem?_generateUnit (found : interfaces[index]? = some interface) :
    (generateUnit config interfaces)[index]? =
      some (if interface.name ∈ (interfaces.take index).map Interface.name
        then .error (.malformed interface.name none .declaredTwice)
        else interface.generate config) := by
  rw [generateUnit, getElem?_generateAfter, found, Option.map_some, List.nil_append]

/-- Generating a unit of interfaces is generating each of them on its own, but
for the ones whose names have been declared before. -/
theorem fareAlone_generateUnit (config : Config) (interfaces : List Interface) :
    FareAlone config interfaces where
  length := length_generateAfter []
  repeated := by
    intro index interface found
    rw [declaredBefore_iff, getElem?_generateUnit found]
    by_cases before : interface.name ∈ (interfaces.take index).map Interface.name
    · simp only [before, if_true, iff_true]
      exact ⟨_, rfl, GenerateError.tellsRepetition_iff.mpr rfl⟩
    · simp only [before, if_false, iff_false, Option.some.injEq]
      rintro ⟨error, failed, told⟩
      exact (blames_of_generate failed).ne_declaredTwice (GenerateError.tellsRepetition_iff.mp told)
  alone := by
    intro index interface found fresh
    rw [getElem?_generateUnit found, if_neg (mt declaredBefore_iff.mpr fresh)]
  apart := by
    intro others index sameNames same
    simp only [generateUnit, getElem?_generateAfter, same, List.nil_append, List.map_take,
      sameNames]
  distinct := (nodup_structNames_generateAfter []).1

end Interface

end InterfaceWitness
