import InterfaceWitness.Proofs.Surface.Running
import InterfaceWitness.Surface.Depth

/-!
What reading a trait makes sure of: only the first input of a function can be
its receiver.
-/

namespace InterfaceWitness.Surface

open Reader

/-- No input but the first is a receiver. -/
def Signature.ReceiverFirst (signature : Signature) : Prop :=
  ∀ input ∈ signature.inputs.items.tail, input.isReceiver = false

def TraitItem.ReceiverFirst : TraitItem → Prop
  | .function _ signature _ => signature.ReceiverFirst
  | _ => True

variable {inner : Nested} {before : Stream → Prop}

theorem reads_inputAfter {earlier : List Input} (later : earlier ≠ []) :
    Reads before (inputAfter inner earlier) fun found _ => found.1.isReceiver = false := by
  refine .skip fun attributes => .skip fun found => ?_
  refine .ite (fun _ => .fail) fun _ => .ite (fun _ => .fail) fun notLate => .pure fun _ _ => ?_
  simpa [later] using notLate

theorem reads_inputs :
    Reads before (Separated.readAll (inputAfter inner))
      fun inputs _ => ∀ input ∈ inputs.items.tail, input.isReceiver = false := by
  intro stream inputs rest _ read
  refine Separated.reads_extend_step
    (fun (inputs : List Input) _ => ∀ input ∈ inputs.tail, input.isReceiver = false)
    (fun earlier => ?_) (fun _ _ _ _ holds _ => holds) stream inputs rest (by simp) read
  intro stream found rest holds read input member
  cases earlier with
  | nil => simp at member
  | cons first more =>
      rcases List.mem_append.mp member with isEarlier | isAdded
      · exact holds input isEarlier
      · obtain rfl := List.mem_singleton.mp isAdded
        have reads : Reads (fun _ => True) (inputAfter inner (first :: more)) _ :=
          reads_inputAfter (List.cons_ne_nil first more)
        exact reads stream found rest trivial read

theorem reads_markedSignature :
    Reads before (markedSignature inner false) fun marked _ => marked.2.ReceiverFirst := by
  refine .skip fun constness => .skip fun asyncness => .skip fun unsafety => ?_
  refine .ite (fun allowed => absurd allowed (by simp)) fun _ => ?_
  refine .skip fun safety => .skip fun convention => .skip fun _ => .skip fun name =>
    .skip fun generics => ?_
  refine .bind (.within (fun _ => True) (fun _ _ => trivial) reads_inputs
    fun _ _ _ _ first _ => first) fun inputs => .given fun first => .skip fun hasOutput => ?_
  refine .ite (fun _ => ?_) fun _ => ?_
  · exact .skip fun _ => .skip fun type => .skip fun output => .skip fun constraints =>
      .pure fun _ _ => first
  · exact .skip fun output => .skip fun constraints => .pure fun _ _ => first

theorem reads_signature :
    Reads before (signature inner) fun found _ => found.ReceiverFirst :=
  .bind reads_markedSignature fun _ => .pure fun _ first => first

theorem reads_functionItem {attributes : List Token} :
    Reads before (functionItem inner attributes) fun found _ => found.ReceiverFirst := by
  refine .bind reads_signature fun signature => .given fun first => .skip fun hasBody => ?_
  refine .ite (fun _ => .skip fun body => .pure fun _ _ => first) fun _ => .skip fun ends => ?_
  exact .ite (fun _ => .skip fun body => .pure fun _ _ => first) fun _ => .want

theorem reads_constantItem {attributes : List Token} :
    Reads before (constantItem inner attributes) fun found _ => found.2.ReceiverFirst := by
  refine .skip fun keyword => .skip fun isNamed => .ite (fun _ => .want) fun _ => ?_
  exact .skip fun name => .skip fun isGeneric => .skip fun generics => .skip fun sign =>
    .skip fun type => .skip fun value => .skip fun constraints => .skip fun ends =>
      .pure fun _ _ => trivial

theorem reads_typeItem {attributes : List Token} :
    Reads before (typeItem inner attributes) fun found _ => found.ReceiverFirst := by
  refine .skip fun keyword => .skip fun name => .skip fun generics => .skip fun bounds => ?_
  exact .skip fun default => .skip fun constraints => .skip fun ends => .pure fun _ _ => trivial

theorem reads_markedItem :
    Reads before (markedItem inner) fun found _ => found.2.ReceiverFirst := by
  refine .skip fun attributes => .skip fun visibility => .skip fun default =>
    .skip fun isFunction => .ite (fun _ => ?_) fun _ => ?_
  · exact .bind reads_functionItem fun found => .pure fun _ first => first
  refine .skip fun isConstant => .ite (fun _ => ?_) fun _ => .skip fun isType => ?_
  · exact .bind reads_constantItem fun found => .pure fun _ first => first
  refine .ite (fun _ => .bind reads_typeItem fun found => .pure fun _ first => first) fun _ => ?_
  refine .skip fun isMacro => .ite (fun _ => ?_) fun _ => .want
  exact .skip fun call => .pure fun _ _ => trivial

theorem reads_traitItem : Reads before (traitItem inner) fun found _ => found.ReceiverFirst := by
  refine .skip fun start => .bind reads_markedItem fun found => .given fun first => ?_
  exact .ite (fun _ => .skip fun written => .pure fun _ _ => trivial) fun _ =>
    .pure fun _ _ => first

theorem reads_traitItems :
    Reads before (traitItems inner) fun items _ => ∀ item ∈ items, item.ReceiverFirst := by
  intro stream items rest _ read
  refine Reads.extend (fun items _ => ∀ item ∈ items, item.ReceiverFirst)
    (fun items => ?_) [] stream items rest (by simp) read
  refine .given fun first => .skip fun ends => .ite (fun _ => .pure fun _ _ => first) fun _ => ?_
  refine .bind reads_traitItem fun item => .pure fun _ added => ?_
  simpa [or_imp, forall_and] using ⟨first, added⟩

theorem reads_traitDeclaration :
    Reads before (traitDeclaration inner)
      fun declaration _ => ∀ item ∈ declaration.items, item.ReceiverFirst := by
  refine .skip fun attributes => .skip fun visibility => .skip fun unsafety =>
    .skip fun automatic => .skip fun keyword => .skip fun name => .skip fun generics => ?_
  refine .skip fun supertraits => .skip fun constraints => ?_
  refine .through (fun content _ => ∀ item ∈ content.2, item.ReceiverFirst) ?_ fun content =>
    .pure fun _ first => first
  refine .within (fun _ => True) (fun _ _ => trivial) (.skip fun attributes => ?_)
    fun content _ _ _ first _ => first
  exact .bind reads_traitItems fun items => .pure fun _ first => first

theorem TraitDeclaration.receiverFirst {tokens : List Token} {declaration : TraitDeclaration}
    (read : TraitDeclaration.ofTokens tokens = .ok declaration) :
    ∀ item ∈ declaration.items, item.ReceiverFirst := by
  have reads : Reads (fun _ => True) (traitDeclaration (.forStream tokens)) _ :=
    reads_traitDeclaration
  exact reads _ _ _ trivial (run_eq_ok.mp read)

end InterfaceWitness.Surface
