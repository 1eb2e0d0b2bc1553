import InterfaceWitness.Proofs.Surface.Legal

/-!
What reading a trait makes sure of: all types of its constants and functions are
well formed.
-/

namespace InterfaceWitness.Surface

open Reader

def Input.Formed : Input → Prop
  | .typed _ _ type => type.Formed
  | _ => True

structure Signature.Formed (signature : Signature) : Prop where
  inputs : ∀ input ∈ signature.inputs.items, input.Formed
  output : ∀ type ∈ signature.output, type.Formed

/-- The types in an item that a requirement is made of are well formed. -/
def TraitItem.Formed : TraitItem → Prop
  | .constant _ item => item.type.Formed
  | .function _ signature _ => signature.Formed
  | _ => True

variable {inner : Nested} [inner.Advances] {attributes : List Token}

theorem reads_input (forms : inner.Forms) :
    Reads Stream.Worded (input inner attributes) fun found _ => found.Formed := by
  refine .look fun _ => .ite (fun _ => .skip fun dots => .pure fun _ _ => trivial) fun _ => ?_
  refine reads_pass fun found => ?_
  cases found with
  | some receiver => exact .pure fun _ _ => trivial
  | none =>
      refine .look fun _ => .ite
        (fun _ => reads_keep (forms true) fun type formed => .pure fun _ _ => formed) fun _ => ?_
      refine reads_pass fun pattern => reads_pass fun sign => .look fun _ => ?_
      exact .ite (fun _ => .skip fun dots => .pure fun _ _ => trivial)
        fun _ => reads_keep (forms true) fun type formed => .pure fun _ _ => formed

theorem reads_formedInput (forms : inner.Forms) (before : List Input) :
    Reads Stream.Worded (inputAfter inner before) fun found _ => found.1.Formed := by
  refine reads_pass fun attributes => reads_keep (reads_input forms) fun found formed => ?_
  exact .ite (fun _ => .fail) fun _ => .ite (fun _ => .fail) fun _ => .pure fun _ _ => formed

theorem reads_formedInputs (forms : inner.Forms) :
    Reads Stream.Worded (within .parenthesis (Separated.readAll (inputAfter inner)))
      fun inputs _ => ∀ input ∈ inputs.items, input.Formed :=
  reads_within (reads_items (reads_formedInput forms))

theorem reads_formedSignature (forms : inner.Forms) :
    Reads Stream.Worded (signature inner) fun found _ => found.Formed := by
  refine .through (fun marked _ => marked.2.Formed) ?_ fun _ => .pure fun _ formed => formed
  refine reads_pass fun constness => reads_pass fun asyncness => reads_pass fun unsafety => ?_
  refine .ite (fun allowed => absurd allowed (by simp)) fun _ => ?_
  refine reads_pass fun safety => reads_pass fun convention => reads_pass fun keyword =>
    reads_pass fun name => reads_pass fun generics => ?_
  refine reads_keep (reads_formedInputs forms) fun inputs areFormed => .look fun hasOutput => ?_
  refine .ite (fun _ => reads_pass fun arrow => reads_keep (forms true) fun type isFormed => ?_)
    fun _ => ?_
  all_goals
    simp only [pure_bind]
    refine .skip fun constraints => .pure fun _ _ => ⟨areFormed, ?_⟩
  · simpa using isFormed
  · simp

theorem reads_formedFunction (forms : inner.Forms) :
    Reads Stream.Worded (functionItem inner attributes) fun found _ => found.Formed := by
  refine reads_keep (reads_formedSignature forms) fun signature formed => .look fun hasBody => ?_
  refine .ite (fun _ => .skip fun body => .pure fun _ _ => formed) fun _ => .look fun ends => ?_
  exact .ite (fun _ => .skip fun body => .pure fun _ _ => formed) fun _ => .want

theorem reads_formedConstant (forms : inner.Forms) :
    Reads Stream.Worded (constantItem inner attributes) fun found _ => found.2.Formed := by
  refine reads_pass fun keyword => .look fun isNamed => .ite (fun _ => .want) fun _ => ?_
  refine reads_pass fun name => .look fun isGeneric => reads_pass fun generics =>
    reads_pass fun sign => reads_keep (forms true) fun type formed => ?_
  exact .skip fun value => .skip fun constraints => .skip fun ends => .pure fun _ _ => formed

omit [inner.Advances] in
theorem reads_formedType :
    Reads Stream.Worded (typeItem inner attributes) fun found _ => found.Formed := by
  refine .skip fun keyword => .skip fun name => .skip fun generics => .skip fun bounds => ?_
  exact .skip fun default => .skip fun constraints => .skip fun ends => .pure fun _ _ => trivial

theorem reads_formedMarked (forms : inner.Forms) :
    Reads Stream.Worded (markedItem inner) fun found _ => found.2.Formed := by
  refine reads_pass fun attributes => reads_pass fun visibility => reads_pass fun default =>
    reads_pass fun isFunction => .ite (fun _ => ?_) fun _ => ?_
  · exact .bind (reads_formedFunction forms) fun found => .pure fun _ formed => formed
  refine .look fun isConstant => .ite (fun _ => ?_) fun _ => .look fun isType => ?_
  · exact .bind (reads_formedConstant forms) fun found => .pure fun _ formed => formed
  refine .ite (fun _ => .bind reads_formedType fun found => .pure fun _ formed => formed)
    fun _ => .look fun isMacro => .ite (fun _ => ?_) fun _ => .want
  exact .skip fun call => .pure fun _ _ => trivial

theorem reads_formedItem (forms : inner.Forms) :
    Reads Stream.Worded (traitItem inner) fun found _ => found.Formed := by
  refine reads_pass fun start => reads_keep (reads_formedMarked forms) fun marked formed => ?_
  exact .ite (fun _ => .skip fun written => .pure fun _ _ => trivial) fun _ =>
    .pure fun _ _ => formed

theorem reads_formedItems (forms : inner.Forms) :
    Reads Stream.Worded (traitItems inner) fun items _ => ∀ item ∈ items, item.Formed := by
  refine reads_extended (by simp) fun items areFormed => .look fun ends => ?_
  refine .ite (fun _ => .pure fun _ _ => areFormed) fun _ => ?_
  refine reads_keep (reads_formedItem forms) fun item isFormed => .pure fun _ _ => ?_
  exact List.forall_mem_append.mpr ⟨areFormed, List.forall_mem_singleton.mpr isFormed⟩

theorem reads_formedDeclaration (forms : inner.Forms) :
    Reads Stream.Worded (traitDeclaration inner)
      fun declaration _ => ∀ item ∈ declaration.items, item.Formed := by
  refine reads_pass fun attributes => reads_pass fun visibility => reads_pass fun unsafety =>
    reads_pass fun automatic => reads_pass fun keyword => reads_pass fun name =>
    reads_pass fun generics => ?_
  refine reads_pass fun supertraits => reads_pass fun constraints => ?_
  refine .through (fun content _ => ∀ item ∈ content.2, item.Formed)
    (reads_within (reads_pass fun attributes => ?_)) fun content => .pure fun _ formed => formed
  exact .bind (reads_formedItems forms) fun items => .pure fun _ formed => formed

omit [inner.Advances]

/-- A declaration that was read from words. -/
theorem TraitDeclaration.formed_of_ofTokens {tokens : List Token} {declaration : TraitDeclaration}
    (words : ∀ name, .identifier name ∈ tokens → isWord name = true)
    (read : TraitDeclaration.ofTokens tokens = .ok declaration) :
    ∀ item ∈ declaration.items, item.Formed :=
  reads_formedDeclaration (forms_ofDepth _) ⟨tokens, none⟩ declaration _ words (run_eq_ok.mp read)

end InterfaceWitness.Surface
