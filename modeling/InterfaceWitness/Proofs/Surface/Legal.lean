import InterfaceWitness.Proofs.Failing
import InterfaceWitness.Proofs.Surface.Grammar
import InterfaceWitness.Proofs.Surface.Path

/-!
What reading a type makes sure of: all names in it, however deep, are such as may
stand there.
-/

namespace InterfaceWitness

open Surface

namespace Surface

open Reader

mutual

/-- Types whose names may all stand where they do.  None of the forms that cannot
be lowered is among them. -/
inductive SourceType.Legal : SourceType → Prop
  | parenthesized {inner : SourceType} : inner.Legal → SourceType.Legal (.parenthesized inner)
  | grouped {inner : SourceType} : inner.Legal → SourceType.Legal (.grouped inner)
  | tuple {elements : List SourceType} {trailing : Bool} :
      (∀ element ∈ elements, element.Legal) → SourceType.Legal (.tuple elements trailing)
  | path {rooted : Bool} {segments : List Segment} :
      segments ≠ [] → (rooted = false → (segments.map Segment.name).head? ≠ some "try") →
      (∀ segment ∈ segments, segment.Legal) → SourceType.Legal (.path rooted segments)

inductive Segment.Legal : Segment → Prop
  | plain {name : String} :
      isWord name = true → IsSegmentName name → Segment.Legal (.plain name)
  | applied {name : String} {separated : Bool} {arguments : List Argument} {trailing : Bool} :
      isWord name = true → IsTypeName name → (∀ argument ∈ arguments, argument.Legal) →
      Segment.Legal (.applied name separated arguments trailing)

inductive Argument.Legal : Argument → Prop
  | type {type : SourceType} : type.Legal → Argument.Legal (.type type)

end

mutual

/-- Types of any form whose names may all stand where they do.  Nothing is said
of what is kept as tokens. -/
inductive SourceType.Formed : SourceType → Prop
  | parenthesized {inner : SourceType} : inner.Formed → SourceType.Formed (.parenthesized inner)
  | grouped {inner : SourceType} : inner.Formed → SourceType.Formed (.grouped inner)
  | tuple {elements : List SourceType} {trailing : Bool} :
      (∀ element ∈ elements, element.Formed) → SourceType.Formed (.tuple elements trailing)
  | path {rooted : Bool} {segments : List Segment} :
      segments ≠ [] → (rooted = false → (segments.map Segment.name).head? ≠ some "try") →
      (∀ segment ∈ segments, segment.Formed) → SourceType.Formed (.path rooted segments)
  | reference {lifetime : Option String} {isMutable : Bool} {referent : SourceType} :
      referent.Formed → SourceType.Formed (.reference lifetime isMutable referent)
  | slice {element : SourceType} : element.Formed → SourceType.Formed (.slice element)
  | bareBound {bound : List Token} {isParenthesized : Bool} :
      SourceType.Formed (.bareBound bound isParenthesized)
  | other {tokens : List Token} : SourceType.Formed (.other tokens)

inductive Segment.Formed : Segment → Prop
  | plain {name : String} :
      isWord name = true → IsSegmentName name → Segment.Formed (.plain name)
  | applied {name : String} {separated : Bool} {arguments : List Argument} {trailing : Bool} :
      isWord name = true → IsTypeName name → (∀ argument ∈ arguments, argument.Formed) →
      Segment.Formed (.applied name separated arguments trailing)

inductive Argument.Formed : Argument → Prop
  | lifetime {name : String} : Argument.Formed (.lifetime name)
  | type {type : SourceType} : type.Formed → Argument.Formed (.type type)
  | other {tokens : List Token} : Argument.Formed (.other tokens)

end

end Surface

namespace TypeExpr

mutual

/-- What can be lowered has none of the forms that cannot. -/
theorem legal_of_ofSource : (source : SourceType) → {type : TypeExpr} → source.Formed →
    ofSource source = .ok type → source.Legal
  | .parenthesized inner, _, .parenthesized formed, made =>
      .parenthesized (legal_of_ofSource inner formed made)
  | .grouped inner, _, .grouped formed, made => .grouped (legal_of_ofSource inner formed made)
  | .tuple elements _, _, .tuple formed, made => by
      simp only [ofSource, bind_eq_ok_iff, pure_eq_ok_iff] at made
      obtain ⟨types, areTypes, -⟩ := made
      exact .tuple (legal_of_ofSources elements formed areTypes)
  | .path rooted segments, _, .path nonempty start formed, made =>
      .path nonempty start (legal_of_ofSegments segments rooted [] formed made)

theorem legal_of_ofSources : (sources : List SourceType) → {types : List TypeExpr} →
    (∀ source ∈ sources, source.Formed) → ofSources sources = .ok types →
    ∀ source ∈ sources, source.Legal
  | [], _, _, _ => by simp
  | source :: rest, _, formed, made => by
      simp only [ofSources, bind_eq_ok_iff, pure_eq_ok_iff] at made
      obtain ⟨type, isType, types, areTypes, -⟩ := made
      have ⟨first, others⟩ := List.forall_mem_cons.mp formed
      exact List.forall_mem_cons.mpr
        ⟨legal_of_ofSource source first isType, legal_of_ofSources rest others areTypes⟩

theorem legal_of_ofSegments : (segments : List Segment) → (rooted : Bool) →
    (names : List String) → {type : TypeExpr} → (∀ segment ∈ segments, segment.Formed) →
    ofSegments rooted names segments = .ok type → ∀ segment ∈ segments, segment.Legal
  | [], _, _, _, _, _ => by simp
  | .plain name :: rest, _, _, _, formed, made => by
      have ⟨.plain isWord named, others⟩ := List.forall_mem_cons.mp formed
      exact List.forall_mem_cons.mpr
        ⟨.plain isWord named, legal_of_ofSegments rest _ _ others made⟩
  | [.applied name _ arguments _], _, _, _, formed, made => by
      simp only [ofSegments, bind_eq_ok_iff, pure_eq_ok_iff] at made
      obtain ⟨types, areTypes, -⟩ := made
      have ⟨.applied isWord named formed, _⟩ := List.forall_mem_cons.mp formed
      exact List.forall_mem_singleton.mpr
        (.applied isWord named (legal_of_ofArguments arguments formed areTypes))
  | .applied .. :: _ :: _, _, _, _, _, made => nomatch made

theorem legal_of_ofArguments : (arguments : List Argument) → {types : List TypeExpr} →
    (∀ argument ∈ arguments, argument.Formed) → ofArguments arguments = .ok types →
    ∀ argument ∈ arguments, argument.Legal
  | [], _, _, _ => by simp
  | .type source :: rest, _, formed, made => by
      simp only [ofArguments, bind_eq_ok_iff, pure_eq_ok_iff] at made
      obtain ⟨type, isType, types, areTypes, -⟩ := made
      have ⟨.type first, others⟩ := List.forall_mem_cons.mp formed
      exact List.forall_mem_cons.mpr
        ⟨.type (legal_of_ofSource source first isType), legal_of_ofArguments rest others areTypes⟩
  | .lifetime _ :: _, _, _, made => nomatch made
  | .other _ :: _, _, _, made => nomatch made

end

end TypeExpr

namespace Surface

open Reader

/-! ## Streams of words -/

/-- A stream whose identifiers are words. -/
def Stream.Worded (stream : Stream) : Prop :=
  ∀ name, .identifier name ∈ stream.tokens → isWord name = true

theorem Stream.lasting_worded : Lasting Stream.Worded :=
  fun _ _ taken worded name member => worded name (taken member)

section Steps

variable {α β : Type} {reader : Reader α} {next : α → Reader β} {holds : α → Prop}
  {last : β → Stream → Prop}

/-- What follows a reader finds words again. -/
theorem reads_keep [Advances reader] (first : Reads Stream.Worded reader fun value _ => holds value)
    (others : ∀ value, holds value → Reads Stream.Worded (next value) last) :
    Reads Stream.Worded (reader >>= next) last := by
  intro stream value rest worded read
  obtain ⟨found, between, isFirst, isNext⟩ := bind_eq_ok.mp read
  have left := Reads.advance reader Stream.lasting_worded stream found between worded isFirst
  exact others found (first _ _ _ worded isFirst) between value rest left isNext

theorem reads_pass [Advances reader] (others : ∀ value, Reads Stream.Worded (next value) last) :
    Reads Stream.Worded (reader >>= next) last :=
  .bind (.advance reader Stream.lasting_worded) others

/-- What a step makes sure of, given that it held before, holds in the end. -/
theorem reads_extended {step : α → Reader (Option α)} [∀ value, Advances (step value)] {start : α}
    (begins : holds start)
    (steps : ∀ value, holds value →
      Reads Stream.Worded (step value) fun next _ => holds (next.getD value)) :
    Reads Stream.Worded (extend step start) fun value _ => holds value := by
  intro stream value rest worded read
  refine (Reads.extend (fun value stream => holds value ∧ stream.Worded) (fun value => ?_) start
    stream value rest ⟨begins, worded⟩ read).1
  intro stream next rest ⟨isHeld, worded⟩ read
  exact ⟨steps value isHeld stream next rest worded read,
    Reads.advance (step value) Stream.lasting_worded _ _ _ worded read⟩

/-- What every item has is kept for all items of a list. -/
theorem reads_items {separator : List Char} {stop finished : List Token → Bool}
    {item : List α → Reader (α × Bool)} [∀ before, Advances (item before)]
    (reads : ∀ before, Reads Stream.Worded (item before) fun value _ => holds value.1) :
    Reads Stream.Worded (extend (Separated.step separator stop finished item) .empty)
      fun found _ => ∀ value ∈ found.items, holds value := by
  refine reads_extended (by simp [Separated.empty]) fun found areHeld => .look fun stops => ?_
  refine .ite (fun _ => .pure fun _ _ => areHeld) fun _ =>
    reads_keep (reads _) fun value isHeld => ?_
  have added : ∀ other ∈ found.items ++ [value.1], holds other :=
    List.forall_mem_append.mpr ⟨areHeld, List.forall_mem_singleton.mpr isHeld⟩
  exact .look fun ends => .ite (fun _ => .pure fun _ _ => added)
    fun _ => .skip fun separator => .pure fun _ _ => added

theorem reads_within {delimiter : Delimiter}
    (content : Reads Stream.Worded reader fun value _ => holds value) :
    Reads Stream.Worded (within delimiter reader) fun value _ => holds value :=
  .within Stream.Worded
    (fun stream worded => Stream.lasting_worded stream _ (List.drop_subset ..) worded) content
    fun _ => .close fun _ _ _ isHeld => isHeld

theorem reads_separated [Advances reader] {separator : List Char} {stop : List Token → Bool}
    (reads : Reads Stream.Worded reader fun value _ => holds value) :
    Reads Stream.Worded (Separated.read separator stop reader)
      fun found _ => ∀ value ∈ found.items, holds value :=
  reads_items fun _ => reads_keep reads fun _ isHeld => .pure fun _ _ => isHeld

end Steps

/-! ## Paths -/

variable {inner : Nested} [inner.Advances] {inExpression sums : Bool}

/-- The types of the next level are well formed. -/
def Nested.Forms (inner : Nested) : Prop :=
  ∀ sums, Reads Stream.Worded (inner.type sums) fun source _ => source.Formed

theorem reads_argument (forms : inner.Forms) :
    Reads Stream.Worded (argument inner) fun found _ => found.Formed := by
  refine .look fun _ => .ite (fun _ => .skip fun _ => .pure fun _ _ => .lifetime) fun _ => ?_
  refine .look fun _ => .ite (fun _ => .skip fun _ => .pure fun _ _ => .other) fun _ => ?_
  refine reads_keep (forms true) fun type formed => ?_
  split
  case h_2 => exact .pure fun _ _ => .type formed
  case h_1 segment =>
    -- The name of an associated item makes something else than a type of it.
    refine .look fun _ => .ite (fun _ => .skip fun sign => .look fun _ => ?_) fun _ =>
      .look fun _ => .ite (fun _ => .skip fun sign => .skip fun bounds => ?_)
        fun _ => .pure fun _ _ => .type formed
    · exact .ite (fun _ => .skip fun value => .pure fun _ _ => .other)
        fun _ => .skip fun value => .pure fun _ _ => .other
    · exact .pure fun _ _ => .other

theorem reads_angleArguments (forms : inner.Forms) :
    Reads Stream.Worded (angleArguments inner)
      fun found _ => ∀ argument ∈ found.items, argument.Formed :=
  reads_pass fun _ => reads_keep (reads_separated (reads_argument forms)) fun _ formed =>
    .skip fun _ => .pure fun _ _ => formed

theorem reads_segment (forms : inner.Forms) :
    Reads Stream.Worded (segment inner inExpression) fun found _ => found.Formed := by
  intro stream found rest worded read
  obtain ⟨⟨later, begun⟩, form⟩ := segment_eq_ok read
  have isWord : isWord found.name = true := worded _ (by simp [begun])
  rcases form with ⟨name, rfl, named, rfl⟩ | ⟨name, separated, arguments, count, rfl, named, read⟩
  · exact .plain isWord named
  · have left : (stream.after count).Worded :=
      Stream.lasting_worded stream _ (List.drop_subset ..) worded
    exact .applied isWord named (reads_angleArguments forms _ arguments rest left read)

theorem reads_path (forms : inner.Forms) :
    Reads Stream.Worded (path inner inExpression)
      fun found _ => found.segments ≠ [] ∧ ∀ segment ∈ found.segments, segment.Formed := by
  refine reads_pass fun root => reads_keep (reads_segment forms) fun first isFormed => ?_
  refine .through (fun segments _ => segments ≠ [] ∧ ∀ segment ∈ segments, segment.Formed)
    (reads_extended ⟨by simp, by simpa using isFormed⟩ fun before ⟨nonempty, formed⟩ => ?_)
    fun segments => .pure fun _ formed => formed
  refine .look fun goesOn => .ite (fun _ => ?_) fun _ => .pure fun _ _ => ⟨nonempty, formed⟩
  refine reads_pass fun separator => reads_keep (reads_segment forms) fun segment isFormed => ?_
  exact .pure fun _ _ =>
    ⟨by simp, List.forall_mem_append.mpr ⟨formed, List.forall_mem_singleton.mpr isFormed⟩⟩

/-! ## Types -/

theorem ne_try_of_startsPathType {name : String} {later : List Token}
    (starts : startsPathType (.identifier name :: later) = true) : name ≠ "try" := by
  rintro rfl
  exact absurd (startsPathType_identifier.mp starts) (by decide)

/-- A path that was read where a type had to be. -/
theorem reads_startingPath (forms : inner.Forms) :
    Reads (fun stream => stream.Worded ∧ startsPathType stream.tokens = true)
      (path inner inExpression)
      fun found _ => (SourceType.path found.rooted found.segments).Formed := by
  intro stream found rest ⟨worded, starts⟩ read
  obtain ⟨nonempty, formed⟩ := reads_path forms stream found rest worded read
  refine .path nonempty (fun unrooted => ?_) formed
  obtain ⟨first, more, later, segments, begun⟩ := path_eq_ok read unrooted
  rw [begun] at starts
  simpa [segments] using ne_try_of_startsPathType starts

theorem reads_pathType (forms : inner.Forms) {binder : Option (List Token)} :
    Reads (fun stream => stream.Worded ∧ startsPathType stream.tokens = true)
      (pathType inner sums binder) fun source _ => source.Formed := by
  refine .bind (reads_startingPath forms) fun found => .given fun formed => .look fun _ => .ite
    (fun _ => .skip fun arguments => .pure fun _ _ => .other) fun _ => .look fun _ => ?_
  refine .ite (fun _ => .skip fun sign => .skip fun more => .pure fun _ _ => .other)
    fun _ => .ite (fun _ => .pure fun _ _ => .bareBound) fun _ => .pure fun _ _ => formed

/-- What stands between parentheses, if it is or holds a type, is well formed. -/
def ParenthesizedType.Formed : ParenthesizedType → Prop
  | .complete type => type.Formed
  | .bound _ => True
  | .single type => type.Formed

theorem reads_parenthesizedContent (forms : inner.Forms) :
    Reads Stream.Worded (parenthesizedContent inner) fun found _ => found.Formed := by
  refine .look fun _ => .ite (fun _ => .pure fun _ _ => .tuple (by simp)) fun _ =>
    .look fun _ => .ite (fun _ => .skip fun bounds => .pure fun _ _ => .parenthesized .other)
    fun _ => .look fun _ => .ite (fun _ => .skip fun bound => .pure fun _ _ => trivial) fun _ => ?_
  refine reads_keep (forms true) fun first isFormed => .look fun _ => .ite (fun _ => ?_)
    fun _ => .pure fun _ _ => isFormed
  refine reads_pass fun separator => reads_keep (reads_separated (forms true)) fun more formed => ?_
  exact .pure fun _ _ => .tuple (List.forall_mem_cons.mpr ⟨isFormed, formed⟩)

theorem reads_parenthesizedType (forms : inner.Forms) :
    Reads Stream.Worded (parenthesizedType inner sums) fun source _ => source.Formed := by
  refine .bind (reads_within (reads_parenthesizedContent forms)) fun found =>
    .given fun formed => ?_
  cases found with
  | complete type => exact .pure fun _ _ => formed
  | bound tokens =>
      exact .look fun _ => .ite (fun _ => .skip fun more => .pure fun _ _ => .other)
        fun _ => .pure fun _ _ => .bareBound
  | single type =>
      cases bound : type.bound? with
      | none =>
          simp only [bound]
          exact .pure fun _ _ => .parenthesized formed
      | some tokens =>
          simp only [bound]
          exact .look fun _ => .ite (fun _ => .skip fun more => .pure fun _ _ => .other)
            fun _ => .pure fun _ _ => .parenthesized formed

theorem reads_other {Value : Type} {before : Stream → Prop} {reader : Reader Value}
    {tokens : Value → List Token} :
    Reads before (do pure (SourceType.other (tokens (← reader)))) fun source _ => source.Formed :=
  .skip fun _ => .pure fun _ _ => .other

theorem reads_arrayOrSlice (forms : inner.Forms) :
    Reads Stream.Worded (arrayOrSlice inner) fun source _ => source.Formed := by
  refine reads_within (reads_keep (forms true) fun element formed => .look fun _ => ?_)
  exact .ite (fun _ => .skip fun sign => reads_other) fun _ => .pure fun _ _ => .slice formed

omit [inner.Advances] in
theorem reads_pointerType {before : Stream → Prop} :
    Reads before (pointerType inner) fun source _ => source.Formed := by
  refine .skip fun star => .look fun _ => .look fun _ => .ite (fun _ => ?_) fun _ =>
    .ite (fun _ => ?_) fun _ => ?_
  all_goals exact .skip fun qualifier => reads_other

theorem reads_referenceType (forms : inner.Forms) :
    Reads Stream.Worded (referenceType inner) fun source _ => source.Formed :=
  reads_pass fun _ => reads_pass fun _ => reads_pass fun _ =>
    reads_keep (forms false) fun _ formed => .pure fun _ _ => .reference formed

theorem reads_sourceType (forms : inner.Forms) :
    Reads Stream.Worded (sourceType inner sums) fun source _ => source.Formed := by
  refine reads_pass fun binder => .look fun follows => .ite (fun _ => .want) fun _ => ?_
  refine .look fun _ => .ite (fun _ => reads_parenthesizedType forms) fun _ => ?_
  refine .look fun _ => .ite (fun _ => reads_other) fun _ => ?_
  refine .look fun _ => .ite (fun _ => reads_other) fun _ => ?_
  refine .looked fun isPath => .ite (fun holds => ?_) fun _ => ?_
  · exact .of_stronger (fun stream => .imp_right (·.trans holds)) (reads_pathType forms)
  refine .of_stronger (fun stream => And.left) ?_
  refine .look fun _ => .ite (fun _ => reads_other) fun _ => ?_
  refine .look fun _ => .ite (fun _ => ?_) fun _ => ?_
  · exact .skip fun start => .skip fun keyword => .skip fun star => .skip fun bounds =>
      .ite (fun _ => .pure fun _ _ => .other) fun _ => reads_other
  refine .look fun _ => .ite (fun _ => reads_arrayOrSlice forms) fun _ => ?_
  refine .look fun _ => .ite (fun _ => reads_pointerType) fun _ => ?_
  refine .look fun _ => .ite (fun _ => reads_referenceType forms) fun _ => ?_
  refine .look fun _ => .ite (fun _ => reads_other) fun _ => ?_
  refine .look fun _ => .ite (fun _ => .skip fun keyword => reads_other) fun _ => ?_
  refine .look fun _ => .ite (fun _ => reads_other) fun _ => ?_
  exact .look fun _ => .ite (fun _ => reads_other) fun _ => .want

/-! ## Every depth -/

omit [inner.Advances]

theorem forms_ofDepth (depth : Nat) : (Nested.ofDepth depth).Forms := by
  induction depth with
  | zero => exact fun sums => .fail
  | succ depth inductionHypothesis =>
      intro sums
      have reads : Reads Stream.Worded (sourceType (.ofDepth depth) sums) _ :=
        reads_sourceType inductionHypothesis
      exact reads

/-- A type that was read from words is legal if it can be lowered. -/
theorem SourceType.legal_of_ofTokens {tokens : List Token} {source : SourceType} {type : TypeExpr}
    (words : ∀ name, .identifier name ∈ tokens → isWord name = true)
    (read : SourceType.ofTokens tokens = .ok source)
    (lowered : TypeExpr.ofSource source = .ok type) : source.Legal :=
  TypeExpr.legal_of_ofSource source
    (reads_sourceType (forms_ofDepth _) ⟨tokens, none⟩ source _ words (run_eq_ok.mp read)) lowered

end Surface

end InterfaceWitness
