import InterfaceWitness.Proofs.Shadowing
import InterfaceWitness.Proofs.Surface.Path

/-!
What the projections from `Self` in a requirement name.  The check compares how
the text of an identifier begins, whereas a projection is a path that begins
with `Self` and goes on.
-/

namespace InterfaceWitness

theorem toList_selfType : selfType.toList = ['S', 'e', 'l', 'f'] := by decide

namespace Token

open Text

variable {after : List Char} {tokens : List Token}

/-- A mark of the byte order is no token unless it stands in front of a text. -/
theorem scan_mark : scan ('\ufeff' :: after) = none := by
  have noLiteral : afterLiteral ('\ufeff' :: after) = none := by
    simp [afterLiteral, afterFloat, afterWhole, afterRadix, hexDigit?]
  have noPunctuation : punctuationAt ('\ufeff' :: after) = none := rfl
  have noWord : identifierWord ('\ufeff' :: after) = none := by
    have noStart : isIdentifierStart '\ufeff' = false := by decide +kernel
    have isPlain : word ('\ufeff' :: after) = plainWord ('\ufeff' :: after) := rfl
    rw [identifierWord, isPlain, plainWord, noStart]
    exact ite_self none
  have next : nextTokens ('\ufeff' :: after) = none := by
    have solid : isSeparator '\ufeff' = false := by decide
    simp [nextTokens, solid, afterComment, documentationAt, afterFaultyLiteral, faultyLiteral_eq,
      Delimiter.ofOpener?, Delimiter.ofCloser?, leafAt, noLiteral, noPunctuation, noWord]
  rw [scan, next]
  rfl

/-- The tokens of `Self` and of a separator, which another operator may follow. -/
def selfSeparated (joint : Bool) : List Token :=
  [.identifier selfType, .punctuation ':' true, .punctuation ':' joint]

theorem scan_selfSeparated (after : List Char) :
    scan (selfType.toList ++ ':' :: ':' :: after)
      = (scan after).map (selfSeparated (startsPunctuation after) ++ ·) := by
  have isWord : IsWord selfType.toList := Surface.isWord_eq_true.mp (by decide)
  rw [scan_word isWord endsWord_colon, String.ofList_toList,
    scan_of_nextTokens nextTokens_colon (by simp), startsPunctuation_colon,
    scan_of_nextTokens nextTokens_colon (by simp), Option.map_map, Option.map_map]
  rfl

end Token

namespace Surface

open Reader Token

variable {text name word : String} {after : List Char} {path : Path}

/-- Whether a path begins with `Self` and goes on. -/
def Path.IsProjection (path : Path) : Prop :=
  path.segments.head?.map Segment.name = some selfType ∧ 1 < path.segments.length

instance (path : Path) : Decidable path.IsProjection :=
  inferInstanceAs (Decidable (_ ∧ _))

/-- The path of a name behind `Self`. -/
def Path.projecting (word : String) : Path := ⟨false, [.plain selfType, .plain word]⟩

/-- Whether a path is the projection to an associated type, which is known by
the word in its name. -/
def Path.Projects (path : Path) (associated : AssociatedType) : Prop :=
  ∃ word, ofSource? associated.name = some [.identifier word] ∧ path = .projecting word

theorem ofTokens_selfSeparated (joint : Bool) (named : word ∉ keywords) :
    Path.ofTokens (selfSeparated joint ++ [.identifier word]) = .ok (.projecting word) := by
  have first : segment (.forStream (selfSeparated joint ++ [.identifier word])) false
      ⟨selfSeparated joint ++ [.identifier word], none⟩
        = .ok (.plain selfType, ⟨_, none⟩) := segment_plain (.inr (.inl rfl)) ⟨rfl, rfl⟩
  have second : segment (.forStream (selfSeparated joint ++ [.identifier word])) false
      ⟨[.identifier word], none⟩ = .ok (.plain word, ⟨[], none⟩) :=
    segment_plain (.inr (.inr named)) ⟨rfl, rfl⟩
  refine run_eq_ok.mpr ?_
  simp only [path, bind_eq_ok, pure_eq_ok]
  refine ⟨[], _, rfl, _, _, first, [.plain selfType, .plain word], ⟨[], none⟩, ?_, rfl, rfl⟩
  rw [extend_more [.plain selfType, .plain word] ⟨[], none⟩, extend_done ⟨[], none⟩]
  · rfl
  · simp only [look_bind, ite_eq_ok, bind_eq_ok, pure_eq_ok, operator_eq_ok]
    exact .inl ⟨rfl, _, _, ⟨rfl, rfl, rfl⟩, _, _, second, rfl, rfl⟩
  · simp

/-- A name behind the text of a projection is what is projected. -/
theorem Path.eq_projecting (reads : readsAsName name = true)
    (spelled : text.toList = selfType.toList ++ ':' :: ':' :: name.toList)
    (read : Path.ofText text = .ok path) :
    ∃ word, ofSource? name = some [.identifier word] ∧ path = .projecting word := by
  obtain ⟨word, source, named⟩ := readsAsName_eq_true.mp reads
  refine ⟨word, source, ?_⟩
  obtain ⟨tokens, found, read⟩ := Path.ofText_eq_ok_iff.mp read
  have scanned := scan_of_ofSource? found (by simp [spelled, toList_selfType])
  rw [spelled, scan_selfSeparated] at scanned
  obtain ⟨later, behind, rfl⟩ := Option.map_eq_some_iff.mp scanned
  have unmarked : name.toList.head? ≠ some '\ufeff' := by
    intro marked
    obtain ⟨rest, begun⟩ := List.head?_eq_some_iff.mp marked
    rw [begun, scan_mark] at behind
    cases behind
  obtain rfl : [.identifier word] = later :=
    Option.some.inj ((scan_of_ofSource? source unmarked).symm.trans behind)
  exact Except.ok.inj (read.symm.trans (ofTokens_selfSeparated _ named))

/-- Why a projection goes unchecked: it is the base of a type with arguments, it
stands behind a separator, or its text does not begin like one. -/
inductive Path.Overlooked (path : Path) (node : NamedNode) : Prop where
  | base : node.isBase = true → path.Overlooked node
  | rooted : path.rooted = true → path.Overlooked node
  | obscured : Obscures node.name selfType → path.Overlooked node

theorem not_isProjection_selfType (read : Path.ofText selfType = .ok path) :
    ¬path.IsProjection := by
  have legal : LegalNames false [selfType] := ⟨by decide, by decide, by decide, by decide⟩
  have spelled : pathText false [selfType] = selfType := by decide
  obtain rfl := Except.ok.inj ((spelled ▸ ofText_pathText legal).symm.trans read)
  decide

end Surface

namespace TypeExpr

variable {interface : Interface} {config : Config} {type : TypeExpr} {node : NamedNode}

/-- An identifier that begins like a projection goes on with an associated type. -/
theorem exists_associated_of_unknownProjection? {after : List Char}
    (known : type.unknownProjection? interface = none) (member : node ∈ type.nodes)
    (notBase : node.isBase = false)
    (spelled : node.name.toList = selfType.toList ++ ':' :: ':' :: after) :
    ∃ associated ∈ interface.associatedTypes, associated.name.toList = after := by
  simp only [unknownProjection?, Option.map_eq_none_iff, List.find?_eq_none] at known
  have begins : (selfType ++ "::").toList.isPrefixOf node.name.toList = true := by
    rw [List.isPrefixOf_iff_prefix, spelled, String.toList_append]
    exact ⟨after, by simp⟩
  have dropped : node.name.toList.drop 6 = after := by
    rw [spelled, toList_selfType]
    rfl
  have named := known node member
  simp only [notBase, begins, dropped, Bool.not_false, Bool.true_and, Bool.not_eq_true,
    Option.isNone_eq_false_iff] at named
  obtain ⟨associated, found⟩ := Option.isSome_iff_exists.mp named
  refine ⟨associated, List.mem_of_find?_eq_some found, ?_⟩
  have same : associated.name = String.ofList after := by simpa using List.find?_some found
  rw [same, String.toList_ofList]

end TypeExpr

namespace Interface

variable {interface : Interface} {config : Config} {spec : WitnessSpec}

open Surface

/-- Every name in a requirement of an accepted interface reads as a path, and
where that is a projection from `Self`, it is one to an associated type unless
it is overlooked. -/
theorem projects_of_emit (emitted : interface.emit config = .ok spec) :
    ∀ requirement ∈ interface.requirements, ∀ type ∈ requirement.types, ∀ node ∈ type.nodes,
      ∃ path, Path.ofText node.name = .ok path ∧ (path.IsProjection →
        (∃ associated ∈ interface.associatedTypes, path.Projects associated) ∨
          path.Overlooked node) := by
  intro requirement required type isType node member
  have checked := checkIn_of_emit emitted required isType
  obtain ⟨named, known, -⟩ := TypeExpr.checkIn_eq_ok_iff.mp checked
  obtain ⟨path, read⟩ := TypeExpr.path_of_check type named node member
  refine ⟨path, read, fun projection => ?_⟩
  rw [or_iff_not_imp_right]
  intro seen
  have shown : ¬Obscures node.name selfType := fun hidden => seen (.obscured hidden)
  have unrooted : path.rooted = false := Bool.eq_false_iff.mpr fun rooted => seen (.rooted rooted)
  have notBase : node.isBase = false := Bool.eq_false_iff.mpr fun base => seen (.base base)
  have solid : ∀ char ∈ node.name.toList.head?, Token.isBreak char = false := fun char isFirst =>
    Bool.eq_false_iff.mpr fun breaks => shown (.inl ⟨char, isFirst, breaks⟩)
  obtain ⟨after, found⟩ := Path.word_of_capturedBy read ⟨unrooted, projection.1⟩ solid
  have spelled := (Token.word_append found).symm
  by_cases empty : after = []
  · have isSelf : node.name = selfType := by
      rw [← String.toList_inj, spelled, empty, List.append_nil]
    exact absurd projection (not_isProjection_selfType (isSelf ▸ read))
  · have separated : [':', ':'] <+: after := by
      by_contra apart
      exact shown (.inr ⟨after, spelled, empty, apart⟩)
    obtain ⟨rest, rfl⟩ := separated
    obtain ⟨associated, declared, rfl⟩ :=
      TypeExpr.exists_associated_of_unknownProjection? known member notBase spelled
    have reads := (emit_eq_ok emitted).1.associated associated declared
    exact ⟨associated, declared, Path.eq_projecting reads spelled read⟩

theorem projects_of_emit_stream :
    let stream : Interface :=
      { name := "Stream"
        access := .exported
        requirements := [.method
          { name := "next"
            parameters := [⟨"count", .identifier "usize", .owned⟩]
            receiver := .mutable
            generics := []
            output := some (.generic "Vec" [.optional (.identifier "Self::Item")]) }]
        associatedTypes := [⟨"Item", none⟩]
        options := {} }
    stream.emit {} = .ok (stream.witness {}) ∧
      Path.ofText "Self::Item" = .ok (.projecting "Item") ∧
      ∃ associated ∈ stream.associatedTypes, (Path.projecting "Item").Projects associated := by
  intro stream
  have emitted : stream.emit {} = .ok (stream.witness {}) := by decide +kernel
  have legal : LegalNames false [selfType, "Item"] := ⟨by decide, by decide, by decide, by decide⟩
  have spelled : pathText false [selfType, "Item"] = "Self::Item" := by decide
  have item : Path.ofText "Self::Item" = .ok (.projecting "Item") := spelled ▸ ofText_pathText legal
  obtain ⟨path, read, known⟩ := projects_of_emit emitted _ (List.mem_singleton.mpr rfl) _
    (List.mem_cons_of_mem _ (List.mem_cons_self ..)) ⟨"Self::Item", false⟩ (by decide)
  obtain rfl := Except.ok.inj (item.symm.trans read)
  refine ⟨emitted, item, (known (by decide)).resolve_right ?_⟩
  rintro (base | rooted | (⟨char, isFirst, breaks⟩ | ⟨after, begun, -, apart⟩))
  · cases base
  · cases rooted
  · obtain rfl : 'S' = char := Option.some.inj isFirst
    exact absurd breaks (by decide)
  · have separated : "Self::Item".toList = selfType.toList ++ [':', ':', 'I', 't', 'e', 'm'] := by
      decide
    rw [← List.append_cancel_left (separated.symm.trans begun)] at apart
    exact apart (by decide)

/-- What has arguments may project to anything. -/
theorem unknown_projected_base :
    let config : Config := {}
    let bare : Interface := ⟨"X", .unmarked,
      [.property ⟨"p", .generic "Self::Foo" [.identifier "u8"], true, false⟩], [], {}⟩
    config.validate = .ok () ∧ bare.emit config = .ok (bare.witness config) ∧
      ∃ requirement ∈ bare.requirements, ∃ type ∈ requirement.types, ∃ node ∈ type.nodes,
        ∃ path, Path.ofText node.name = .ok path ∧ path.IsProjection ∧
          ¬∃ associated ∈ bare.associatedTypes, path.Projects associated := by
  intro config bare
  have projection : (Path.ofText "Self::Foo").toOption.any (·.IsProjection) = true := by
    decide +kernel
  obtain ⟨path, read, isProjection⟩ := (Option.any_eq_true ..).mp projection
  refine ⟨by decide +kernel, by decide +kernel, _, List.mem_singleton_self _, _,
    List.mem_singleton_self _, ⟨"Self::Foo", true⟩, by decide, path,
    toOption_eq_some_iff.mp read, of_decide_eq_true isProjection, ?_⟩
  rintro ⟨associated, declared, _⟩
  cases declared

end Interface

end InterfaceWitness
