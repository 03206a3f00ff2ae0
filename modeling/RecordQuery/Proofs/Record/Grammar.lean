import RecordQuery.Proofs.Choice
import RecordQuery.Proofs.Record.Tag
import RecordQuery.Proofs.Text.Cutting

/-
  The grammar of tags, and the directives that are read from
  them.

  Key definitions include:
    * `RecordQuery.Directives.written`
    * `RecordQuery.Directives.valueOf?`
    * `RecordQuery.Directives.Decides`

  Key theorems include:
    * `RecordQuery.Directives.segment_eq_ok_iff`
    * `RecordQuery.Directives.getElem?_read`
    * `RecordQuery.Directives.decides_iff`
    * `RecordQuery.Directives.parse_accepts_grammar`

  A tag is a list of directives `key=value` with commas
  between them.  The last directive with a key decides its
  value, also across tags that are joined by a comma.
-/

------------------------------------------------------------
-- Segments
------------------------------------------------------------

namespace RecordQuery

namespace Directives

/- A directive as it stands in a tag. -/
def written
    (key value : String) :
    String :=
  key ++ "=" ++ value

/- One equals sign is written between key and value. -/
theorem count_written
    (key value : String) :
    (written key value).toList.count '=' =
      key.toList.count '=' + 1 + value.toList.count '=' := by
  unfold written
  rw [String.toList_append, String.toList_append,
    List.count_append, List.count_append]
  rfl

/- A directive has no equals sign in its key or value. -/
theorem isDirective_written_iff
    (key value : String) :
    isDirective (written key value) = true ↔
      '=' ∉ key.toList ∧ '=' ∉ value.toList := by
  unfold isDirective
  rw [beq_iff_eq, count_written, ← List.count_eq_zero,
    ← List.count_eq_zero]
  omega

/- The segments that are read are the written directives. -/
theorem segment_eq_ok_iff
    {text key value : String} :
    segment text = .ok (key, value) ↔
      text = written key value ∧
        '=' ∉ key.toList ∧ '=' ∉ value.toList := by
  have hPieces :
      segment text = .ok (key, value) ↔
        Text.pieces '=' text = [key, value] := by
    unfold segment
    split
    · rename_i own given hCut
      rw [hCut]
      simp
    · rename_i hOther
      constructor
      · intro hRead
        cases hRead
      · intro hCut
        exact absurd hCut (hOther key value)
  rw [hPieces, Text.pieces_eq_iff, List.forall_mem_cons,
    List.forall_mem_singleton]
  have hJoined :
      (String.singleton '=').intercalate [key, value] =
        written key value := by
    rw [String.intercalate_cons_cons,
      String.intercalate_singleton]
    rfl
  rw [hJoined]
  constructor
  · rintro ⟨_, hFree, hText⟩
    exact ⟨hText.symm, hFree⟩
  · rintro ⟨hText, hFree⟩
    exact ⟨List.cons_ne_nil _ _, hFree, hText.symm⟩

/- The value that a segment gives to a key, if it does. -/
def valueOf?
    (key text : String) :
    Option String :=
  match segment text with
  | .ok (own, value) => if own = key then some value else none
  | .error _ => none

/- A directive with the key gives it its value. -/
theorem valueOf?_eq_some_iff
    {key text value : String}
    (hText : isDirective text = true) :
    valueOf? key text = some value ↔
      text = written key value := by
  rcases exists_segment hText with ⟨⟨own, given⟩, hSegment⟩
  unfold valueOf?
  rw [hSegment]
  constructor
  · intro hValue
    dsimp only at hValue
    split at hValue
    · rename_i hKey
      cases hValue
      rw [← hKey]
      exact (segment_eq_ok_iff.mp hSegment).1
    · cases hValue
  · intro hWritten
    rw [hWritten] at hText
    have hOwn : segment text = .ok (key, value) :=
      segment_eq_ok_iff.mpr
        ⟨hWritten, (isDirective_written_iff key value).mp hText⟩
    rw [hSegment] at hOwn
    cases hOwn
    exact if_pos rfl

/- Without a value no directive with the key is meant. -/
theorem valueOf?_eq_none_iff
    {key text : String}
    (hText : isDirective text = true) :
    valueOf? key text = none ↔
      ∀ value, text ≠ written key value := by
  rw [Option.eq_none_iff_forall_ne_some]
  simp only [ne_eq, valueOf?_eq_some_iff hText]

end Directives

end RecordQuery

------------------------------------------------------------
-- Last Directives
------------------------------------------------------------

namespace RecordQuery

namespace Directives

/-
  A directive with the key and the value stands among the
  segments, and no later one has the same key.
-/
def Decides
    (segments : List String)
    (key value : String) :
    Prop :=
  ∃ before after,
    segments = before ++ written key value :: after ∧
      ∀ later ∈ after, ∀ other, later ≠ written key other

/- The last value of a key is the one that is decided on. -/
theorem decides_iff
    {segments : List String}
    (hAll :
      ∀ segment ∈ segments, isDirective segment = true)
    (key value : String) :
    Decides segments key value ↔
      lastChoice? (valueOf? key) segments = some value := by
  rw [lastChoice?_eq_some_iff]
  constructor
  · rintro ⟨before, after, rfl, hLast⟩
    rw [List.forall_mem_append, List.forall_mem_cons] at hAll
    rcases hAll with ⟨_, hText, hAfter⟩
    refine
      ⟨before, _, after, rfl,
        (valueOf?_eq_some_iff hText).mpr rfl, ?_⟩
    intro later hLater
    exact
      (valueOf?_eq_none_iff (hAfter later hLater)).mpr
        (hLast later hLater)
  · rintro ⟨before, text, after, rfl, hValue, hNone⟩
    rw [List.forall_mem_append, List.forall_mem_cons] at hAll
    rcases hAll with ⟨_, hText, hAfter⟩
    rw [valueOf?_eq_some_iff hText] at hValue
    refine ⟨before, after, by rw [hValue], ?_⟩
    intro later hLater
    exact
      (valueOf?_eq_none_iff (hAfter later hLater)).mp
        (hNone later hLater)

/- The last value of written pairs is that of the last one. -/
theorem lastChoice?_map_written
    {pairs : List (String × String)}
    (hFree :
      ∀ pair ∈ pairs,
        '=' ∉ pair.1.toList ∧ '=' ∉ pair.2.toList)
    (key : String) :
    lastChoice? (valueOf? key)
        (pairs.map (fun pair => written pair.1 pair.2)) =
      lastChoice?
        (fun pair => if pair.1 = key then some pair.2 else none)
        pairs := by
  induction pairs with
  | nil => rfl
  | cons pair rest ih =>
      rcases List.forall_mem_cons.mp hFree with
        ⟨hPair, hRest⟩
      have hSegment :
          segment (written pair.1 pair.2) = .ok pair :=
        segment_eq_ok_iff.mpr ⟨rfl, hPair⟩
      rw [List.map_cons, lastChoice?_cons, lastChoice?_cons,
        ih hRest, valueOf?, hSegment]

/-
  A key has the value of the last segment with it, or the
  one that it had before.
-/
theorem getElem?_read
    {known directives : Directives}
    {segments : List String}
    (hRead : read known segments = .ok directives)
    (key : String) :
    directives[key]? =
      (lastChoice? (valueOf? key) segments).or known[key]? := by
  induction segments generalizing known with
  | nil =>
      cases hRead
      rfl
  | cons text rest ih =>
      rw [read] at hRead
      rw [lastChoice?_cons]
      unfold valueOf?
      cases hSegment : segment text with
      | error fault =>
          rw [hSegment] at hRead
          cases hRead
      | ok pair =>
          rcases pair with ⟨own, value⟩
          rw [hSegment] at hRead
          rw [ih hRead, Option.or_assoc,
            Std.ExtTreeMap.getElem?_insert]
          simp only [Std.LawfulEqCmp.compare_eq_iff_eq]
          split <;> rfl

/- What was known before is overwritten by what is read. -/
theorem read_eq_map_union
    (known : Directives)
    (segments : List String) :
    read known segments =
      (read ∅ segments).map (fun later => known ∪ later) := by
  cases hFirst :
      segments.find? (fun s => !isDirective s) with
  | some text =>
      rw [read_of_find?_eq_some known hFirst,
        read_of_find?_eq_some ∅ hFirst]
      rfl
  | none =>
      rcases exists_read known hFirst with ⟨all, hAll⟩
      rcases exists_read ∅ hFirst with ⟨later, hLater⟩
      rw [hAll, hLater]
      apply congrArg Except.ok
      apply Std.ExtTreeMap.ext_getElem?
      intro key
      rw [getElem?_read hAll, Std.ExtTreeMap.getElem?_union,
        getElem?_read hLater, Std.ExtTreeMap.getElem?_empty,
        Option.or_none]

end Directives

end RecordQuery

------------------------------------------------------------
-- Tags
------------------------------------------------------------

namespace RecordQuery

namespace Directives

variable {tag : String}

/- Directives are read, or there is a first other segment. -/
theorem read_cases
    (known : Directives)
    (segments : List String) :
    ((∀ segment ∈ segments, isDirective segment = true) ∧
        ∃ directives, read known segments = .ok directives) ∨
      ∃ before text after,
        segments = before ++ text :: after ∧
          (∀ segment ∈ before, isDirective segment = true) ∧
          isDirective text = false ∧
          read known segments = .error (.invalidTag text) := by
  cases hFirst :
      segments.find? (fun s => !isDirective s) with
  | none =>
      left
      refine ⟨?_, exists_read known hFirst⟩
      intro segment hMem
      simpa using List.find?_eq_none.mp hFirst segment hMem
  | some text =>
      right
      have hRead := read_of_find?_eq_some known hFirst
      rcases List.find?_eq_some_iff_append.mp hFirst with
        ⟨hText, before, after, hSegments, hBefore⟩
      refine ⟨before, text, after, hSegments, ?_, ?_, hRead⟩
      · intro segment hMem
        simpa using hBefore segment hMem
      · simpa using hText

/- Exactly the tags of directives are read. -/
theorem exists_parse_iff :
    (∃ directives, parse (some tag) = .ok directives) ↔
      ∀ segment ∈ Text.pieces ',' tag,
        isDirective segment = true := by
  rcases read_cases ∅ (Text.pieces ',' tag) with
    ⟨hAll, hOk⟩ | ⟨before, text, after, hCut, _, hText, hError⟩
  · exact iff_of_true hOk hAll
  · apply iff_of_false
    · rintro ⟨directives, hParse⟩
      change read ∅ _ = _ at hParse
      rw [hError] at hParse
      cases hParse
    · intro hAll
      rw [hAll text (by simp [hCut])] at hText
      cases hText

/- Every other tag fails at its first other segment. -/
theorem parse_eq_error_iff
    {fault : Fault} :
    parse (some tag) = .error fault ↔
      ∃ before text after,
        Text.pieces ',' tag = before ++ text :: after ∧
          (∀ segment ∈ before, isDirective segment = true) ∧
          isDirective text = false ∧
          fault = .invalidTag text := by
  constructor
  · intro hParse
    change read ∅ _ = _ at hParse
    rcases read_cases ∅ (Text.pieces ',' tag) with
      ⟨_, directives, hOk⟩ |
        ⟨before, text, after, hCut, hBefore, hText, hError⟩
    · rw [hOk] at hParse
      cases hParse
    · rw [hError] at hParse
      cases hParse
      exact ⟨before, text, after, hCut, hBefore, hText, rfl⟩
  · rintro ⟨before, text, after, hCut, hBefore, hText, rfl⟩
    apply read_of_find?_eq_some
    apply List.find?_eq_some_iff_append.mpr
    refine ⟨by simp [hText], before, after, hCut, ?_⟩
    intro segment hMem
    simp [hBefore segment hMem]

/- The keys and values that are read from a tag. -/
theorem getElem?_parse
    {directives : Directives}
    (hParse : parse (some tag) = .ok directives)
    (key : String) :
    directives[key]? =
      lastChoice? (valueOf? key) (Text.pieces ',' tag) := by
  rw [getElem?_read hParse, Std.ExtTreeMap.getElem?_empty,
    Option.or_none]

/- The keys that are read stand before equals signs. -/
theorem mem_parse_iff
    {directives : Directives}
    (hParse : parse (some tag) = .ok directives)
    (key : String) :
    key ∈ directives ↔
      ∃ value, written key value ∈ Text.pieces ',' tag := by
  have hAll := exists_parse_iff.mp ⟨directives, hParse⟩
  rw [Std.ExtTreeMap.mem_iff_isSome_getElem?,
    getElem?_parse hParse, Option.isSome_iff_exists]
  constructor
  · rintro ⟨value, hValue⟩
    rcases (decides_iff hAll key value).mpr hValue with
      ⟨before, after, hCut, _⟩
    exact ⟨value, by simp [hCut]⟩
  · rintro ⟨value, hMem⟩
    rw [← Option.isSome_iff_exists,
      ← Option.ne_none_iff_isSome, Ne,
      lastChoice?_eq_none_iff]
    intro hNone
    exact
      (valueOf?_eq_none_iff (hAll _ hMem)).mp (hNone _ hMem)
        value rfl

/- A text that can stand for a key or a value. -/
def Unmarked
    (text : String) :
    Prop :=
  ',' ∉ text.toList ∧ '=' ∉ text.toList

/- Written pairs are cut into their directives. -/
theorem pieces_written
    {pairs : List (String × String)}
    (hSome : pairs ≠ [])
    (hUnmarked :
      ∀ pair ∈ pairs, Unmarked pair.1 ∧ Unmarked pair.2) :
    Text.pieces ','
        (",".intercalate
          (pairs.map (fun pair => written pair.1 pair.2))) =
      pairs.map (fun pair => written pair.1 pair.2) := by
  apply Text.pieces_eq_iff.mpr
  refine ⟨?_, ?_, rfl⟩
  · rw [Ne, List.map_eq_nil_iff]
    exact hSome
  · intro segment hSegment
    rcases List.mem_map.mp hSegment with ⟨pair, hPair, rfl⟩
    rcases hUnmarked pair hPair with ⟨⟨hKey, _⟩, hValue, _⟩
    simp [written, hKey, hValue]

/- Written pairs are read back, the last one of each key. -/
theorem exists_parse_written
    {pairs : List (String × String)}
    (hSome : pairs ≠ [])
    (hUnmarked :
      ∀ pair ∈ pairs, Unmarked pair.1 ∧ Unmarked pair.2) :
    ∃ directives,
      parse
          (some
            (",".intercalate
              (pairs.map
                (fun pair => written pair.1 pair.2)))) =
          .ok directives ∧
        ∀ key,
          directives[key]? =
            lastChoice?
              (fun pair =>
                if pair.1 = key then some pair.2 else none)
              pairs := by
  have hCut := pieces_written hSome hUnmarked
  have hEquals :
      ∀ pair ∈ pairs,
        '=' ∉ pair.1.toList ∧ '=' ∉ pair.2.toList := by
    intro pair hPair
    rcases hUnmarked pair hPair with ⟨⟨_, hKey⟩, _, hValue⟩
    exact ⟨hKey, hValue⟩
  have hAll :
      ∀ segment ∈
          pairs.map (fun pair => written pair.1 pair.2),
        isDirective segment = true := by
    intro segment hSegment
    rcases List.mem_map.mp hSegment with ⟨pair, hPair, rfl⟩
    exact
      (isDirective_written_iff _ _).mpr (hEquals pair hPair)
  rw [← hCut] at hAll
  rcases exists_parse_iff.mpr hAll with ⟨directives, hParse⟩
  refine ⟨directives, hParse, ?_⟩
  intro key
  rw [getElem?_parse hParse, hCut,
    lastChoice?_map_written hEquals]

/-
  The second of two tags with a comma between them is read
  after the first one.
-/
theorem parse_append
    (tag other : String) :
    parse (some (tag ++ "," ++ other)) =
      match parse (some tag) with
      | .error fault => .error fault
      | .ok first =>
          match parse (some other) with
          | .error fault => .error fault
          | .ok second => .ok (first ∪ second) := by
  have hCut :
      Text.pieces ',' (tag ++ "," ++ other) =
        Text.pieces ',' tag ++ Text.pieces ',' other :=
    Text.pieces_append tag other
  unfold parse
  dsimp only
  rw [hCut, read_append]
  cases read ∅ (Text.pieces ',' tag) with
  | error fault => rfl
  | ok first =>
      dsimp only
      rw [read_eq_map_union]
      cases read ∅ (Text.pieces ',' other) <;> rfl

/-
  Tags are read exactly by their grammar.  A tag is cut at
  every comma, and it is read if every segment has exactly
  one equals sign; otherwise the fault is the first segment
  that has not.  The keys that are read are those that stand
  before an equals sign, and the last segment with a key
  decides its value.  So written pairs are read back, the
  last one of each key, and what stands after a comma
  overwrites what stands before it, where both are read: a
  union of maps keeps the values on its right.
-/
theorem parse_accepts_grammar
    (tag : String) :
    let segments := Text.pieces ',' tag
    (segments ≠ [] ∧
        (∀ segment ∈ segments, ',' ∉ segment.toList) ∧
        ",".intercalate segments = tag) ∧
      ((∃ directives, parse (some tag) = .ok directives) ↔
        ∀ segment ∈ segments,
          segment.toList.count '=' = 1) ∧
      (∀ directives,
        parse (some tag) = .ok directives →
          (∀ key,
            key ∈ directives ↔
              ∃ value, written key value ∈ segments) ∧
            ∀ key value,
              directives[key]? = some value ↔
                Decides segments key value) ∧
      (∀ fault,
        parse (some tag) = .error fault ↔
          ∃ before text after,
            segments = before ++ text :: after ∧
              (∀ segment ∈ before,
                segment.toList.count '=' = 1) ∧
              text.toList.count '=' ≠ 1 ∧
              fault = .invalidTag text) ∧
      (∀ pairs : List (String × String),
        pairs ≠ [] →
          (∀ pair ∈ pairs,
            Unmarked pair.1 ∧ Unmarked pair.2) →
          tag =
              ",".intercalate
                (pairs.map
                  (fun pair => written pair.1 pair.2)) →
            ∃ directives,
              parse (some tag) = .ok directives ∧
                ∀ key,
                  directives[key]? =
                    lastChoice?
                      (fun pair =>
                        if pair.1 = key then
                          some pair.2
                        else
                          none)
                      pairs) ∧
      ∀ other,
        parse (some (tag ++ "," ++ other)) =
          match parse (some tag) with
          | .error fault => .error fault
          | .ok first =>
              match parse (some other) with
              | .error fault => .error fault
              | .ok second => .ok (first ∪ second) := by
  intro segments
  have hDirective (text : String) :
      text.toList.count '=' = 1 ↔ isDirective text = true :=
    beq_iff_eq.symm
  have hOther (text : String) :
      text.toList.count '=' ≠ 1 ↔ isDirective text = false := by
    rw [Ne, hDirective, Bool.not_eq_true]
  simp only [hDirective, hOther]
  refine
    ⟨Text.pieces_eq_iff.mp rfl, exists_parse_iff, ?_,
      fun _ => parse_eq_error_iff, ?_, parse_append tag⟩
  · intro directives hParse
    have hAll := exists_parse_iff.mp ⟨directives, hParse⟩
    refine ⟨mem_parse_iff hParse, ?_⟩
    intro key value
    rw [getElem?_parse hParse]
    exact (decides_iff hAll key value).symm
  · rintro pairs hSome hUnmarked rfl
    exact exists_parse_written hSome hUnmarked

/-
  A key that is written twice has its last value, and an
  empty value is one.  A comma at the end is followed by an
  empty segment, which is not the first one to be wrong.
-/
theorem parse_accepts_grammar_of_repeated_key :
    let tag := "column=a,x=,column=b"
    let wrong := "column=a,x=y=z,"
    (∃ directives,
        parse (some tag) = .ok directives ∧
          directives["column"]? = some "b" ∧
          directives["x"]? = some "" ∧
          directives["a"]? = none) ∧
      parse (some wrong) = .error (.invalidTag "x=y=z") ∧
      parse (some (tag ++ "," ++ wrong)) =
        .error (.invalidTag "x=y=z") := by
  intro tag wrong
  rcases parse_accepts_grammar tag with
    ⟨_, _, _, _, hWritten, hAppend⟩
  rcases parse_accepts_grammar wrong with
    ⟨_, _, _, hFault, _, _⟩
  have hRead :=
    hWritten
      [("column", "a"), ("x", ""), ("column", "b")]
      (List.cons_ne_nil _ _) (by simp [Unmarked]) rfl
  have hWrong :
      parse (some wrong) = .error (.invalidTag "x=y=z") :=
    (hFault (.invalidTag "x=y=z")).mpr
      ⟨["column=a"], "x=y=z", [""], by decide, by decide,
        by decide, rfl⟩
  rcases hRead with ⟨directives, hParse, hLast⟩
  refine
    ⟨⟨directives, hParse, (hLast _).trans rfl,
      (hLast _).trans rfl, (hLast _).trans rfl⟩, hWrong, ?_⟩
  rw [hAppend, hParse, hWrong]

end Directives

end RecordQuery
