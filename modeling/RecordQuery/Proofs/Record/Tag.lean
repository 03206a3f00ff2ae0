import RecordQuery.Record.Directives
import RecordQuery.Record.Target

/-
  The tags that are read without a fault.

  Key definitions include:
    * `RecordQuery.Directives.isDirective`
    * `RecordQuery.Member.malformed?`
    * `RecordQuery.Layout.malformed?`

  Key theorems include:
    * `RecordQuery.Text.length_split`
    * `RecordQuery.Directives.read_of_find?_eq_some`
    * `RecordQuery.Directives.exists_read`

  A segment is a directive if it has exactly one equals
  sign.  A tag is read up to its first other segment.
-/

------------------------------------------------------------
-- Directives
------------------------------------------------------------

namespace RecordQuery

/- A text has one more piece than it has separators. -/
theorem Text.length_split
    (sep : Char)
    (text : List Char) :
    (split sep text).length = text.count sep + 1 := by
  induction text with
  | nil => rfl
  | cons c rest ih =>
      by_cases hHead : c = sep
      · rw [split, if_pos hHead, List.length_cons, ih,
          hHead, List.count_cons_self]
      · rw [split, if_neg hHead,
          List.count_cons_of_ne hHead]
        cases hSplit : split sep rest with
        | nil => exact absurd hSplit (split_ne_nil rest)
        | cons piece others => rw [← ih, hSplit]; rfl

namespace Directives

/- Whether a segment has exactly one equals sign. -/
def isDirective
    (text : String) :
    Bool :=
  text.toList.count '=' == 1

/- A directive has a key and a value. -/
theorem exists_segment
    {text : String}
    (hText : isDirective text = true) :
    ∃ pair, segment text = .ok pair := by
  have hCount : text.toList.count '=' = 1 :=
    eq_of_beq hText
  have hLength : (Text.pieces '=' text).length = 2 := by
    rw [Text.pieces, List.length_map, Text.length_split,
      hCount]
  unfold segment
  match Text.pieces '=' text, hLength with
  | [key, value], _ => exact ⟨(key, value), rfl⟩

/- Any other segment is a fault. -/
theorem segment_of_not_isDirective
    {text : String}
    (hText : isDirective text = false) :
    segment text = .error (.invalidTag text) := by
  unfold segment
  split
  · rename_i key value hPieces
    have hLength :=
      Text.length_split '=' text.toList
    have hTwo : (Text.split '=' text.toList).length = 2 := by
      rw [← List.length_map String.ofList]
      exact congrArg List.length hPieces
    have hCount : text.toList.count '=' = 1 := by
      omega
    simp [isDirective, hCount] at hText
  · rfl

/- The first segment that is no directive is the fault. -/
theorem read_of_find?_eq_some
    {segments : List String}
    {text : String}
    (known : Directives)
    (hFirst :
      segments.find? (fun s => !isDirective s) =
        some text) :
    read known segments = .error (.invalidTag text) := by
  induction segments generalizing known with
  | nil => cases hFirst
  | cons first rest ih =>
      cases hDirective : isDirective first with
      | true =>
          rcases exists_segment hDirective with
            ⟨pair, hPair⟩
          rw [List.find?_cons_of_neg (by simp [hDirective])]
            at hFirst
          rw [read, hPair]
          exact ih _ hFirst
      | false =>
          rw [List.find?_cons_of_pos (by simp [hDirective])]
            at hFirst
          cases hFirst
          rw [read, segment_of_not_isDirective hDirective]

/- Directives only are read without a fault. -/
theorem exists_read
    {segments : List String}
    (known : Directives)
    (hAll :
      segments.find? (fun s => !isDirective s) = none) :
    ∃ directives, read known segments = .ok directives := by
  induction segments generalizing known with
  | nil => exact ⟨known, rfl⟩
  | cons first rest ih =>
      cases hDirective : isDirective first with
      | true =>
          rcases exists_segment hDirective with
            ⟨pair, hPair⟩
          rw [List.find?_cons_of_neg (by simp [hDirective])]
            at hAll
          rw [read, hPair]
          exact ih _ hAll
      | false =>
          rw [List.find?_cons_of_pos (by simp [hDirective])]
            at hAll
          cases hAll

end Directives

end RecordQuery

------------------------------------------------------------
-- Fields
------------------------------------------------------------

namespace RecordQuery

namespace Member

/- The segments of a field's tag, if it has one. -/
def segments
    (m : Member) :
    List String :=
  match m.tag with
  | none => []
  | some tag => Text.pieces ',' tag

/- The first segment of a field that is no directive. -/
def malformed?
    (m : Member) :
    Option String :=
  m.segments.find? (fun s => !Directives.isDirective s)

variable {m : Member}

/- A tag with a segment that is no directive is a fault. -/
theorem parse_of_malformed?_eq_some
    {text : String}
    (hMalformed : m.malformed? = some text) :
    Directives.parse m.tag = .error (.invalidTag text) := by
  unfold malformed? segments at hMalformed
  cases hTag : m.tag with
  | none =>
      rw [hTag] at hMalformed
      cases hMalformed
  | some tag =>
      rw [hTag] at hMalformed
      exact Directives.read_of_find?_eq_some ∅ hMalformed

/- A tag of directives is read, and so is a missing tag. -/
theorem exists_parse
    (hMalformed : m.malformed? = none) :
    ∃ directives, Directives.parse m.tag = .ok directives := by
  unfold malformed? segments at hMalformed
  cases hTag : m.tag with
  | none => exact ⟨∅, rfl⟩
  | some tag =>
      rw [hTag] at hMalformed
      exact Directives.exists_read ∅ hMalformed

end Member

/-
  The first segment of the first field in the order of
  declaration that is no directive.
-/
def Layout.malformed?
    (l : Layout) :
    Option String :=
  l.members.findSome? Member.malformed?

end RecordQuery
