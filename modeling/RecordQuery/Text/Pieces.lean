/-
  Cutting a text at a separator character and putting the
  pieces together again.

  Key definitions include:
    * `RecordQuery.Text.split`
    * `RecordQuery.Text.pieces`

  Key theorems include:
    * `RecordQuery.Text.split_of_notMem`
    * `RecordQuery.Text.split_append_cons`
    * `RecordQuery.Text.intercalate_split`
    * `RecordQuery.Text.sep_notMem_of_mem_split`

  A text with `n` separators has `n + 1` pieces, so the
  empty text is one empty piece.  Nothing is trimmed.
-/

------------------------------------------------------------
-- Pieces
------------------------------------------------------------

namespace RecordQuery

namespace Text

/- The pieces of a character list between separators. -/
def split
    (sep : Char) :
    List Char → List (List Char)
| [] => [[]]
| c :: rest =>
    if c = sep then
      [] :: split sep rest
    else
      match split sep rest with
      | [] => [[c]]
      | piece :: others => (c :: piece) :: others

/- The pieces of a text between separators. -/
def pieces
    (sep : Char)
    (text : String) :
    List String :=
  (split sep text.toList).map String.ofList

end Text

end RecordQuery

------------------------------------------------------------
-- Laws Of Pieces
------------------------------------------------------------

namespace RecordQuery

namespace Text

variable {sep : Char}

/- There is always a first piece. -/
theorem split_ne_nil
    (text : List Char) :
    split sep text ≠ [] := by
  cases text with
  | nil => simp [split]
  | cons c rest =>
      unfold split
      split
      · simp
      · split <;> simp

/- A text without separators is its own single piece. -/
theorem split_of_notMem
    {text : List Char}
    (hText : sep ∉ text) :
    split sep text = [text] := by
  induction text with
  | nil => rfl
  | cons c rest ih =>
      have hHead : c ≠ sep := by
        intro hEq
        exact hText (by simp [hEq])
      have hRest : sep ∉ rest := by
        intro hMem
        exact hText (by simp [hMem])
      simp [split, hHead, ih hRest]

/-
  Up to its first separator a text is one piece, and the
  pieces after the separator are those of the rest.
-/
theorem split_append_cons
    {text : List Char}
    (rest : List Char)
    (hText : sep ∉ text) :
    split sep (text ++ sep :: rest) =
      text :: split sep rest := by
  induction text with
  | nil => simp [split]
  | cons c others ih =>
      have hHead : c ≠ sep := by
        intro hEq
        exact hText (by simp [hEq])
      have hRest : sep ∉ others := by
        intro hMem
        exact hText (by simp [hMem])
      simp [split, hHead, ih hRest]

/- No piece contains the separator. -/
theorem sep_notMem_of_mem_split
    {text piece : List Char}
    (hPiece : piece ∈ split sep text) :
    sep ∉ piece := by
  induction text generalizing piece with
  | nil =>
      simp [split] at hPiece
      simp [hPiece]
  | cons c rest ih =>
      unfold split at hPiece
      split at hPiece
      · rcases List.mem_cons.mp hPiece with hNil | hMem
        · simp [hNil]
        · exact ih hMem
      · rename_i hHead
        split at hPiece
        · rename_i hNone
          exact absurd hNone (split_ne_nil rest)
        · rename_i first others hSome
          rcases List.mem_cons.mp hPiece with hFirst | hMem
          · have hOther : sep ∉ first :=
              ih (by simp [hSome])
            simp [hFirst, hOther, Ne.symm hHead]
          · exact ih (by simp [hSome, hMem])

/- Joining the pieces by the separator gives the text. -/
theorem intercalate_split
    (text : List Char) :
    List.intercalate [sep] (split sep text) = text := by
  induction text with
  | nil => simp [split, List.intercalate]
  | cons c rest ih =>
      cases hSplit : split sep rest with
      | nil => exact absurd hSplit (split_ne_nil rest)
      | cons piece others =>
          rw [hSplit] at ih
          by_cases hHead : c = sep
          · subst hHead
            rw [split, if_pos rfl, hSplit,
              List.intercalate_cons_cons, ih]
            rfl
          · rw [split, if_neg hHead, hSplit]
            cases others with
            | nil =>
                simp [List.intercalate] at ih ⊢
                exact ih
            | cons next more =>
                simp only [List.intercalate_cons_cons,
                  List.append_assoc,
                  List.cons_append] at ih ⊢
                rw [ih]

end Text

end RecordQuery
