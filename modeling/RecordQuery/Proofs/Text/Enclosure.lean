import RecordQuery.Proofs.Text.Quoting

/-
  Cutting a text at the separators outside of its quotes.

  Key definitions include:
    * `RecordQuery.Text.cutOutside`
    * `RecordQuery.Text.enclosed`
    * `RecordQuery.Text.literal`

  Key theorems include:
    * `RecordQuery.Text.cutOutside_intercalate`
    * `RecordQuery.Text.enclosed_of_notMem`
    * `RecordQuery.Text.enclosed_literal`

  A doubled quote closes a text and opens it again at once,
  so that it need not be told from two quotes: counting
  quotes is enough to know what is between them.
-/

------------------------------------------------------------
-- Cutting Outside Of Quotes
------------------------------------------------------------

namespace RecordQuery

namespace Text

/-
  The pieces of a character list between the separators that
  do not stand between quotes.  The list may begin `inside`
  a pair of quotes.
-/
def cutOutside
    (sep quote : Char)
    (inside : Bool) :
    List Char → List (List Char)
| [] => [[]]
| c :: rest =>
    if inside = false ∧ c = sep then
      [] :: cutOutside sep quote false rest
    else
      match
        cutOutside sep quote (inside != (c == quote)) rest
      with
      | [] => [[c]]
      | piece :: others => (c :: piece) :: others

/-
  Whether all separators stand between quotes and the last
  pair of quotes is closed.
-/
def enclosed
    (sep quote : Char)
    (inside : Bool) :
    List Char → Bool
| [] => !inside
| c :: rest =>
    (inside || c != sep) &&
      enclosed sep quote (inside != (c == quote)) rest

variable {sep quote : Char}

/- An enclosed text begins with no separator to cut at. -/
theorem enclosed_cons_iff
    {inside : Bool}
    {c : Char}
    {rest : List Char} :
    enclosed sep quote inside (c :: rest) = true ↔
      ¬ (inside = false ∧ c = sep) ∧
        enclosed sep quote (inside != (c == quote)) rest =
          true := by
  rw [enclosed, Bool.and_eq_true_iff]
  cases inside <;> simp

/-
  Enclosed texts are not cut, and what follows them is cut
  at the separator between.
-/
theorem cutOutside_append_cons
    {inside : Bool}
    {text : List Char}
    (rest : List Char)
    (hText : enclosed sep quote inside text = true) :
    cutOutside sep quote inside (text ++ sep :: rest) =
      text :: cutOutside sep quote false rest := by
  induction text generalizing inside with
  | nil =>
      have hOutside : inside = false := by
        simpa [enclosed] using hText
      simp [cutOutside, hOutside]
  | cons c others ih =>
      rcases enclosed_cons_iff.mp hText with ⟨hHead, hRest⟩
      rw [List.cons_append, cutOutside, if_neg hHead,
        ih hRest]

/- An enclosed text is its own single piece. -/
theorem cutOutside_of_enclosed
    {inside : Bool}
    {text : List Char}
    (hText : enclosed sep quote inside text = true) :
    cutOutside sep quote inside text = [text] := by
  induction text generalizing inside with
  | nil => rfl
  | cons c others ih =>
      rcases enclosed_cons_iff.mp hText with ⟨hHead, hRest⟩
      rw [cutOutside, if_neg hHead, ih hRest]

/- Enclosed texts that are joined are cut apart again. -/
theorem cutOutside_intercalate
    {pieces : List (List Char)}
    (hSome : pieces ≠ [])
    (hEnclosed :
      ∀ piece ∈ pieces,
        enclosed sep quote false piece = true) :
    cutOutside sep quote false
        (List.intercalate [sep] pieces) =
      pieces := by
  induction pieces with
  | nil => exact absurd rfl hSome
  | cons piece rest ih =>
      rcases List.forall_mem_cons.mp hEnclosed with
        ⟨hPiece, hRest⟩
      cases rest with
      | nil =>
          rw [List.intercalate_singleton]
          exact cutOutside_of_enclosed hPiece
      | cons next more =>
          rw [List.intercalate_cons_cons, List.append_assoc,
            List.singleton_append,
            cutOutside_append_cons _ hPiece,
            ih (List.cons_ne_nil next more) hRest]

end Text

end RecordQuery

------------------------------------------------------------
-- Enclosed Texts
------------------------------------------------------------

namespace RecordQuery

namespace Text

/- A text between quotes, with the quotes in it doubled. -/
def literal
    (quote : Char)
    (text : List Char) :
    List Char :=
  quote :: (doubled quote text ++ [quote])

variable {sep quote : Char}
variable {text : List Char}

/- Texts with neither separators nor quotes are enclosed. -/
theorem enclosed_of_notMem
    (hSep : sep ∉ text)
    (hQuote : quote ∉ text) :
    enclosed sep quote false text = true := by
  induction text with
  | nil => rfl
  | cons c rest ih =>
      rcases List.ne_and_not_mem_of_not_mem_cons hSep with
        ⟨hHead, hRest⟩
      rcases List.ne_and_not_mem_of_not_mem_cons hQuote with
        ⟨hOther, hMore⟩
      rw [enclosed_cons_iff, beq_false_of_ne hOther.symm]
      exact ⟨fun hCut => hHead hCut.2.symm, ih hRest hMore⟩

/- Doubled quotes do not close the text that they are in. -/
theorem enclosed_doubled
    (hNe : sep ≠ quote)
    (text : List Char) :
    enclosed sep quote true (doubled quote text ++ [quote]) =
      true := by
  induction text with
  | nil => simp [doubled, enclosed]
  | cons c rest ih =>
      by_cases hHead : c = quote
      · subst hHead
        rw [doubled_cons_self]
        simp [enclosed, ih, hNe.symm]
      · rw [doubled_cons_of_ne rest hHead, List.cons_append,
          enclosed_cons_iff, beq_false_of_ne hHead]
        exact ⟨by simp, ih⟩

/- Literals are enclosed. -/
theorem enclosed_literal
    (hNe : sep ≠ quote)
    (text : List Char) :
    enclosed sep quote false (literal quote text) = true := by
  simp [literal, enclosed, enclosed_doubled hNe, hNe.symm]

/- Without quotes there is nothing to double. -/
theorem doubled_of_notMem
    (hText : quote ∉ text) :
    doubled quote text = text := by
  induction text with
  | nil => rfl
  | cons c rest ih =>
      rcases List.ne_and_not_mem_of_not_mem_cons hText with
        ⟨hHead, hRest⟩
      rw [doubled_cons_of_ne rest hHead.symm, ih hRest]

end Text

end RecordQuery
