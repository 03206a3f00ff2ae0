import RecordQuery.Text.Substitution

/-
  Quoting by doubling.

  Key definitions include:
    * `RecordQuery.Text.doubled`
    * `RecordQuery.Text.readDoubled`

  Key theorems include:
    * `RecordQuery.Text.toList_substitute`
    * `RecordQuery.Text.readDoubled_doubled`
    * `RecordQuery.Text.doubled_append_cons_inj`

  Substitution replaces the characters of a text one by one.
  A text whose quotes are doubled ends at the first quote
  that is not followed by another one.
-/

------------------------------------------------------------
-- Substitution
------------------------------------------------------------

namespace RecordQuery

namespace Text

/- Substitution goes through a text character by character. -/
theorem toList_substitute
    (search : Char)
    (replacement text : String) :
    (substitute search replacement text).toList =
      text.toList.flatMap
        (fun c =>
          if c = search then replacement.toList else [c]) := by
  rw [substitute, writeSubstituted_eq_append,
    String.empty_append, replaced, String.toList_join,
    List.flatMap_map]
  simp only [toList_substitutedChar]

end Text

end RecordQuery

------------------------------------------------------------
-- Doubling
------------------------------------------------------------

namespace RecordQuery

namespace Text

/- A text with every quote in it written twice. -/
def doubled
    (quote : Char)
    (text : List Char) :
    List Char :=
  text.flatMap
    (fun c => if c = quote then [quote, quote] else [c])

variable {quote : Char}

/- A quote is written twice. -/
theorem doubled_cons_self
    (text : List Char) :
    doubled quote (quote :: text) =
      quote :: quote :: doubled quote text := by
  simp [doubled]

/- Any other character is written once. -/
theorem doubled_cons_of_ne
    {c : Char}
    (text : List Char)
    (hNe : c ≠ quote) :
    doubled quote (c :: text) = c :: doubled quote text := by
  simp [doubled, hNe]

/-
  What a text with doubled quotes says, up to the quote that
  is not doubled, and what follows that quote.
-/
def readDoubled
    (quote : Char) :
    List Char → List Char × List Char
| [] => ([], [])
| [c] => if c = quote then ([], []) else ([c], [])
| c :: b :: rest =>
    if c ≠ quote then
      (readDoubled quote (b :: rest)).map (c :: ·) id
    else if b = quote then
      (readDoubled quote rest).map (c :: ·) id
    else
      ([], b :: rest)

/- The quote that is not doubled ends the text. -/
theorem readDoubled_quote
    {rest : List Char}
    (hRest : rest.head? ≠ some quote) :
    readDoubled quote (quote :: rest) = ([], rest) := by
  cases rest with
  | nil => simp [readDoubled]
  | cons b rest =>
      have hNe : b ≠ quote := by simpa using hRest
      simp [readDoubled, hNe]

/- Other characters stand for themselves. -/
theorem readDoubled_cons_of_ne
    {c : Char}
    (text : List Char)
    (hNe : c ≠ quote) :
    readDoubled quote (c :: text) =
      (readDoubled quote text).map (c :: ·) id := by
  cases text with
  | nil => simp [readDoubled, hNe]
  | cons b text => simp [readDoubled, hNe]

/-
  A closing quote is told from a doubled one by what comes
  next, so that the text and the rest can be read off.
-/
theorem readDoubled_doubled
    {rest : List Char}
    (text : List Char)
    (hRest : rest.head? ≠ some quote) :
    readDoubled quote (doubled quote text ++ quote :: rest) =
      (text, rest) := by
  induction text with
  | nil => exact readDoubled_quote hRest
  | cons c text ih =>
      by_cases hHead : c = quote
      · subst hHead
        rw [doubled_cons_self, List.cons_append,
          List.cons_append]
        simp [readDoubled, ih]
      · rw [doubled_cons_of_ne text hHead, List.cons_append,
          readDoubled_cons_of_ne _ hHead, ih]
        rfl

/- Texts that are written alike are the same. -/
theorem doubled_append_cons_inj
    {text other rest more : List Char}
    (hRest : rest.head? ≠ some quote)
    (hMore : more.head? ≠ some quote)
    (hEq :
      doubled quote text ++ quote :: rest =
        doubled quote other ++ quote :: more) :
    text = other ∧ rest = more := by
  have hText := readDoubled_doubled text hRest
  have hOther := readDoubled_doubled other hMore
  rw [hEq, hOther] at hText
  exact ⟨(Prod.ext_iff.mp hText).1.symm,
    (Prod.ext_iff.mp hText).2.symm⟩

end Text

end RecordQuery
