import RecordQuery.Argument.Basic

/-
  The characters of written numbers, dates, times and
  identifiers.

  Key definitions include:
    * `RecordQuery.Text.isFigure`
    * `RecordQuery.Text.Figures`

  Key theorems include:
    * `RecordQuery.Text.figures_positional`
    * `RecordQuery.Decimal.figures_text`
    * `RecordQuery.ZonedTimestamp.figures_text`
    * `RecordQuery.Text.forall_mem_hexDigits`

  Numbers, dates and times need digits, signs and a few
  other marks only, so that a comma or a quote never comes
  from one of them.
-/

------------------------------------------------------------
-- Figures
------------------------------------------------------------

namespace RecordQuery

namespace Text

/- The digits, and the marks between and before them. -/
def isFigure
    (c : Char) :
    Bool :=
  c.isDigit || ['-', '+', '.', ':', ' '].contains c

/- A text of such characters. -/
def Figures
    (text : String) :
    Prop :=
  text.toList.all isFigure = true

/- A comma and a quote are no figures. -/
theorem Figures.notMem
    {text : String}
    {c : Char}
    (hText : Figures text)
    (hOther : isFigure c = false) :
    c ∉ text.toList := by
  intro hMem
  have hFigure := List.all_eq_true.mp hText c hMem
  rw [hOther] at hFigure
  cases hFigure

/- Texts of figures are put one after the other. -/
theorem Figures.append
    {text : String}
    (hText : Figures text)
    (more : String)
    (hMore : Figures more) :
    Figures (text ++ more) := by
  unfold Figures
  rw [String.toList_append, List.all_append]
  exact Bool.and_eq_true_iff.mpr ⟨hText, hMore⟩

/- A sign before a number is a figure. -/
theorem figures_hyphen :
    Figures "-" :=
  rfl

/- Digits are figures. -/
theorem figures_of_digits
    {text : String}
    (hDigits : ∀ c ∈ text.toList, c.isDigit = true) :
    Figures text := by
  apply List.all_eq_true.mpr
  intro c hMem
  unfold isFigure
  rw [hDigits c hMem, Bool.true_or]

/- Natural numbers consist of figures. -/
theorem figures_natural
    (n : Nat) :
    Figures (natural n) := by
  apply figures_of_digits
  intro c hMem
  rw [natural, String.toList_ofList] at hMem
  exact
    Nat.isDigit_of_mem_toDigits (by decide) (by decide) hMem

/- Every natural number has a digit. -/
theorem toList_natural_ne_nil
    (n : Nat) :
    (natural n).toList ≠ [] := by
  rw [natural, String.toList_ofList]
  exact Nat.toDigits_ne_nil

/- Padded numbers consist of figures. -/
theorem figures_padded
    (width n : Nat) :
    Figures (padded width n) :=
  figures_of_digits (fun _ => isDigit_of_mem_padded)

/- Decimal fractions consist of figures. -/
theorem figures_positional
    (n scale : Nat) :
    Figures (positional n scale) := by
  unfold positional
  split
  · exact figures_natural n
  · apply Figures.append
    · exact (figures_natural _).append _ rfl
    · exact figures_padded _ _

/- Every decimal fraction has a digit. -/
theorem toList_positional_ne_nil
    (n scale : Nat) :
    (positional n scale).toList ≠ [] := by
  unfold positional
  split
  · exact toList_natural_ne_nil n
  · simp

/- Integers consist of figures. -/
theorem figures_integer
    (n : Int) :
    Figures (integer n) := by
  have hNatural := figures_natural n.natAbs
  unfold integer
  split
  · exact figures_hyphen.append _ hNatural
  · exact hNatural

/- Every integer has a digit. -/
theorem toList_integer_ne_nil
    (n : Int) :
    (integer n).toList ≠ [] := by
  unfold integer
  split
  · simp
  · exact toList_natural_ne_nil _

end Text

end RecordQuery

------------------------------------------------------------
-- Numbers
------------------------------------------------------------

namespace RecordQuery

open Text

namespace Decimal

variable (d : Decimal)

/- Decimals consist of figures. -/
theorem figures_text :
    Figures d.text := by
  have hPositional :=
    figures_positional d.mantissa.natAbs d.scale
  unfold text
  split
  · exact figures_hyphen.append _ hPositional
  · exact hPositional

/- Every decimal has a digit. -/
theorem toList_text_ne_nil :
    d.text.toList ≠ [] := by
  unfold text
  split
  · simp
  · exact toList_positional_ne_nil _ _

end Decimal

namespace Binary

variable {f : BinaryFormat}
variable (x : Binary f)

/- Finite magnitudes consist of figures. -/
theorem figures_magnitude :
    Figures x.magnitude := by
  unfold magnitude
  split
  · rfl
  · exact figures_positional _ _

/- Every finite magnitude has a digit. -/
theorem toList_magnitude_ne_nil :
    x.magnitude.toList ≠ [] := by
  unfold magnitude
  split
  · decide
  · exact toList_positional_ne_nil _ _

/- A word or a magnitude is written, maybe after a sign. -/
theorem text_cases :
    ∃ size,
      (size = "NaN" ∨ size = "inf" ∨ size = x.magnitude) ∧
        (x.text = size ∨ x.text = "-" ++ size) := by
  unfold text
  split
  · exact ⟨_, Or.inl rfl, Or.inl rfl⟩
  · dsimp only
    generalize hSize :
      (if x.isInfinite then "inf" else x.magnitude) = size
    refine ⟨size, Or.inr ?_, ?_⟩
    · rw [← hSize]
      split
      · exact Or.inl rfl
      · exact Or.inr rfl
    · split
      · exact Or.inr rfl
      · exact Or.inl rfl

end Binary

end RecordQuery

------------------------------------------------------------
-- Dates And Times
------------------------------------------------------------

namespace RecordQuery

open Text

/- Dates consist of figures. -/
theorem Date.figures_text
    (d : Date) :
    Figures d.text := by
  have hSign :
      Figures (if d.year < 0 then "-" else "") := by
    split <;> rfl
  have hYear := hSign.append _ (figures_padded 4 d.year.natAbs)
  have hMonth :=
    (hYear.append "-" rfl).append _
      (figures_padded 2 d.month)
  exact
    (hMonth.append "-" rfl).append _
      (figures_padded 2 d.day)

/- Fractions of a second consist of figures. -/
theorem figures_fractionText
    (nanosecond : Nat) :
    Figures (fractionText nanosecond) := by
  apply figures_of_digits
  intro c hMem
  have hDigit :
      ∀ c ∈ paddedDigits 9 nanosecond,
        c.isDigit = true := by
    intro c hMem
    apply isDigit_of_mem_padded
    rw [padded, String.toList_ofList]
    exact hMem
  unfold fractionText at hMem
  split at hMem
  · cases hMem
  · rename_i first rest hDigits
    rw [hDigits] at hDigit
    rw [String.toList_ofList, List.mem_cons] at hMem
    rcases hMem with rfl | hRest
    · exact hDigit c List.mem_cons_self
    · -- Only zeros at the end have been dropped.
      have hMem :=
        (List.dropWhile_sublist _).mem
          (List.mem_reverse.mp hRest)
      exact
        hDigit c
          (List.mem_cons_of_mem first
            (List.mem_reverse.mp hMem))

/- Times of day consist of figures. -/
theorem TimeOfDay.figures_text
    (t : TimeOfDay) :
    Figures t.text := by
  have hMinute :=
    ((figures_natural t.hour).append ":" rfl).append _
      (figures_padded 2 t.minute)
  have hSecond :=
    (hMinute.append ":" rfl).append _
      (figures_padded 2 t.second)
  exact
    (hSecond.append "." rfl).append _
      (figures_fractionText t.nanosecond)

/- Timestamps consist of figures. -/
theorem Timestamp.figures_text
    (t : Timestamp) :
    Figures t.text :=
  (t.date.figures_text.append " " rfl).append _
    t.time.figures_text

/- Offsets consist of figures. -/
theorem figures_offsetText
    (offset : Int) :
    Figures (offsetText offset) := by
  have hSign :
      Figures (if offset < 0 then "-" else "+") := by
    split <;> rfl
  have hHours :=
    hSign.append _ (figures_padded 2 (offset.natAbs / 3600))
  have hMinutes :=
    (hHours.append ":" rfl).append _
      (figures_padded 2 (offset.natAbs / 60 % 60))
  exact
    (hMinutes.append ":" rfl).append _
      (figures_padded 2 (offset.natAbs % 60))

/- Zoned timestamps consist of figures. -/
theorem ZonedTimestamp.figures_text
    (t : ZonedTimestamp) :
    Figures t.text :=
  (t.wall.figures_text.append " " rfl).append _
    (figures_offsetText t.offset)

end RecordQuery

------------------------------------------------------------
-- Hexadecimal Digits
------------------------------------------------------------

namespace RecordQuery

namespace Text

/- What sixteen characters have, hexadecimal digits have. -/
theorem forall_mem_hexDigits
    {P : Char → Prop}
    (hDigits : ∀ digit < 16, P (Nat.digitChar digit))
    (n count : Nat) :
    ∀ c ∈ hexDigits n count, P c := by
  induction count with
  | zero => exact fun _ hMem => nomatch hMem
  | succ count ih =>
      exact
        List.forall_mem_cons.mpr
          ⟨hDigits _ (Nat.mod_lt _ (by decide)), ih⟩

end Text

end RecordQuery
