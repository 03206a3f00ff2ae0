import RecordQuery.Log
import RecordQuery.Proofs.Text.Enclosure
import RecordQuery.Proofs.Text.Figures

/-
  Reading the arguments of a logged statement.

  Key definitions include:
    * `RecordQuery.Event.readArguments`

  Key theorems include:
    * `RecordQuery.Scalar.enclosed_text_iff`
    * `RecordQuery.Event.readArguments_argumentsText`
    * `RecordQuery.Event.argumentsText_tells_texts_apart`

  Every argument but one has a text that ends where its
  quotes are closed, so that the commas of the list can be
  told from those of the texts.  The exception is the single
  character that is itself a quote: it is not doubled.
-/

------------------------------------------------------------
-- Unquoted Texts
------------------------------------------------------------

namespace RecordQuery

open Text

/- Texts of figures are enclosed. -/
theorem Text.Figures.enclosed
    {text : String}
    (hText : Figures text) :
    Text.enclosed ',' '\x27' false text.toList = true :=
  enclosed_of_notMem (hText.notMem rfl) (hText.notMem rfl)

/- Floating-point numbers are enclosed. -/
theorem Binary.enclosed_text
    {f : BinaryFormat}
    (x : Binary f) :
    enclosed ',' '\x27' false x.text.toList = true := by
  rcases x.text_cases with ⟨size, hSize, hText⟩
  have hEnclosed :
      enclosed ',' '\x27' false size.toList = true := by
    rcases hSize with rfl | rfl | rfl
    · decide
    · decide
    · exact x.figures_magnitude.enclosed
  rcases hText with hText | hText
  · rw [hText]
    exact hEnclosed
  · -- A sign neither opens quotes nor separates.
    rw [hText, String.toList_append]
    simpa [enclosed] using hEnclosed

/- Floating-point numbers have some digit or letter. -/
theorem Binary.toList_text_ne_nil
    {f : BinaryFormat}
    (x : Binary f) :
    x.text.toList ≠ [] := by
  rcases x.text_cases with ⟨size, hSize, hText⟩
  rcases hText with hText | hText
  · rw [hText]
    rcases hSize with rfl | rfl | rfl
    · decide
    · decide
    · exact x.toList_magnitude_ne_nil
  · simp [hText]

end RecordQuery

------------------------------------------------------------
-- Quoted Texts
------------------------------------------------------------

namespace RecordQuery

open Text

/- The characters of a text between single quotes. -/
theorem toList_quoted
    (body : String) :
    (quoted body).toList =
      '\x27' :: (body.toList ++ ['\x27']) := by
  simp [quoted]

/- Quoted texts without quotes are literals. -/
theorem toList_quoted_of_notMem
    {body : String}
    (hBody : '\x27' ∉ body.toList) :
    (quoted body).toList = literal '\x27' body.toList := by
  rw [toList_quoted, literal, doubled_of_notMem hBody]

/- Texts are written as literals, whatever is in them. -/
theorem Scalar.toList_text_varchar
    (value : String) :
    (Scalar.varchar value).text.toList =
      literal '\x27' value.toList := by
  rw [Scalar.text, toList_quoted, toList_substitute]
  rfl

/- A character is written as a literal unless it is a quote. -/
theorem Scalar.toList_text_char_iff
    (value : Char) :
    (Scalar.char value).text.toList =
        literal '\x27' [value] ↔
      value ≠ '\x27' := by
  constructor
  · rintro hText rfl
    revert hText
    decide
  · intro hNe
    rw [Scalar.text, toList_quoted_of_notMem] <;>
      simp [hNe.symm]

/- Hexadecimal digits are no quotes in either case. -/
theorem ne_quote_of_mem_hexDigits
    (n count : Nat) :
    ∀ c ∈ hexDigits n count,
      c ≠ '\x27' ∧ c.toUpper ≠ '\x27' :=
  forall_mem_hexDigits (by decide) n count

/- Blobs have no quotes inside. -/
theorem quote_notMem_blobText
    (bytes : List UInt8) :
    '\x27' ∉ (blobText bytes).toList := by
  intro hMem
  rw [blobText, String.toList_join, List.mem_flatMap] at hMem
  rcases hMem with ⟨pair, hPair, hMem⟩
  rcases List.mem_map.mp hPair with ⟨byte, _, rfl⟩
  rw [String.toList_append, List.mem_append,
    upperHexByte] at hMem
  rcases hMem with hMark | hDigits
  · revert hMark
    decide
  · rw [String.toList_ofList] at hDigits
    rcases List.mem_map.mp hDigits with ⟨c, hMem, hUpper⟩
    exact (ne_quote_of_mem_hexDigits _ _ c hMem).2 hUpper

/- Identifiers have no quotes inside. -/
theorem Uuid.quote_notMem_text
    (u : Uuid) :
    '\x27' ∉ u.text.toList := by
  have hDigits :
      '\x27' ∉ hexDigits u.bits.toNat 32 :=
    fun hMem =>
      (ne_quote_of_mem_hexDigits _ _ _ hMem).1 rfl
  unfold Uuid.text
  generalize hexDigits u.bits.toNat 32 = digits at hDigits
  have hTake (k n : Nat) :
      '\x27' ∉ (digits.drop k).take n :=
    fun hMem =>
      hDigits (List.mem_of_mem_drop (List.mem_of_mem_take hMem))
  have hFirst := hTake 0 8
  have hLast : '\x27' ∉ digits.drop 20 :=
    fun hMem => hDigits (List.mem_of_mem_drop hMem)
  rw [List.drop_zero] at hFirst
  simp [hFirst, hTake, hLast]

end RecordQuery

------------------------------------------------------------
-- Arguments
------------------------------------------------------------

namespace RecordQuery

open Text

/- Quoted texts without quotes are enclosed. -/
theorem enclosed_quoted
    {body : String}
    (hBody : '\x27' ∉ body.toList) :
    enclosed ',' '\x27' false (quoted body).toList = true := by
  rw [toList_quoted_of_notMem hBody]
  exact enclosed_literal (by decide) _

/-
  A scalar ends where its quotes are closed, unless it is
  the character that closes them.
-/
theorem Scalar.enclosed_text_iff
    (value : Scalar) :
    enclosed ',' '\x27' false value.text.toList = true ↔
      value ≠ .char '\x27' := by
  constructor
  · rintro hText rfl
    revert hText
    decide
  · intro hOther
    cases value with
    | boolean value => cases value <;> decide
    | int width value =>
        exact (figures_integer _).enclosed
    | uint width value =>
        exact (figures_natural _).enclosed
    | float32 value => exact value.enclosed_text
    | float64 value => exact value.enclosed_text
    | decimal value => exact value.figures_text.enclosed
    | char value =>
        have hNe : value ≠ '\x27' :=
          fun hEq => hOther (congrArg _ hEq)
        rw [(toList_text_char_iff value).mpr hNe]
        exact enclosed_literal (by decide) _
    | varchar value =>
        rw [toList_text_varchar]
        exact enclosed_literal (by decide) _
    | blob value =>
        exact enclosed_quoted (quote_notMem_blobText value)
    | date value =>
        exact enclosed_quoted (value.figures_text.notMem rfl)
    | time value =>
        exact enclosed_quoted (value.figures_text.notMem rfl)
    | timestamp value =>
        exact enclosed_quoted (value.figures_text.notMem rfl)
    | zonedTimestamp value =>
        exact enclosed_quoted (value.figures_text.notMem rfl)
    | uuid value =>
        exact enclosed_quoted value.quote_notMem_text

/- No scalar has an empty text. -/
theorem Scalar.toList_text_ne_nil
    (value : Scalar) :
    value.text.toList ≠ [] := by
  cases value with
  | boolean value => cases value <;> decide
  | int width value => exact toList_integer_ne_nil _
  | uint width value => exact toList_natural_ne_nil _
  | float32 value => exact value.toList_text_ne_nil
  | float64 value => exact value.toList_text_ne_nil
  | decimal value => exact value.toList_text_ne_nil
  | _ =>
    rw [Scalar.text, toList_quoted]
    exact List.cons_ne_nil _ _

namespace Argument

/- Nor are arguments cut, unless they are a lone quote. -/
theorem enclosed_text_iff
    (arg : Argument) :
    enclosed ',' '\x27' false arg.text.toList = true ↔
      arg ≠ .scalar (.char '\x27') := by
  cases arg with
  | untyped => decide
  | null type => simp [text_null, enclosed]
  | scalar value =>
      rw [text_scalar, value.enclosed_text_iff, Ne, Ne,
        Argument.scalar.injEq]

/- No argument has an empty text. -/
theorem toList_text_ne_nil
    (arg : Argument) :
    arg.text.toList ≠ [] := by
  cases arg with
  | untyped => decide
  | null type => simp [text_null]
  | scalar value => exact value.toList_text_ne_nil

end Argument

end RecordQuery

------------------------------------------------------------
-- Lists
------------------------------------------------------------

namespace RecordQuery

open Text

/- The rest of a separator may belong to what follows it. -/
theorem Text.intercalate_cons_gap
    (sep : Char)
    (gap first : List Char)
    (others : List (List Char)) :
    List.intercalate (sep :: gap) (first :: others) =
      List.intercalate [sep]
        (first :: others.map (gap ++ ·)) := by
  induction others generalizing first with
  | nil => simp
  | cons next more ih =>
      rw [List.intercalate_cons_cons, ih, List.map_cons,
        List.intercalate_cons_cons]
      cases more <;> simp

namespace Event

/-
  The texts that a list of arguments was put together from:
  it is cut at the commas outside of quotes, and every text
  but the first one follows a space.
-/
def readArguments
    (text : String) :
    List String :=
  if text = "" then
    []
  else
    match cutOutside ',' '\x27' false text.toList with
    | [] => []
    | first :: others =>
        String.ofList first ::
          others.map (fun piece => String.ofList piece.tail)

/- After a comma every text begins with a space. -/
theorem toList_argumentsText_cons
    (arg : Argument)
    (rest : List Argument) :
    (argumentsText (arg :: rest)).toList =
      List.intercalate [',']
        (arg.text.toList ::
          rest.map (fun a => ' ' :: a.text.toList)) := by
  have hSpace :
      (rest.map (fun a => a.text.toList)).map ([' '] ++ ·) =
        rest.map (fun a => ' ' :: a.text.toList) := by
    rw [List.map_map]
    rfl
  rw [argumentsText, String.toList_intercalate,
    List.map_map, List.map_cons, ← hSpace,
    ← intercalate_cons_gap]
  rfl

/-
  The texts of all arguments are read back from their list,
  unless one of them is a lone quote.
-/
theorem readArguments_argumentsText
    (args : List Argument)
    (hArgs : .scalar (.char '\x27') ∉ args) :
    readArguments (argumentsText args) =
      args.map Argument.text := by
  cases args with
  | nil => rfl
  | cons arg rest =>
      have hEnclosed :
          ∀ a ∈ arg :: rest,
            enclosed ',' '\x27' false a.text.toList =
              true := by
        intro a hMem
        apply a.enclosed_text_iff.mpr
        rintro rfl
        exact hArgs hMem
      rcases List.forall_mem_cons.mp hEnclosed with
        ⟨hArg, hRest⟩
      have hCut :
          cutOutside ',' '\x27' false
              (argumentsText (arg :: rest)).toList =
            arg.text.toList ::
              rest.map
                (fun a => ' ' :: a.text.toList) := by
        rw [toList_argumentsText_cons]
        apply cutOutside_intercalate (List.cons_ne_nil _ _)
        refine List.forall_mem_cons.mpr ⟨hArg, ?_⟩
        intro piece hPiece
        rcases List.mem_map.mp hPiece with ⟨a, hMem, rfl⟩
        exact hRest a hMem
      have hSome : argumentsText (arg :: rest) ≠ "" := by
        intro hEmpty
        rw [hEmpty] at hCut
        have hFirst := congrArg List.head? hCut
        exact
          arg.toList_text_ne_nil
            (Option.some.inj hFirst).symm
      rw [readArguments, if_neg hSome, hCut]
      simp

/-
  Among arguments that are no lone quote the texts of two
  lists are the same only if the arguments have the same
  texts, one by one.  A text is a literal with all quotes in
  it doubled; so is a single character, if and only if it is
  not a quote itself.
-/
theorem argumentsText_tells_texts_apart
    (args others : List Argument)
    (hArgs : .scalar (.char '\x27') ∉ args)
    (hOthers : .scalar (.char '\x27') ∉ others) :
    (argumentsText args = argumentsText others ↔
      args.map Argument.text = others.map Argument.text) ∧
    (∀ value : String,
      (Scalar.varchar value).text.toList =
        literal '\x27' value.toList) ∧
    (∀ value : Char,
      (Scalar.char value).text.toList =
          literal '\x27' [value] ↔
        value ≠ '\x27') := by
  refine
    ⟨⟨?_, ?_⟩, Scalar.toList_text_varchar,
      Scalar.toList_text_char_iff⟩
  · intro hEq
    rw [← readArguments_argumentsText args hArgs, hEq,
      readArguments_argumentsText others hOthers]
  · intro hTexts
    rw [argumentsText, argumentsText, hTexts]

/- A comma in a text is not one between two texts. -/
theorem argumentsText_tells_comma_in_text :
    argumentsText [.scalar (.varchar "', '")] ≠
      argumentsText
        [.scalar (.varchar ""), .scalar (.varchar "")] :=
  fun hEq =>
    absurd
      ((argumentsText_tells_texts_apart _ _
        (by decide) (by decide)).1.mp hEq)
      (by decide)

/- Two lone quotes are taken for one text with a comma. -/
theorem argumentsText_confuses_lone_quotes :
    argumentsText
        [.scalar (.char '\x27'), .scalar (.char '\x27')] =
      argumentsText [.scalar (.varchar "', '")] ∧
    [Argument.scalar (.char '\x27'),
          .scalar (.char '\x27')].map
        Argument.text ≠
      [Argument.scalar (.varchar "', '")].map
        Argument.text := by
  decide

end Event

end RecordQuery
