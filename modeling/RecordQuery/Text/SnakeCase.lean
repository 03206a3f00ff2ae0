import RecordQuery.Text.Uppercase

/-
  Snake-case names: the default table and column names of
  record types and their fields.

  Key definitions include:
    * `RecordQuery.Text.snakeChars`
    * `RecordQuery.Text.snakeCase`

  Key theorems include:
    * `RecordQuery.Text.snakeTail_append`
    * `RecordQuery.Text.snakeChars_cons`

  Every uppercase character is lowercased, and an underscore
  is written before it unless it is the first character.
  Runs of capitals are not taken for acronyms.
-/

------------------------------------------------------------
-- Snake Case
------------------------------------------------------------

namespace RecordQuery

namespace Text

/- The characters of a name after its first one. -/
def snakeTail :
    List Char → List Char
| [] => []
| c :: rest =>
    if isUppercase c then
      '_' :: (lowercase c ++ snakeTail rest)
    else
      c :: snakeTail rest

/- The characters of a whole name. -/
def snakeChars :
    List Char → List Char
| [] => []
| c :: rest => lowercase c ++ snakeTail rest

/- The snake-case form of a name. -/
def snakeCase
    (name : String) :
    String :=
  String.ofList (snakeChars name.toList)

/- After the first character, names are cut anywhere. -/
theorem snakeTail_append
    (a b : List Char) :
    snakeTail (a ++ b) = snakeTail a ++ snakeTail b := by
  induction a with
  | nil => rfl
  | cons c rest ih =>
      by_cases hUpper : isUppercase c
      · simp [snakeTail, hUpper, ih]
      · simp [snakeTail, hUpper, ih]

/- Only the first character gets no underscore. -/
theorem snakeChars_cons
    (c : Char)
    (rest : List Char) :
    snakeChars (c :: rest) =
      lowercase c ++ snakeTail rest :=
  rfl

end Text

end RecordQuery
