import RecordQuery.Text.Numeral
import RecordQuery.Text.Substitution

/-
  Dialects of SQL: how identifiers are quoted and how
  placeholders are written.

  Key definitions include:
    * `RecordQuery.Dialect`
    * `RecordQuery.Delimiters.dialect`
    * `RecordQuery.Dialect.generic`
    * `RecordQuery.Dialect.postgres`

  A dialect is open: any two functions make one.  Whatever
  is inside a filter or a statement is written by the same
  dialect as the whole: a writer that hands its operands to
  another one is no dialect.
-/

------------------------------------------------------------
-- Dialects
------------------------------------------------------------

namespace RecordQuery

/-
  The quoted form of an identifier, and the placeholder of
  the argument with a given number.
-/
structure Dialect where
  quote : String → String
  placeholder : UInt32 → String

/-
  The parts of a dialect that puts identifiers between two
  texts, replaces one character inside them, and writes a
  mark for placeholders, with or without their number.
-/
structure Delimiters where
  opening : String
  closing : String
  search : Char
  replacement : String
  mark : String
  numbered : Bool
  deriving DecidableEq, Repr

/- The dialect with the given parts. -/
def Delimiters.dialect
    (d : Delimiters) :
    Dialect where
  quote name :=
    d.opening ++
      Text.substitute d.search d.replacement name ++
      d.closing
  placeholder number :=
    if d.numbered then
      d.mark ++ Text.natural number.toNat
    else
      d.mark

end RecordQuery

------------------------------------------------------------
-- Named Dialects
------------------------------------------------------------

namespace RecordQuery

namespace Dialect

/- Backquotes, doubled inside, and question marks. -/
def generic : Dialect :=
  Delimiters.dialect
    ⟨"`", "`", '\x60', "``", "?", false⟩

/- Double quotes, doubled inside, and dollar numbers. -/
def postgres : Dialect :=
  Delimiters.dialect
    ⟨"\"", "\"", '\"', "\"\"", "$", true⟩

end Dialect

end RecordQuery
