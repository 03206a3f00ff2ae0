import RecordQuery.Fault
import RecordQuery.Text.Substitution

/-
  Drafts of SQL text together with the arguments bound so
  far.

  Key definitions include:
    * `RecordQuery.Draft`
    * `RecordQuery.Writing`
    * `RecordQuery.Writing.append`
    * `RecordQuery.Writing.appendSubstituted`

  Key theorems include:
    * `RecordQuery.Writing.run_append`
    * `RecordQuery.Writing.appendSubstituted_eq_append`
    * `RecordQuery.Writing.run_advance`
    * `RecordQuery.Writing.run_bindArgument`

  Writing may fail; what was written before stays in the
  draft, and further writing goes on from there.  The number
  of placeholders is a word of 32 bits: past the largest
  word the count goes on with zero.  Where such an overflow
  is checked for, writing ends for good instead, and what is
  said here of drafts holds as long as there is room.
-/

------------------------------------------------------------
-- Drafts
------------------------------------------------------------

namespace RecordQuery

/-
  Some text, the number of its placeholders, and the
  arguments bound to them, in order.  A draft may start at
  any number.
-/
structure Draft where
  text : String
  counter : UInt32
  args : List Argument
  deriving DecidableEq, Repr

/- A draft without text. -/
def Draft.empty : Draft :=
  ⟨"", 0, []⟩

/- Writing to a draft, which outlives a fault. -/
abbrev Writing : Type → Type :=
  EStateM Fault Draft

namespace Writing

/- Write a piece of text. -/
def append
    (piece : String) :
    Writing Unit :=
  modify
    (fun draft => { draft with text := draft.text ++ piece })

/- Write a text in which one character is replaced. -/
def appendSubstituted
    (search : Char)
    (replacement text : String) :
    Writing Unit :=
  modify
    (fun draft =>
      { draft with
        text :=
          Text.writeSubstituted search replacement text
            draft.text })

/-
  Count one more placeholder and give its number, which is
  zero after the largest one.
-/
def advance : Writing UInt32 :=
  modifyGet
    (fun draft =>
      (draft.counter + 1,
        { draft with counter := draft.counter + 1 }))

/- Bind an argument after the earlier ones. -/
def bindArgument
    (value : Argument) :
    Writing Unit :=
  modify
    (fun draft =>
      { draft with args := draft.args ++ [value] })

end Writing

end RecordQuery

------------------------------------------------------------
-- Effects On Drafts
------------------------------------------------------------

namespace RecordQuery

namespace Writing

/- Text is added at the end. -/
theorem run_append
    (piece : String)
    (draft : Draft) :
    (append piece).run draft =
      .ok () { draft with text := draft.text ++ piece } :=
  rfl

/- A text may be substituted in before it is written. -/
theorem appendSubstituted_eq_append
    (search : Char)
    (replacement text : String) :
    appendSubstituted search replacement text =
      append (Text.substitute search replacement text) := by
  unfold appendSubstituted append
  simp only [Text.writeSubstituted_eq_append_substitute]

/- The new number is the word after the last one. -/
theorem run_advance
    (draft : Draft) :
    advance.run draft =
      .ok (draft.counter + 1)
        { draft with counter := draft.counter + 1 } :=
  rfl

/- Arguments are added at the end. -/
theorem run_bindArgument
    (value : Argument)
    (draft : Draft) :
    (bindArgument value).run draft =
      .ok ()
        { draft with args := draft.args ++ [value] } :=
  rfl

end Writing

end RecordQuery
