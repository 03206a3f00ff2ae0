import RecordQuery.Proofs.Sql.Counter
import RecordQuery.Sql.Rendering

/-
  Marks and lexemes: the text of a statement before a dialect
  is chosen for it.

  Key definitions include:
    * `RecordQuery.Mark`
    * `RecordQuery.Lexeme`
    * `RecordQuery.Mark.number`
    * `RecordQuery.Draft.extend`

  Key theorems include:
    * `RecordQuery.Mark.bindings_number`
    * `RecordQuery.Draft.extend_append`

  A mark is a fixed text, an identifier, or an argument that
  waits for its number.  A lexeme is a mark whose argument
  has got one.  Only the text of a lexeme needs a dialect.
-/

------------------------------------------------------------
-- Marks And Lexemes
------------------------------------------------------------

namespace RecordQuery

/- What is written at one place, without numbers. -/
inductive Mark where
  | fixed (text : String)
  | identifier (name : String)
  | argument (value : Argument)
  deriving DecidableEq, Repr

/-
  What is written at one place.  A placeholder comes with
  its number and with the argument that is bound to it.
-/
inductive Lexeme where
  | fixed (text : String)
  | identifier (name : String)
  | placeholder (number : UInt32) (value : Argument)
  deriving DecidableEq, Repr

namespace Mark

/- The argument at one place, if there is one. -/
def argument? : Mark → Option Argument
| .fixed _ => none
| .identifier _ => none
| .argument value => some value

/- The arguments of marks from left to right. -/
def arguments
    (marks : List Mark) :
    List Argument :=
  marks.filterMap argument?

/-
  Marks as lexemes, when `counter` is the last number that
  was given before.
-/
def number
    (counter : UInt32) :
    List Mark → List Lexeme
| [] => []
| .fixed text :: rest =>
    .fixed text :: number counter rest
| .identifier name :: rest =>
    .identifier name :: number counter rest
| .argument value :: rest =>
    .placeholder (counter + 1) value ::
      number (counter + 1) rest

end Mark

namespace Lexeme

/- The text of a lexeme in a dialect. -/
def text
    (d : Dialect) :
    Lexeme → String
| .fixed text => text
| .identifier name => d.quote name
| .placeholder number _ => d.placeholder number

/- The text of lexemes, one after the other. -/
def texts
    (d : Dialect)
    (lexemes : List Lexeme) :
    String :=
  String.join (lexemes.map (text d))

/- The number and the argument of a placeholder. -/
def binding? : Lexeme → Option (UInt32 × Argument)
| .fixed _ => none
| .identifier _ => none
| .placeholder number value => some (number, value)

/- The placeholders of lexemes, from left to right. -/
def bindings
    (lexemes : List Lexeme) :
    List (UInt32 × Argument) :=
  lexemes.filterMap binding?

end Lexeme

end RecordQuery

------------------------------------------------------------
-- Numbering
------------------------------------------------------------

namespace RecordQuery

namespace Mark

/- No marks have no arguments. -/
@[simp] theorem arguments_nil :
    arguments [] = [] :=
  rfl

/- A fixed text has no argument. -/
theorem arguments_fixed
    (text : String) :
    arguments [.fixed text] = [] :=
  rfl

/- An identifier has no argument. -/
theorem arguments_identifier
    (name : String) :
    arguments [.identifier name] = [] :=
  rfl

/- An argument is the only one at its place. -/
theorem arguments_argument
    (value : Argument) :
    arguments [.argument value] = [value] :=
  rfl

/- Arguments are put one after the other. -/
@[simp] theorem arguments_append
    (marks more : List Mark) :
    arguments (marks ++ more) =
      arguments marks ++ arguments more := by
  simp [arguments]

/-
  The placeholders of later marks go on from the number of
  the last argument before them.
-/
theorem number_append
    (counter : UInt32)
    (marks more : List Mark) :
    number counter (marks ++ more) =
      number counter marks ++
        number
          (counter + UInt32.ofNat (arguments marks).length)
          more := by
  induction marks generalizing counter with
  | nil => simp [number]
  | cons mark rest ih =>
      cases mark with
      | fixed text =>
          exact congrArg (Lexeme.fixed text :: ·) (ih counter)
      | identifier name =>
          exact
            congrArg (Lexeme.identifier name :: ·)
              (ih counter)
      | argument value =>
          have hRest := ih (counter + 1)
          rw [Counter.add_one_add] at hRest
          exact
            congrArg
              (Lexeme.placeholder (counter + 1) value :: ·)
              hRest

/-
  The placeholders of marks are numbered one by one, and
  each belongs to the argument at its own place.
-/
theorem bindings_number
    (counter : UInt32)
    (marks : List Mark) :
    Lexeme.bindings (number counter marks) =
      (Counter.numbers counter
        (arguments marks).length).zip (arguments marks) := by
  induction marks generalizing counter with
  | nil => rfl
  | cons mark rest ih =>
      cases mark with
      | fixed text => exact ih counter
      | identifier name => exact ih counter
      | argument value =>
          have hRest := ih (counter + 1)
          change
            (counter + 1, value) ::
                Lexeme.bindings (number (counter + 1) rest) =
              _
          rw [hRest, ← List.zip_cons_cons,
            ← Counter.numbers_succ]
          rfl

/- The bound arguments are those of the marks. -/
theorem values_number
    (counter : UInt32)
    (marks : List Mark) :
    (Lexeme.bindings (number counter marks)).map Prod.snd =
      arguments marks := by
  rw [bindings_number, List.map_snd_zip]
  simp

/- There is one placeholder for each argument. -/
theorem length_bindings_number
    (counter : UInt32)
    (marks : List Mark) :
    (Lexeme.bindings (number counter marks)).length =
      (arguments marks).length := by
  rw [← values_number counter marks, List.length_map]

/- The numbers are the next ones after the counter. -/
theorem numbers_number
    (counter : UInt32)
    (marks : List Mark) :
    (Lexeme.bindings (number counter marks)).map Prod.fst =
      Counter.numbers counter (arguments marks).length := by
  rw [bindings_number, List.map_fst_zip]
  simp

end Mark

namespace Lexeme

/- A single lexeme has its own text. -/
@[simp] theorem texts_singleton
    (d : Dialect)
    (lexeme : Lexeme) :
    texts d [lexeme] = lexeme.text d := by
  simp [texts]

/- Texts are put one after the other. -/
theorem texts_append
    (d : Dialect)
    (lexemes more : List Lexeme) :
    texts d (lexemes ++ more) =
      texts d lexemes ++ texts d more := by
  simp [texts, String.join_append]

end Lexeme

end RecordQuery

------------------------------------------------------------
-- Extending Drafts
------------------------------------------------------------

namespace RecordQuery

namespace Draft

/- A draft after marks have been written to it. -/
def extend
    (d : Dialect)
    (draft : Draft)
    (marks : List Mark) :
    Draft where
  text :=
    draft.text ++
      Lexeme.texts d (Mark.number draft.counter marks)
  counter :=
    draft.counter + UInt32.ofNat (Mark.arguments marks).length
  args := draft.args ++ Mark.arguments marks

variable {d : Dialect}

/- Without marks a draft stays as it is. -/
@[simp] theorem extend_nil
    (draft : Draft) :
    draft.extend d [] = draft := by
  simp [extend, Mark.number, Lexeme.texts]

/- A fixed text is all that is added. -/
theorem extend_fixed
    (draft : Draft)
    (text : String) :
    draft.extend d [.fixed text] =
      ⟨draft.text ++ text, draft.counter, draft.args⟩ := by
  simp [extend, Mark.number, Mark.arguments_fixed,
    Lexeme.text]

/- The quoted name is all that is added. -/
theorem extend_identifier
    (draft : Draft)
    (name : String) :
    draft.extend d [.identifier name] =
      ⟨draft.text ++ d.quote name, draft.counter,
        draft.args⟩ := by
  simp [extend, Mark.number, Mark.arguments_identifier,
    Lexeme.text]

/- An argument takes the next number. -/
theorem extend_argument
    (draft : Draft)
    (value : Argument) :
    draft.extend d [.argument value] =
      ⟨draft.text ++ d.placeholder (draft.counter + 1),
        draft.counter + 1, draft.args ++ [value]⟩ := by
  simp [extend, Mark.number, Mark.arguments_argument,
    Lexeme.text]

/- Marks may be written in several goes. -/
theorem extend_append
    (draft : Draft)
    (marks more : List Mark) :
    draft.extend d (marks ++ more) =
      (draft.extend d marks).extend d more := by
  simp [extend, Mark.number_append, Lexeme.texts_append,
    UInt32.add_assoc, String.append_assoc]

end Draft

end RecordQuery
