import RecordQuery.Fault
import RecordQuery.Text.Pieces
import Std.Data.ExtTreeMap

/-
  The tags of fields: directives of the form `key=value`,
  separated by commas.

  Key definitions include:
    * `RecordQuery.Directives`
    * `RecordQuery.Directives.read`
    * `RecordQuery.Directives.parse`

  Key theorems include:
    * `RecordQuery.Directives.read_append`

  Nothing is trimmed, keys and values may be empty, and keys
  that nobody reads are kept.  Of two directives with one
  key the later one counts.
-/

------------------------------------------------------------
-- Directives
------------------------------------------------------------

namespace RecordQuery

/- The values of the directives by their keys. -/
abbrev Directives : Type :=
  Std.ExtTreeMap String String

namespace Directives

/- The key of the directive that names a column. -/
def columnKey : String :=
  "column"

/-
  The key and the value of one segment, which contains
  exactly one equals sign.
-/
def segment
    (text : String) :
    Except Fault (String × String) :=
  match Text.pieces '=' text with
  | [key, value] => .ok (key, value)
  | _ => .error (.invalidTag text)

/- Add the directives of segments, in order. -/
def read
    (known : Directives) :
    List String → Except Fault Directives
| [] => .ok known
| text :: rest =>
    match segment text with
    | .error fault => .error fault
    | .ok (key, value) => read (known.insert key value) rest

/-
  The directives of a tag.  A missing tag has none, whereas
  an empty tag is one segment without an equals sign.
-/
def parse : Option String → Except Fault Directives
| none => .ok ∅
| some tag => read ∅ (Text.pieces ',' tag)

/- Segments are read one list after the other. -/
theorem read_append
    (known : Directives)
    (a b : List String) :
    read known (a ++ b) =
      match read known a with
      | .error fault => .error fault
      | .ok first => read first b := by
  induction a generalizing known with
  | nil => rfl
  | cons text rest ih =>
      rw [List.cons_append, read, read]
      cases segment text with
      | error fault => rfl
      | ok pair => exact ih _

end Directives

end RecordQuery
