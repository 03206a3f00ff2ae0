import RecordQuery.Fault

/-
  The events that are logged.

  Key definitions include:
    * `RecordQuery.Level`
    * `RecordQuery.Event`
    * `RecordQuery.Event.level`
    * `RecordQuery.Event.text`
    * `RecordQuery.LogRecord`
    * `RecordQuery.Event.record`

  Whoever reads the log sees records: the events themselves
  are not in it.
-/

------------------------------------------------------------
-- Events
------------------------------------------------------------

namespace RecordQuery

/- How much an event matters. -/
inductive Level where
  | warn
  | debug
  | trace
  deriving DecidableEq, Repr

/-
  A rejected target, a failure, a stored mapping, a mapping
  found among the stored ones, and a finished statement.
-/
inductive Event where
  | rejected
  | failed (failure : Failure)
  | registered (name table : String) (fields : Nat)
  | found (name : String)
  | built (sql : String) (args : List Argument)
  deriving DecidableEq, Repr

namespace Event

/- The level that an event is logged at. -/
def level : Event → Level
| .rejected => .warn
| .failed _ => .warn
| .registered _ _ _ => .debug
| .found _ => .trace
| .built _ _ => .trace

/- The texts of arguments, separated by commas. -/
def argumentsText
    (args : List Argument) :
    String :=
  String.intercalate ", " (args.map Argument.text)

/- The text that is logged for an event. -/
def text : Event → String
| .rejected =>
    "Rejected registration of a value that is not a " ++
      "pointer to a struct"
| .failed failure => failure.report
| .registered name table fields =>
    "Registered `" ++ name ++ "` as table `" ++ table ++
      "` with " ++ Text.natural fields ++ " fields"
| .found name =>
    "Model of `" ++ name ++ "` found in cache"
| .built sql args =>
    "Built query: " ++ sql ++ " args: [" ++
      argumentsText args ++ "]"

end Event

/- What is in the log: a level and a text. -/
structure LogRecord where
  level : Level
  text : String
  deriving DecidableEq, Repr

/- The record that is logged for an event. -/
def Event.record
    (e : Event) :
    LogRecord :=
  ⟨e.level, e.text⟩

end RecordQuery
