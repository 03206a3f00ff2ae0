import RecordQuery.Filter.Basic

/-
  What can be wrong with the input of a registry or of a
  query.

  Key definitions include:
    * `RecordQuery.Fault`
    * `RecordQuery.Fault.message`
    * `RecordQuery.Failure`
    * `RecordQuery.Failure.summary`
    * `RecordQuery.Failure.report`

  A fault is a cause.  A failure adds, where there is one,
  the record type whose registration it ended.
-/

------------------------------------------------------------
-- Faults
------------------------------------------------------------

namespace RecordQuery

/- The causes of failures. -/
inductive Fault where
  | notRecordPointer
  | invalidTag (segment : String)
  | unknownField (field : String)
  | malformedPredicate (operator : Operator)
  deriving DecidableEq, Repr

/- The wording of a cause. -/
def Fault.message : Fault → String
| .notRecordPointer =>
    "only a single-level pointer to a struct " ++
      "can be registered"
| .invalidTag segment =>
    "invalid tag content `" ++ segment ++ "`"
| .unknownField field =>
    "unknown field `" ++ field ++ "`"
| .malformedPredicate operator =>
    "malformed `" ++ operator.text ++ "` predicate"

end RecordQuery

------------------------------------------------------------
-- Failures
------------------------------------------------------------

namespace RecordQuery

/-
  A fault, with the name of the record type that was being
  registered when it came up.
-/
structure Failure where
  fault : Fault
  registering : Option String
  deriving DecidableEq, Repr

namespace Failure

/- A fault that came up outside of a registration. -/
def ofFault
    (fault : Fault) :
    Failure :=
  ⟨fault, none⟩

/- The activity that a registration fault ended. -/
def activity
    (name : String) :
    String :=
  "While registering `" ++ name ++ "`"

/- The outermost message of a failure. -/
def summary
    (f : Failure) :
    String :=
  match f.registering with
  | none => f.fault.message
  | some name => activity name

/- The activity, if any, and the cause. -/
def report
    (f : Failure) :
    String :=
  match f.registering with
  | none => f.fault.message
  | some name => activity name ++ ": " ++ f.fault.message

end Failure

end RecordQuery
