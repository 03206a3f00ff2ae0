/-
  Record types, their instances, and the values that can be
  handed to a registry.

  Key definitions include:
    * `RecordQuery.Layout`
    * `RecordQuery.Record`
    * `RecordQuery.Target`
    * `RecordQuery.Target.record?`

  The key of a record tells its type apart from every other
  type, also from one of equal layout.
-/

------------------------------------------------------------
-- Records
------------------------------------------------------------

namespace RecordQuery

/- A field of a record type and its tag, if it has one. -/
structure Member where
  name : String
  tag : Option String
  deriving DecidableEq, Repr

/- The name of a record type and its fields in order. -/
structure Layout where
  name : String
  members : List Member
  deriving DecidableEq, Repr

/-
  An instance of a record type: the identity of the type,
  its layout, and the table name that the instance supplies
  itself, if it does.
-/
structure Record where
  key : String
  layout : Layout
  tableName : Option String
  deriving DecidableEq, Repr

end RecordQuery

------------------------------------------------------------
-- Targets
------------------------------------------------------------

namespace RecordQuery

/- The kinds of pointers. -/
inductive PointerKind where
  | borrowed
  | exclusive
  | owned
  | counted
  | shared
  deriving DecidableEq, Repr

/- The shape of a value handed to a registry. -/
inductive Target where
  | record (record : Record)
  | pointer (kind : PointerKind) (pointee : Target)
  | map
  | sequence
  | scalar
  deriving DecidableEq, Repr

/- The record behind exactly one pointer. -/
def Target.record? : Target → Option Record
| .pointer _ (.record r) => some r
| _ => none

end RecordQuery
