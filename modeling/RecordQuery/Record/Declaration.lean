import RecordQuery.Record.Attribute
import RecordQuery.Record.Target

/-
  Declarations of record types and what they declare.

  Key definitions include:
    * `RecordQuery.DeclarationFault`
    * `RecordQuery.FieldDeclaration.member`
    * `RecordQuery.Declaration.suppliesTableName`
    * `RecordQuery.Declaration.outline`

  A field takes its tag from its one mapping attribute.  A
  record type is marked by a mapping attribute if it
  supplies its table name itself.
-/

------------------------------------------------------------
-- Faults Of Declarations
------------------------------------------------------------

namespace RecordQuery

/- What can be wrong with a declaration. -/
inductive DeclarationFault where
  | unnamedField
  | fieldUsage (field : String)
  | repeatedTag (field : String)
  | recordUsage (record : Identifier)
  | unknownMark (mark : Identifier)
  deriving DecidableEq, Repr

/- The wording of a fault of a declaration. -/
def DeclarationFault.message :
    DeclarationFault → String
| .unnamedField =>
    "Entity can only be derived for structs " ++
      "with named fields"
| .fieldUsage field =>
    "Error while parsing `orm` on field `" ++ field ++
      "`, use it like: `#[orm(\"column=my_column\")]`"
| .repeatedTag field =>
    "Field `" ++ field ++
      "` has more than one `orm` attribute"
| .recordUsage record =>
    "Error while parsing `orm` on `" ++ record.text ++
      "`, use it like: `#[orm(table_name)]`"
| .unknownMark mark =>
    "Unknown attribute `" ++ mark.text ++
      "` inside orm macro"

end RecordQuery

------------------------------------------------------------
-- Fields
------------------------------------------------------------

namespace RecordQuery

/- A declared field; fields of tuples have no identifier. -/
structure FieldDeclaration where
  identifier : Option Identifier
  attributes : List Attribute
  deriving DecidableEq, Repr

namespace FieldDeclaration

/-
  The tag among the attributes of a field, checked in order:
  each one has to be valid before it can be one too many.
-/
def readTag
    (field : String)
    (tag : Option String) :
    List Attribute →
      Except DeclarationFault (Option String)
| [] => .ok tag
| a :: rest =>
    if a.isMapping then
      match a.textArgument?, tag with
      | none, _ => .error (.fieldUsage field)
      | some _, some _ => .error (.repeatedTag field)
      | some value, none => readTag field (some value) rest
    else
      readTag field tag rest

/- The field that a declaration declares. -/
def member
    (d : FieldDeclaration) :
    Except DeclarationFault Member :=
  match d.identifier with
  | none => .error .unnamedField
  | some identifier =>
      match readTag identifier.name none d.attributes with
      | .error fault => .error fault
      | .ok tag => .ok ⟨identifier.name, tag⟩

end FieldDeclaration

end RecordQuery

------------------------------------------------------------
-- Record Types
------------------------------------------------------------

namespace RecordQuery

/- A declared record type. -/
structure Declaration where
  identifier : Identifier
  attributes : List Attribute
  fields : List FieldDeclaration
  deriving DecidableEq, Repr

namespace Declaration

/- The mark of types that supply their table name. -/
def tableNameMark : Identifier :=
  ⟨"table_name", false⟩

/-
  Whether a mapping attribute marks the record type.  The
  first one decides: it is either the mark or a fault.
-/
def readMark
    (record : Identifier) :
    List Attribute → Except DeclarationFault Bool
| [] => .ok false
| a :: rest =>
    if a.isMapping then
      match a.nameArgument? with
      | none => .error (.recordUsage record)
      | some mark =>
          if mark = tableNameMark then
            .ok true
          else
            .error (.unknownMark mark)
    else
      readMark record rest

/- Whether instances supply their table name themselves. -/
def suppliesTableName
    (d : Declaration) :
    Except DeclarationFault Bool :=
  readMark d.identifier d.attributes

/- The fields that a declaration declares, in order. -/
def members :
    List FieldDeclaration →
      Except DeclarationFault (List Member)
| [] => .ok []
| field :: rest =>
    match field.member, members rest with
    | .error fault, _ => .error fault
    | .ok _, .error fault => .error fault
    | .ok first, .ok others => .ok (first :: others)

end Declaration

/- What a declaration says about a record type. -/
structure Outline where
  layout : Layout
  suppliesTableName : Bool
  deriving DecidableEq, Repr

/- The outline of a declared record type. -/
def Declaration.outline
    (d : Declaration) :
    Except DeclarationFault Outline :=
  match d.suppliesTableName with
  | .error fault => .error fault
  | .ok supplies =>
      match members d.fields with
      | .error fault => .error fault
      | .ok members =>
          .ok ⟨⟨d.identifier.name, members⟩, supplies⟩

/-
  An instance of an outlined type.  The name that its code
  gives to its table counts only if the type is marked.
-/
def Outline.record
    (o : Outline)
    (key : String)
    (ownTableName : Option String) :
    Record where
  key := key
  layout := o.layout
  tableName :=
    if o.suppliesTableName then ownTableName else none

end RecordQuery
