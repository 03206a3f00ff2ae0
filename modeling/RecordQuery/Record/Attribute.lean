/-
  Attributes as they are written above record types and
  their fields.

  Key definitions include:
    * `RecordQuery.Identifier`
    * `RecordQuery.Token`
    * `RecordQuery.Attribute`
    * `RecordQuery.Attribute.isMapping`
    * `RecordQuery.Attribute.textArgument?`
    * `RecordQuery.Attribute.nameArgument?`
-/

------------------------------------------------------------
-- Identifiers
------------------------------------------------------------

namespace RecordQuery

/-
  An identifier.  A raw one is written with a mark in front,
  which makes it different from the plain identifier and
  allows it to be a reserved word.
-/
structure Identifier where
  name : String
  raw : Bool
  deriving DecidableEq, Repr

namespace Identifier

/- The mark of raw identifiers. -/
def rawMark : List Char :=
  ['r', '#']

/- The identifier that a text spells. -/
def ofString
    (text : String) :
    Identifier :=
  if rawMark.isPrefixOf text.toList then
    ⟨String.ofList (text.toList.drop rawMark.length),
      true⟩
  else
    ⟨text, false⟩

/- The spelling of an identifier, with its mark. -/
def text
    (i : Identifier) :
    String :=
  if i.raw then
    String.ofList rawMark ++ i.name
  else
    i.name

/- The words that are identifiers only if they are raw. -/
def reserved : List String :=
  ["_", "abstract", "as", "async", "await", "become", "box",
    "break", "const", "continue", "crate", "do", "dyn",
    "else", "enum", "extern", "false", "final", "fn", "for",
    "if", "impl", "in", "let", "loop", "macro", "match",
    "mod", "move", "mut", "override", "priv", "pub", "ref",
    "return", "Self", "self", "static", "struct", "super",
    "trait", "true", "try", "type", "typeof", "unsafe",
    "unsized", "use", "virtual", "where", "while", "yield"]

/- Whether an identifier is one of the reserved words. -/
def isReserved
    (i : Identifier) :
    Bool :=
  !i.raw && reserved.contains i.name

end Identifier

end RecordQuery

------------------------------------------------------------
-- Attributes
------------------------------------------------------------

namespace RecordQuery

/-
  The tokens that stand inside attributes.  Tokens that are
  grouped by delimiters of their own are left out: an
  attribute that holds a group holds neither a single text
  nor a single identifier.
-/
inductive Token where
  | text (value : String)
  | bytes (value : String)
  | number (value : String)
  | name (value : Identifier)
  | punctuation (value : String)
  deriving DecidableEq, Repr

/- The delimiters around a list of tokens. -/
inductive Delimiter where
  | parenthesis
  | bracket
  | brace
  deriving DecidableEq, Repr

/- What follows the path of an attribute. -/
inductive AttributeForm where
  | bare
  | assigned (value : Token)
  | delimited (delimiter : Delimiter) (tokens : List Token)
  deriving DecidableEq, Repr

/-
  A path and what follows it.  A path with separators in
  front is left out: it is never that of the mapping, as it
  is no single identifier.
-/
structure Attribute where
  path : List Identifier
  form : AttributeForm
  deriving DecidableEq, Repr

namespace Attribute

/- The path of the attributes that concern the mapping. -/
def mappingPath : List Identifier :=
  [⟨"orm", false⟩]

/- Whether an attribute concerns the mapping. -/
def isMapping
    (a : Attribute) :
    Bool :=
  a.path == mappingPath

/- The single text between delimiters. -/
def textArgument?
    (a : Attribute) :
    Option String :=
  match a.form with
  | .delimited _ [.text value] => some value
  | _ => none

/- The single identifier between delimiters. -/
def nameArgument?
    (a : Attribute) :
    Option Identifier :=
  match a.form with
  | .delimited _ [.name value] =>
      if value.isReserved then none else some value
  | _ => none

end Attribute

end RecordQuery
