import RecordQuery.Proofs.Sql.Unambiguity
import RecordQuery.Session.Basic

/-
  Quoted names are read back as they were given, whatever
  they are and whatever follows them.

  Key definitions include:
    * `RecordQuery.Text.ReadsAs`
    * `RecordQuery.Text.OpensWith`
    * `RecordQuery.Fragment.name?`

  Key theorems include:
    * `RecordQuery.Text.readsAs_iff`
    * `RecordQuery.Dialect.Legible.opensWith_quote_iff`
    * `RecordQuery.Fragment.progress_of_name?`
    * `RecordQuery.Dialect.quoted_name_is_read_back`

  A reader of SQL takes two quotes for one and leaves the
  name at the first quote that is not doubled.  No name can
  make it leave earlier or later.
-/

------------------------------------------------------------
-- Reading Quoted Names
------------------------------------------------------------

namespace RecordQuery

namespace Text

/-
  How characters are read after an opening quote, as a name
  and what follows it.  Two quotes mean one, the first quote
  that is not doubled closes the name, and all other
  characters mean themselves.
-/
inductive ReadsAs
    (quote : Char) :
    List Char → List Char → List Char → Prop where
  | closing
      {rest : List Char}
      (hRest : rest.head? ≠ some quote) :
      ReadsAs quote (quote :: rest) [] rest
  | twice
      {text name rest : List Char}
      (hText : ReadsAs quote text name rest) :
      ReadsAs quote (quote :: quote :: text)
        (quote :: name) rest
  | once
      {c : Char}
      {text name rest : List Char}
      (hNe : c ≠ quote)
      (hText : ReadsAs quote text name rest) :
      ReadsAs quote (c :: text) (c :: name) rest

variable {quote : Char}

/- What is written with doubled quotes is read back. -/
theorem readsAs_doubled
    {rest : List Char}
    (name : List Char)
    (hRest : rest.head? ≠ some quote) :
    ReadsAs quote (doubled quote name ++ quote :: rest)
      name rest := by
  induction name with
  | nil => exact .closing hRest
  | cons c name ih =>
      by_cases hHead : c = quote
      · subst hHead
        rw [doubled_cons_self]
        exact .twice ih
      · rw [doubled_cons_of_ne name hHead]
        exact .once hHead ih

/-
  Characters are read as a name exactly if they are that
  name with its quotes doubled and a closing quote.
-/
theorem readsAs_iff
    {text name rest : List Char} :
    ReadsAs quote text name rest ↔
      text = doubled quote name ++ quote :: rest ∧
        rest.head? ≠ some quote := by
  constructor
  · intro hReads
    induction hReads with
    | closing hRest => exact ⟨rfl, hRest⟩
    | twice hText ih =>
        rw [doubled_cons_self, ih.1]
        exact ⟨rfl, ih.2⟩
    | once hNe hText ih =>
        rw [doubled_cons_of_ne _ hNe, ih.1]
        exact ⟨rfl, ih.2⟩
  · rintro ⟨rfl, hRest⟩
    exact readsAs_doubled name hRest

/-
  A text that begins with a quoted name: an opening quote,
  then what is read as the name and the rest.
-/
def OpensWith
    (quote : Char)
    (text name rest : String) :
    Prop :=
  ∃ body,
    text.toList = quote :: body ∧
      ReadsAs quote body name.toList rest.toList

end Text

/-
  In a legible dialect a quoted name can be read in one way
  only, if no quote follows it.
-/
theorem Dialect.Legible.opensWith_quote_iff
    {d : Dialect}
    {quote : Char}
    (hLegible : d.Legible quote)
    {name rest : String}
    (hRest : rest.toList.head? ≠ some quote)
    (other more : String) :
    Text.OpensWith quote (d.quote name ++ rest) other more ↔
      other = name ∧ more = rest := by
  have hText :
      (d.quote name ++ rest).toList =
        quote ::
          (Text.doubled quote name.toList ++
            quote :: rest.toList) := by
    rw [String.toList_append, hLegible.toList_quote,
      List.cons_append, List.append_assoc,
      List.singleton_append]
  constructor
  · rintro ⟨body, hBody, hReads⟩
    rw [hText] at hBody
    cases hBody
    rcases Text.readsAs_iff.mp hReads with ⟨hSame, hMore⟩
    rcases
        Text.doubled_append_cons_inj hRest hMore hSame with
      ⟨hName, hRests⟩
    exact
      ⟨(String.toList_inj.mp hName).symm,
        (String.toList_inj.mp hRests).symm⟩
  · rintro ⟨rfl, rfl⟩
    exact ⟨_, hText, Text.readsAs_doubled _ hRest⟩

end RecordQuery

------------------------------------------------------------
-- Where Names Are Written
------------------------------------------------------------

namespace RecordQuery

namespace Fragment

/-
  The name that a fragment consists of: that of the table,
  that of the column of a field, or a name of its own.
-/
def name?
    (m : Mapping) :
    Fragment → Option String
| .column field => m.column? field
| .identifier name => some name
| .table => some m.table
| _ => none

/- Such a fragment writes the quoted name and no more. -/
theorem progress_of_name?
    {m : Mapping}
    {fragment : Fragment}
    {name : String}
    (d : Dialect)
    (draft : Draft)
    (hName : fragment.name? m = some name) :
    progress d m draft fragment =
      ⟨none,
        { draft with text := draft.text ++ d.quote name }⟩
    := by
  have hSome : fragment ≠ .placeholder := by
    rintro rfl
    cases hName
  have hEmission :
      fragment.emission m = .ofMark (.identifier name) := by
    cases fragment with
    | column field =>
        have hColumn : m.column? field = some name := hName
        rw [emission, Mapping.emission, Mapping.column,
          hColumn]
    | identifier own =>
        cases hName
        rfl
    | table =>
        cases hName
        rfl
    | expr | argument | placeholder | substituted | select =>
        cases hName
  rw [progress_eq d m draft hSome, hEmission]
  simp only [Emission.progress, Emission.ofMark,
    Draft.extend_identifier]

end Fragment

end RecordQuery

------------------------------------------------------------
-- No Name Leaves Its Quotes
------------------------------------------------------------

namespace RecordQuery

namespace Dialect

/-
  In the named dialects two quoted names, each with
  something behind it that does not begin with a quote, are
  written alike only if they are the same name with the same
  rest, and each is read as itself.  Tables, columns and the
  identifiers of a database are quoted in this way.
-/
theorem quoted_name_is_read_back
    {d : Dialect}
    {quote : Char}
    {name other rest more : String}
    (hDialect :
      d = .generic ∧ quote = '\x60' ∨
        d = .postgres ∧ quote = '\"')
    (hRest : rest.toList.head? ≠ some quote)
    (hMore : more.toList.head? ≠ some quote) :
    (d.quote name ++ rest = d.quote other ++ more →
      name = other ∧ rest = more) ∧
    (∀ own left,
      Text.OpensWith quote (d.quote name ++ rest) own left ↔
        own = name ∧ left = rest) ∧
    (∀ (m : Mapping) (draft : Draft) (fragment : Fragment),
      fragment.name? m = some name →
        Fragment.progress d m draft fragment =
          ⟨none,
            { draft with
              text := draft.text ++ d.quote name }⟩) ∧
    (∀ (s : Session) (index registry : Nat),
      s.databases[index]? = some ⟨registry, d⟩ →
        (s.step (.quote index name)).answer =
          .text (d.quote name)) := by
  have hLegible : d.Legible quote := by
    rcases hDialect with ⟨rfl, rfl⟩ | ⟨rfl, rfl⟩
    · exact legible_generic
    · exact legible_postgres
  refine
    ⟨?_, hLegible.opensWith_quote_iff hRest, ?_, ?_⟩
  · intro hSame
    have hChars := congrArg String.toList hSame
    rw [String.toList_append, String.toList_append] at hChars
    rcases hLegible.quote_append_inj hRest hMore hChars with
      ⟨hName, hRests⟩
    exact ⟨hName, String.toList_inj.mp hRests⟩
  · intro m draft fragment hName
    exact Fragment.progress_of_name? d draft hName
  · intro s index registry hDatabase
    rw [Session.step, hDatabase]
    rfl

/-
  A name that is one quote and a name of two quotes are told
  apart, and the first is read as itself although it looks
  like the end of an empty name.
-/
theorem quoted_name_is_read_back_of_quotes :
    postgres.quote "\"" ++ " x" ≠
        postgres.quote "\"\"" ++ " x" ∧
      Text.OpensWith '\"' "\"\"\"\" x" "\"" " x" ∧
      Fragment.progress postgres ⟨"\"", ∅⟩ .empty .table =
        ⟨none, ⟨"\"\"\"\"", 0, []⟩⟩ := by
  have hLaw :=
    @quoted_name_is_read_back postgres '\"' "\"" "\"\""
      " x" " x" (Or.inr ⟨rfl, rfl⟩) (by decide) (by decide)
  refine
    ⟨fun hSame => absurd (hLaw.1 hSame).1 (by decide),
      (hLaw.2.1 _ _).mpr ⟨rfl, rfl⟩, ?_⟩
  exact hLaw.2.2.1 ⟨"\"", ∅⟩ .empty .table rfl

end Dialect

end RecordQuery
