import RecordQuery.Filter.Basic

/-
  Regions: how parentheses group the operators of a text.

  Key definitions include:
    * `RecordQuery.Text.unquoted`
    * `RecordQuery.Text.Balanced`
    * `RecordQuery.Sign.ofText`
    * `RecordQuery.Region`
    * `RecordQuery.Region.ofText?`

  Key theorems include:
    * `RecordQuery.Region.balanced_of_ofText?`

  A region is a whole text, or the inside of two matching
  parentheses, with the nested pairs taken out.  Nothing
  here knows how a filter is rendered: a text is read as it
  stands.
-/

------------------------------------------------------------
-- Outside Of Quoted Identifiers
------------------------------------------------------------

namespace RecordQuery

namespace Text

/-
  A text without the contents of its quoted identifiers,
  which may begin inside of one.  The quotes are kept.  A
  doubled quote ends an identifier and begins another one,
  with nothing in between.
-/
def unquoted
    (quote : Char) :
    Bool → List Char → List Char
| _, [] => []
| inside, c :: rest =>
    if c = quote then
      c :: unquoted quote (!inside) rest
    else if inside then
      unquoted quote inside rest
    else
      c :: unquoted quote inside rest

variable {quote : Char}

/- A text without quotes is kept. -/
theorem unquoted_append
    {text : List Char}
    (rest : List Char)
    (hText : quote ∉ text) :
    unquoted quote false (text ++ rest) =
      text ++ unquoted quote false rest := by
  induction text with
  | nil => rfl
  | cons c text ih =>
      rw [List.mem_cons, not_or] at hText
      rcases hText with ⟨hNe, hText⟩
      rw [List.cons_append, unquoted, if_neg (Ne.symm hNe),
        if_neg Bool.false_ne_true, ih hText]
      rfl

/- The first character outside of identifiers is kept. -/
theorem head?_unquoted
    (quote : Char)
    (text : List Char) :
    (unquoted quote false text).head? = text.head? := by
  cases text with
  | nil => rfl
  | cons c rest =>
      by_cases hQuote : c = quote
      · simp [unquoted, hQuote]
      · simp [unquoted, hQuote]

end Text

end RecordQuery

------------------------------------------------------------
-- Balanced Parentheses
------------------------------------------------------------

namespace RecordQuery

namespace Text

/-
  Parentheses are balanced when `depth` of them have been
  opened before: no beginning of the text closes more than
  has been opened, and the whole text closes all.
-/
structure BalancedAfter
    (depth : Nat)
    (text : List Char) :
    Prop where
  beginning :
    ∀ beginning, beginning <+: text →
      beginning.count ')' ≤ beginning.count '(' + depth
  whole : text.count ')' = text.count '(' + depth

/- The parentheses of a whole text are balanced. -/
def Balanced
    (text : List Char) :
    Prop :=
  BalancedAfter 0 text

/- Nothing has to be closed at the end. -/
theorem balancedAfter_nil :
    BalancedAfter 0 [] := by
  refine ⟨?_, rfl⟩
  intro beginning hBeginning
  rw [List.prefix_nil.mp hBeginning]
  exact Nat.le_refl 0

/-
  One more character in front changes how many parentheses
  have been opened before what follows.
-/
theorem BalancedAfter.cons
    {c : Char}
    {depth next : Nat}
    {text : List Char}
    (hText : BalancedAfter next text)
    (hDepth :
      [c].count ')' + next = [c].count '(' + depth) :
    BalancedAfter depth (c :: text) := by
  have hCons (parenthesis : Char) (rest : List Char) :
      (c :: rest).count parenthesis =
        [c].count parenthesis + rest.count parenthesis := by
    rw [← List.singleton_append, List.count_append]
  constructor
  · intro beginning hBeginning
    rcases List.prefix_cons_iff.mp hBeginning with
      rfl | ⟨shorter, rfl, hShorter⟩
    · exact Nat.zero_le _
    · have hLe := hText.beginning shorter hShorter
      rw [hCons ')' shorter, hCons '(' shorter]
      omega
  · have hWhole := hText.whole
    rw [hCons ')' text, hCons '(' text]
    omega

/- What follows an opening parenthesis closes it. -/
theorem BalancedAfter.opening
    {depth : Nat}
    {text : List Char}
    (hText : BalancedAfter (depth + 1) text) :
    BalancedAfter depth ('(' :: text) := by
  apply hText.cons
  simp [Nat.add_comm]

/- A closing parenthesis is one that has been opened. -/
theorem BalancedAfter.closing
    {depth : Nat}
    {text : List Char}
    (hText : BalancedAfter depth text) :
    BalancedAfter (depth + 1) (')' :: text) := by
  apply hText.cons
  simp [Nat.add_comm]

/- A character that is no parenthesis changes nothing. -/
theorem BalancedAfter.cons_of_ne
    {c : Char}
    {depth : Nat}
    {text : List Char}
    (hText : BalancedAfter depth text)
    (hOpening : c ≠ '(')
    (hClosing : c ≠ ')') :
    BalancedAfter depth (c :: text) := by
  apply hText.cons
  simp [hOpening, hClosing]

end Text

end RecordQuery

------------------------------------------------------------
-- Signs
------------------------------------------------------------

namespace RecordQuery

/- What groups, and what is grouped. -/
inductive Sign where
  | opening
  | closing
  | operator (operator : Operator)
  deriving DecidableEq, Repr

/- A letter, a digit or an underscore. -/
def Text.isWord
    (c : Char) :
    Bool :=
  c.isAlphanum || c == '_'

/-
  The operator that a word stands for, in upper or in lower
  case.
-/
def Operator.ofWord?
    (word : List Char) :
    Option Operator :=
  [Operator.not, .and, .or].find?
    (fun operator =>
      operator.text.toList == word.map Char.toUpper)

namespace Sign

/- The sign that a character is, if it is one. -/
def ofChar?
    (c : Char) :
    Option Sign :=
  if c = '(' then
    some .opening
  else if c = ')' then
    some .closing
  else if c = '=' then
    some (.operator .eq)
  else
    none

/- The sign that a word is, if it is one. -/
def ofWord
    (word : List Char) :
    List Sign :=
  (Operator.ofWord? word).toList.map .operator

/-
  The signs of a text that goes on with a word.  Words are
  as long as possible.
-/
def read : List Char → List Char → List Sign
| word, [] => ofWord word
| word, c :: rest =>
    if Text.isWord c then
      read (word ++ [c]) rest
    else
      ofWord word ++ ((ofChar? c).toList ++ read [] rest)

/- The signs of a text, outside of quoted identifiers. -/
def ofText
    (quote : Char)
    (text : List Char) :
    List Sign :=
  read [] (Text.unquoted quote false text)

/- What follows a word does not go on with it. -/
def Separated
    (rest : List Char) :
    Prop :=
  ∀ c, rest.head? = some c → Text.isWord c = false

/- Words that are not interrupted are one word. -/
theorem read_append
    {more : List Char}
    (word rest : List Char)
    (hMore : ∀ c ∈ more, Text.isWord c = true) :
    read word (more ++ rest) = read (word ++ more) rest := by
  induction more generalizing word with
  | nil => rw [List.nil_append, List.append_nil]
  | cons c more ih =>
      rcases List.forall_mem_cons.mp hMore with
        ⟨hHead, hTail⟩
      rw [List.cons_append, read, if_pos hHead,
        ih (word ++ [c]) hTail, List.append_assoc]
      rfl

/- A word ends before what is separated from it. -/
theorem read_of_separated
    {rest : List Char}
    (word : List Char)
    (hRest : Separated rest) :
    read word rest = ofWord word ++ read [] rest := by
  cases rest with
  | nil => rw [read, read, ofWord, ofWord]; simp; decide
  | cons c rest =>
      have hWord : Text.isWord c = false := hRest c rfl
      simp [read, hWord]
      decide

end Sign

end RecordQuery

------------------------------------------------------------
-- Regions
------------------------------------------------------------

namespace RecordQuery

/-
  The operators of a region from left to right, and the
  regions of the parentheses that have been taken out of it.
-/
structure Region where
  operators : List Operator
  inner : List Region
  deriving Repr

namespace Region

/- A region without operators and parentheses. -/
def empty : Region :=
  ⟨[], []⟩

/- A region that goes on with what is in another one. -/
def append
    (region more : Region) :
    Region :=
  ⟨region.operators ++ more.operators,
    region.inner ++ more.inner⟩

instance : Append Region :=
  ⟨append⟩

/- The parts are put one after the other. -/
@[simp] theorem mk_append_mk
    (operators more : List Operator)
    (inner others : List Region) :
    (⟨operators, inner⟩ : Region) ++ ⟨more, others⟩ =
      ⟨operators ++ more, inner ++ others⟩ :=
  rfl

/- The empty region adds nothing. -/
@[simp] theorem empty_append
    (region : Region) :
    empty ++ region = region := by
  rcases region with ⟨operators, inner⟩
  rfl

/- Regions may be continued in several goes. -/
theorem append_assoc
    (region more others : Region) :
    region ++ more ++ others = region ++ (more ++ others) := by
  rcases region with ⟨operators, inner⟩
  rcases more with ⟨moreOperators, moreInner⟩
  rcases others with ⟨otherOperators, otherInner⟩
  simp

/-
  The region of a text whose signs go on inside of the
  region `current`, which stands in `outer` ones, the
  nearest first.  There is none if the parentheses do not
  match.
-/
def nest :
    List Sign → Region → List Region → Option Region
| [], current, [] => some current
| [], _, _ :: _ => none
| .opening :: rest, current, outer =>
    nest rest empty (current :: outer)
| .closing :: _, _, [] => none
| .closing :: rest, current, parent :: outer =>
    nest rest (parent ++ ⟨[], [current]⟩) outer
| .operator operator :: rest, current, outer =>
    nest rest (current ++ ⟨[operator], []⟩) outer

/- The region that a whole text is. -/
def ofText?
    (quote : Char)
    (text : List Char) :
    Option Region :=
  nest (Sign.ofText quote text) empty []

/- Operators stay in the current region. -/
theorem nest_operators
    (operators : List Operator)
    (rest : List Sign)
    (current : Region)
    (outer : List Region) :
    nest (operators.map .operator ++ rest) current outer =
      nest rest (current ++ ⟨operators, []⟩) outer := by
  induction operators generalizing current with
  | nil =>
      rcases current with ⟨operators, inner⟩
      simp
  | cons operator operators ih =>
      rw [List.map_cons, List.cons_append, nest, ih,
        append_assoc]
      rfl

/- The text of a region has balanced parentheses. -/
theorem balancedAfter_of_nest
    {word text : List Char}
    {current region : Region}
    {outer : List Region}
    (hNest :
      nest (Sign.read word text) current outer =
        some region) :
    Text.BalancedAfter outer.length text := by
  -- Every outer region is one parenthesis to be closed.
  induction text generalizing word current outer with
  | nil =>
      rw [Sign.read, Sign.ofWord, ← List.append_nil
        (List.map _ _), nest_operators] at hNest
      cases outer with
      | nil => exact Text.balancedAfter_nil
      | cons parent outer => cases hNest
  | cons c rest ih =>
      rw [Sign.read] at hNest
      split at hNest
      · rename_i hWord
        apply (ih hNest).cons_of_ne
        · rintro rfl
          exact absurd hWord (by decide)
        · rintro rfl
          exact absurd hWord (by decide)
      · rw [Sign.ofWord, nest_operators] at hNest
        by_cases hOpening : c = '('
        · subst hOpening
          exact (ih hNest).opening
        · by_cases hClosing : c = ')'
          · subst hClosing
            cases outer with
            | nil => cases hNest
            | cons parent outer =>
                exact (ih hNest).closing
          · by_cases hEq : c = '='
            · subst hEq
              exact (ih hNest).cons_of_ne hOpening hClosing
            · rw [Sign.ofChar?, if_neg hOpening,
                if_neg hClosing, if_neg hEq] at hNest
              exact (ih hNest).cons_of_ne hOpening hClosing

/-
  The text of a region has balanced parentheses outside of
  its quoted identifiers.
-/
theorem balanced_of_ofText?
    {region : Region}
    {quote : Char}
    {text : List Char}
    (hRegion : ofText? quote text = some region) :
    Text.Balanced (Text.unquoted quote false text) :=
  balancedAfter_of_nest hRegion

/- Without parentheses all operators are in one region. -/
example :
    ofText? '\"' "not \"a)\" = $1 AND b = $2".toList =
      some ⟨[.not, .eq, .and, .eq], []⟩ := by
  rfl

end Region

end RecordQuery
