/-
  Replacing one character in a text while it is copied.

  Key definitions include:
    * `RecordQuery.Text.slice?`
    * `RecordQuery.Text.placed`
    * `RecordQuery.Text.replaced`
    * `RecordQuery.Text.Copy.visit`
    * `RecordQuery.Text.writeSubstituted?`
    * `RecordQuery.Text.writeSubstituted`
    * `RecordQuery.Text.substitute`

  Key theorems include:
    * `RecordQuery.Text.slice?_eq_some_iff`
    * `RecordQuery.Text.Copy.Reaches.visit`
    * `RecordQuery.Text.Copy.Reaches.run`
    * `RecordQuery.Text.exists_visitAll_of_append`
    * `RecordQuery.Text.writeSubstituted?_eq_some`

  The text is not copied by characters but by the slices
  between the replaced ones, and slices are given by byte
  positions.  A slice that begins or ends inside a character
  or ends before it begins cannot be taken, and copying
  would stop there.
-/

------------------------------------------------------------
-- Slices
------------------------------------------------------------

namespace RecordQuery

namespace Text

/-
  The characters before a byte position and those behind it,
  if it is a boundary of characters.
-/
def cutAt? :
    Nat → List Char → Option (List Char × List Char)
| 0, text => some ([], text)
| _ + 1, [] => none
| offset + 1, c :: rest =>
    if c.utf8Size ≤ offset + 1 then
      (cutAt? (offset + 1 - c.utf8Size) rest).map
        (Prod.map (c :: ·) id)
    else
      none

/-
  The part of a text between two byte positions, if both are
  boundaries of characters and in order.
-/
def slice?
    (text : String)
    (start stop : Nat) :
    Option String :=
  if start ≤ stop then do
    let (_, rest) ← cutAt? start text.toList
    let (piece, _) ← cutAt? (stop - start) rest
    some (String.ofList piece)
  else
    none

/- The bytes of a text are those of its characters. -/
theorem utf8ByteSize_ofList_cons
    (c : Char)
    (rest : List Char) :
    (String.ofList (c :: rest)).utf8ByteSize =
      c.utf8Size + (String.ofList rest).utf8ByteSize := by
  rw [String.ofList_cons, String.utf8ByteSize_append,
    String.utf8ByteSize_singleton]

/- Behind its beginning a text is cut after a character. -/
theorem cutAt?_cons
    {offset : Nat}
    (c : Char)
    (rest : List Char)
    (hOffset : 0 < offset) :
    cutAt? offset (c :: rest) =
      if c.utf8Size ≤ offset then
        (cutAt? (offset - c.utf8Size) rest).map
          (Prod.map (c :: ·) id)
      else
        none := by
  cases offset with
  | zero => exact absurd hOffset (Nat.lt_irrefl 0)
  | succ offset => rfl

/- The size of the first characters is a boundary. -/
theorem cutAt?_append
    (before after : List Char) :
    cutAt? (String.ofList before).utf8ByteSize
        (before ++ after) =
      some (before, after) := by
  induction before with
  | nil => simp [cutAt?]
  | cons c rest ih =>
      have hSize := utf8ByteSize_ofList_cons c rest
      have hChar := c.utf8Size_pos
      rw [List.cons_append, cutAt?_cons _ _ (by omega),
        if_pos (by omega), hSize, Nat.add_sub_cancel_left,
        ih]
      rfl

/- A boundary is the size of the characters before it. -/
theorem eq_append_of_cutAt?
    {offset : Nat}
    {text before after : List Char}
    (hCut : cutAt? offset text = some (before, after)) :
    text = before ++ after ∧
      offset = (String.ofList before).utf8ByteSize := by
  induction text generalizing offset before with
  | nil =>
      cases offset with
      | zero =>
          cases hCut
          exact ⟨rfl, rfl⟩
      | succ offset => cases hCut
  | cons c rest ih =>
      rcases Nat.eq_zero_or_pos offset with rfl | hOffset
      · cases hCut
        exact ⟨rfl, rfl⟩
      · rw [cutAt?_cons c rest hOffset] at hCut
        split at hCut
        · rename_i hFits
          rcases Option.map_eq_some_iff.mp hCut with
            ⟨⟨others, more⟩, hRest, hEq⟩
          cases hEq
          rcases ih hRest with ⟨rfl, hSize⟩
          refine ⟨rfl, ?_⟩
          rw [utf8ByteSize_ofList_cons]
          omega
        · cases hCut

/-
  Slices are what stands between two other parts of a text,
  and their positions are the sizes of what is before them.
-/
theorem slice?_eq_some_iff
    {text piece : String}
    {start stop : Nat} :
    slice? text start stop = some piece ↔
      ∃ before after,
        text = before ++ piece ++ after ∧
          start = before.utf8ByteSize ∧
          stop = (before ++ piece).utf8ByteSize := by
  constructor
  · intro hSlice
    unfold slice? at hSlice
    split at hSlice
    · rename_i hOrder
      simp only [Option.bind_eq_bind,
        Option.bind_eq_some_iff] at hSlice
      rcases hSlice with
        ⟨⟨before, rest⟩, hStart, ⟨chars, after⟩, hStop, hEq⟩
      cases hEq
      rcases eq_append_of_cutAt? hStart with ⟨hText, rfl⟩
      rcases eq_append_of_cutAt? hStop with ⟨rfl, hSize⟩
      refine
        ⟨String.ofList before, String.ofList after, ?_, rfl,
          ?_⟩
      · rw [← String.ofList_append, ← String.ofList_append,
          List.append_assoc, ← hText, String.ofList_toList]
      · rw [String.utf8ByteSize_append, ← hSize]
        omega
    · cases hSlice
  · rintro ⟨before, after, rfl, rfl, rfl⟩
    have hStart :=
      cutAt?_append before.toList
        (piece.toList ++ after.toList)
    have hStop := cutAt?_append piece.toList after.toList
    rw [String.ofList_toList] at hStart hStop
    rw [slice?, String.utf8ByteSize_append,
      if_pos (Nat.le_add_right ..), Nat.add_sub_cancel_left,
      String.toList_append, String.toList_append,
      List.append_assoc, hStart]
    simp [hStop]

/- What stands in the middle of a text is a slice of it. -/
theorem slice?_append
    (before piece after : String) :
    slice? (before ++ piece ++ after) before.utf8ByteSize
        (before ++ piece).utf8ByteSize =
      some piece :=
  slice?_eq_some_iff.mpr ⟨before, after, rfl, rfl, rfl⟩

/-
  The slices that can be taken are those between boundaries
  of characters, within the text and in order.
-/
theorem exists_slice?_iff
    {text : String}
    {start stop : Nat} :
    (∃ piece, slice? text start stop = some piece) ↔
      start ≤ stop ∧
        String.Pos.Raw.IsValid text ⟨start⟩ ∧
        String.Pos.Raw.IsValid text ⟨stop⟩ := by
  simp only [slice?_eq_some_iff,
    String.Pos.Raw.isValid_iff_exists_append]
  constructor
  · rintro ⟨piece, before, after, hText, rfl, rfl⟩
    refine ⟨?_, ⟨before, piece ++ after, ?_, rfl⟩, ?_⟩
    · rw [String.utf8ByteSize_append]
      exact Nat.le_add_right ..
    · rw [hText, String.append_assoc]
    · exact ⟨before ++ piece, after, hText, rfl⟩
  · rintro
      ⟨hOrder, ⟨before, rest, hText, hStart⟩,
        ⟨upTo, after, hOther, hStop⟩⟩
    have hPiece :
        ∃ piece, upTo = before ++ piece ∧
          rest = piece ++ after := by
      let first : text.Pos :=
        ⟨⟨start⟩,
          String.Pos.Raw.isValid_iff_exists_append.mpr
            ⟨before, rest, hText, hStart⟩⟩
      let last : text.Pos :=
        ⟨⟨stop⟩,
          String.Pos.Raw.isValid_iff_exists_append.mpr
            ⟨upTo, after, hOther, hStop⟩⟩
      have hFirst : first.Splits before rest :=
        ⟨hText, hStart⟩
      have hLast : last.Splits upTo after :=
        ⟨hOther, hStop⟩
      exact
        (hFirst.le_iff_exists_eq_append hLast).mp hOrder
    rcases hPiece with ⟨piece, rfl, rfl⟩
    exact
      ⟨piece, before, after, hOther,
        congrArg String.Pos.Raw.byteIdx hStart,
        congrArg String.Pos.Raw.byteIdx hStop⟩

end Text

end RecordQuery

------------------------------------------------------------
-- Replacing Characters
------------------------------------------------------------

namespace RecordQuery

namespace Text

/- What is written for one character. -/
def substitutedChar
    (search : Char)
    (replacement : String)
    (c : Char) :
    String :=
  if c = search then
    replacement
  else
    String.singleton c

/- The characters that are written for one character. -/
theorem toList_substitutedChar
    (search : Char)
    (replacement : String)
    (c : Char) :
    (substitutedChar search replacement c).toList =
      if c = search then replacement.toList else [c] := by
  unfold substitutedChar
  split
  · rfl
  · exact String.toList_singleton c

/- A text whose characters are replaced one by one. -/
def replaced
    (search : Char)
    (replacement text : String) :
    String :=
  String.join
    (text.toList.map (substitutedChar search replacement))

variable {search : Char}
variable {replacement : String}

/- The characters of two texts are replaced separately. -/
theorem replaced_append
    (text rest : String) :
    replaced search replacement (text ++ rest) =
      replaced search replacement text ++
        replaced search replacement rest := by
  unfold replaced
  rw [String.toList_append, List.map_append,
    String.join_append]

/- A replaced character gives the replacement. -/
theorem replaced_singleton_self :
    replaced search replacement (String.singleton search) =
      replacement := by
  simp [replaced, substitutedChar]

/- Other characters are kept. -/
theorem replaced_of_notMem
    {text : String}
    (hText : search ∉ text.toList) :
    replaced search replacement text = text := by
  have hKept :
      text.toList.map (substitutedChar search replacement) =
        text.toList.map String.singleton := by
    apply List.map_congr_left
    intro c hMem
    apply if_neg
    rintro rfl
    exact hText hMem
  unfold replaced
  rw [hKept]
  apply String.toList_inj.mp
  rw [String.toList_join, List.flatMap_map]
  simp

end Text

end RecordQuery

------------------------------------------------------------
-- Copying
------------------------------------------------------------

namespace RecordQuery

namespace Text

/- The characters of a text and where each one begins. -/
def placed
    (start : Nat) :
    List Char → List (Nat × Char)
| [] => []
| c :: rest => (start, c) :: placed (start + c.utf8Size) rest

/-
  What has been written while a text is copied, and the
  position up to which the text is in it.
-/
structure Copy where
  out : String
  position : Nat
  deriving DecidableEq, Repr

/-
  Go on to a character.  One that is to be replaced ends the
  slice that has not been written yet, and the next slice
  begins behind it.
-/
def Copy.visit
    (search : Char)
    (replacement text : String)
    (copy : Copy) :
    Nat × Char → Option Copy
| (start, c) =>
    if c = search then do
      let piece ← slice? text copy.position start
      some
        ⟨copy.out ++ piece ++ replacement,
          start + c.utf8Size⟩
    else
      some copy

/- Go on through all characters in order. -/
def Copy.visitAll
    (search : Char)
    (replacement text : String) :
    Copy → List (Nat × Char) → Option Copy :=
  List.foldlM (Copy.visit search replacement text)

/-
  Copy a text behind what has been written already, with one
  character replaced, unless some slice cannot be taken.
-/
def writeSubstituted?
    (search : Char)
    (replacement text out : String) :
    Option String := do
  let copy ←
    Copy.visitAll search replacement text ⟨out, 0⟩
      (placed 0 text.toList)
  let rest ←
    slice? text copy.position text.utf8ByteSize
  some (copy.out ++ rest)

/-
  A copy that has come to the end of a part of a text: what
  it has written is the substitution of all but a rest, and
  nothing in that rest is to be replaced.
-/
inductive Copy.Reaches
    (search : Char)
    (replacement out : String) :
    String → Copy → Prop where
  | intro
      (copied rest : String)
      (hRest : search ∉ rest.toList) :
      Copy.Reaches search replacement out (copied ++ rest)
        ⟨out ++ replaced search replacement copied,
          copied.utf8ByteSize⟩

variable {search : Char}
variable {replacement text out : String}

/- A copy begins before the first character. -/
theorem Copy.reaches_start
    (search : Char)
    (replacement out : String) :
    Copy.Reaches search replacement out "" ⟨out, 0⟩ := by
  have hStart :=
    @Copy.Reaches.intro search replacement out "" ""
      List.not_mem_nil
  rw [replaced_of_notMem List.not_mem_nil,
    String.append_empty, String.append_empty,
    String.utf8ByteSize_empty] at hStart
  exact hStart

/- Every copy goes on to the next character. -/
theorem Copy.Reaches.visit
    {before after : String}
    {c : Char}
    {copy : Copy}
    (hText : text = before ++ String.singleton c ++ after)
    (hCopy : copy.Reaches search replacement out before) :
    ∃ next,
      copy.visit search replacement text
          (before.utf8ByteSize, c) =
        some next ∧
      next.Reaches search replacement out
        (before ++ String.singleton c) := by
  rcases hCopy with ⟨copied, rest, hRest⟩
  by_cases hFound : c = search
  · subst hFound
    have hSlice :=
      slice?_append copied rest (String.singleton c ++ after)
    rw [← String.append_assoc, ← hText] at hSlice
    have hNext :=
      @Copy.Reaches.intro c replacement out
        (copied ++ rest ++ String.singleton c) ""
        List.not_mem_nil
    rw [replaced_append, replaced_append,
      replaced_singleton_self, replaced_of_notMem hRest,
      String.append_empty] at hNext
    refine ⟨_, ?_, hNext⟩
    rw [Copy.visit, if_pos rfl, hSlice]
    simp [String.append_assoc]
  · refine ⟨_, if_neg hFound, ?_⟩
    rw [String.append_assoc]
    apply Copy.Reaches.intro
    rw [String.toList_append, List.mem_append]
    rintro (hMem | hMem)
    · exact hRest hMem
    · rw [String.toList_singleton,
        List.mem_singleton] at hMem
      exact hFound hMem.symm

/-
  By induction on the characters: every copy comes to the
  end of the part of the text that is made of them.
-/
theorem Copy.Reaches.run
    {before after : String}
    {copy : Copy}
    (middle : List Char)
    (hText :
      text = before ++ String.ofList middle ++ after)
    (hCopy : copy.Reaches search replacement out before) :
    ∃ next,
      copy.visitAll search replacement text
          (placed before.utf8ByteSize middle) =
        some next ∧
      next.Reaches search replacement out
        (before ++ String.ofList middle) := by
  induction middle generalizing before copy with
  | nil =>
      refine ⟨copy, rfl, ?_⟩
      rw [String.ofList_nil, String.append_empty]
      exact hCopy
  | cons c others ih =>
      rw [String.ofList_cons, ← String.append_assoc]
        at hText ⊢
      have hHead :
          text =
            before ++ String.singleton c ++
              (String.ofList others ++ after) := by
        rw [hText, String.append_assoc]
      rcases hCopy.visit hHead with ⟨next, hVisit, hNext⟩
      rcases ih hText hNext with ⟨last, hRun, hLast⟩
      refine ⟨last, ?_, hLast⟩
      rw [String.utf8ByteSize_append,
        String.utf8ByteSize_singleton] at hRun
      rw [placed, Copy.visitAll, List.foldlM_cons, hVisit]
      exact hRun

/-
  After some of the characters a copy has written all but a
  rest of them, which is the slice up to the next character.
-/
theorem exists_visitAll_of_append
    (search : Char)
    (replacement out before after : String) :
    ∃ copied rest,
      before = copied ++ rest ∧
      search ∉ rest.toList ∧
      Copy.visitAll search replacement (before ++ after)
          ⟨out, 0⟩ (placed 0 before.toList) =
        some
          ⟨out ++ replaced search replacement copied,
            copied.utf8ByteSize⟩ ∧
      slice? (before ++ after) copied.utf8ByteSize
          before.utf8ByteSize =
        some rest := by
  have hText :
      before ++ after =
        "" ++ String.ofList before.toList ++ after := by
    simp
  rcases
      (Copy.reaches_start search replacement out).run
        before.toList hText with
    ⟨copy, hRun, hCopy⟩
  rw [String.ofList_toList, String.empty_append] at hCopy
  rw [String.utf8ByteSize_empty] at hRun
  cases hCopy with
  | intro copied rest hRest =>
      exact
        ⟨copied, rest, rfl, hRest, hRun,
          slice?_append copied rest after⟩

/- Copying never stops and replaces character by character. -/
theorem writeSubstituted?_eq_some
    (search : Char)
    (replacement text out : String) :
    writeSubstituted? search replacement text out =
      some (out ++ replaced search replacement text) := by
  rcases
      exists_visitAll_of_append search replacement out
        text "" with
    ⟨copied, rest, hText, hRest, hRun, hSlice⟩
  rw [String.append_empty] at hRun hSlice
  -- The last slice is the rest in which nothing is replaced.
  have hWritten :
      replaced search replacement text =
        replaced search replacement copied ++ rest := by
    rw [hText, replaced_append, replaced_of_notMem hRest]
  rw [writeSubstituted?, hRun, hWritten,
    ← String.append_assoc]
  simp only [Option.bind_eq_bind, Option.bind_some, hSlice]

end Text

end RecordQuery

------------------------------------------------------------
-- Substitution
------------------------------------------------------------

namespace RecordQuery

namespace Text

variable {search : Char}
variable {replacement text out : String}

/- There is always something written. -/
theorem isSome_writeSubstituted? :
    (writeSubstituted? search replacement text out).isSome =
      true := by
  rw [writeSubstituted?_eq_some]
  rfl

/-
  Write a text with one character replaced behind what has
  been written already.
-/
def writeSubstituted
    (search : Char)
    (replacement text out : String) :
    String :=
  (writeSubstituted? search replacement text out).get
    isSome_writeSubstituted?

/- What has been written already is kept. -/
theorem writeSubstituted_eq_append :
    writeSubstituted search replacement text out =
      out ++ replaced search replacement text :=
  Option.get_of_eq_some isSome_writeSubstituted?
    (writeSubstituted?_eq_some ..)

/- The text with every `search` character replaced. -/
def substitute
    (search : Char)
    (replacement text : String) :
    String :=
  writeSubstituted search replacement text ""

/- A text may be copied apart and written afterwards. -/
theorem writeSubstituted_eq_append_substitute :
    writeSubstituted search replacement text out =
      out ++ substitute search replacement text := by
  rw [substitute, writeSubstituted_eq_append,
    writeSubstituted_eq_append, String.empty_append]

end Text

end RecordQuery
