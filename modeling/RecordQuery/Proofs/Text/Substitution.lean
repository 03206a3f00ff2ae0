import RecordQuery.Sql.Rendering

/-
  Substitution goes through a text once.

  Key theorems include:
    * `RecordQuery.Text.placed_append`
    * `RecordQuery.Text.writeSubstituted_in_one_pass`

  The positions that a copy goes through are those of the
  text alone, so that nothing of a replacement is looked at.
  At each of them the slice that has not been written yet
  can be taken, whether or not it is.
-/

------------------------------------------------------------
-- Copying In One Pass
------------------------------------------------------------

namespace RecordQuery

namespace Text

/- The second of two texts begins where the first one ends. -/
theorem placed_append
    (start : Nat)
    (before after : List Char) :
    placed start (before ++ after) =
      placed start before ++
        placed
          (start + (String.ofList before).utf8ByteSize)
          after := by
  induction before generalizing start with
  | nil => simp [placed]
  | cons c rest ih =>
      rw [List.cons_append, placed, placed, ih,
        utf8ByteSize_ofList_cons, ← Nat.add_assoc]
      rfl

/-
  Copying always comes to an end, and has then written the
  replacement for each character that is searched for and
  each other character as it is.  On the way its position
  and the next character are boundaries within the text and
  in order, with nothing to be replaced between them.  What
  has been written before is kept, in a draft as well.
-/
theorem writeSubstituted_in_one_pass
    (search : Char)
    (replacement text out : String) :
    writeSubstituted? search replacement text out =
        some
          (out ++
            String.join
              (text.toList.map
                (fun c =>
                  if c = search then
                    replacement
                  else
                    String.singleton c))) ∧
    (∀ before after,
      text = before ++ after →
        placed 0 text.toList =
          placed 0 before.toList ++
            placed before.utf8ByteSize after.toList ∧
        ∃ copied rest,
          before = copied ++ rest ∧
          search ∉ rest.toList ∧
          Copy.visitAll search replacement text ⟨out, 0⟩
              (placed 0 before.toList) =
            some
              ⟨out ++ replaced search replacement copied,
                copied.utf8ByteSize⟩ ∧
          slice? text copied.utf8ByteSize
              before.utf8ByteSize =
            some rest ∧
          copied.utf8ByteSize ≤ before.utf8ByteSize ∧
          String.Pos.Raw.IsValid text
            ⟨copied.utf8ByteSize⟩ ∧
          String.Pos.Raw.IsValid text
            ⟨before.utf8ByteSize⟩) ∧
    (∀ d m draft,
      Fragment.progress d m draft
          (.substituted text search replacement) =
        ⟨none,
          { draft with
            text :=
              draft.text ++
                replaced search replacement text }⟩) := by
  refine ⟨?_, ?_, ?_⟩
  · exact writeSubstituted?_eq_some search replacement text out
  · rintro before after rfl
    have hPlaced :=
      placed_append 0 before.toList after.toList
    rw [String.ofList_toList, Nat.zero_add,
      ← String.toList_append] at hPlaced
    rcases
        exists_visitAll_of_append search replacement out
          before after with
      ⟨copied, rest, hBefore, hRest, hRun, hSlice⟩
    have hBounds := exists_slice?_iff.mp ⟨rest, hSlice⟩
    exact
      ⟨hPlaced, copied, rest, hBefore, hRest, hRun, hSlice,
        hBounds⟩
  · intro d m draft
    have hText :
        writeSubstituted search replacement text draft.text =
          draft.text ++ replaced search replacement text :=
      writeSubstituted_eq_append
    rw [← hText]
    rfl

/-
  A character of two bytes is replaced at the beginning, at
  the end and twice in a row, by a text that contains it.
-/
theorem writeSubstituted_in_one_pass_of_adjacent :
    writeSubstituted? 'ß' "sß" "ßaßß" "ß" =
        some "ßsßasßsß" ∧
    ∃ copied rest,
      "ßa" = copied ++ rest ∧
      slice? "ßaßß" copied.utf8ByteSize 3 = some rest ∧
      String.Pos.Raw.IsValid "ßaßß"
        ⟨copied.utf8ByteSize⟩ := by
  have hLaw :=
    writeSubstituted_in_one_pass 'ß' "sß" "ßaßß" "ß"
  rcases hLaw.2.1 "ßa" "ßß" (by decide) with
    ⟨_, copied, rest, hBefore, _, _, hSlice, _, hValid, _⟩
  refine ⟨?_, copied, rest, hBefore, hSlice, hValid⟩
  rw [hLaw.1]
  decide

end Text

end RecordQuery
