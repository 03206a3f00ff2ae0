import RecordQuery.Text.Pieces

/-
  Cutting a text and joining its pieces undo each other.

  Key theorems include:
    * `RecordQuery.Text.split_append`
    * `RecordQuery.Text.split_intercalate`
    * `RecordQuery.Text.pieces_append`
    * `RecordQuery.Text.pieces_eq_iff`

  The pieces of a text are the only texts without separators
  that give the text when they are joined.
-/

------------------------------------------------------------
-- Cutting Character Lists
------------------------------------------------------------

namespace RecordQuery

namespace Text

variable {sep : Char}

/- A separator is always a place to cut. -/
theorem split_append
    (text rest : List Char) :
    split sep (text ++ sep :: rest) =
      split sep text ++ split sep rest := by
  induction text with
  | nil => simp [split]
  | cons c others ih =>
      rw [List.cons_append, split, split, ih]
      by_cases hHead : c = sep
      · rw [if_pos hHead, if_pos hHead]
        rfl
      · rw [if_neg hHead, if_neg hHead]
        cases hSplit : split sep others with
        | nil => exact absurd hSplit (split_ne_nil others)
        | cons piece more => rfl

/- Joined pieces are cut at the same places again. -/
theorem split_intercalate
    {pieces : List (List Char)}
    (hSome : pieces ≠ [])
    (hFree : ∀ piece ∈ pieces, sep ∉ piece) :
    split sep (List.intercalate [sep] pieces) = pieces := by
  induction pieces with
  | nil => exact absurd rfl hSome
  | cons piece rest ih =>
      rcases List.forall_mem_cons.mp hFree with
        ⟨hPiece, hRest⟩
      cases rest with
      | nil =>
          rw [List.intercalate_singleton]
          exact split_of_notMem hPiece
      | cons next more =>
          rw [List.intercalate_cons_cons, List.append_assoc,
            List.singleton_append,
            split_append_cons _ hPiece,
            ih (List.cons_ne_nil next more) hRest]

end Text

end RecordQuery

------------------------------------------------------------
-- Cutting Texts
------------------------------------------------------------

namespace RecordQuery

namespace Text

variable {sep : Char}

/- The pieces of texts with a separator between them. -/
theorem pieces_append
    (text rest : String) :
    pieces sep (text ++ String.singleton sep ++ rest) =
      pieces sep text ++ pieces sep rest := by
  unfold pieces
  rw [String.toList_append, String.toList_append,
    String.toList_singleton, List.append_assoc,
    List.singleton_append, split_append, List.map_append]

/-
  The pieces of a text are the texts without separators that
  it is joined of.
-/
theorem pieces_eq_iff
    {text : String}
    {segments : List String} :
    pieces sep text = segments ↔
      segments ≠ [] ∧
        (∀ segment ∈ segments, sep ∉ segment.toList) ∧
        (String.singleton sep).intercalate segments =
          text := by
  constructor
  · rintro rfl
    refine ⟨?_, ?_, ?_⟩
    · unfold pieces
      rw [Ne, List.map_eq_nil_iff]
      exact split_ne_nil text.toList
    · intro segment hSegment
      rcases List.mem_map.mp hSegment with
        ⟨piece, hPiece, rfl⟩
      rw [String.toList_ofList]
      exact sep_notMem_of_mem_split hPiece
    · apply String.toList_inj.mp
      rw [String.toList_intercalate, String.toList_singleton,
        pieces, List.map_map]
      simp only [Function.comp_def, String.toList_ofList,
        List.map_id']
      exact intercalate_split text.toList
  · rintro ⟨hSome, hFree, rfl⟩
    unfold pieces
    rw [String.toList_intercalate, String.toList_singleton,
      split_intercalate]
    · simp only [List.map_map, Function.comp_def,
        String.ofList_toList, List.map_id']
    · rw [Ne, List.map_eq_nil_iff]
      exact hSome
    · intro piece hPiece
      rcases List.mem_map.mp hPiece with
        ⟨segment, hSegment, rfl⟩
      exact hFree segment hSegment

end Text

end RecordQuery
