import RecordQuery.Text.SnakeCase

/-
  What the snake-case form of a name is made of, and which
  names are their own snake-case form.

  Key definitions include:
    * `RecordQuery.Text.snakeImage`

  Key theorems include:
    * `RecordQuery.Text.snakeChars_append`
    * `RecordQuery.Text.add_countP_le_length_snakeTail`
    * `RecordQuery.Text.snakeChars_cons_eq_self_iff`
    * `RecordQuery.Text.isUppercase_of_mem_snakeChars`
    * `RecordQuery.Text.snakeCase_by_characters_and_settled`

  After the first one, every character is replaced on its
  own.  An uppercase one makes the name longer, because of
  its underscore and because no lowercase mapping is empty:
  names that are kept have none.  A capital without a
  lowercase form gets one more underscore every time.
-/

------------------------------------------------------------
-- Characters After The First
------------------------------------------------------------

namespace RecordQuery

namespace Text

/- What a character after the first one becomes. -/
def snakeImage
    (c : Char) :
    List Char :=
  if isUppercase c then '_' :: lowercase c else [c]

/- Characters after the first one are replaced one by one. -/
theorem snakeTail_eq_flatMap
    (text : List Char) :
    snakeTail text = text.flatMap snakeImage := by
  induction text with
  | nil => rfl
  | cons c rest ih =>
      rw [List.flatMap_cons, ← ih]
      by_cases hUpper : isUppercase c
      · simp [snakeTail, snakeImage, hUpper]
      · simp [snakeTail, snakeImage, hUpper]

/- What follows a first character is replaced one by one. -/
theorem snakeChars_append
    {text : List Char}
    (more : List Char)
    (hSome : text ≠ []) :
    snakeChars (text ++ more) =
      snakeChars text ++ more.flatMap snakeImage := by
  cases text with
  | nil => exact absurd rfl hSome
  | cons c rest =>
      rw [List.cons_append, snakeChars_cons,
        snakeTail_append, snakeTail_eq_flatMap more,
        ← List.append_assoc]
      rfl

/-
  Every uppercase character makes a name longer, and no
  other one makes it shorter.
-/
theorem add_countP_le_length_snakeTail
    (text : List Char) :
    text.length + text.countP isUppercase ≤
      (snakeTail text).length := by
  induction text with
  | nil => exact Nat.le_refl 0
  | cons c rest ih =>
      by_cases hUpper : isUppercase c
      · have hForm : 0 < (lowercase c).length :=
          List.length_pos_iff.mpr (lowercase_ne_nil c)
        rw [snakeTail, if_pos hUpper,
          List.countP_cons_of_pos hUpper]
        simp only [List.length_cons, List.length_append]
        omega
      · rw [snakeTail, if_neg hUpper,
          List.countP_cons_of_neg hUpper]
        simp only [List.length_cons]
        omega

/- Without uppercase characters nothing is replaced. -/
theorem snakeTail_of_not_isUppercase
    {text : List Char}
    (hText : ∀ c ∈ text, isUppercase c = false) :
    snakeTail text = text := by
  induction text with
  | nil => rfl
  | cons c rest ih =>
      rcases List.forall_mem_cons.mp hText with
        ⟨hHead, hRest⟩
      rw [snakeTail, hHead, if_neg Bool.false_ne_true,
        ih hRest]

/- A tail that does not grow has no uppercase characters. -/
theorem not_isUppercase_of_length_snakeTail_le
    {text : List Char}
    (hLength : (snakeTail text).length ≤ text.length) :
    ∀ c ∈ text, isUppercase c = false := by
  have hGrown := add_countP_le_length_snakeTail text
  have hNone : text.countP isUppercase = 0 := by
    omega
  intro c hMem
  exact
    Bool.of_not_eq_true
      (List.countP_eq_zero.mp hNone c hMem)

end Text

end RecordQuery

------------------------------------------------------------
-- Names That Are Kept
------------------------------------------------------------

namespace RecordQuery

namespace Text

/-
  A name is kept if its first character is its own lowercase
  mapping and no other character is uppercase.
-/
theorem snakeChars_cons_eq_self_iff
    (c : Char)
    (rest : List Char) :
    snakeChars (c :: rest) = c :: rest ↔
      lowercase c = [c] ∧
        ∀ d ∈ rest, isUppercase d = false := by
  rw [snakeChars_cons]
  constructor
  · intro hSame
    have hForm : 0 < (lowercase c).length :=
      List.length_pos_iff.mpr (lowercase_ne_nil c)
    have hLength := congrArg List.length hSame
    rw [List.length_append, List.length_cons] at hLength
    -- The first form takes up a character at least, so that
    -- the rest has no room to grow.
    have hRest : ∀ d ∈ rest, isUppercase d = false :=
      not_isUppercase_of_length_snakeTail_le (by omega)
    rw [snakeTail_of_not_isUppercase hRest,
      ← List.singleton_append] at hSame
    exact ⟨List.append_cancel_right hSame, hRest⟩
  · rintro ⟨hHead, hRest⟩
    rw [hHead, snakeTail_of_not_isUppercase hRest,
      List.singleton_append]

/-
  The names that are kept: their first character is not
  uppercase or has no other lowercase form, and no other
  character is uppercase.
-/
theorem snakeCase_eq_self_iff
    (name : String) :
    snakeCase name = name ↔
      (∀ c ∈ name.toList.tail, isUppercase c = false) ∧
        ∀ c ∈ name.toList.head?,
          isUppercase c = false ∨ lowercase c = [c] := by
  have hChars :
      snakeCase name = name ↔
        snakeChars name.toList = name.toList := by
    rw [← String.toList_inj, snakeCase,
      String.toList_ofList]
  rw [hChars]
  cases name.toList with
  | nil => simp [snakeChars]
  | cons c rest =>
      have hHead :
          isUppercase c = false ∨ lowercase c = [c] ↔
            lowercase c = [c] :=
        or_iff_right_of_imp lowercase_of_not_isUppercase
      rw [snakeChars_cons_eq_self_iff, and_comm, ← hHead]
      simp

/-
  If all capitals of a name have lowercase forms there are
  no capitals in its snake-case form.
-/
theorem isUppercase_of_mem_snakeChars
    {text : List Char}
    (hForms :
      ∀ c ∈ text, ∀ d ∈ lowercase c,
        isUppercase d = false) :
    ∀ d ∈ snakeChars text, isUppercase d = false := by
  cases text with
  | nil => simp [snakeChars]
  | cons c rest =>
      rcases List.forall_mem_cons.mp hForms with
        ⟨hHead, hRest⟩
      rw [snakeChars_cons, List.forall_mem_append,
        snakeTail_eq_flatMap]
      refine ⟨hHead, ?_⟩
      intro d hMem
      rcases List.mem_flatMap.mp hMem with ⟨b, hB, hImage⟩
      unfold snakeImage at hImage
      split at hImage
      · rcases List.mem_cons.mp hImage with rfl | hForm
        · decide
        · exact hRest b hB d hForm
      · rename_i hLower
        cases List.mem_singleton.mp hImage
        exact Bool.of_not_eq_true hLower

end Text

end RecordQuery

------------------------------------------------------------
-- The Naming Law
------------------------------------------------------------

namespace RecordQuery

namespace Text

/-
  The part of a name after its beginning is replaced one
  character at a time.  The names that are kept are those
  with no capital after the first character, which may be
  one only if it has no other lowercase form.  A name whose
  capitals have lowercase forms loses all of them at once
  and is kept from then on.
-/
theorem snakeCase_by_characters_and_settled :
    (∀ name more : String, name ≠ "" →
      snakeCase (name ++ more) =
        snakeCase name ++
          String.ofList
            (more.toList.flatMap snakeImage)) ∧
    (∀ name : String,
      snakeCase name = name ↔
        (∀ c ∈ name.toList.tail, isUppercase c = false) ∧
          ∀ c ∈ name.toList.head?,
            isUppercase c = false ∨ lowercase c = [c]) ∧
    (∀ name : String,
      (∀ c ∈ name.toList, isUppercase c = true →
        ∀ d ∈ lowercase c, isUppercase d = false) →
      (∀ d ∈ (snakeCase name).toList,
          isUppercase d = false) ∧
        snakeCase (snakeCase name) = snakeCase name) := by
  refine ⟨?_, snakeCase_eq_self_iff, ?_⟩
  · intro name more hSome
    have hChars : name.toList ≠ [] := by
      simpa using hSome
    rw [snakeCase, String.toList_append,
      snakeChars_append _ hChars, String.ofList_append]
    rfl
  · intro name hForms
    have hAll :
        ∀ c ∈ name.toList, ∀ d ∈ lowercase c,
          isUppercase d = false := by
      intro c hMem
      cases hUpper : isUppercase c with
      | true => exact hForms c hMem hUpper
      | false =>
          rw [lowercase_of_not_isUppercase hUpper]
          simpa using hUpper
    have hNone :
        ∀ d ∈ (snakeCase name).toList,
          isUppercase d = false := by
      rw [snakeCase, String.toList_ofList]
      exact isUppercase_of_mem_snakeChars hAll
    refine ⟨hNone, (snakeCase_eq_self_iff _).mpr ⟨?_, ?_⟩⟩
    · intro c hMem
      exact hNone c (List.mem_of_mem_tail hMem)
    · intro c hMem
      exact Or.inl (hNone c (List.mem_of_mem_head? hMem))

/-
  The capital with a dot has a lowercase form of two
  characters, neither of which is changed again.  A capital
  without a lowercase form is kept if it comes first.
-/
theorem snakeCase_by_characters_and_settled_of_dotted :
    snakeCase ("Àb" ++ "É\u0130") =
        snakeCase "Àb" ++ "_é_i\u0307" ∧
      snakeCase "𝐀b" = "𝐀b" ∧
      snakeCase (snakeCase "Éa\u0130") =
        snakeCase "Éa\u0130" := by
  have hForms :
      "Éa\u0130".toList.all
          (fun c =>
            (lowercase c).all (fun d => !isUppercase d)) =
        true := by
    decide
  have hLaw := snakeCase_by_characters_and_settled
  refine
    ⟨hLaw.1 "Àb" "É\u0130" (by decide),
      (hLaw.2.1 "𝐀b").mpr ⟨?_, ?_⟩,
      (hLaw.2.2 "Éa\u0130" ?_).2⟩
  · intro c hMem
    cases List.mem_singleton.mp hMem
    decide
  · intro c hMem
    cases Option.mem_some_iff.mp hMem
    exact Or.inr (by decide)
  · intro c hMem _ d hForm
    have hLower :=
      List.all_eq_true.mp
        (List.all_eq_true.mp hForms c hMem) d hForm
    simpa using hLower

/- Elsewhere it is never settled. -/
example :
    snakeCase "a𝐀" = "a_𝐀" ∧
      snakeCase "a_𝐀" = "a__𝐀" := by
  decide

end Text

end RecordQuery
