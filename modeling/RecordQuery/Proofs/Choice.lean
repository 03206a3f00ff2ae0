/-
  The last choice that is made in a list.

  Key definitions include:
    * `RecordQuery.lastChoice?`

  Key theorems include:
    * `RecordQuery.lastChoice?_cons`
    * `RecordQuery.lastChoice?_swap`
    * `RecordQuery.lastChoice?_eq_some_iff`
    * `RecordQuery.lastChoice?_eq_none_iff`

  Not every element makes a choice, and of those that do the
  last one counts.
-/

------------------------------------------------------------
-- Choices
------------------------------------------------------------

namespace RecordQuery

variable {α β : Type}

/- The choice of the last element that makes one. -/
def lastChoice?
    (choice : α → Option β)
    (list : List α) :
    Option β :=
  (list.filterMap choice).getLast?

variable {choice : α → Option β}

/-
  The first choice is that of the first element, or it comes
  later.
-/
theorem head?_filterMap_cons
    (first : α)
    (rest : List α) :
    ((first :: rest).filterMap choice).head? =
      (choice first).or (rest.filterMap choice).head? := by
  rw [List.head?_filterMap, List.head?_filterMap,
    List.findSome?_cons]
  cases choice first <;> rfl

/-
  The last choice comes later, or it is that of the first
  element.
-/
theorem getLast?_filterMap_cons
    (first : α)
    (rest : List α) :
    ((first :: rest).filterMap choice).getLast? =
      (rest.filterMap choice).getLast?.or (choice first) := by
  rw [List.getLast?_filterMap, List.getLast?_filterMap,
    List.reverse_cons, List.findSome?_append,
    List.findSome?_singleton]

/- So it is for the last choice as such. -/
theorem lastChoice?_cons
    (first : α)
    (rest : List α) :
    lastChoice? choice (first :: rest) =
      (lastChoice? choice rest).or (choice first) :=
  getLast?_filterMap_cons first rest

/-
  Neighbours may change places unless both of them make a
  choice.
-/
theorem lastChoice?_swap
    {a b : α}
    (before after : List α)
    (hNone : choice a = none ∨ choice b = none) :
    lastChoice? choice (before ++ a :: b :: after) =
      lastChoice? choice (before ++ b :: a :: after) := by
  unfold lastChoice?
  rcases hNone with hNone | hNone
  · simp [List.filterMap_cons, hNone]
  · simp [List.filterMap_cons, hNone]

/- Nothing chooses after the element with the last choice. -/
theorem lastChoice?_eq_some_iff
    {list : List α}
    {value : β} :
    lastChoice? choice list = some value ↔
      ∃ before a after,
        list = before ++ a :: after ∧
          choice a = some value ∧
          ∀ later ∈ after, choice later = none := by
  unfold lastChoice?
  rw [List.getLast?_filterMap, List.findSome?_eq_some_iff]
  constructor
  · rintro ⟨after, a, before, hReverse, hChoice, hNone⟩
    rw [List.reverse_eq_iff, List.reverse_append,
      List.reverse_cons, List.append_assoc,
      List.singleton_append] at hReverse
    refine
      ⟨before.reverse, a, after.reverse, hReverse, hChoice,
        ?_⟩
    intro later hLater
    exact hNone later (List.mem_reverse.mp hLater)
  · rintro ⟨before, a, after, rfl, hChoice, hNone⟩
    refine
      ⟨after.reverse, a, before.reverse, by simp, hChoice, ?_⟩
    intro later hLater
    exact hNone later (List.mem_reverse.mp hLater)

/- There is no last choice where nothing chooses. -/
theorem lastChoice?_eq_none_iff
    {list : List α} :
    lastChoice? choice list = none ↔
      ∀ a ∈ list, choice a = none := by
  unfold lastChoice?
  rw [List.getLast?_eq_none_iff, List.filterMap_eq_nil_iff]

end RecordQuery
