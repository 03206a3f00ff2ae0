import RecordQuery.Session.Selection

/-
  What building a selection does to a registry and answers.

  Key definitions include:
    * `RecordQuery.Selection.target`

  Key theorems include:
    * `RecordQuery.Selection.build_cases`
    * `RecordQuery.Selection.registry_build`
    * `RecordQuery.Selection.answer_build`
    * `RecordQuery.Selection.build_congr`

  Building is a lookup and then a rendering.  Only the
  lookup can change the registry, and only the rendering
  depends on the table and the condition.
-/

------------------------------------------------------------
-- Lookup And Rendering
------------------------------------------------------------

namespace RecordQuery

namespace Selection

/- What the mapping of a selection is looked up with. -/
def target
    (s : Selection) :
    Target :=
  .pointer .borrowed (.record s.record)

variable (s : Selection)
variable (r : Registry)

/-
  Building fails as the lookup does, or as the rendering
  does under the mapping that was found, or it succeeds, and
  it logs that after what the lookup has logged.
-/
theorem build_cases :
    let found := r.lookup s.target
    (∃ failure,
        found.answer = .error failure ∧
          s.build r =
            ⟨found.registry, .error failure, found.events⟩) ∨
      (∃ entry fault,
        found.answer = .ok entry ∧
          s.build r =
            ⟨found.registry, .error (.ofFault fault),
              found.events ++ [.failed (.ofFault fault)]⟩) ∨
      ∃ entry statement,
        found.answer = .ok entry ∧
          s.build r =
            ⟨found.registry, .ok statement,
              found.events ++
                [.built statement.sql statement.args]⟩ := by
  unfold build target
  dsimp only
  cases
    (r.lookup (.pointer .borrowed (.record s.record))).answer
    with
  | error failure => exact Or.inl ⟨failure, rfl, rfl⟩
  | ok entry =>
      right
      dsimp only
      cases s.compile entry.mapping with
      | error fault =>
          exact Or.inl ⟨entry, fault, rfl, rfl⟩
      | ok statement =>
          exact Or.inr ⟨entry, statement, rfl, rfl⟩

/- Building leaves the registry as the lookup does. -/
theorem registry_build :
    (s.build r).registry = (r.lookup s.target).registry := by
  rcases s.build_cases r with
    ⟨_, _, hEq⟩ | ⟨_, _, _, hEq⟩ | ⟨_, _, _, hEq⟩
  · rw [hEq]
  · rw [hEq]
  · rw [hEq]

/-
  The answer is the failure of the lookup, or else what the
  selection compiles to under the mapping that was found.
-/
theorem answer_build :
    (s.build r).answer =
      (r.lookup s.target).answer.bind
        (fun entry =>
          (s.compile entry.mapping).mapError
            Failure.ofFault) := by
  unfold build target
  dsimp only
  cases
    (r.lookup (.pointer .borrowed (.record s.record))).answer
    with
  | error failure => rfl
  | ok entry =>
      simp only [Except.bind]
      cases s.compile entry.mapping with
      | error fault => rfl
      | ok statement => rfl

/- With an entry, the answer is what is compiled with it. -/
theorem answer_build_of_lookup
    {entry : Entry}
    (hFound : (r.lookup s.target).answer = .ok entry) :
    (s.build r).answer =
      (s.compile entry.mapping).mapError Failure.ofFault := by
  rw [answer_build, hFound]
  rfl

/- What is read off the answer is read off the rendering. -/
theorem map_answer_build
    {α : Type}
    (f : Statement → α) :
    (s.build r).answer.map f =
      (r.lookup s.target).answer.bind
        (fun entry =>
          ((s.compile entry.mapping).map f).mapError
            Failure.ofFault) := by
  rw [answer_build]
  cases (r.lookup s.target).answer with
  | error failure => rfl
  | ok entry =>
      simp only [Except.bind]
      cases s.compile entry.mapping with
      | error fault => rfl
      | ok statement => rfl

/-
  Building knows a registry only by the mapping that is
  looked up, or the failure, and by what is logged of it.
-/
theorem build_congr
    {q : Registry}
    (hAnswer :
      (r.lookup s.target).answer.map Entry.mapping =
        (q.lookup s.target).answer.map Entry.mapping)
    (hEvents :
      (r.lookup s.target).events =
        (q.lookup s.target).events) :
    (s.build r).answer = (s.build q).answer ∧
      (s.build r).events = (s.build q).events := by
  unfold target at hAnswer hEvents
  unfold build
  dsimp only
  rw [hEvents]
  generalize
    r.lookup (.pointer .borrowed (.record s.record)) = o
    at hAnswer
  generalize
    q.lookup (.pointer .borrowed (.record s.record)) = p
    at hAnswer
  cases hLeft : o.answer with
  | error failure =>
      cases hRight : p.answer with
      | error other =>
          rw [hLeft, hRight] at hAnswer
          cases hAnswer
          exact ⟨rfl, rfl⟩
      | ok entry =>
          rw [hLeft, hRight] at hAnswer
          cases hAnswer
  | ok entry =>
      cases hRight : p.answer with
      | error other =>
          rw [hLeft, hRight] at hAnswer
          cases hAnswer
      | ok other =>
          rw [hLeft, hRight] at hAnswer
          have hMapping : entry.mapping = other.mapping :=
            Except.ok.inj hAnswer
          dsimp only
          rw [hMapping]
          cases s.compile other.mapping with
          | error fault => exact ⟨rfl, rfl⟩
          | ok statement => exact ⟨rfl, rfl⟩

end Selection

end RecordQuery
