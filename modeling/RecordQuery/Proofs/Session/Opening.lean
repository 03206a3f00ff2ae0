import RecordQuery.Proofs.Session.Trace

/-
  What the steps of a session open.

  Key definitions include:
    * `RecordQuery.Session.Moment.opens?`
    * `RecordQuery.Session.Moment.Origin`
    * `RecordQuery.Session.Moment.Opens`
    * `RecordQuery.Session.Located`

  Key theorems include:
    * `RecordQuery.Session.Moment.opens`
    * `RecordQuery.Session.range_append_opens`
    * `RecordQuery.Session.Located.trace`

  A database that is not given a registry opens one, and no
  other step opens the same, so that databases share a
  registry only if they were given it or are copies.
-/

------------------------------------------------------------
-- Openings Of Steps
------------------------------------------------------------

namespace RecordQuery

namespace Session

namespace Moment

/- The index of the registry that a step opens, if any. -/
def opens?
    (x : Moment) :
    Option Nat :=
  match x.step with
  | .openRegistry => some x.session.registries.length
  | .openDatabase none _ => some x.session.registries.length
  | _ => none

/-
  How a step that adds a database comes by its registry: it
  opens a new one, or the registry was open before.
-/
inductive Origin
    (x : Moment)
    (d : Database) :
    Prop where
  | opened
      {dialect : Option Dialect}
      (hStep : x.step = .openDatabase none dialect)
      (hOpens : x.opens? = some d.registry)
  | given
      {dialect : Option Dialect}
      (hStep : x.step = .openDatabase (some d.registry) dialect)
      (hOpen : d.registry < x.session.registries.length)
  | copied
      {database : Nat}
      (hStep : x.step = .copyDatabase database)
      (hDatabase :
        x.session.databases[database]? = some d)

/-
  A database is asked for in a registry that is not open,
  and none is opened.
-/
def MissesRegistry
    (x : Moment) :
    Prop :=
  ∃ registry dialect,
    x.step = .openDatabase (some registry) dialect ∧
      x.session.registries.length ≤ registry ∧
      x.result.answer = .missing

/-
  A step opens the registry it says and no other one, and it
  adds a database that it answers with the registry of that
  database, or none.
-/
structure Opens
    (x : Moment) :
    Prop where
  registries :
    x.result.session.registries.length =
      x.session.registries.length + x.opens?.toList.length
  databases :
    (x.result.session.databases = x.session.databases ∧
        ((∀ registry dialect,
            x.step ≠ .openDatabase registry dialect) ∨
          x.MissesRegistry)) ∨
      ∃ d,
        x.result.session.databases =
            x.session.databases ++ [d] ∧
          x.result.answer =
            .database x.session.databases.length d.registry ∧
          x.Origin d

variable {s : Session}
variable {step : Step}

/- Neither a registry nor a database is opened. -/
theorem opens_of_same
    (hOpens : (Moment.mk s step).opens? = none)
    (hStep :
      ∀ registry dialect, step ≠ .openDatabase registry dialect)
    (hSame :
      (s.step step).session.registries.length =
          s.registries.length ∧
        (s.step step).session.databases = s.databases) :
    (Moment.mk s step).Opens where
  registries := by
    rw [hOpens]
    exact hSame.1
  databases := Or.inl ⟨hSame.2, Or.inl hStep⟩

/- No request opens either. -/
theorem same_of_request
    {index : Nat}
    {request : Registry.Request}
    (hRequest : s.request? step = some (index, request)) :
    (s.step step).session.registries.length =
        s.registries.length ∧
      (s.step step).session.databases = s.databases := by
  rw [step_of_request hRequest]
  cases s.registries[index]? with
  | none => exact ⟨rfl, rfl⟩
  | some r => exact ⟨List.length_set, rfl⟩

/- A copy is in the registry of what is copied. -/
theorem opens_copyDatabase
    (s : Session)
    (database : Nat) :
    (Moment.mk s (.copyDatabase database)).Opens := by
  cases hDatabase : s.databases[database]? with
  | none =>
      refine opens_of_same rfl nofun ?_
      unfold Session.step
      dsimp only
      rw [hDatabase]
      exact ⟨rfl, rfl⟩
  | some d =>
      have hStep :
          (Moment.mk s (.copyDatabase database)).result =
            s.addDatabase d := by
        unfold result Session.step
        dsimp only
        rw [hDatabase]
      constructor
      · rw [hStep]
        rfl
      · right
        rw [hStep]
        exact ⟨d, rfl, rfl, .copied rfl hDatabase⟩

/- A database is opened in an open registry only. -/
theorem opens_openDatabase_some
    (s : Session)
    (registry : Nat)
    (dialect : Option Dialect) :
    (Moment.mk s
      (.openDatabase (some registry) dialect)).Opens := by
  cases hOpen : s.registries[registry]? with
  | none =>
      have hStep :
          (Moment.mk s
              (.openDatabase (some registry) dialect)).result =
            .quiet s .missing := by
        unfold result Session.step
        dsimp only
        rw [hOpen]
      constructor
      · rw [hStep]
        rfl
      · left
        rw [hStep]
        refine ⟨rfl, Or.inr ?_⟩
        exact
          ⟨registry, dialect, rfl,
            List.getElem?_eq_none_iff.mp hOpen,
            congrArg Result.answer hStep⟩
  | some r =>
      have hStep :
          (Moment.mk s
              (.openDatabase (some registry) dialect)).result =
            s.addDatabase
              ⟨registry, dialect.getD .generic⟩ := by
        unfold result Session.step
        dsimp only
        rw [hOpen]
      have hLt := (List.getElem?_eq_some_iff.mp hOpen).1
      constructor
      · rw [hStep]
        rfl
      · right
        rw [hStep]
        exact ⟨_, rfl, rfl, .given rfl hLt⟩

/- Every step opens what it says. -/
theorem opens
    (x : Moment) :
    x.Opens := by
  rcases x with ⟨s, step⟩
  have hNext :
      (s.registries ++ [Registry.empty]).length =
        s.registries.length + 1 :=
    List.length_append
  cases step with
  | openRegistry =>
      exact ⟨hNext, Or.inl ⟨rfl, Or.inl nofun⟩⟩
  | openDatabase index dialect =>
      cases index with
      | none =>
          exact
            ⟨hNext, Or.inr ⟨_, rfl, rfl, .opened rfl rfl⟩⟩
      | some own => exact opens_openDatabase_some s own dialect
  | copyDatabase database => exact opens_copyDatabase s database
  | quote database name =>
      refine opens_of_same rfl nofun ?_
      unfold Session.step
      dsimp only
      cases s.databases[database]? with
      | none => exact ⟨rfl, rfl⟩
      | some d => exact ⟨rfl, rfl⟩
  | size index =>
      refine opens_of_same rfl nofun ?_
      unfold Session.step
      dsimp only
      cases s.registries[index]? with
      | none => exact ⟨rfl, rfl⟩
      | some r => exact ⟨rfl, rfl⟩
  | select database record calls =>
      refine opens_of_same rfl nofun ?_
      unfold Session.step
      dsimp only
      cases s.databases[database]? with
      | none => exact ⟨rfl, rfl⟩
      | some d => exact ⟨rfl, rfl⟩
  | build selection =>
      refine opens_of_same rfl nofun ?_
      cases hRequest : s.request? (.build selection) with
      | some made => exact same_of_request hRequest
      | none =>
          have hNone : s.selections[selection]? = none :=
            Option.map_eq_none_iff.mp hRequest
          unfold Session.step
          dsimp only
          rw [hNone]
          exact ⟨rfl, rfl⟩
  | register index target changes =>
      exact opens_of_same rfl nofun (same_of_request rfl)
  | lookup index target =>
      exact opens_of_same rfl nofun (same_of_request rfl)
  | cached index other =>
      exact opens_of_same rfl nofun (same_of_request rfl)

/- A registry gets the next index when it is opened. -/
theorem eq_of_opens?
    {x : Moment}
    {index : Nat}
    (hOpens : x.opens? = some index) :
    index = x.session.registries.length := by
  unfold opens? at hOpens
  split at hOpens
  · exact (Option.some.inj hOpens).symm
  · exact (Option.some.inj hOpens).symm
  · cases hOpens

end Moment

end Session

end RecordQuery

------------------------------------------------------------
-- Openings Of Runs
------------------------------------------------------------

namespace RecordQuery

namespace Session

/- All registries of a run are opened in it, each once. -/
theorem range_append_opens
    (s : Session)
    (steps : List Step) :
    List.range s.registries.length ++
        (s.trace steps).filterMap Moment.opens? =
      List.range (s.after steps).registries.length := by
  induction steps generalizing s with
  | nil => exact List.append_nil _
  | cons first rest ih =>
      have hFirst := (Moment.mk s first).opens.registries
      have hRest := ih (s.step first).session
      change
        List.range (s.step first).session.registries.length ++
            _ =
          List.range (s.after (first :: rest)).registries.length
        at hRest
      change (s.step first).session.registries.length = _
        at hFirst
      rw [← hRest, hFirst, trace, List.filterMap_cons]
      cases hOpens : (Moment.mk s first).opens? with
      | none => rfl
      | some index =>
          rw [Moment.eq_of_opens? hOpens]
          dsimp only [Option.toList, List.length_singleton]
          rw [List.range_succ, List.append_assoc]
          rfl

/- Every database is in a registry that is open. -/
def Located
    (s : Session) :
    Prop :=
  ∀ d ∈ s.databases, d.registry < s.registries.length

/- Without databases there is nothing to be in. -/
theorem located_empty :
    Located empty :=
  List.forall_mem_nil _

/- A step opens databases in open registries only. -/
theorem Located.step
    {s : Session}
    (hLocated : s.Located)
    (step : Step) :
    (s.step step).session.Located := by
  have hOpens := (Moment.mk s step).opens
  have hRegistries := hOpens.registries
  change (s.step step).session.registries.length = _
    at hRegistries
  dsimp only at hRegistries
  have hOld (d : Database) (hMem : d ∈ s.databases) :
      d.registry <
        (s.step step).session.registries.length := by
    have hLt := hLocated d hMem
    omega
  rcases hOpens.databases with
    ⟨hSame, _⟩ | ⟨added, hAdded, _, hOrigin⟩
  · change (s.step step).session.databases = _ at hSame
    unfold Located
    rw [hSame]
    exact hOld
  · change (s.step step).session.databases = _ at hAdded
    unfold Located
    rw [hAdded]
    refine List.forall_mem_append.mpr ⟨hOld, ?_⟩
    intro d hMem
    rw [List.mem_singleton.mp hMem]
    cases hOrigin with
    | opened hStep hOpened =>
        have hIndex := Moment.eq_of_opens? hOpened
        rw [hOpened] at hRegistries
        dsimp only [Option.toList, List.length_singleton]
          at hIndex hRegistries
        omega
    | given hStep hOpen =>
        dsimp only at hOpen
        omega
    | copied hStep hDatabase =>
        exact hOld _ (List.mem_of_getElem? hDatabase)

/- So it is in every session of a run. -/
theorem Located.trace
    {s : Session}
    (hLocated : s.Located)
    (steps : List Step) :
    ∀ x ∈ s.trace steps, x.session.Located := by
  induction steps generalizing s with
  | nil => exact List.forall_mem_nil _
  | cons first rest ih =>
      exact
        List.forall_mem_cons.mpr
          ⟨hLocated, ih (hLocated.step first)⟩

end Session

end RecordQuery
