import RecordQuery.Proofs.Registry.Thinning
import RecordQuery.Proofs.Session.Opening

/-
  Requests about one record type of one registry, apart from
  all other requests of a session.

  Key definitions include:
    * `RecordQuery.Session.Answer.renumber`
    * `RecordQuery.Session.Answer.withoutSize`
    * `RecordQuery.Session.Moment.isForeign`
    * `RecordQuery.Session.Thinned`

  Key theorems include:
    * `RecordQuery.Session.Thinned.step_foreign`
    * `RecordQuery.Session.Thinned.step_kept`
    * `RecordQuery.Session.Thinned.run`
    * `RecordQuery.Session.requests_do_not_interfere`

  A session and what is left of it without the requests of
  other registries or about other types are taken side by
  side.  Each step that stays answers the same in both, up
  to the numbers of mappings and the sizes of registries.
-/

------------------------------------------------------------
-- Answers
------------------------------------------------------------

namespace RecordQuery

/- A stored mapping under another number. -/
def Stored.renumber
    (f : Renumbering)
    (x : Stored) :
    Stored :=
  { x with
    identity :=
      ⟨x.identity.registry, f.apply x.identity.serial⟩ }

namespace Session

namespace Answer

/- The stored mapping that is answered, if there is one. -/
def stored? : Answer → Option Stored
| .registered (.ok x) _ => some x
| .cached found => found
| _ => none

/- The answer with other numbers of stored mappings. -/
def renumber
    (f : Renumbering) :
    Answer → Answer
| .registered result count =>
    .registered (result.map (Stored.renumber f)) count
| .cached found => .cached (found.map (Stored.renumber f))
| answer => answer

/- The answer without the size of the registry. -/
def withoutSize : Answer → Answer
| .registered result _ => .registered result 0
| .size _ => .size 0
| answer => answer

variable {a : Answer}

/- Only the number that is answered counts. -/
theorem renumber_congr
    {f g : Renumbering}
    (hSame :
      ∀ x,
        a.stored? = some x →
          g.apply x.identity.serial =
            f.apply x.identity.serial) :
    a.renumber g = a.renumber f := by
  have hStored {x : Stored} (hSome : a.stored? = some x) :
      x.renumber g = x.renumber f := by
    unfold Stored.renumber
    rw [hSame x hSome]
  cases a with
  | registered result count =>
      cases result with
      | error failure => rfl
      | ok x =>
          exact
            congrArg (fun y => registered (.ok y) count)
              (hStored rfl)
  | cached found =>
      cases found with
      | none => rfl
      | some x =>
          exact
            congrArg (fun y => cached (some y)) (hStored rfl)
  | registry | database | text | size | selection => rfl
  | built | missing => rfl

/- Without a number there is nothing to rename. -/
theorem renumber_of_stored?
    (f : Renumbering)
    (hStored : a.stored? = none) :
    a.renumber f = a := by
  cases a with
  | registered result count =>
      cases result with
      | error failure => rfl
      | ok x => cases hStored
  | cached found =>
      cases hStored
      rfl
  | registry | database | text | size | selection => rfl
  | built | missing => rfl

/- What is no reply has no number. -/
theorem stored?_of_isReply
    (hReply : a.isReply = false) :
    a.stored? = none := by
  cases a with
  | registered | cached => cases hReply
  | registry | database | text | size | selection => rfl
  | built | missing => rfl

/-
  The second answer is the first one under the names of `g`,
  which go on from those of `f` for the numbers from `n` up
  to `m`.
-/
structure Renamed
    (f g : Renumbering)
    (n m : Nat)
    (a b : Answer) :
    Prop where
  apply_eq : ∀ i, i < n → g.apply i = f.apply i
  le : n ≤ m
  answer : b.withoutSize = (a.renumber g).withoutSize
  serial_lt :
    ∀ x, a.stored? = some x → x.identity.serial < m

variable {b : Answer}

/- Without a number no new names are needed. -/
theorem renamed_of_stored?
    (f : Renumbering)
    (n : Nat)
    (hStored : a.stored? = none)
    (hAnswer : b.withoutSize = a.withoutSize) :
    Renamed f f n n a b where
  apply_eq _ _ := rfl
  le := Nat.le_refl n
  answer := by
    rw [renumber_of_stored? f hStored]
    exact hAnswer
  serial_lt x hSome := by
    rw [hStored] at hSome
    cases hSome

/- Later names do not change an earlier answer. -/
theorem Renamed.answer_of_later
    {f g h : Renumbering}
    {n m : Nat}
    (hRenamed : Renamed f g n m a b)
    (hLater : ∀ i, i < m → h.apply i = g.apply i) :
    b.withoutSize = (a.renumber h).withoutSize := by
  have hSame : a.renumber h = a.renumber g :=
    renumber_congr
      (fun x hSome => hLater _ (hRenamed.serial_lt x hSome))
  rw [hSame]
  exact hRenamed.answer

end Answer

end Session

end RecordQuery

------------------------------------------------------------
-- Requests
------------------------------------------------------------

namespace RecordQuery

namespace Session

variable {key : String}
variable {f : Renumbering}
variable {q r : Registry}

/- Both registries answer for an entry alike. -/
theorem renamed_registered
    (index count count' : Nat)
    {g : Renumbering}
    {o p : Outcome Entry}
    (hRenamed : Registry.Renamed key f g q o p) :
    Answer.Renamed f g q.stored o.registry.stored
      (.registered (o.answer.map (stored index)) count)
      (.registered (p.answer.map (stored index)) count') where
  apply_eq := hRenamed.apply_eq
  le := hRenamed.stored_le
  answer := by
    rw [hRenamed.answer]
    cases o.answer with
    | error failure => rfl
    | ok entry => rfl
  serial_lt x hSome := by
    have hSerial := hRenamed.serial_lt
    cases hAnswer : o.answer with
    | error failure =>
        rw [hAnswer] at hSome
        cases hSome
    | ok entry =>
        rw [hAnswer] at hSome
        cases hSome
        exact hSerial entry hAnswer

/- Both registries build alike. -/
theorem build_alike
    {s : Selection}
    {g : Renumbering}
    (hRenamed :
      Registry.Renamed key f g q (q.lookup s.target)
        (r.lookup s.target)) :
    (s.build r).answer = (s.build q).answer ∧
      (s.build r).events = (s.build q).events := by
  apply s.build_congr r
  · rw [hRenamed.answer]
    cases (q.lookup s.target).answer with
    | error failure => rfl
    | ok entry => rfl
  · exact hRenamed.events

/-
  A request about the type, made of both registries, has the
  same reply and the same log.
-/
theorem reply_alike
    (hThinned : Registry.Thinned key f q r)
    (index : Nat)
    {request : Registry.Request}
    (hType : request.type? = some key) :
    ∃ g,
      Answer.Renamed f g q.stored (q.after request).stored
          (reply index q request) (reply index r request) ∧
        Registry.Thinned key g (q.after request)
          (r.after request) ∧
        r.events request = q.events request := by
  cases request with
  | register target changes =>
      rcases
        (Registry.register_alike f q r hType
            changes).exists_renumbering hThinned with
        ⟨g, hRenamed⟩
      exact
        ⟨g, renamed_registered index _ _ hRenamed,
          hRenamed.thinned, hRenamed.events⟩
  | lookup target =>
      rcases
        (hThinned.lookup_alike hType).exists_renumbering
          hThinned with
        ⟨g, hRenamed⟩
      exact
        ⟨g, renamed_registered index _ _ hRenamed,
          hRenamed.thinned, hRenamed.events⟩
  | cached other =>
      have hOwn : other = key := Option.some.inj hType
      subst hOwn
      refine ⟨f, ?_, hThinned, rfl⟩
      refine ⟨fun _ _ => rfl, Nat.le_refl _, ?_, ?_⟩
      · have hCached := hThinned.cached
        unfold reply
        dsimp only
        rw [hCached]
        cases q.cached other with
        | none => rfl
        | some entry => rfl
      · intro x hSome
        rcases Option.map_eq_some_iff.mp hSome with
          ⟨entry, hCached, rfl⟩
        exact hThinned.serial_lt entry hCached
  | build s =>
      rcases
        (hThinned.lookup_alike hType :
            Registry.Alike key f q r (q.lookup s.target)
              (r.lookup s.target)).exists_renumbering
          hThinned with
        ⟨g, hRenamed⟩
      rcases build_alike hRenamed with ⟨hAnswer, hEvents⟩
      have hThin := hRenamed.thinned
      have hLe := hRenamed.stored_le
      rw [← s.registry_build, ← s.registry_build] at hThin
      rw [← s.registry_build] at hLe
      refine ⟨g, ?_, hThin, hEvents⟩
      refine ⟨hRenamed.apply_eq, hLe, ?_, ?_⟩
      · exact
          congrArg (fun answer => Answer.built answer) hAnswer
      · intro x hSome
        cases hSome

end Session

end RecordQuery

------------------------------------------------------------
-- Sessions Side By Side
------------------------------------------------------------

namespace RecordQuery

namespace Session

/- The registry of an index, empty if it is not yet open. -/
def registryAt
    (s : Session)
    (index : Nat) :
    Registry :=
  (s.registries[index]?).getD .empty

/- What is open is found. -/
theorem registryAt_of_open
    {s : Session}
    {index : Nat}
    {r : Registry}
    (hOpen : s.registries[index]? = some r) :
    s.registryAt index = r := by
  unfold registryAt
  rw [hOpen]
  rfl

/- To change a registry changes that one only. -/
theorem registryAt_setRegistry
    {s : Session}
    {index : Nat}
    {r : Registry}
    (hOpen : s.registries[index]? = some r)
    (changed : Registry)
    (other : Nat) :
    (s.setRegistry index changed).registryAt other =
      if index = other then changed else s.registryAt other := by
  have hLt := (List.getElem?_eq_some_iff.mp hOpen).1
  unfold registryAt setRegistry
  dsimp only
  by_cases hEq : index = other
  · rw [if_pos hEq, ← hEq, List.getElem?_set_self hLt]
    rfl
  · rw [if_neg hEq, List.getElem?_set_ne hEq]

/- To open a registry changes none. -/
theorem Result.Idle.registryAt
    {s : Session}
    {result : Result}
    (hIdle : result.Idle s)
    (index : Nat) :
    result.session.registryAt index = s.registryAt index := by
  rcases hIdle.registries with ⟨more, hMore, hEmpty⟩
  unfold Session.registryAt
  rw [hMore]
  by_cases hLt : index < s.registries.length
  · rw [List.getElem?_append_left hLt]
  · have hLe : s.registries.length ≤ index :=
      Nat.le_of_not_lt hLt
    rw [List.getElem?_append_right hLe,
      List.getElem?_eq_none hLe]
    cases hNew : more[index - s.registries.length]? with
    | none => rfl
    | some r => exact hEmpty r (List.mem_of_getElem? hNew)

/-
  The same has been opened in both sessions, and the type
  has the same mapping in both registries of the index.
-/
structure Thinned
    (registry : Nat)
    (key : String)
    (f : Renumbering)
    (t s : Session) :
    Prop where
  databases : t.databases = s.databases
  selections : t.selections = s.selections
  length : t.registries.length = s.registries.length
  alike :
    Registry.Thinned key f (t.registryAt registry)
      (s.registryAt registry)

/- A session is its own thinned copy at first. -/
theorem thinned_empty
    (registry : Nat)
    (key : String)
    (f : Renumbering) :
    Thinned registry key f empty empty where
  databases := rfl
  selections := rfl
  length := rfl
  alike := Registry.thinned_empty key f

variable {registry : Nat}
variable {key : String}
variable {f : Renumbering}
variable {t s : Session}
variable {step : Step}

/- A step makes the same request in both. -/
theorem Thinned.request?_eq
    (hThinned : Thinned registry key f t s) :
    t.request? step = s.request? step := by
  cases step with
  | build selection =>
      unfold request?
      dsimp only
      rw [hThinned.selections]
  | openRegistry | openDatabase | copyDatabase => rfl
  | register | lookup | cached | quote | size | select => rfl

/- The same registries are open in both. -/
theorem Thinned.registries_cases
    (hThinned : Thinned registry key f t s)
    (index : Nat) :
    (t.registries[index]? = none ∧
        s.registries[index]? = none) ∨
      ∃ q r,
        t.registries[index]? = some q ∧
          s.registries[index]? = some r := by
  by_cases hLt : index < s.registries.length
  · have hLt' : index < t.registries.length := by
      rw [hThinned.length]
      exact hLt
    right
    exact
      ⟨_, _, List.getElem?_eq_getElem hLt',
        List.getElem?_eq_getElem hLt⟩
  · have hLe : s.registries.length ≤ index :=
      Nat.le_of_not_lt hLt
    have hLe' : t.registries.length ≤ index := by
      rw [hThinned.length]
      exact hLe
    left
    exact
      ⟨List.getElem?_eq_none hLe',
        List.getElem?_eq_none hLe⟩

/-
  Without a request only what has been opened counts, and of
  the registries their number.
-/
theorem Thinned.step_of_no_request
    (hThinned : Thinned registry key f t s)
    (hNone : s.request? step = none) :
    let x := t.step step
    let y := s.step step
    x.session.databases = y.session.databases ∧
      x.session.selections = y.session.selections ∧
      x.session.registries.length =
        y.session.registries.length ∧
      y.answer.withoutSize = x.answer.withoutSize := by
  have hOpen := hThinned.registries_cases
  have hLength := hThinned.length
  have hDatabases := hThinned.databases
  have hSelections := hThinned.selections
  clear hThinned
  rcases t with ⟨own, databases, selections⟩
  rcases s with ⟨all, databases', selections'⟩
  dsimp only at hOpen hLength hDatabases hSelections
  subst hDatabases hSelections
  have hNext :
      (own ++ [Registry.empty]).length =
        (all ++ [Registry.empty]).length := by
    rw [List.length_append, List.length_append, hLength]
  unfold Session.step
  cases step with
  | openRegistry =>
      refine ⟨rfl, rfl, hNext, ?_⟩
      exact congrArg Answer.registry hLength.symm
  | openDatabase index dialect =>
      cases index with
      | some other =>
          dsimp only
          rcases hOpen other with
            ⟨hOwn, hAll⟩ | ⟨q, r, hOwn, hAll⟩
          · rw [hOwn, hAll]
            exact ⟨rfl, rfl, hLength, rfl⟩
          · rw [hOwn, hAll]
            exact ⟨rfl, rfl, hLength, rfl⟩
      | none =>
          dsimp only
          rw [hLength]
          exact ⟨rfl, rfl, hNext, rfl⟩
  | copyDatabase database =>
      dsimp only
      cases databases[database]? with
      | none => exact ⟨rfl, rfl, hLength, rfl⟩
      | some d => exact ⟨rfl, rfl, hLength, rfl⟩
  | quote database name =>
      dsimp only
      cases databases[database]? with
      | none => exact ⟨rfl, rfl, hLength, rfl⟩
      | some d => exact ⟨rfl, rfl, hLength, rfl⟩
  | size index =>
      dsimp only
      rcases hOpen index with
        ⟨hOwn, hAll⟩ | ⟨q, r, hOwn, hAll⟩
      · rw [hOwn, hAll]
        exact ⟨rfl, rfl, hLength, rfl⟩
      · rw [hOwn, hAll]
        exact ⟨rfl, rfl, hLength, rfl⟩
  | select database record calls =>
      dsimp only
      cases databases[database]? with
      | none => exact ⟨rfl, rfl, hLength, rfl⟩
      | some d => exact ⟨rfl, rfl, hLength, rfl⟩
  | build selection =>
      unfold request? at hNone
      dsimp only at hNone ⊢
      rw [Option.map_eq_none_iff.mp hNone]
      exact ⟨rfl, rfl, hLength, rfl⟩
  | register index target changes => cases hNone
  | lookup index target => cases hNone
  | cached index other => cases hNone

end Session

end RecordQuery

------------------------------------------------------------
-- Steps Side By Side
------------------------------------------------------------

namespace RecordQuery

namespace Session

/-
  The step makes a request of another registry, or about
  another type, or about none.
-/
def Moment.isForeign
    (registry : Nat)
    (key : String)
    (x : Moment) :
    Bool :=
  match x.session.request? x.step with
  | none => false
  | some (index, request) =>
      !(index == registry && request.type? == some key)

variable {registry : Nat}
variable {key : String}
variable {f : Renumbering}
variable {t s : Session}
variable {step : Step}

/- What is foreign is seen from the request. -/
theorem Moment.isForeign_iff
    {index : Nat}
    {request : Registry.Request}
    (hRequest : s.request? step = some (index, request)) :
    (Moment.mk s step).isForeign registry key = true ↔
      (index = registry → request.type? ≠ some key) := by
  unfold isForeign
  dsimp only
  rw [hRequest]
  by_cases hEq : index = registry
  · simp [hEq]
  · simp [hEq]

/- Only requests can be foreign. -/
theorem Moment.exists_request_of_isForeign
    {x : Moment}
    (hForeign : x.isForeign registry key = true) :
    ∃ index request,
      x.session.request? x.step = some (index, request) := by
  unfold isForeign at hForeign
  cases hRequest : x.session.request? x.step with
  | none =>
      rw [hRequest] at hForeign
      cases hForeign
  | some made => exact ⟨made.1, made.2, rfl⟩

/-
  A foreign request opens nothing, and of the registry it
  asks about another type, if it reaches that registry.
-/
theorem Moment.result_of_isForeign
    {x : Moment}
    (hForeign : x.isForeign registry key = true) :
    let left := x.result.session
    left.databases = x.session.databases ∧
      left.selections = x.session.selections ∧
      left.registries.length = x.session.registries.length ∧
      (left.registryAt registry =
          x.session.registryAt registry ∨
        ∃ request : Registry.Request,
          request.type? ≠ some key ∧
            left.registryAt registry =
              (x.session.registryAt registry).after
                request) := by
  rcases exists_request_of_isForeign hForeign with
    ⟨index, request, hRequest⟩
  have hOther := (isForeign_iff hRequest).mp hForeign
  unfold result
  rw [step_of_request hRequest]
  cases hOpen : x.session.registries[index]? with
  | none => exact ⟨rfl, rfl, rfl, Or.inl rfl⟩
  | some r =>
      refine ⟨rfl, rfl, List.length_set, ?_⟩
      dsimp only
      rw [registryAt_setRegistry hOpen]
      by_cases hEq : index = registry
      · right
        rw [if_pos hEq, ← hEq, registryAt_of_open hOpen]
        exact ⟨request, hOther hEq, rfl⟩
      · left
        rw [if_neg hEq]

/- It leaves the entry of the type in the registry alone. -/
theorem Moment.cached_of_isForeign
    {x : Moment}
    (hForeign : x.isForeign registry key = true) :
    (x.result.session.registryAt registry).cached key =
      (x.session.registryAt registry).cached key := by
  rcases (result_of_isForeign hForeign).2.2.2 with
    hSame | ⟨request, hOther, hAfter⟩
  · rw [hSame]
  · rw [hAfter, Registry.cached_after_foreign _ hOther]

/- The outcomes of a step that is taken in both sessions. -/
structure Echoes
    (registry : Nat)
    (key : String)
    (f g : Renumbering)
    (t : Session)
    (x y : Result) :
    Prop where
  thinned : Thinned registry key g x.session y.session
  renamed :
    Answer.Renamed f g (t.registryAt registry).stored
      (x.session.registryAt registry).stored x.answer
      y.answer
  events : y.events = x.events

/- Without a request nothing needs a new name. -/
theorem Thinned.step_idle
    (hThinned : Thinned registry key f t s)
    (hNone : s.request? step = none) :
    Echoes registry key f f t (t.step step) (s.step step) := by
  have hIdle := idle_step hNone
  have hIdle' :=
    idle_step (hThinned.request?_eq.trans hNone)
  rcases hThinned.step_of_no_request hNone with
    ⟨hDatabases, hSelections, hLength, hAnswer⟩
  refine ⟨⟨hDatabases, hSelections, hLength, ?_⟩, ?_, ?_⟩
  · rw [hIdle.registryAt, hIdle'.registryAt]
    exact hThinned.alike
  · rw [hIdle'.registryAt]
    exact
      Answer.renamed_of_stored? f _
        (Answer.stored?_of_isReply hIdle'.isReply) hAnswer
  · rw [hIdle.events, hIdle'.events]

/- A foreign request is not missed. -/
theorem Thinned.step_foreign
    (hThinned : Thinned registry key f t s)
    (hForeign :
      (Moment.mk s step).isForeign registry key = true) :
    Thinned registry key f t (s.step step).session := by
  rcases Moment.result_of_isForeign hForeign with
    ⟨hDatabases, hSelections, hLength, hRegistry⟩
  refine
    ⟨hThinned.databases.trans hDatabases.symm,
      hThinned.selections.trans hSelections.symm,
      hThinned.length.trans hLength.symm, ?_⟩
  change
    Registry.Thinned key f _
      ((Moment.mk s step).result.session.registryAt registry)
  rcases hRegistry with hSame | ⟨request, hOther, hAfter⟩
  · rw [hSame]
    exact hThinned.alike
  · rw [hAfter]
    exact hThinned.alike.after_foreign hOther

/- A request about the type has the same reply in both. -/
theorem Thinned.step_request
    (hThinned : Thinned registry key f t s)
    {request : Registry.Request}
    (hRequest : s.request? step = some (registry, request))
    (hType : request.type? = some key) :
    ∃ g,
      Echoes registry key f g t (t.step step)
        (s.step step) := by
  rw [step_of_request hRequest,
    step_of_request (hThinned.request?_eq.trans hRequest)]
  rcases hThinned.registries_cases registry with
    ⟨hOwn, hAll⟩ | ⟨q, r, hOwn, hAll⟩
  · rw [hOwn, hAll]
    exact
      ⟨f, hThinned,
        Answer.renamed_of_stored? f _ rfl rfl, rfl⟩
  · rw [hOwn, hAll]
    have hBefore := hThinned.alike
    have hOwnAt := registryAt_of_open hOwn
    rw [hOwnAt, registryAt_of_open hAll] at hBefore
    rcases reply_alike hBefore registry hType with
      ⟨g, hRenamed, hAfter, hEvents⟩
    have hOwnAfter :
        (t.setRegistry registry
            (q.after request)).registryAt registry =
          q.after request := by
      rw [registryAt_setRegistry hOwn, if_pos rfl]
    have hAllAfter :
        (s.setRegistry registry
            (r.after request)).registryAt registry =
          r.after request := by
      rw [registryAt_setRegistry hAll, if_pos rfl]
    refine
      ⟨g,
        ⟨hThinned.databases, hThinned.selections, ?_, ?_⟩,
        ?_, hEvents⟩
    · exact
        (List.length_set.trans hThinned.length).trans
          List.length_set.symm
    · dsimp only
      rw [hOwnAfter, hAllAfter]
      exact hAfter
    · dsimp only
      rw [hOwnAt, hOwnAfter]
      exact hRenamed

/- A step that is not foreign has the same outcome in both. -/
theorem Thinned.step_kept
    (hThinned : Thinned registry key f t s)
    (hKept :
      (Moment.mk s step).isForeign registry key = false) :
    ∃ g,
      Echoes registry key f g t (t.step step)
        (s.step step) := by
  cases hRequest : s.request? step with
  | none => exact ⟨f, hThinned.step_idle hRequest⟩
  | some made =>
      rcases made with ⟨index, request⟩
      unfold Moment.isForeign at hKept
      dsimp only at hKept
      rw [hRequest] at hKept
      simp only [Bool.not_eq_false', Bool.and_eq_true,
        beq_iff_eq] at hKept
      rcases hKept with ⟨rfl, hType⟩
      exact hThinned.step_request hRequest hType

/-
  So have all steps of a run that are not foreign, under
  names that go on from those of before.
-/
theorem Thinned.run
    (hThinned : Thinned registry key f t s)
    (steps : List Step) :
    let kept :=
      (s.trace steps).filter
        (fun x => !x.isForeign registry key)
    let alone := t.run (kept.map Moment.step)
    ∃ g : Renumbering,
      (∀ i,
        i < (t.registryAt registry).stored →
          g.apply i = f.apply i) ∧
        kept.map (fun x => x.result.answer.withoutSize) =
          alone.map
            (fun x => (x.answer.renumber g).withoutSize) ∧
        kept.map (fun x => x.result.events) =
          alone.map Result.events := by
  induction steps generalizing f t s with
  | nil => exact ⟨f, fun _ _ => rfl, rfl, rfl⟩
  | cons first rest ih =>
      dsimp only
      rw [trace]
      cases hForeign :
          (Moment.mk s first).isForeign registry key with
      | true =>
          rw [List.filter_cons_of_neg (by simp [hForeign])]
          exact ih (hThinned.step_foreign hForeign)
      | false =>
          rw [List.filter_cons_of_pos (by simp [hForeign])]
          rcases hThinned.step_kept hForeign with ⟨g, hEchoes⟩
          rcases ih hEchoes.thinned with
            ⟨h, hLater, hAnswers, hEvents⟩
          have hRenamed := hEchoes.renamed
          refine ⟨h, ?_, ?_, ?_⟩
          · intro i hLt
            rw [hLater i (Nat.lt_of_lt_of_le hLt hRenamed.le)]
            exact hRenamed.apply_eq i hLt
          · rw [List.map_cons, List.map_cons, Session.run,
              List.map_cons, hAnswers,
              ← hRenamed.answer_of_later hLater]
            rfl
          · rw [List.map_cons, List.map_cons, Session.run,
              List.map_cons, hEvents, ← hEchoes.events]
            rfl

end Session

end RecordQuery

------------------------------------------------------------
-- Requests Do Not Interfere
------------------------------------------------------------

namespace RecordQuery

namespace Session

/- Another type is foreign, however much it is alike. -/
theorem isForeign_of_ne
    (s : Session)
    (registry : Nat)
    {key twin : String}
    (hTwin : twin ≠ key)
    (kind : PointerKind)
    (l : Layout)
    (name : Option String)
    (changes : List Customization) :
    let target : Target :=
      .pointer kind (.record ⟨twin, l, name⟩)
    (Moment.mk s (.register registry target changes)).isForeign
        registry key = true ∧
      (Moment.mk s (.lookup registry target)).isForeign
        registry key = true := by
  intro target
  have hType : target.key? ≠ some key := by
    intro hEq
    exact hTwin (Option.some.inj hEq)
  have hRegister :
      s.request? (.register registry target changes) =
        some (registry, .register target changes) :=
    rfl
  have hLookup :
      s.request? (.lookup registry target) =
        some (registry, .lookup target) :=
    rfl
  exact
    ⟨(Moment.isForeign_iff hRegister).mpr (fun _ => hType),
      (Moment.isForeign_iff hLookup).mpr (fun _ => hType)⟩

/-
  Types and registries do not interfere.  If all requests of
  other registries or about other types are left out of a
  session, all other steps answer and log what they did, up
  to the sizes of registries and to numbers of mappings that
  keep their order, and no foreign request touches the entry
  of the type.  A type of equal layout and table is another
  type if it has another key.  Every registry is opened by
  one step, and a database is in the registry that it was
  opened with, in the open one that it was given, or in that
  of the database that it is a copy of.  No database is in a
  registry before that is opened.
-/
theorem requests_do_not_interfere
    (steps : List Step)
    (registry : Nat)
    (key : String) :
    let trace := empty.trace steps
    let kept :=
      trace.filter (fun x => !x.isForeign registry key)
    let alone := empty.run (kept.map Moment.step)
    (∃ f : Renumbering,
        kept.map (fun x => x.result.answer.withoutSize) =
          alone.map
            (fun x => (x.answer.renumber f).withoutSize)) ∧
      kept.map (fun x => x.result.events) =
        alone.map Result.events ∧
      (∀ x ∈ trace,
        x.isForeign registry key = true →
          (x.result.session.registryAt registry).cached key =
            (x.session.registryAt registry).cached key) ∧
      (∀ s twin kind l name changes,
        twin ≠ key →
          let target : Target :=
            .pointer kind (.record ⟨twin, l, name⟩)
          (Moment.mk s
                (.register registry target changes)).isForeign
              registry key = true ∧
            (Moment.mk s (.lookup registry target)).isForeign
              registry key = true) ∧
      trace.filterMap Moment.opens? =
        List.range (empty.after steps).registries.length ∧
      (∀ x ∈ trace,
        (x.result.session.databases = x.session.databases ∧
            ((∀ own dialect,
                x.step ≠ .openDatabase own dialect) ∨
              x.MissesRegistry)) ∨
          ∃ d,
            x.result.session.databases =
                x.session.databases ++ [d] ∧
              x.result.answer =
                .database x.session.databases.length
                  d.registry ∧
              x.Origin d) ∧
      ∀ x ∈ trace,
        ∀ index,
          x.opens? = some index →
            ∀ d ∈ x.session.databases,
              d.registry ≠ index := by
  intro trace kept alone
  have hEmpty := thinned_empty registry key .identity
  rcases hEmpty.run steps with ⟨f, _, hAnswers, hEvents⟩
  refine
    ⟨⟨f, hAnswers⟩, hEvents,
      fun x _ => Moment.cached_of_isForeign, ?_, ?_,
      fun x _ => x.opens.databases, ?_⟩
  · intro s twin kind l name changes hTwin
    exact isForeign_of_ne s registry hTwin kind l name changes
  · exact range_append_opens empty steps
  · intro x hMem index hOpens d hDatabase
    have hLt := located_empty.trace steps x hMem d hDatabase
    rw [Moment.eq_of_opens? hOpens]
    exact Nat.ne_of_lt hLt

/-
  Two types of equal layout: the entry of the second one is
  not used for the first, whose mapping is stored by a build
  through a copy, before a registration that fails.
-/
theorem requests_do_not_interfere_of_twins :
    let l : Layout :=
      ⟨"Generic", [⟨"value", some "column=v"⟩]⟩
    let one : Record := ⟨"one", l, none⟩
    let target : Target := .pointer .owned (.record one)
    let twin : Target :=
      .pointer .owned (.record ⟨"twin", l, none⟩)
    let steps : List Step :=
      [.openDatabase none none,
        .copyDatabase 0,
        .openDatabase none none,
        .lookup 0 twin,
        .lookup 1 target,
        .select 1 one [],
        .build 0,
        .register 0 twin [.table "other"],
        .register 0 target [.column "missing" "c"],
        .cached 0 "one"]
    let fewer : List Step :=
      [.openDatabase none none,
        .copyDatabase 0,
        .openDatabase none none,
        .select 1 one [],
        .build 0,
        .register 0 target [.column "missing" "c"],
        .cached 0 "one"]
    let kept :=
      (empty.trace steps).filter
        (fun x => !x.isForeign 0 "one")
    let alone := empty.run fewer
    let serials (answers : List Answer) : List Nat :=
      answers.filterMap
        (fun a => a.stored?.map (fun x => x.identity.serial))
    let foreign : Moment :=
      ⟨empty.after (steps.take 7),
        .register 0 twin [.table "other"]⟩
    let copy : Moment :=
      ⟨empty.after (steps.take 1), .copyDatabase 0⟩
    let third : Moment :=
      ⟨empty.after (steps.take 2), .openDatabase none none⟩
    kept.map Moment.step = fewer ∧
      (∃ f : Renumbering,
        kept.map (fun x => x.result.answer.withoutSize) =
          alone.map
            (fun x => (x.answer.renumber f).withoutSize)) ∧
      serials (kept.map (fun x => x.result.answer)) = [1] ∧
      serials (alone.map Result.answer) = [0] ∧
      foreign.isForeign 0 "one" = true ∧
      (foreign.result.session.registryAt 0).cached "one" =
        (foreign.session.registryAt 0).cached "one" ∧
      (∃ d,
        copy.result.answer = .database 1 d.registry ∧
          copy.Origin d) ∧
      third.opens? = some 1 ∧
      ∀ d ∈ third.session.databases, d.registry ≠ 1 := by
  intro l one target twin steps fewer kept alone serials
    foreign copy third
  rcases requests_do_not_interfere steps 0 "one" with
    ⟨hAnswers, _, hEntry, hTwin, _, hDatabases, hNew⟩
  have hForeign : foreign.isForeign 0 "one" = true :=
    (hTwin foreign.session "twin" .owned l none
      [.table "other"] (by decide)).1
  have hMoment : (empty.trace steps)[7]? = some foreign :=
    rfl
  have hMem : foreign ∈ empty.trace steps :=
    List.mem_of_getElem? hMoment
  have hCopy : (empty.trace steps)[1]? = some copy :=
    rfl
  have hThird : (empty.trace steps)[2]? = some third :=
    rfl
  refine
    ⟨rfl, hAnswers, by decide, by decide, hForeign,
      hEntry foreign hMem hForeign, ?_, rfl,
      hNew third (List.mem_of_getElem? hThird) 1 rfl⟩
  rcases hDatabases copy (List.mem_of_getElem? hCopy) with
    ⟨hSame, _⟩ | ⟨d, _, hAnswer, hOrigin⟩
  · have hLength : 2 = 1 := congrArg List.length hSame
    cases hLength
  · exact ⟨d, hAnswer, hOrigin⟩

end Session

end RecordQuery
