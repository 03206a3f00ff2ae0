import RecordQuery.Proofs.Registry.History
import RecordQuery.Session.Basic

/-
  The requests that a session makes of its registries.

  Key definitions include:
    * `RecordQuery.Session.request?`
    * `RecordQuery.Session.reply`
    * `RecordQuery.Session.Result.Idle`
    * `RecordQuery.Session.Moment`
    * `RecordQuery.Session.trace`

  Key theorems include:
    * `RecordQuery.Session.step_of_request`
    * `RecordQuery.Session.idle_step`
    * `RecordQuery.Session.Moment.result_of_asks`
    * `RecordQuery.Session.run_eq_map_trace`

  A step opens something, or it asks something, or it makes
  a request of one registry.  All that a request can do was
  said of the registry alone.
-/

------------------------------------------------------------
-- Requests Of Steps
------------------------------------------------------------

namespace RecordQuery

/- The events that a request logs. -/
def Registry.events
    (r : Registry) :
    Registry.Request → List Event
| .register target changes =>
    (r.register target changes).events
| .lookup target => (r.lookup target).events
| .cached _ => []
| .build selection => (selection.build r).events

namespace Session

/-
  The request that a step makes, and the index of the
  registry it is made of.
-/
def request?
    (s : Session) :
    Step → Option (Nat × Registry.Request)
| .register registry target changes =>
    some (registry, .register target changes)
| .lookup registry target =>
    some (registry, .lookup target)
| .cached registry key => some (registry, .cached key)
| .build selection =>
    (s.selections[selection]?).map
      (fun q => (q.database.registry, .build q))
| _ => none

/- The answer of the registry of an index to a request. -/
def reply
    (index : Nat)
    (r : Registry) :
    Registry.Request → Answer
| .register target changes =>
    let outcome := r.register target changes
    .registered (outcome.answer.map (stored index))
      outcome.registry.size
| .lookup target =>
    let outcome := r.lookup target
    .registered (outcome.answer.map (stored index))
      outcome.registry.size
| .cached key =>
    .cached ((r.cached key).map (stored index))
| .build selection => .built (selection.build r).answer

variable {s : Session}
variable {step : Step}
variable {index : Nat}
variable {request : Registry.Request}

/- To put a registry in its own place changes nothing. -/
theorem setRegistry_self
    {r : Registry}
    (hOpen : s.registries[index]? = some r) :
    s.setRegistry index r = s := by
  rcases List.getElem?_eq_some_iff.mp hOpen with ⟨_, rfl⟩
  unfold setRegistry
  rw [List.set_getElem_self]

/-
  A request of an open registry is answered by it, and that
  registry is all that it can change.  Nothing becomes of a
  request of any other registry.
-/
theorem step_of_request
    (hRequest : s.request? step = some (index, request)) :
    s.step step =
      match s.registries[index]? with
      | none => .quiet s .missing
      | some r =>
          ⟨s.setRegistry index (r.after request),
            reply index r request, r.events request⟩ := by
  cases step with
  | register registry target changes =>
      cases hRequest
      rfl
  | lookup registry target =>
      cases hRequest
      rfl
  | cached registry key =>
      cases hRequest
      unfold Session.step
      dsimp only
      cases hOpen : s.registries[index]? with
      | none => rfl
      | some r =>
          dsimp only
          rw [Registry.after, setRegistry_self hOpen]
          rfl
  | build selection =>
      unfold request? at hRequest
      unfold Session.step
      dsimp only at hRequest ⊢
      cases hSelection : s.selections[selection]? with
      | none =>
          rw [hSelection] at hRequest
          cases hRequest
      | some q =>
          rw [hSelection] at hRequest
          cases hRequest
          rfl
  | openRegistry => cases hRequest
  | openDatabase registry dialect => cases hRequest
  | copyDatabase database => cases hRequest
  | quote database name => cases hRequest
  | size registry => cases hRequest
  | select database record calls => cases hRequest

/- The answer is that of a registry to a request. -/
def Answer.isReply : Answer → Bool
| .registered _ _ => true
| .cached _ => true
| .built _ => true
| _ => false

/-
  Nothing is logged, no registry replies, and all of them
  stay as they are, up to empty ones that are opened.
-/
structure Result.Idle
    (s : Session)
    (result : Result) :
    Prop where
  events : result.events = []
  isReply : result.answer.isReply = false
  registries :
    ∃ more,
      result.session.registries = s.registries ++ more ∧
        ∀ r ∈ more, r = .empty

/- No registry is opened. -/
theorem idle_of_registries_eq
    {result : Result}
    (hEvents : result.events = [])
    (hReply : result.answer.isReply = false)
    (hRegistries :
      result.session.registries = s.registries) :
    result.Idle s where
  events := hEvents
  isReply := hReply
  registries :=
    ⟨[], by rw [hRegistries, List.append_nil],
      List.forall_mem_nil _⟩

/- One registry is opened. -/
theorem idle_of_registries_eq_concat
    {result : Result}
    (hEvents : result.events = [])
    (hReply : result.answer.isReply = false)
    (hRegistries :
      result.session.registries = s.registries ++ [.empty]) :
    result.Idle s where
  events := hEvents
  isReply := hReply
  registries :=
    ⟨[.empty], hRegistries, fun _ => List.mem_singleton.mp⟩

/- A step that makes no request is idle. -/
theorem idle_step
    (hNone : s.request? step = none) :
    (s.step step).Idle s := by
  cases step with
  | openRegistry =>
      exact idle_of_registries_eq_concat rfl rfl rfl
  | openDatabase registry dialect =>
      cases registry with
      | none => exact idle_of_registries_eq_concat rfl rfl rfl
      | some index =>
          unfold Session.step
          dsimp only
          cases s.registries[index]? with
          | none => exact idle_of_registries_eq rfl rfl rfl
          | some r => exact idle_of_registries_eq rfl rfl rfl
  | copyDatabase database =>
      unfold Session.step
      dsimp only
      cases s.databases[database]? with
      | none => exact idle_of_registries_eq rfl rfl rfl
      | some d => exact idle_of_registries_eq rfl rfl rfl
  | quote database name =>
      unfold Session.step
      dsimp only
      cases s.databases[database]? with
      | none => exact idle_of_registries_eq rfl rfl rfl
      | some d => exact idle_of_registries_eq rfl rfl rfl
  | size registry =>
      unfold Session.step
      dsimp only
      cases s.registries[registry]? with
      | none => exact idle_of_registries_eq rfl rfl rfl
      | some r => exact idle_of_registries_eq rfl rfl rfl
  | select database record calls =>
      unfold Session.step
      dsimp only
      cases s.databases[database]? with
      | none => exact idle_of_registries_eq rfl rfl rfl
      | some d => exact idle_of_registries_eq rfl rfl rfl
  | build selection =>
      unfold request? at hNone
      unfold Session.step
      dsimp only at hNone ⊢
      cases hSelection : s.selections[selection]? with
      | none => exact idle_of_registries_eq rfl rfl rfl
      | some q =>
          rw [hSelection] at hNone
          cases hNone
  | register registry target changes => cases hNone
  | lookup registry target => cases hNone
  | cached registry key => cases hNone

end Session

end RecordQuery

------------------------------------------------------------
-- Traces
------------------------------------------------------------

namespace RecordQuery

namespace Session

/- A step and the session that it is taken in. -/
structure Moment where
  session : Session
  step : Step

/- What a step leaves, answers and logs. -/
def Moment.result
    (x : Moment) :
    Result :=
  x.session.step x.step

/- Steps in order, each with the session that it finds. -/
def trace
    (s : Session) :
    List Step → List Moment
| [] => []
| first :: rest =>
    ⟨s, first⟩ :: (s.step first).session.trace rest

/-
  The open registry that a moment asks, with its index and
  the request, if it asks one.
-/
def Moment.asks?
    (x : Moment) :
    Option (Nat × Registry × Registry.Request) :=
  match x.session.request? x.step with
  | none => none
  | some (index, request) =>
      (x.session.registries[index]?).map
        (fun r => (index, r, request))

/- A moment that asks no registry is idle. -/
theorem Moment.idle_result
    {x : Moment}
    (hNone : x.asks? = none) :
    x.result.Idle x.session := by
  unfold asks? at hNone
  unfold result
  cases hRequest : x.session.request? x.step with
  | none => exact idle_step hRequest
  | some made =>
      rcases made with ⟨index, request⟩
      rw [hRequest] at hNone
      rw [step_of_request hRequest,
        Option.map_eq_none_iff.mp hNone]
      exact idle_of_registries_eq rfl rfl rfl

/- A moment that asks a registry gets its reply. -/
theorem Moment.result_of_asks
    {x : Moment}
    {index : Nat}
    {r : Registry}
    {request : Registry.Request}
    (hAsks : x.asks? = some (index, r, request)) :
    x.session.registries[index]? = some r ∧
      x.result =
        ⟨x.session.setRegistry index (r.after request),
          reply index r request, r.events request⟩ := by
  unfold asks? at hAsks
  unfold result
  cases hRequest : x.session.request? x.step with
  | none =>
      rw [hRequest] at hAsks
      cases hAsks
  | some made =>
      rcases made with ⟨i, request'⟩
      rw [hRequest] at hAsks
      rcases Option.map_eq_some_iff.mp hAsks with
        ⟨r', hOpen, hEq⟩
      cases hEq
      rw [step_of_request hRequest, hOpen]
      exact ⟨rfl, rfl⟩

/- The session that steps leave. -/
def after
    (s : Session)
    (steps : List Step) :
    Session :=
  steps.foldl (fun s step => (s.step step).session) s

/- A run is what the steps of its trace come to. -/
theorem run_eq_map_trace
    (s : Session)
    (steps : List Step) :
    s.run steps = (s.trace steps).map Moment.result := by
  induction steps generalizing s with
  | nil => rfl
  | cons first rest ih =>
      rw [run, trace, List.map_cons, ih]
      rfl

end Session

end RecordQuery
