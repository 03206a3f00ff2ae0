import RecordQuery.Proofs.Registry.Logging
import RecordQuery.Proofs.Session.Trace

/-
  What the log of a session tells about its steps.

  Key definitions include:
    * `RecordQuery.Session.Answer.failure?`
    * `RecordQuery.Session.Answer.statement?`
    * `RecordQuery.Session.Account`
    * `RecordQuery.Session.Moment.hit`
    * `RecordQuery.Session.stores`
    * `RecordQuery.Session.Moment.shown?`
    * `RecordQuery.Session.Tracked`
    * `RecordQuery.Session.Sees`

  Key theorems include:
    * `RecordQuery.Session.Moment.account`
    * `RecordQuery.Session.stores_after`
    * `RecordQuery.Session.Tracked.sees_result`
    * `RecordQuery.Session.Tracked.run`
    * `RecordQuery.Session.log_accounts_for_run`

  Warnings are as many as failures, and mappings are stored
  as often as it is logged.  Every step accounts for itself,
  so that a run does.  The log of a run is a list of records,
  each of which is known by its level and its text.
-/

------------------------------------------------------------
-- Accounts Of Steps
------------------------------------------------------------

namespace RecordQuery

namespace Session

/- The failure that is answered, if there is one. -/
def Answer.failure? : Answer → Option Failure
| .registered (.error failure) _ => some failure
| .built (.error failure) => some failure
| _ => none

/- The statement that is answered, if there is one. -/
def Answer.statement? : Answer → Option Statement
| .built (.ok statement) => some statement
| _ => none

/-
  The events of a step account for its answer, and for
  whether it found an entry: one warning at the end if it
  failed, and for a statement one event after that of the
  entry it was rendered with.
-/
structure Account
    (events : List Event)
    (answer : Answer)
    (hit : Bool) :
    Prop where
  warnings :
    events.countP (fun e => e.level = .warn) =
      if answer.failure?.isSome then 1 else 0
  reported :
    ∀ failure,
      answer.failure? = some failure →
        ∃ before e,
          events = before ++ [e] ∧ e.Reports failure
  found :
    events.countP Event.isFound = if hit then 1 else 0
  built :
    events.countP Event.isBuilt =
      if answer.statement?.isSome then 1 else 0
  finished :
    ∀ statement,
      answer.statement? = some statement →
        ∃ e,
          e.isLookup = true ∧
            events =
              [e, .built statement.sql statement.args]

/- Without events there is nothing to account for. -/
theorem account_nil
    {answer : Answer}
    (hFailure : answer.failure? = none)
    (hStatement : answer.statement? = none) :
    Account [] answer false := by
  constructor
  · simp [hFailure]
  · intro failure hSome
    rw [hFailure] at hSome
    cases hSome
  · rfl
  · simp [hStatement]
  · intro statement hSome
    rw [hStatement] at hSome
    cases hSome

variable (r : Registry)

/- An entry is answered with or without the same failure. -/
theorem failure?_registered
    (index size : Nat)
    (o : Outcome Entry) :
    (Answer.registered (o.answer.map (stored index))
        size).failure? =
      o.failure? := by
  unfold Outcome.failure?
  cases o.answer with
  | error failure => rfl
  | ok entry => rfl

/- Asking for an entry accounts for the answer. -/
theorem account_registered
    {o : Outcome Entry}
    {hit : Bool}
    (index size : Nat)
    (hLogged : o.Logged r hit) :
    Account o.events
      (.registered (o.answer.map (stored index)) size)
      hit := by
  have hAccounted := hLogged.accounted
  have hFailure := failure?_registered index size o
  refine
    ⟨?_, ?_, hAccounted.found, hLogged.countP_isBuilt, ?_⟩
  · rw [hFailure]
    exact hAccounted.warnings
  · rw [hFailure]
    exact hAccounted.reported
  · intro statement hStatement
    cases hStatement

/- Building accounts for the answer. -/
theorem account_built
    (s : Selection) :
    Account (s.build r).events (.built (s.build r).answer)
      (r.hits (.build s)) := by
  have hAccounted := s.build_accounted r
  have hFailure :
      (Answer.built (s.build r).answer).failure? =
        (s.build r).failure? := by
    unfold Outcome.failure?
    cases (s.build r).answer with
    | error failure => rfl
    | ok statement => rfl
  rcases s.build_logs_statement r with ⟨hBuilt, hFinished⟩
  refine ⟨?_, ?_, hAccounted.found, ?_, ?_⟩
  · rw [hFailure]
    exact hAccounted.warnings
  · rw [hFailure]
    exact hAccounted.reported
  · rw [hBuilt]
    cases (s.build r).answer with
    | error failure => rfl
    | ok statement => rfl
  · intro statement hStatement
    cases hAnswer : (s.build r).answer with
    | error failure =>
        rw [hAnswer] at hStatement
        cases hStatement
    | ok other =>
        rw [hAnswer] at hStatement
        cases hStatement
        exact hFinished statement hAnswer

/- Every request accounts for its reply. -/
theorem account_reply
    (index : Nat)
    (request : Registry.Request) :
    Account (r.events request) (reply index r request)
      (r.hits request) := by
  cases request with
  | register target changes =>
      exact
        account_registered r index _
          (r.register_logged target changes)
  | lookup target =>
      exact
        account_registered r index _ (r.lookup_logged target)
  | cached key => exact account_nil rfl rfl
  | build selection => exact account_built r selection

namespace Moment

/- The step is a lookup that finds an entry. -/
def hit
    (x : Moment) :
    Bool :=
  match x.asks? with
  | none => false
  | some (_, r, request) => r.hits request

/- Every step accounts for itself. -/
theorem account
    (x : Moment) :
    Account x.result.events x.result.answer x.hit := by
  unfold hit
  cases hAsks : x.asks? with
  | none =>
      have hIdle := idle_result hAsks
      have hReply := hIdle.isReply
      rw [hIdle.events]
      apply account_nil
      · cases hAnswer : x.result.answer <;>
          simp_all [Answer.isReply, Answer.failure?]
      · cases hAnswer : x.result.answer <;>
          simp_all [Answer.isReply, Answer.statement?]
  | some asked =>
      rcases asked with ⟨index, r, request⟩
      rw [(result_of_asks hAsks).2]
      exact account_reply r index request

end Moment

/-
  What occurs once in each marked step, and in no other,
  occurs as often as there are marked steps.
-/
theorem countP_flatMap_events
    (trace : List Moment)
    {kind : Event → Bool}
    {marked : Moment → Bool}
    (hOnce :
      ∀ x : Moment,
        x.result.events.countP kind =
          if marked x then 1 else 0) :
    (trace.flatMap (fun x => x.result.events)).countP kind =
      trace.countP marked := by
  induction trace with
  | nil => rfl
  | cons x rest ih =>
      rw [List.flatMap_cons, List.countP_append, hOnce, ih,
        List.countP_cons, Nat.add_comm]

end Session

end RecordQuery

------------------------------------------------------------
-- Stored Mappings
------------------------------------------------------------

namespace RecordQuery

namespace Registry

variable (r : Registry)

/- Whatever is stored on a request is logged. -/
theorem stored_after
    (request : Request) :
    (r.after request).stored =
      r.stored +
        (r.events request).countP
          (fun e => e.level = .debug) := by
  cases request with
  | register target changes =>
      exact
        (r.register_logged target changes).accounted.stored
  | lookup target =>
      exact (r.lookup_logged target).accounted.stored
  | cached key => rfl
  | build selection =>
      exact (selection.build_accounted r).stored

/- The number of mappings stored in several registries. -/
def storedIn : List Registry → Nat
| [] => 0
| r :: rest => r.stored + storedIn rest

/- Empty registries have stored nothing. -/
theorem storedIn_append_of_empty
    (registries : List Registry)
    {more : List Registry}
    (hEmpty : ∀ r ∈ more, r = .empty) :
    storedIn (registries ++ more) = storedIn registries := by
  induction registries with
  | cons first rest ih =>
      rw [List.cons_append, storedIn, ih, storedIn]
  | nil =>
      induction more with
      | nil => rfl
      | cons first rest ih =>
          rcases List.forall_mem_cons.mp hEmpty with
            ⟨rfl, hRest⟩
          exact (Nat.zero_add _).trans (ih hRest)

/- To change one registry changes its share only. -/
theorem storedIn_set
    {registries : List Registry}
    {index : Nat}
    {r : Registry}
    (hOpen : registries[index]? = some r)
    (changed : Registry) :
    storedIn (registries.set index changed) + r.stored =
      storedIn registries + changed.stored := by
  induction registries generalizing index with
  | nil => cases hOpen
  | cons first rest ih =>
      cases index with
      | zero =>
          cases hOpen
          rw [List.set_cons_zero, storedIn, storedIn]
          omega
      | succ previous =>
          have hRest := ih hOpen
          rw [List.set_cons_succ, storedIn, storedIn]
          omega

end Registry

namespace Session

/- The number of mappings stored in all registries. -/
def stores
    (s : Session) :
    Nat :=
  Registry.storedIn s.registries

/- Every stored mapping is logged. -/
theorem Moment.stores_result
    (x : Moment) :
    x.result.session.stores =
      x.session.stores +
        x.result.events.countP
          (fun e => e.level = .debug) := by
  cases hAsks : x.asks? with
  | none =>
      have hIdle := idle_result hAsks
      rcases hIdle.registries with ⟨more, hMore, hEmpty⟩
      unfold stores
      rw [hIdle.events, hMore]
      exact Registry.storedIn_append_of_empty _ hEmpty
  | some asked =>
      rcases asked with ⟨index, r, request⟩
      rcases result_of_asks hAsks with ⟨hOpen, hResult⟩
      have hStores :=
        Registry.storedIn_set hOpen (r.after request)
      have hAfter := r.stored_after request
      rw [hResult]
      unfold stores setRegistry
      dsimp only
      omega

/- So are all that a run stores. -/
theorem stores_after
    (s : Session)
    (steps : List Step) :
    (s.after steps).stores =
      s.stores +
        ((s.trace steps).flatMap
          (fun x => x.result.events)).countP
            (fun e => e.level = .debug) := by
  induction steps generalizing s with
  | nil => rfl
  | cons first rest ih =>
      change ((s.step first).session.after rest).stores = _
      have hFirst := Moment.stores_result ⟨s, first⟩
      rw [ih, trace, List.flatMap_cons, List.countP_append]
      change (s.step first).session.stores = _ at hFirst
      rw [hFirst]
      dsimp only
      omega

end Session

end RecordQuery

------------------------------------------------------------
-- Identities
------------------------------------------------------------

namespace RecordQuery

namespace Session

/-
  The identity of the entry that a step is handed, if it is
  handed one.  To a selection it is handed to be rendered
  with.
-/
def Moment.shown?
    (x : Moment) :
    Option Identity :=
  match x.asks? with
  | none => none
  | some (index, r, request) =>
      (r.shown request).map
        (fun entry => (stored index entry).identity)

/-
  The identities seen so far are different ones, their
  serial numbers are used up, and the identities of all
  entries are among them.
-/
structure Tracked
    (s : Session)
    (seen : List Identity) :
    Prop where
  nodup : seen.Nodup
  lt_stored :
    ∀ identity ∈ seen,
      ∃ r,
        s.registries[identity.registry]? = some r ∧
          identity.serial < r.stored
  mem_of_cached :
    ∀ index r key entry,
      s.registries[index]? = some r →
        r.cached key = some entry →
          (stored index entry).identity ∈ seen

/- Nothing is seen before the first step. -/
theorem tracked_empty :
    Tracked empty [] where
  nodup := List.nodup_nil
  lt_stored := List.forall_mem_nil _
  mem_of_cached := by
    intro index r key entry hOpen
    cases hOpen

variable {s : Session}
variable {seen : List Identity}

/- Opening a registry shows nothing. -/
theorem Tracked.idle
    (hTracked : Tracked s seen)
    {result : Result}
    (hIdle : result.Idle s) :
    Tracked result.session seen := by
  rcases hIdle.registries with ⟨more, hMore, hEmpty⟩
  refine ⟨hTracked.nodup, ?_, ?_⟩
  · intro identity hSeen
    rcases hTracked.lt_stored identity hSeen with
      ⟨r, hOpen, hLt⟩
    have hIndex := (List.getElem?_eq_some_iff.mp hOpen).1
    refine ⟨r, ?_, hLt⟩
    rw [hMore, List.getElem?_append_left hIndex]
    exact hOpen
  · intro index r key entry hOpen hCached
    rw [hMore, List.getElem?_append] at hOpen
    split at hOpen
    · exact
        hTracked.mem_of_cached index r key entry hOpen
          hCached
    · have hNew := hEmpty r (List.mem_of_getElem? hOpen)
      rw [hNew, Registry.cached_empty] at hCached
      cases hCached

/- A mapping that is stored gets an identity of its own. -/
theorem Tracked.store
    (hTracked : Tracked s seen)
    {index : Nat}
    {r : Registry}
    (hOpen : s.registries[index]? = some r)
    (key : String)
    (mapping : Mapping) :
    Tracked (s.setRegistry index (r.store key mapping))
      (seen ++ [⟨index, r.stored⟩]) := by
  have hNew : (⟨index, r.stored⟩ : Identity) ∉ seen := by
    intro hSeen
    rcases hTracked.lt_stored _ hSeen with
      ⟨other, hOther, hLt⟩
    rw [hOpen] at hOther
    cases hOther
    exact Nat.lt_irrefl _ hLt
  have hLt := (List.getElem?_eq_some_iff.mp hOpen).1
  have hSelf :
      (s.setRegistry index
          (r.store key mapping)).registries[index]? =
        some (r.store key mapping) :=
    List.getElem?_set_self hLt
  have hOther {i : Nat} (hNe : index ≠ i) :
      (s.setRegistry index
          (r.store key mapping)).registries[i]? =
        s.registries[i]? :=
    List.getElem?_set_ne hNe
  refine ⟨?_, ?_, ?_⟩
  · exact
      List.nodup_append.mpr
        ⟨hTracked.nodup, by simp, by
          intro one hOne other hLast hEq
          rw [List.mem_singleton.mp hLast] at hEq
          exact hNew (hEq ▸ hOne)⟩
  · intro identity hSeen
    rcases List.mem_append.mp hSeen with hOld | hLast
    · rcases hTracked.lt_stored identity hOld with
        ⟨found, hFound, hStored⟩
      by_cases hIndex : index = identity.registry
      · subst hIndex
        rw [hOpen] at hFound
        cases hFound
        exact ⟨_, hSelf, Nat.lt_succ_of_lt hStored⟩
      · exact ⟨found, (hOther hIndex).trans hFound, hStored⟩
    · rw [List.mem_singleton.mp hLast]
      exact ⟨_, hSelf, Nat.lt_succ_self _⟩
  · intro i found other entry hFound hCached
    by_cases hIndex : index = i
    · subst hIndex
      rw [hSelf] at hFound
      cases hFound
      by_cases hKey : other = key
      · subst hKey
        rw [Registry.cached_store_self] at hCached
        cases hCached
        exact
          List.mem_append_right _ (List.mem_singleton_self _)
      · rw [Registry.cached_store_of_ne r mapping hKey]
          at hCached
        exact
          List.mem_append_left _
            (hTracked.mem_of_cached index r other entry hOpen
              hCached)
    · rw [hOther hIndex] at hFound
      exact
        List.mem_append_left _
          (hTracked.mem_of_cached i found other entry hFound
            hCached)

/-
  What has been seen after a session, with as many new
  identities as mappings are logged, if this one was shown.
-/
def Sees
    (seen : List Identity)
    (s : Session)
    (events : List Event)
    (shown : Option Identity) :
    Prop :=
  ∃ fresh,
    Tracked s (seen ++ fresh) ∧
      fresh.length =
        events.countP (fun e => e.level = .debug) ∧
      ∀ identity,
        identity ∈ seen ++ fresh ↔
          identity ∈ seen ∨ shown = some identity

/- What was seen before is nothing new. -/
theorem Tracked.sees_old
    (hTracked : Tracked s seen)
    {events : List Event}
    {shown : Option Identity}
    (hNothing :
      events.countP (fun e => e.level = .debug) = 0)
    (hOld :
      ∀ identity,
        shown = some identity → identity ∈ seen) :
    Sees seen s events shown := by
  refine ⟨[], ?_, hNothing.symm, ?_⟩
  · rw [List.append_nil]
    exact hTracked
  · intro identity
    rw [List.append_nil]
    exact ⟨Or.inl, fun hEither => hEither.elim id (hOld _)⟩

/-
  A request shows an identity that was seen before, or a new
  one for the mapping it stores and logs, or none.
-/
theorem Tracked.sees_request
    (hTracked : Tracked s seen)
    {index : Nat}
    {r : Registry}
    (hOpen : s.registries[index]? = some r)
    (request : Registry.Request) :
    Sees seen (s.setRegistry index (r.after request))
      (r.events request)
      ((r.shown request).map
        (fun entry => (stored index entry).identity)) := by
  have hStored := r.stored_after request
  cases r.effect request with
  | nothing hShown hAfter =>
      rw [hAfter] at hStored
      rw [hAfter, setRegistry_self hOpen, hShown]
      exact hTracked.sees_old (by omega) nofun
  | @found key entry hKey hAim hCached hShown hAfter =>
      rw [hAfter] at hStored
      rw [hAfter, setRegistry_self hOpen, hShown]
      apply hTracked.sees_old
      · omega
      · intro identity hEq
        cases hEq
        exact
          hTracked.mem_of_cached index r key entry hOpen
            hCached
  | @stored key mapping hKey hAim hShown hAfter =>
      rw [hAfter] at hStored
      rw [hAfter, hShown]
      refine
        ⟨[⟨index, r.stored⟩], hTracked.store hOpen key mapping,
          ?_, ?_⟩
      · rw [List.length_singleton]
        change r.stored + 1 = _ at hStored
        omega
      · intro identity
        rw [List.mem_append, List.mem_singleton, eq_comm]
        exact or_congr_right Option.some_inj.symm

/- So does every step. -/
theorem Tracked.sees_result
    {x : Moment}
    (hTracked : Tracked x.session seen) :
    Sees seen x.result.session x.result.events x.shown? := by
  unfold Moment.shown?
  cases hAsks : x.asks? with
  | none =>
      have hIdle := Moment.idle_result hAsks
      apply (hTracked.idle hIdle).sees_old
      · rw [hIdle.events]
        rfl
      · exact nofun
  | some asked =>
      rcases asked with ⟨index, r, request⟩
      rcases Moment.result_of_asks hAsks with
        ⟨hOpen, hResult⟩
      rw [hResult]
      exact hTracked.sees_request hOpen request

/-
  The identities that a run shows besides those seen before
  are as many as it logs stored mappings.
-/
theorem Tracked.run
    (hTracked : Tracked s seen)
    (steps : List Step) :
    ∃ identities : List Identity,
      identities.Nodup ∧
        (∀ identity,
          identity ∈ identities ↔
            identity ∈ seen ∨
              ∃ x ∈ s.trace steps,
                x.shown? = some identity) ∧
        identities.length =
          seen.length +
            ((s.trace steps).flatMap
              (fun x => x.result.events)).countP
                (fun e => e.level = .debug) := by
  induction steps generalizing s seen with
  | nil => exact ⟨seen, hTracked.nodup, by simp [trace], rfl⟩
  | cons first rest ih =>
      have hMoment :
          Tracked (Moment.mk s first).session seen :=
        hTracked
      rcases hMoment.sees_result with
        ⟨fresh, hNext, hCount, hFirst⟩
      rcases ih hNext with
        ⟨identities, hNodup, hMem, hLength⟩
      refine ⟨identities, hNodup, ?_, ?_⟩
      · intro identity
        rw [hMem, hFirst, trace]
        simp only [List.mem_cons, exists_eq_or_imp, or_assoc]
        exact Iff.rfl
      · rw [hLength, trace, List.flatMap_cons,
          List.countP_append, List.length_append, hCount]
        dsimp only [Moment.result]
        omega

end Session

end RecordQuery

------------------------------------------------------------
-- Runs
------------------------------------------------------------

namespace RecordQuery

namespace Session

/- An inspection logs nothing, whatever it answers. -/
theorem Moment.events_of_cached
    {x : Moment}
    {registry : Nat}
    {key : String}
    (hStep : x.step = .cached registry key) :
    x.result.events = [] := by
  cases hAsks : x.asks? with
  | none => exact (idle_result hAsks).events
  | some asked =>
      rcases asked with ⟨index, r, request⟩
      rw [(result_of_asks hAsks).2]
      unfold asks? at hAsks
      rw [hStep] at hAsks
      rcases Option.map_eq_some_iff.mp hAsks with
        ⟨_, _, hEq⟩
      cases hEq
      rfl

/-
  The log of a run accounts for it.  There are as many
  warnings as failures, each of them the last record of the
  step that failed, and the only warning of that step.
  There are as many debug records as the registries have
  stored mappings, which is the number of different
  identities that were shown.  There are as many traces of
  found models as there were lookups of types with an entry,
  those for selections included, and as many of finished
  statements as statements were answered, each of them right
  after the one record of its lookup.  An inspection logs
  nothing.
-/
theorem log_accounts_for_run
    (steps : List Step) :
    let trace := empty.trace steps
    let results := empty.run steps
    let log := results.flatMap Result.log
    let stores := log.countP (fun x => x.level = .debug)
    (log.countP (fun x => x.level = .warn) =
        results.countP (fun x => x.answer.failure?.isSome)) ∧
      (∀ x ∈ results,
        ∀ failure,
          x.answer.failure? = some failure →
            x.log.countP (fun x => x.level = .warn) = 1 ∧
              ∃ before last,
                x.log = before ++ [last] ∧
                  last.Reports failure) ∧
      stores = (empty.after steps).stores ∧
      (∃ identities : List Identity,
        identities.Nodup ∧
          (∀ identity,
            identity ∈ identities ↔
              ∃ x ∈ trace, x.shown? = some identity) ∧
          identities.length = stores) ∧
      log.countP LogRecord.isFound =
        trace.countP Moment.hit ∧
      (log.countP LogRecord.isBuilt =
        results.countP
          (fun x => x.answer.statement?.isSome)) ∧
      (∀ x ∈ results,
        ∀ statement,
          x.answer.statement? = some statement →
            ∃ first,
              first.isLookup = true ∧
                x.log =
                  [first,
                    ⟨.trace,
                      "Built query: " ++ statement.sql ++
                        " args: [" ++
                        Event.argumentsText statement.args ++
                        "]"⟩]) ∧
      ∀ x ∈ trace,
        ∀ registry key,
          x.step = .cached registry key →
            x.result.log = [] := by
  intro trace results log stores
  have hResults : results = trace.map Moment.result :=
    run_eq_map_trace empty steps
  have hLog :
      log =
        (trace.flatMap (fun x => x.result.events)).map
          Event.record := by
    unfold log Result.log
    rw [hResults, List.flatMap_map, List.map_flatMap]
  have hAccount {x : Result} (hMem : x ∈ results) :
      ∃ hit, Account x.events x.answer hit := by
    rw [hResults] at hMem
    rcases List.mem_map.mp hMem with ⟨m, _, rfl⟩
    exact ⟨m.hit, m.account⟩
  refine ⟨?_, ?_, ?_, ?_, ?_, ?_, ?_, ?_⟩
  · rw [hLog, Event.countP_level_map, hResults,
      List.countP_map]
    exact
      countP_flatMap_events trace
        (fun x => x.account.warnings)
  · intro x hMem failure hFailure
    rcases hAccount hMem with ⟨hit, hAccount⟩
    have hWarnings := hAccount.warnings
    rw [hFailure] at hWarnings
    rcases hAccount.reported failure hFailure with
      ⟨before, last, hEvents, hReports⟩
    unfold Result.log
    refine
      ⟨(Event.countP_level_map _ _).trans hWarnings,
        before.map Event.record, last.record, ?_,
        hReports.record⟩
    rw [hEvents, List.map_append]
    rfl
  · have hAfter := stores_after empty steps
    unfold stores
    rw [hLog, Event.countP_level_map, hAfter]
    exact (Nat.zero_add _).symm
  · rcases tracked_empty.run steps with
      ⟨identities, hNodup, hMem, hLength⟩
    refine ⟨identities, hNodup, ?_, ?_⟩
    · intro identity
      rw [hMem]
      simp [trace]
    · unfold stores
      rw [hLog, Event.countP_level_map, hLength]
      exact Nat.zero_add _
  · rw [hLog, Event.countP_isFound_map]
    exact
      countP_flatMap_events trace (fun x => x.account.found)
  · rw [hLog, Event.countP_isBuilt_map, hResults,
      List.countP_map]
    exact
      countP_flatMap_events trace (fun x => x.account.built)
  · intro x hMem statement hStatement
    rcases hAccount hMem with ⟨hit, hAccount⟩
    rcases hAccount.finished statement hStatement with
      ⟨first, hLookup, hEvents⟩
    refine
      ⟨first.record, first.isLookup_record.trans hLookup, ?_⟩
    unfold Result.log
    rw [hEvents]
    rfl
  · intro x _ registry key hStep
    unfold Result.log
    rw [Moment.events_of_cached hStep]
    rfl

/-
  A selection that cannot be rendered stores a mapping all
  the same, and the next one finds it.
-/
theorem log_accounts_for_run_with_failures :
    let record : Record :=
      ⟨"user", ⟨"User", [⟨"id", none⟩]⟩, none⟩
    let target : Target := .pointer .owned (.record record)
    let condition := Predicate.eq "missing" true
    let statement : Statement := ⟨"SELECT * FROM `user`;", []⟩
    let steps : List Step :=
      [.openDatabase none none,
        .select 0 record [.filter [condition]],
        .select 0 record [],
        .register 0 target [.column "missing" "c"],
        .build 0,
        .build 1,
        .cached 0 "user",
        .register 0 target [.table "people"]]
    let results := empty.run steps
    let log := results.flatMap Result.log
    let failed := results[4]
    let built := results[5]
    let inspection : Moment :=
      ⟨empty.after (steps.take 6), .cached 0 "user"⟩
    log.countP (fun x => x.level = .warn) = 2 ∧
      failed.answer.failure? =
        some (.ofFault (.unknownField "missing")) ∧
      (∃ before last,
        failed.log = before ++ [last] ∧
          last.Reports
            (.ofFault (.unknownField "missing"))) ∧
      (empty.after steps).stores = 2 ∧
      (∃ identities : List Identity,
        identities.Nodup ∧
          (∀ identity,
            identity ∈ identities ↔
              identity = ⟨0, 0⟩ ∨ identity = ⟨0, 1⟩) ∧
          identities.length = 2) ∧
      log.countP LogRecord.isFound = 1 ∧
      log.countP LogRecord.isBuilt = 1 ∧
      built.answer.statement? = some statement ∧
      (∃ first,
        first.isLookup = true ∧
          built.log =
            [first,
              ⟨.trace,
                "Built query: SELECT * FROM `user`; " ++
                  "args: []"⟩]) ∧
      inspection.result.log = [] := by
  intro record target condition statement steps results
    log failed built inspection
  rcases log_accounts_for_run steps with
    ⟨hWarnings, hLast, hStores, hShown, hFound, hBuilt,
      hFinished, hInspected⟩
  have hLogged :
      log.countP (fun x => x.level = .debug) = 2 := by
    decide
  have hFailure :
      failed.answer.failure? =
        some (.ofFault (.unknownField "missing")) := by
    decide
  have hStatement :
      built.answer.statement? = some statement := by
    decide
  have hInspection :
      (empty.trace steps)[6]? = some inspection :=
    rfl
  have hIdentities :
      (empty.trace steps).filterMap Moment.shown? =
        [⟨0, 0⟩, ⟨0, 0⟩, ⟨0, 0⟩, ⟨0, 1⟩] := by
    decide
  rcases hShown with ⟨identities, hNodup, hMem, hLength⟩
  refine
    ⟨hWarnings.trans (by decide), hFailure,
      (hLast failed (List.getElem_mem _) _ hFailure).2,
      hStores.symm.trans hLogged,
      ⟨identities, hNodup, ?_, hLength.trans hLogged⟩,
      hFound.trans (by decide), hBuilt.trans (by decide),
      hStatement,
      hFinished built (List.getElem_mem _) _ hStatement, ?_⟩
  · intro identity
    rw [hMem, ← List.mem_filterMap, hIdentities]
    simp
  · exact
      hInspected inspection
        (List.mem_of_getElem? hInspection) 0 "user" rfl

end Session

end RecordQuery
