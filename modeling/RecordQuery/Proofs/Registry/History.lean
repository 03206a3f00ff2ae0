import RecordQuery.Proofs.Choice
import RecordQuery.Proofs.Registry.Outcome
import RecordQuery.Proofs.Session.Building

/-
  What a registry remembers of the requests made to it.

  Key definitions include:
    * `RecordQuery.Registry.Request`
    * `RecordQuery.Registry.run`
    * `RecordQuery.Registry.turns`
    * `RecordQuery.Registry.Effect`
    * `RecordQuery.Registry.Numbered`

  Key theorems include:
    * `RecordQuery.Registry.effect`
    * `RecordQuery.Registry.cached_after`
    * `RecordQuery.Registry.cached_run`
    * `RecordQuery.Registry.Numbered.run`
    * `RecordQuery.Registry.run_keeps_latest`

  The entry of a type is the one of its latest successful
  registration, or else of its first successful lookup.  All
  of this follows from what a single request can do.
-/

------------------------------------------------------------
-- Requests
------------------------------------------------------------

namespace RecordQuery

namespace Registry

/- What can be asked of a registry. -/
inductive Request where
  | register (target : Target)
      (changes : List Customization)
  | lookup (target : Target)
  | cached (key : String)
  | build (selection : Selection)

/- What a request is made for. -/
inductive Aim where
  | registration
  | lookup
  | inspection
  deriving DecidableEq, Repr

namespace Request

/- A selection is built to look its mapping up. -/
def aim : Request → Aim
| .register _ _ => .registration
| .lookup _ => .lookup
| .cached _ => .inspection
| .build _ => .lookup

/- The record type that a request is about. -/
def key? : Request → Option String
| .register target _ => target.record?.map Record.key
| .lookup target => target.record?.map Record.key
| .cached key => some key
| .build selection => some selection.record.key

end Request

/- The registry that a request leaves. -/
def after
    (r : Registry) :
    Request → Registry
| .register target changes =>
    (r.register target changes).registry
| .lookup target => (r.lookup target).registry
| .cached _ => r
| .build selection => (selection.build r).registry

/-
  The entry that a request hands out, if it does.  To a
  selection it is handed out to be rendered with, whether or
  not that succeeds.
-/
def shown
    (r : Registry) :
    Request → Option Entry
| .register target changes =>
    (r.register target changes).answer.toOption
| .lookup target => (r.lookup target).answer.toOption
| .cached key => r.cached key
| .build selection =>
    (r.lookup selection.target).answer.toOption

/- The registry that requests leave one after the other. -/
def run
    (r : Registry)
    (requests : List Request) :
    Registry :=
  requests.foldl after r

/- A request and the entry that was handed out to it. -/
structure Turn where
  request : Request
  entry : Option Entry

/- What became of requests, in order. -/
def turns
    (r : Registry) :
    List Request → List Turn
| [] => []
| request :: rest =>
    ⟨request, r.shown request⟩ ::
      (r.after request).turns rest

/-
  The entry handed out in a turn, if its request had this
  aim and was about this type.
-/
def Turn.entryFor?
    (aim : Aim)
    (key : String)
    (t : Turn) :
    Option Entry :=
  if t.request.aim = aim ∧ t.request.key? = some key then
    t.entry
  else
    none

end Registry

end RecordQuery

------------------------------------------------------------
-- Effects
------------------------------------------------------------

namespace RecordQuery

namespace Registry

/-
  What a request can do: nothing, hand out the entry of its
  type, or store a mapping and hand out the new entry.  No
  registration hands out an old entry, and a lookup stores a
  mapping only if its type has no entry.
-/
inductive Effect
    (r : Registry)
    (request : Request) :
    Prop where
  | nothing
      (hShown : r.shown request = none)
      (hAfter : r.after request = r)
  | found
      {key : String}
      {entry : Entry}
      (hKey : request.key? = some key)
      (hAim : request.aim ≠ .registration)
      (hCached : r.cached key = some entry)
      (hShown : r.shown request = some entry)
      (hAfter : r.after request = r)
  | stored
      {key : String}
      {mapping : Mapping}
      (hKey : request.key? = some key)
      (hAim :
        request.aim = .registration ∨
          request.aim = .lookup ∧ r.cached key = none)
      (hShown :
        r.shown request = some (r.nextEntry mapping))
      (hAfter : r.after request = r.store key mapping)

variable {r : Registry}
variable {request : Request}

/- The effect of what comes down to a registration. -/
theorem effect_of_register
    {target : Target}
    {changes : List Customization}
    (hKey :
      request.key? = target.record?.map Record.key)
    (hAim :
      ∀ record,
        target.record? = some record →
          request.aim = .registration ∨
            request.aim = .lookup ∧
              r.cached record.key = none)
    (hShown :
      r.shown request =
        (r.register target changes).answer.toOption)
    (hAfter :
      r.after request =
        (r.register target changes).registry) :
    Effect r request := by
  rcases r.register_cases target changes with
    ⟨_, hEq⟩ | ⟨_, _, _, _, hEq⟩ |
      ⟨record, mapping, hRecord, _, hEq⟩
  · rw [hEq] at hShown hAfter
    exact .nothing hShown hAfter
  · rw [hEq] at hShown hAfter
    exact .nothing hShown hAfter
  · rw [hEq] at hShown hAfter
    rw [hRecord] at hKey
    exact .stored hKey (hAim record hRecord) hShown hAfter

/- The effect of what comes down to a lookup. -/
theorem effect_of_lookup
    {target : Target}
    (hKey :
      request.key? = target.record?.map Record.key)
    (hAim : request.aim = .lookup)
    (hShown :
      r.shown request =
        (r.lookup target).answer.toOption)
    (hAfter : r.after request = (r.lookup target).registry) :
    Effect r request := by
  rcases r.lookup_cases target with
    ⟨record, entry, hRecord, hCached, hEq⟩ | ⟨hNone, hEq⟩
  · rw [hEq] at hShown hAfter
    rw [hRecord] at hKey
    exact
      .found hKey (by simp [hAim]) hCached hShown hAfter
  · rw [hEq] at hShown hAfter
    apply effect_of_register hKey _ hShown hAfter
    intro record hRecord
    exact Or.inr ⟨hAim, hNone record hRecord⟩

/- Every request has one of the effects. -/
theorem effect
    (r : Registry)
    (request : Request) :
    Effect r request := by
  cases request with
  | register target changes =>
      exact
        effect_of_register rfl (fun _ _ => Or.inl rfl) rfl rfl
  | lookup target => exact effect_of_lookup rfl rfl rfl rfl
  | cached key =>
      cases hCached : r.cached key with
      | none => exact .nothing hCached rfl
      | some entry =>
          exact
            .found rfl (fun hAim => nomatch hAim) hCached
              hCached rfl
  | build selection =>
      exact
        effect_of_lookup rfl rfl rfl
          (selection.registry_build r)

end Registry

end RecordQuery

------------------------------------------------------------
-- Latest Entries
------------------------------------------------------------

namespace RecordQuery

namespace Registry

/-
  A request replaces the entry of a type by the entry that
  it registers, or adds the one that it looks up.
-/
theorem cached_after
    (r : Registry)
    (request : Request)
    (key : String) :
    let t : Turn := ⟨request, r.shown request⟩
    (r.after request).cached key =
      (t.entryFor? .registration key).or
        ((r.cached key).or (t.entryFor? .lookup key)) := by
  intro t
  cases r.effect request with
  | nothing hShown hAfter =>
      simp [t, Turn.entryFor?, hShown, hAfter]
  | @found own entry hKey hAim hCached hShown hAfter =>
      by_cases hOwn : own = key
      · subst hOwn
        simp [t, Turn.entryFor?, hAim, hCached, hAfter]
      · simp [t, Turn.entryFor?, hKey, hOwn, hAfter]
  | @stored own mapping hKey hAim hShown hAfter =>
      by_cases hOwn : own = key
      · subst hOwn
        rw [hAfter, cached_store_self]
        rcases hAim with hAim | ⟨hAim, hNone⟩
        · simp [t, Turn.entryFor?, hAim, hKey, hShown]
        · simp [t, Turn.entryFor?, hAim, hKey, hShown,
            hNone]
      · rw [hAfter, cached_store_of_ne r mapping (Ne.symm hOwn)]
        simp [t, Turn.entryFor?, hKey, hOwn]

/-
  After requests a type has the entry of its last
  registration, or else the one that it had before, or else
  the one of its first lookup.
-/
theorem cached_run
    (r : Registry)
    (requests : List Request)
    (key : String) :
    (r.run requests).cached key =
      ((r.turns requests).filterMap
          (Turn.entryFor? .registration key)).getLast?.or
        ((r.cached key).or
          ((r.turns requests).filterMap
            (Turn.entryFor? .lookup key)).head?) := by
  induction requests generalizing r with
  | nil => simp [run, turns]
  | cons request rest ih =>
      rw [turns, getLast?_filterMap_cons,
        head?_filterMap_cons]
      change ((r.after request).run rest).cached key = _
      rw [ih, cached_after]
      simp only [Option.or_assoc]

/- No entry is ever removed. -/
theorem cached_run_ne_none
    (r : Registry)
    (requests : List Request)
    {key : String}
    (hCached : r.cached key ≠ none) :
    (r.run requests).cached key ≠ none := by
  rw [cached_run]
  simp [hCached]

end Registry

end RecordQuery

------------------------------------------------------------
-- Serial Numbers
------------------------------------------------------------

namespace RecordQuery

namespace Registry

/-
  The given entries have been handed out: their serial
  numbers are used up and tell them apart, and all entries
  of the registry are among them.
-/
structure Numbered
    (r : Registry)
    (entries : List Entry) :
    Prop where
  lt_stored : ∀ entry ∈ entries, entry.serial < r.stored
  eq_of_serial_eq :
    ∀ entry ∈ entries, ∀ other ∈ entries,
      entry.serial = other.serial → entry = other
  mem_of_cached :
    ∀ key entry, r.cached key = some entry → entry ∈ entries

/- Nothing has been handed out by an empty registry. -/
theorem numbered_empty :
    Numbered empty [] where
  lt_stored := List.forall_mem_nil _
  eq_of_serial_eq := List.forall_mem_nil _
  mem_of_cached := by
    intro key entry hCached
    rw [cached_empty] at hCached
    cases hCached

variable {r : Registry}
variable {entries : List Entry}

/- A stored mapping takes a number of its own. -/
theorem Numbered.store
    (hNumbered : Numbered r entries)
    (key : String)
    (mapping : Mapping) :
    Numbered (r.store key mapping)
      (entries ++ [r.nextEntry mapping]) := by
  have hNew :
      ∀ entry ∈ entries,
        entry.serial ≠ (r.nextEntry mapping).serial := by
    intro entry hEntry
    exact Nat.ne_of_lt (hNumbered.lt_stored entry hEntry)
  constructor
  · intro entry hEntry
    rcases List.mem_append.mp hEntry with hOld | hLast
    · exact
        Nat.lt_succ_of_lt (hNumbered.lt_stored entry hOld)
    · rw [List.mem_singleton.mp hLast]
      exact Nat.lt_succ_self _
  · intro entry hEntry other hOther hSerial
    rcases List.mem_append.mp hEntry with hOld | hLast
    · rcases List.mem_append.mp hOther with hOld' | hLast'
      · exact
          hNumbered.eq_of_serial_eq entry hOld other hOld'
            hSerial
      · rw [List.mem_singleton.mp hLast'] at hSerial
        exact absurd hSerial (hNew entry hOld)
    · rw [List.mem_singleton.mp hLast] at hSerial ⊢
      rcases List.mem_append.mp hOther with hOld' | hLast'
      · exact absurd hSerial.symm (hNew other hOld')
      · exact (List.mem_singleton.mp hLast').symm
  · intro other entry hCached
    by_cases hKey : other = key
    · subst hKey
      rw [cached_store_self] at hCached
      cases hCached
      exact List.mem_append_right _ (List.mem_singleton_self _)
    · rw [cached_store_of_ne r mapping hKey] at hCached
      exact
        List.mem_append_left _
          (hNumbered.mem_of_cached other entry hCached)

/- What is handed out again has its number already. -/
theorem Numbered.concat
    (hNumbered : Numbered r entries)
    {entry : Entry}
    (hEntry : entry ∈ entries) :
    Numbered r (entries ++ [entry]) := by
  have hSame :
      ∀ other, other ∈ entries ++ [entry] → other ∈ entries := by
    intro other hOther
    rcases List.mem_append.mp hOther with hOld | hLast
    · exact hOld
    · exact List.mem_singleton.mp hLast ▸ hEntry
  constructor
  · intro other hOther
    exact hNumbered.lt_stored other (hSame other hOther)
  · intro one hOne other hOther
    exact
      hNumbered.eq_of_serial_eq one (hSame one hOne) other
        (hSame other hOther)
  · intro key other hCached
    exact
      List.mem_append_left _
        (hNumbered.mem_of_cached key other hCached)

/- Every request keeps the numbers apart. -/
theorem Numbered.after
    (hNumbered : Numbered r entries)
    (request : Request) :
    Numbered (r.after request)
      (entries ++ (r.shown request).toList) := by
  cases r.effect request with
  | nothing hShown hAfter =>
      rw [hShown, hAfter]
      simpa using hNumbered
  | found hKey hAim hCached hShown hAfter =>
      rw [hShown, hAfter]
      exact
        hNumbered.concat
          (hNumbered.mem_of_cached _ _ hCached)
  | stored hKey hAim hShown hAfter =>
      rw [hShown, hAfter]
      exact hNumbered.store _ _

/- So do all requests of a run. -/
theorem Numbered.run
    (hNumbered : Numbered r entries)
    (requests : List Request) :
    Numbered (r.run requests)
      (entries ++
        (r.turns requests).filterMap Turn.entry) := by
  induction requests generalizing r entries with
  | nil => simpa [Registry.run, turns] using hNumbered
  | cons request rest ih =>
      have hRest := ih (hNumbered.after request)
      change Numbered ((r.after request).run rest) _
      rw [turns, List.filterMap_cons]
      cases hShown : r.shown request with
      | none => simpa [hShown] using hRest
      | some entry => simpa [hShown] using hRest

/- A stored mapping has a number that was not used before. -/
theorem Numbered.serial_ne
    (hNumbered : Numbered r entries)
    {request : Request}
    {entry : Entry}
    (hShown : r.shown request = some entry)
    (hAim :
      request.aim = .registration ∨
        request.aim = .lookup ∧
          ∀ key,
            request.key? = some key → r.cached key = none) :
    ∀ other ∈ entries, other.serial ≠ entry.serial := by
  cases r.effect request with
  | nothing hNone _ =>
      rw [hNone] at hShown
      cases hShown
  | found hKey hOther hCached _ _ =>
      rcases hAim with hAim | ⟨_, hNone⟩
      · exact absurd hAim hOther
      · rw [hNone _ hKey] at hCached
        cases hCached
  | stored _ _ hNew _ =>
      rw [hNew] at hShown
      cases hShown
      intro other hOther
      exact Nat.ne_of_lt (hNumbered.lt_stored other hOther)

end Registry

end RecordQuery

------------------------------------------------------------
-- Runs
------------------------------------------------------------

namespace RecordQuery

namespace Registry

/- The size counts the types that have an entry. -/
theorem exists_keys
    (r : Registry) :
    ∃ keys : List String,
      keys.Nodup ∧
        (∀ key, key ∈ keys ↔ r.cached key ≠ none) ∧
        r.size = keys.length := by
  refine ⟨r.entries.keys, Std.ExtTreeMap.nodup_keys, ?_, ?_⟩
  · intro key
    rw [Std.ExtTreeMap.mem_keys,
      Std.ExtTreeMap.mem_iff_isSome_getElem?,
      Option.isSome_iff_ne_none]
    rfl
  · exact Std.ExtTreeMap.length_keys.symm

/-
  A registry maps every type to its latest entry.  Whatever
  has been asked of a new registry, a type has the entry
  that its last successful registration was given, or, if
  there was none, its first successful lookup, that of a
  selection included; without either it has no entry.  A
  lookup of a type with an entry finds that entry through
  any pointer and with any instance.  What is stored gets a
  number that no earlier turn has shown, and a number always
  shows the same mapping.  The size is the number of types
  with an entry, and no entry is ever removed.
-/
theorem run_keeps_latest
    (requests : List Request) :
    let r := empty.run requests
    let turns := empty.turns requests
    let entries := turns.filterMap Turn.entry
    (∀ key,
        r.cached key =
          (turns.filterMap
              (Turn.entryFor? .registration key)).getLast?.or
            (turns.filterMap
              (Turn.entryFor? .lookup key)).head?) ∧
      (∀ key,
        r.cached key = none ↔
          ∀ t ∈ turns,
            t.entryFor? .registration key = none ∧
              t.entryFor? .lookup key = none) ∧
      (∀ kind record entry,
        r.cached record.key = some entry →
          (r.lookup
              (.pointer kind (.record record))).answer =
            .ok entry) ∧
      (∀ request entry,
        r.shown request = some entry →
          (request.aim = .registration ∨
              request.aim = .lookup ∧
                ∀ key,
                  request.key? = some key →
                    r.cached key = none) →
            ∀ other ∈ entries,
              other.serial ≠ entry.serial) ∧
      (∀ entry ∈ entries, ∀ other ∈ entries,
        entry.serial = other.serial →
          entry.mapping = other.mapping) ∧
      (∃ keys : List String,
        keys.Nodup ∧
          (∀ key, key ∈ keys ↔ r.cached key ≠ none) ∧
          r.size = keys.length) ∧
      ∀ more key,
        r.cached key ≠ none →
          (r.run more).cached key ≠ none := by
  intro r turns entries
  have hLatest :
      ∀ key,
        r.cached key =
          (turns.filterMap
              (Turn.entryFor? .registration key)).getLast?.or
            (turns.filterMap
              (Turn.entryFor? .lookup key)).head? := by
    intro key
    have hRun := cached_run empty requests key
    rw [cached_empty, Option.none_or] at hRun
    exact hRun
  have hNumbered : Numbered r entries :=
    numbered_empty.run requests
  refine
    ⟨hLatest, ?_, ?_, fun _ _ => hNumbered.serial_ne, ?_,
      r.exists_keys, fun more _ => r.cached_run_ne_none more⟩
  · intro key
    rw [hLatest, Option.or_eq_none_iff,
      List.getLast?_eq_none_iff, List.head?_eq_none_iff,
      List.filterMap_eq_nil_iff, List.filterMap_eq_nil_iff]
    exact
      ⟨fun hBoth t hTurn =>
          ⟨hBoth.1 t hTurn, hBoth.2 t hTurn⟩,
        fun hAll =>
          ⟨fun t hTurn => (hAll t hTurn).1,
            fun t hTurn => (hAll t hTurn).2⟩⟩
  · intro kind record entry hCached
    rw [lookup_pointer_of_cached kind hCached]
  · intro entry hEntry other hOther hSerial
    exact
      congrArg Entry.mapping
        (hNumbered.eq_of_serial_eq entry hEntry other hOther
          hSerial)

/-
  A failed registration and a selection that cannot be
  rendered, after a lookup and a registration with another
  table: the registered entry stays, also for an instance
  with a table name of its own, and is replaced under a new
  number.
-/
theorem run_keeps_latest_registration :
    let l : Layout := ⟨"User", [⟨"id", none⟩]⟩
    let record : Record := ⟨"user", l, none⟩
    let named : Record := ⟨"user", l, some "own"⟩
    let target : Target := .pointer .owned (.record record)
    let requests : List Request :=
      [.lookup target,
        .register target [.table "people"],
        .register target [.column "missing" "c"],
        .build
          ⟨⟨0, .generic⟩, record, none,
            some (.column "missing")⟩,
        .cached "user"]
    let r := empty.run requests
    let first : Entry := ⟨0, .ofFields "user" [("id", "id")]⟩
    let second : Entry :=
      ⟨1, .ofFields "people" [("id", "id")]⟩
    let third : Entry := ⟨2, .ofFields "user" [("id", "id")]⟩
    (empty.turns requests).map Turn.entry =
        [some first, some second, none, some second,
          some second] ∧
      r.cached "user" = some second ∧
      (r.lookup (.pointer .shared (.record named))).answer =
        .ok second ∧
      r.shown (.register target []) = some third ∧
      second.serial ≠ third.serial ∧
      (r.run [.register target []]).cached "user" ≠ none := by
  intro l record named target requests r first second third
  have hEntries :
      (empty.turns requests).map Turn.entry =
        [some first, some second, none, some second,
          some second] := by
    decide
  have hCached : r.cached "user" = some second := by
    decide
  have hShown :
      r.shown (.register target []) = some third := by
    decide
  have hSecond :
      second ∈ (empty.turns requests).filterMap Turn.entry := by
    decide
  rcases run_keeps_latest requests with
    ⟨_, _, hLookup, hNew, _, _, hStays⟩
  exact
    ⟨hEntries, hCached,
      hLookup .shared named second hCached, hShown,
      hNew _ third hShown (Or.inl rfl) second hSecond,
      hStays _ "user" (by rw [hCached]; simp)⟩

end Registry

end RecordQuery
