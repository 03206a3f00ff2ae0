import RecordQuery.Proofs.Registry.History

/-
  What the requests of a registry log.

  Key definitions include:
    * `RecordQuery.Event.Reports`
    * `RecordQuery.LogRecord.isFound`
    * `RecordQuery.LogRecord.isBuilt`
    * `RecordQuery.LogRecord.Reports`
    * `RecordQuery.Registry.hits`
    * `RecordQuery.Outcome.failure?`
    * `RecordQuery.Outcome.Logged`
    * `RecordQuery.Outcome.Accounted`

  Key theorems include:
    * `RecordQuery.Event.isFound_record`
    * `RecordQuery.Event.isBuilt_record`
    * `RecordQuery.Registry.register_logged`
    * `RecordQuery.Registry.lookup_logged`
    * `RecordQuery.Outcome.Logged.accounted`
    * `RecordQuery.Selection.build_accounted`
    * `RecordQuery.Selection.build_logs_statement`

  A registration and a lookup log exactly one event, which
  tells what became of them.  Building a selection logs
  that event and, if it succeeded, one for the rendering.
  Which event it was can be told from the level and the text
  of its record.
-/

------------------------------------------------------------
-- Kinds Of Events
------------------------------------------------------------

namespace RecordQuery

namespace Event

/- An entry was found. -/
def isFound : Event → Bool
| .found _ => true
| _ => false

/- An entry was found or a mapping was stored. -/
def isLookup : Event → Bool
| .found _ => true
| .registered _ _ _ => true
| _ => false

/- A statement was finished. -/
def isBuilt : Event → Bool
| .built _ _ => true
| _ => false

/-
  The event that a failure is logged by.  A target without a
  record has one of its own.
-/
def Reports
    (e : Event)
    (failure : Failure) :
    Prop :=
  e = .failed failure ∨
    e = .rejected ∧ failure = .ofFault .notRecordPointer

/- Every failure is logged as a warning. -/
theorem Reports.level
    {e : Event}
    {failure : Failure}
    (hReports : e.Reports failure) :
    e.level = .warn := by
  rcases hReports with rfl | ⟨rfl, _⟩
  · rfl
  · rfl

end Event

end RecordQuery

------------------------------------------------------------
-- Kinds Of Records
------------------------------------------------------------

namespace RecordQuery

namespace LogRecord

/- The text of a record begins and ends in a given way. -/
def isFramed
    (opening closing : String)
    (record : LogRecord) :
    Bool :=
  opening.toList.isPrefixOf record.text.toList &&
    closing.toList.isSuffixOf record.text.toList

/- A trace of a model that was found. -/
def isFound
    (record : LogRecord) :
    Bool :=
  record.level == .trace &&
    record.isFramed "Model of `" "` found in cache"

/- A trace of a statement with its arguments. -/
def isBuilt
    (record : LogRecord) :
    Bool :=
  record.level == .trace &&
    record.isFramed "Built query: " "]"

/- A model that was found or that has been registered. -/
def isLookup
    (record : LogRecord) :
    Bool :=
  record.isFound ||
    record.level == .debug &&
      record.isFramed "Registered `" " fields"

/-
  A warning with the whole report of a failure.  That of a
  target without a record is worded without its cause.
-/
def Reports
    (record : LogRecord)
    (failure : Failure) :
    Prop :=
  record = ⟨.warn, failure.report⟩ ∨
    failure = .ofFault .notRecordPointer ∧
      record =
        ⟨.warn,
          "Rejected registration of a value that is not " ++
            "a pointer to a struct"⟩

/- What is put between two texts is framed by them. -/
theorem isFramed_append
    (level : Level)
    (opening middle closing : String) :
    isFramed opening closing
        ⟨level, opening ++ middle ++ closing⟩ =
      true := by
  simp only [isFramed, String.toList_append,
    Bool.and_eq_true, List.isPrefixOf_iff_prefix,
    List.isSuffixOf_iff_suffix]
  constructor
  · rw [List.append_assoc]
    exact List.prefix_append _ _
  · exact List.suffix_append _ _

end LogRecord

namespace Event

/- The wording of a found entry. -/
theorem text_found
    (name : String) :
    text (.found name) =
      "Model of `" ++ name ++ "` found in cache" :=
  rfl

/- The wording of a stored mapping. -/
theorem text_registered
    (name table : String)
    (fields : Nat) :
    text (.registered name table fields) =
      "Registered `" ++
          (name ++ "` as table `" ++ table ++ "` with " ++
            Text.natural fields) ++
        " fields" := by
  simp only [← String.append_assoc]
  rfl

/- The wording of a finished statement. -/
theorem text_built
    (sql : String)
    (args : List Argument) :
    text (.built sql args) =
      "Built query: " ++
          (sql ++ " args: [" ++ argumentsText args) ++
        "]" := by
  simp only [← String.append_assoc]
  rfl

/- The text of its record tells a found entry. -/
theorem isFound_record
    (e : Event) :
    e.record.isFound = e.isFound := by
  cases e with
  | rejected | failed | registered => rfl
  | found name =>
      exact
        LogRecord.isFramed_append .trace "Model of `" name
          "` found in cache"
  | built sql args =>
      have hOther :
          "Model of `".toList.isPrefixOf
              (text (.built sql args)).toList =
            false := by
        rw [text_built]
        simp [List.isPrefixOf]
      rw [LogRecord.isFound, LogRecord.isFramed, record,
        hOther, Bool.false_and, Bool.and_false]
      rfl

/- The text of its record tells a finished statement. -/
theorem isBuilt_record
    (e : Event) :
    e.record.isBuilt = e.isBuilt := by
  cases e with
  | rejected | failed | registered => rfl
  | found name =>
      have hOther :
          "Built query: ".toList.isPrefixOf
              (text (.found name)).toList =
            false := by
        rw [text_found]
        simp [List.isPrefixOf]
      rw [LogRecord.isBuilt, LogRecord.isFramed, record,
        hOther, Bool.false_and, Bool.and_false]
      rfl
  | built sql args =>
      rw [LogRecord.isBuilt, record, text_built,
        LogRecord.isFramed_append]
      rfl

/- The text of its record tells where an entry is from. -/
theorem isLookup_record
    (e : Event) :
    e.record.isLookup = e.isLookup := by
  have hFound := e.isFound_record
  rw [LogRecord.isLookup, hFound]
  cases e with
  | rejected | failed | found | built => rfl
  | registered name table fields =>
      rw [record, text_registered,
        LogRecord.isFramed_append]
      rfl

/- What reports a failure leaves a record of its own. -/
theorem Reports.record
    {e : Event}
    {failure : Failure}
    (hReports : e.Reports failure) :
    e.record.Reports failure := by
  rcases hReports with rfl | ⟨rfl, hFailure⟩
  · exact Or.inl rfl
  · exact Or.inr ⟨hFailure, rfl⟩

/- Records have the levels of their events. -/
theorem countP_level_map
    (events : List Event)
    (level : Level) :
    (events.map record).countP
        (fun x => x.level = level) =
      events.countP (fun e => e.level = level) := by
  rw [List.countP_map]
  rfl

/- Found entries are counted by their texts. -/
theorem countP_isFound_map
    (events : List Event) :
    (events.map record).countP LogRecord.isFound =
      events.countP Event.isFound := by
  rw [List.countP_map]
  apply List.countP_congr
  intro e _
  exact Bool.eq_iff_iff.mp e.isFound_record

/- So are finished statements. -/
theorem countP_isBuilt_map
    (events : List Event) :
    (events.map record).countP LogRecord.isBuilt =
      events.countP Event.isBuilt := by
  rw [List.countP_map]
  apply List.countP_congr
  intro e _
  exact Bool.eq_iff_iff.mp e.isBuilt_record

end Event

end RecordQuery

------------------------------------------------------------
-- One Event For Each Entry
------------------------------------------------------------

namespace RecordQuery

/-
  What comes of asking a registry for an entry, and whether
  it is one that the registry had before.
-/
inductive Outcome.Logged
    (r : Registry) :
    Outcome Entry → Bool → Prop where
  | refused
      {failure : Failure}
      {e : Event}
      (hReports : e.Reports failure) :
      Logged r ⟨r, .error failure, [e]⟩ false
  | registered
      (key name : String)
      (mapping : Mapping) :
      Logged r
        ⟨r.store key mapping, .ok (r.nextEntry mapping),
          [.registered name mapping.table
            mapping.columns.size]⟩
        false
  | found
      (name : String)
      (entry : Entry) :
      Logged r ⟨r, .ok entry, [.found name]⟩ true

namespace Registry

variable (r : Registry)

/- The request is a lookup of a type that has an entry. -/
def hits
    (request : Request) :
    Bool :=
  request.aim == .lookup &&
    (request.key?.bind r.cached).isSome

/- A registration never takes an entry that exists. -/
theorem register_logged
    (target : Target)
    (changes : List Customization) :
    (r.register target changes).Logged r false := by
  rcases r.register_cases target changes with
    ⟨_, hEq⟩ | ⟨record, fault, _, _, hEq⟩ |
      ⟨record, mapping, _, _, hEq⟩
  · rw [hEq]
    exact .refused (Or.inr ⟨rfl, rfl⟩)
  · rw [hEq]
    exact .refused (Or.inl rfl)
  · rw [hEq]
    exact .registered record.key record.layout.name mapping

/- A lookup takes one if there is one. -/
theorem lookup_logged
    (target : Target) :
    (r.lookup target).Logged r (r.hits (.lookup target)) := by
  rcases r.lookup_cases target with
    ⟨record, entry, hRecord, hCached, hEq⟩ | ⟨hNone, hEq⟩
  · have hHit : r.hits (.lookup target) = true := by
      simp [hits, Request.aim, Request.key?, hRecord, hCached]
    rw [hEq, hHit]
    exact .found record.layout.name entry
  · have hMiss : r.hits (.lookup target) = false := by
      cases hRecord : target.record? with
      | none => simp [hits, Request.key?, hRecord]
      | some record =>
          simp [hits, Request.key?, hRecord,
            hNone record hRecord]
    rw [hEq, hMiss]
    exact r.register_logged target []

end Registry

end RecordQuery

------------------------------------------------------------
-- Accounts
------------------------------------------------------------

namespace RecordQuery

namespace Outcome

/- The failure that is answered, if there is one. -/
def failure?
    {α : Type}
    (o : Outcome α) :
    Option Failure :=
  match o.answer with
  | .error failure => some failure
  | .ok _ => none

/-
  The events of an outcome account for it: one warning at
  the end if and only if it is a failure, one event for each
  mapping that was stored, and one if an entry was found.
-/
structure Accounted
    {α : Type}
    (r : Registry)
    (o : Outcome α)
    (hit : Bool) :
    Prop where
  warnings :
    o.events.countP (fun e => e.level = .warn) =
      if o.failure?.isSome then 1 else 0
  reported :
    ∀ failure,
      o.failure? = some failure →
        ∃ before e,
          o.events = before ++ [e] ∧ e.Reports failure
  stored :
    o.registry.stored =
      r.stored +
        o.events.countP (fun e => e.level = .debug)
  found :
    o.events.countP Event.isFound = if hit then 1 else 0

variable {r : Registry}
variable {o : Outcome Entry}
variable {hit : Bool}

/- Asking for an entry is accounted for. -/
theorem Logged.accounted
    (hLogged : o.Logged r hit) :
    o.Accounted r hit := by
  cases hLogged with
  | @refused failure e hReports =>
      have hLevel := hReports.level
      have hFound : e.isFound = false := by
        cases e with
        | found name => cases hLevel
        | rejected | failed | registered | built => rfl
      constructor
      · simp [hLevel, failure?]
      · intro other hOther
        cases hOther
        exact ⟨[], e, rfl, hReports⟩
      · simp [hLevel]
      · simp [hFound]
  | registered key name mapping =>
      constructor
      · rfl
      · intro failure hFailure
        cases hFailure
      · rfl
      · rfl
  | found name entry =>
      constructor
      · rfl
      · intro failure hFailure
        cases hFailure
      · rfl
      · rfl

/- An entry comes with one event that tells its origin. -/
theorem Logged.exists_event
    {entry : Entry}
    (hLogged : o.Logged r hit)
    (hEntry : o.answer = .ok entry) :
    ∃ e, e.isLookup = true ∧ o.events = [e] := by
  cases hLogged with
  | refused hReports => cases hEntry
  | registered key name mapping => exact ⟨_, rfl, rfl⟩
  | found name entry => exact ⟨_, rfl, rfl⟩

/- Asking for an entry finishes no statement. -/
theorem Logged.countP_isBuilt
    (hLogged : o.Logged r hit) :
    o.events.countP Event.isBuilt = 0 := by
  cases hLogged with
  | refused hReports =>
      rcases hReports with rfl | ⟨rfl, _⟩
      · rfl
      · rfl
  | registered key name mapping => rfl
  | found name entry => rfl

end Outcome

namespace Selection

variable (s : Selection)
variable (r : Registry)

/- Building looks an entry up, and that is logged first. -/
theorem lookup_target_logged :
    (r.lookup s.target).Logged r (r.hits (.build s)) :=
  r.lookup_logged s.target

/- Building a selection is accounted for. -/
theorem build_accounted :
    (s.build r).Accounted r (r.hits (.build s)) := by
  have hLookup := (s.lookup_target_logged r).accounted
  have hWarnings := hLookup.warnings
  unfold Outcome.failure? at hWarnings
  rcases s.build_cases r with
    ⟨failure, hAnswer, hEq⟩ |
      ⟨entry, fault, hAnswer, hEq⟩ |
        ⟨entry, statement, hAnswer, hEq⟩
  · have hReported := hLookup.reported failure
    unfold Outcome.failure? at hReported
    rw [hAnswer] at hWarnings hReported
    rw [hEq]
    refine ⟨hWarnings, ?_, hLookup.stored, hLookup.found⟩
    intro other hOther
    cases hOther
    exact hReported rfl
  · rw [hAnswer] at hWarnings
    rw [hEq]
    constructor
    · rw [List.countP_append, hWarnings]
      rfl
    · intro failure hFailure
      cases hFailure
      exact ⟨_, _, rfl, Or.inl rfl⟩
    · rw [List.countP_append]
      exact hLookup.stored
    · rw [List.countP_append]
      exact hLookup.found
  · rw [hAnswer] at hWarnings
    rw [hEq]
    constructor
    · rw [List.countP_append, hWarnings]
      rfl
    · intro failure hFailure
      cases hFailure
    · rw [List.countP_append]
      exact hLookup.stored
    · rw [List.countP_append]
      exact hLookup.found

/-
  A statement is finished if and only if building succeeds,
  right after the event of its entry.
-/
theorem build_logs_statement :
    (s.build r).events.countP Event.isBuilt =
        (if (s.build r).answer.toOption.isSome then 1
          else 0) ∧
      ∀ statement,
        (s.build r).answer = .ok statement →
          ∃ e,
            e.isLookup = true ∧
              (s.build r).events =
                [e, .built statement.sql
                  statement.args] := by
  have hLogged := s.lookup_target_logged r
  have hNone := hLogged.countP_isBuilt
  rcases s.build_cases r with
    ⟨failure, hAnswer, hEq⟩ |
      ⟨entry, fault, hAnswer, hEq⟩ |
        ⟨entry, statement, hAnswer, hEq⟩
  · rw [hEq]
    refine ⟨hNone, ?_⟩
    intro other hOther
    cases hOther
  · rw [hEq]
    refine ⟨?_, ?_⟩
    · rw [List.countP_append, hNone]
      rfl
    · intro other hOther
      cases hOther
  · rw [hEq]
    refine ⟨?_, ?_⟩
    · rw [List.countP_append, hNone]
      rfl
    · intro other hOther
      cases hOther
      rcases hLogged.exists_event hAnswer with
        ⟨e, hLookup, hEvents⟩
      exact ⟨e, hLookup, by rw [hEvents]; rfl⟩

end Selection

end RecordQuery
