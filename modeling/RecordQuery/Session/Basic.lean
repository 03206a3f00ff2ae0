import RecordQuery.Session.Selection

/-
  Sessions: runs of steps over numbered registries,
  databases and selections.

  Key definitions include:
    * `RecordQuery.Session`
    * `RecordQuery.Session.Step`
    * `RecordQuery.Session.Answer`
    * `RecordQuery.Session.step`
    * `RecordQuery.Session.run`

  Each kind of thing is numbered from zero as it is opened.
  A database opened without a registry opens one of its own,
  while copies share the registry of the first.
-/

------------------------------------------------------------
-- Steps And Answers
------------------------------------------------------------

namespace RecordQuery

/- Everything that has been opened so far. -/
structure Session where
  registries : List Registry
  databases : List Database
  selections : List Selection

/- The identity of a stored mapping among all registries. -/
structure Identity where
  registry : Nat
  serial : Nat
  deriving DecidableEq, Repr

/- A stored mapping together with its identity. -/
structure Stored where
  identity : Identity
  mapping : Mapping
  deriving DecidableEq

namespace Session

/- What can be asked of a session. -/
inductive Step where
  | openRegistry
  | openDatabase (registry : Option Nat)
      (dialect : Option Dialect)
  | copyDatabase (database : Nat)
  | quote (database : Nat) (name : String)
  | register (registry : Nat) (target : Target)
      (changes : List Customization)
  | lookup (registry : Nat) (target : Target)
  | cached (registry : Nat) (key : String)
  | size (registry : Nat)
  | select (database : Nat) (record : Record)
      (calls : List Call)
  | build (selection : Nat)

/-
  What a step answers; `missing` if the step refers to
  something that has not been opened.
-/
inductive Answer where
  | registry (index : Nat)
  | database (index registry : Nat)
  | text (value : String)
  | registered (result : Except Failure Stored) (size : Nat)
  | cached (found : Option Stored)
  | size (value : Nat)
  | selection (index : Nat)
  | built (result : Except Failure Statement)
  | missing

/- What a step leaves, answers and logs. -/
structure Result where
  session : Session
  answer : Answer
  events : List Event

/- The records that a step adds to the log. -/
def Result.log
    (x : Result) :
    List LogRecord :=
  x.events.map Event.record

/- Nothing has been opened. -/
def empty : Session :=
  ⟨[], [], []⟩

end Session

end RecordQuery

------------------------------------------------------------
-- Running
------------------------------------------------------------

namespace RecordQuery

namespace Session

/- An entry as stored in the registry of an index. -/
def stored
    (registry : Nat)
    (entry : Entry) :
    Stored :=
  ⟨⟨registry, entry.serial⟩, entry.mapping⟩

/- A step that changes nothing and logs nothing. -/
def Result.quiet
    (s : Session)
    (answer : Answer) :
    Result :=
  ⟨s, answer, []⟩

/- Put a changed registry in the place of the old one. -/
def setRegistry
    (s : Session)
    (index : Nat)
    (r : Registry) :
    Session :=
  { s with registries := s.registries.set index r }

/- Open a registry. -/
def openRegistry
    (s : Session) :
    Session :=
  { s with registries := s.registries ++ [.empty] }

/- Open a database and tell its index and its registry. -/
def addDatabase
    (s : Session)
    (d : Database) :
    Result :=
  .quiet { s with databases := s.databases ++ [d] }
    (.database s.databases.length d.registry)

/- Leave the outcome of a registration or a lookup. -/
def conclude
    (s : Session)
    (index : Nat)
    (o : Outcome Entry) :
    Result where
  session := s.setRegistry index o.registry
  answer :=
    .registered (o.answer.map (stored index))
      o.registry.size
  events := o.events

/- Take one step. -/
def step
    (s : Session) :
    Step → Result
| .openRegistry =>
    .quiet s.openRegistry (.registry s.registries.length)
| .openDatabase registry dialect =>
    let dialect := dialect.getD .generic
    match registry with
    | none =>
        s.openRegistry.addDatabase
          ⟨s.registries.length, dialect⟩
    | some index =>
        match s.registries[index]? with
        | none => .quiet s .missing
        | some _ => s.addDatabase ⟨index, dialect⟩
| .copyDatabase database =>
    match s.databases[database]? with
    | none => .quiet s .missing
    | some d => s.addDatabase d
| .quote database name =>
    match s.databases[database]? with
    | none => .quiet s .missing
    | some d => .quiet s (.text (d.dialect.quote name))
| .register registry target changes =>
    match s.registries[registry]? with
    | none => .quiet s .missing
    | some r =>
        s.conclude registry (r.register target changes)
| .lookup registry target =>
    match s.registries[registry]? with
    | none => .quiet s .missing
    | some r => s.conclude registry (r.lookup target)
| .cached registry key =>
    match s.registries[registry]? with
    | none => .quiet s .missing
    | some r =>
        .quiet s
          (.cached ((r.cached key).map (stored registry)))
| .size registry =>
    match s.registries[registry]? with
    | none => .quiet s .missing
    | some r => .quiet s (.size r.size)
| .select database record calls =>
    match s.databases[database]? with
    | none => .quiet s .missing
    | some d =>
        let selection :=
          (Selection.start d record).applyAll calls
        .quiet
          { s with selections := s.selections ++ [selection] }
          (.selection s.selections.length)
| .build selection =>
    match s.selections[selection]? with
    | none => .quiet s .missing
    | some q =>
        match s.registries[q.database.registry]? with
        | none => .quiet s .missing
        | some r =>
            let outcome := q.build r
            { session :=
                s.setRegistry q.database.registry
                  outcome.registry
              answer := .built outcome.answer
              events := outcome.events }

/- Take steps in order, with what each of them leaves. -/
def run
    (s : Session) :
    List Step → List Result
| [] => []
| first :: rest =>
    let result := s.step first
    result :: result.session.run rest

end Session

end RecordQuery
