import ControlForge.Cloud.Linkage
import ControlForge.Foundation.Interleaving

/-!
# The cloud runtime

Any number of transition requests, disposition requests and executions of
`processEvent` run at the same time on one database.  Telemetry arrives and
cases are assigned meanwhile.
-/

namespace ControlForge

namespace Cloud

inductive Process where
  | idle
  | transition (request : TransitionRequest) (point : TransitionPoint)
  | disposition (request : DispositionRequest) (point : DispositionPoint)
  | execution (task : Execution) (point : ExecutionPoint)

/-- A request as it arrives, or an execution as the queue starts it. -/
inductive Process.Starts : Process → Prop
  | transition (request : TransitionRequest) :
      Starts (.transition request .requireCase)
  | disposition (request : DispositionRequest) :
      Starts (.disposition request .requireCase)
  | execution (task : Execution) : Starts (.execution task .load)

def Process.resume (detectors : Detectors) (input : Input) (process : Process)
    (database : Database) : Process × Database × Effect :=
  match process with
  | .idle => (.idle, database, .none)
  | .transition request point =>
      let (next, database, effect) := request.resume input point database
      (.transition request next, database, effect)
  | .disposition request point =>
      let (next, database, effect) := request.resume input point database
      (.disposition request next, database, effect)
  | .execution task point =>
      let (next, database, effect) :=
        task.resume detectors input point database
      (.execution task next, database, effect)

def assigned (assigneePrincipalId : Option String) (updatedAt : Timestamp)
    (row : CaseRow) : CaseRow :=
  { row with assigneePrincipalId, updatedAt }

/-- What other requests do to these tables. -/
inductive Outside (database : Database) : Database → Prop
  /-- New telemetry is stored. -/
  | ingested {row : EventRow} {events : Table EventRow EventRow.clash}
      (inserted : database.events.insert row = some events) :
      Outside database { database with events }
  /-- A case is assigned. -/
  | assigned {cases : Table CaseRow CaseRow.clash}
      {selected : CaseRow → Bool} {assignee : Option String}
      {updatedAt : Timestamp}
      (rows : cases.rows = database.cases.rows.map
        (Table.applyWhere selected (assigned assignee updatedAt)))
      (audit : List AuditRow) : Outside database { database with cases, audit }

def procedure (detectors : Detectors) :
    Procedure Database Process Input Effect where
  idle := .idle
  starts := Process.Starts
  resume := Process.resume detectors
  outside := Outside

/-- No event has been processed yet. -/
structure Empty (database : Database) : Prop where
  alerts : database.alerts.rows = []
  cases : database.cases.rows = []
  caseAlerts : database.caseAlerts.rows = []
  dispositions : database.dispositions.rows = []

def system (detectors : Detectors) :
    TransitionSystem (Pool Database Process) (PoolLabel Input Effect) :=
  (procedure detectors).system Empty

end Cloud

end ControlForge
