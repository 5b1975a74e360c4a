import ControlForge.Clock
import ControlForge.Foundation.JsonSort
import ControlForge.Foundation.Transaction

/-!
# What the services hand to the audit log

The services append records inside their own transactions.  They are modelled
over any log: an append is a transaction on the log that may raise, and a
raised `AuditError` rolls the whole operation back.
-/

namespace ControlForge

/-- What an append raises: `AuditError`, or an error of the database. -/
inductive AuditError where
  | invalid (message : String)
  | integrity (message : String)
deriving DecidableEq

/-- The arguments of `StandaloneAuditLog.append`. -/
structure AuditRecord where
  tenantId : String
  action : String
  actorType : String
  actorId : String
  resourceType : String
  resourceId : String
  payload : Dict
  now : Timestamp

/-- An append of one record to a log. -/
abbrev AuditAppend (Log : Type) : Type :=
  AuditRecord → Transaction Log AuditError Unit

end ControlForge
