/-
The audit record types of the policy crate: what the guard submits and the journal
keeps. A time stamp is its serialised text, as it is only ever copied.
-/

import Mathlib.Data.BitVec
import Bookie.Text.Hex

namespace Bookie.Policy

open Text

/-- The order of `Uuid` is the big-endian byte order, so the order of the number. -/
abbrev Uuid := BitVec 128

def Uuid.nil : Uuid := 0

def Uuid.isNil (id : Uuid) : Bool := id == Uuid.nil

/-- The hyphenated form: 8, 4, 4, 4 and 12 digits. -/
def uuidText (id : Uuid) : Bytes :=
  let digits := fixedHex 32 id.toNat
  digits.take 8 ++ [45] ++ (digits.drop 8).take 4 ++ [45] ++ (digits.drop 12).take 4 ++ [45] ++
    (digits.drop 16).take 4 ++ [45] ++ digits.drop 20

def Uuid.toText (id : Uuid) : String :=
  String.ofList ((uuidText id).map fun byte => Char.ofNat byte.toNat)

abbrev Timestamp := String

inductive Environment where
  | local
  | dev
  | staging
  | prod
  deriving DecidableEq, Repr

def Environment.asStr : Environment → String
  | .local => "local"
  | .dev => "dev"
  | .staging => "staging"
  | .prod => "prod"

inductive Principal where
  | human (session : String)
  | agent (token : String) (client model : Option String)
  deriving DecidableEq, Repr

def Principal.humanGui : Principal := .human "gui"

def Principal.isAgent : Principal → Bool
  | .human _ => false
  | .agent _ _ _ => true

inductive StatementClass where
  | select
  | insert
  | update
  | delete
  | ddl
  | administrative
  | transaction
  | other
  | unparseable
  deriving DecidableEq, Repr

inductive AuditError where
  | unavailable (detail : String)
  | persistence (detail : String)
  | unresolvedWrite
  | writeInFlight
  | corrupt (detail : String)
  deriving DecidableEq, Repr

def AuditError.text : AuditError → String
  | .unavailable detail => "audit sink is unavailable: " ++ detail
  | .persistence detail => "audit record could not be persisted: " ++ detail
  | .unresolvedWrite => "an unresolved write outcome blocks this connection"
  | .writeInFlight => "another write is still in flight for this connection"
  | .corrupt detail => "audit journal is corrupt: " ++ detail

inductive AuditRecordPhase where
  | intent
  | outcome
  deriving DecidableEq, Repr

inductive AuditOperationClass where
  | read
  | mutation
  | ddl
  | administrative
  | transactionCommit
  | transactionRollback
  | unknownWrite
  deriving DecidableEq, Repr

/-- The arms are tried in the order of the source: a class that says nothing on
its own falls back on whether the statement writes. -/
def AuditOperationClass.fromStatement (cls : StatementClass) (writes : Bool) :
    AuditOperationClass :=
  match cls, writes with
  | .select, false => .read
  | .insert, _ | .update, _ | .delete, _ => .mutation
  | .ddl, _ => .ddl
  | .administrative, _ => .administrative
  | .transaction, false => .read
  | .other, true | .unparseable, true => .unknownWrite
  | _, true => .unknownWrite
  | _, false => .read

def AuditOperationClass.isWrite : AuditOperationClass → Bool
  | .read => false
  | _ => true

inductive AuditApprovalOutcome where
  | notRequired
  | approved
  | denied
  | cancelled
  | timedOut
  deriving DecidableEq, Repr

inductive AuditPreviewState where
  | notRequested
  | available (detail : String)
  | unavailable
  deriving DecidableEq, Repr

inductive AuditTerminalStatus where
  | pending
  | succeeded
  | failed
  | denied
  | cancelled
  | timedOut
  | unknown
  deriving DecidableEq, Repr

inductive AuditTransactionOutcome where
  | notApplicable
  | pending
  | committed
  | rolledBack
  | failed
  | unknown
  deriving DecidableEq, Repr

inductive AuditErrorCategory where
  | policy
  | audit
  | connection
  | authentication
  | tls
  | query
  | readOnly
  | unsupported
  | internal
  | transaction
  | cancelled
  | timeout
  | unknown
  deriving DecidableEq, Repr

inductive AuditTransportClient where
  | builtinSsh
  | systemOpenSsh
  deriving DecidableEq, Repr

inductive AuditTransportOutcome where
  | connected
  | hostKeyRefused
  | hostKeyChanged
  | hostKeyRevoked
  | authenticationFailed
  | cancelled
  | timedOut
  | tlsFailed
  | connectionFailed
  | otherFailure
  deriving DecidableEq, Repr

structure AuditTransportMetadata where
  client : AuditTransportClient
  outcome : AuditTransportOutcome
  deriving DecidableEq, Repr

inductive AuditAdministrativeAction where
  | connectionBundleExport
  | connectionBundleImport
  deriving DecidableEq, Repr

structure AuditAdministrativeMetadata where
  action : AuditAdministrativeAction
  affectedCount : Nat
  deriving DecidableEq, Repr

structure AuditEvent where
  timestamp : Timestamp
  operationId : Uuid
  batchId : Option Uuid
  phase : AuditRecordPhase
  principal : Principal
  connectionId : Uuid
  connectionName : String
  environment : Environment
  driverId : String
  operationClass : AuditOperationClass
  redactedSql : String
  sqlHash : String
  targets : List String
  decisionRule : String
  approvalOutcome : AuditApprovalOutcome
  previewState : AuditPreviewState
  terminalStatus : AuditTerminalStatus
  transactionOutcome : AuditTransactionOutcome
  errorCategory : Option AuditErrorCategory
  error : Option String
  rowsAffected : Option Nat
  durationMs : Option Nat
  transportAttempt : Option AuditTransportMetadata
  administrativeAction : Option AuditAdministrativeMetadata
  deriving DecidableEq, Repr

end Bookie.Policy
