/-
Saved connections (the storage crate's `connections`) and what makes two of them the same
server. Paths and times are their texts; lowercasing a host is a parameter.
-/

import Bookie.Policy.AuditEvent
import Bookie.Store.Upsert
import Mathlib.Data.List.SplitOn

namespace Bookie.Connections

open Policy

inductive TlsMode where
  | disabled
  | prefer
  | require
  | verifyCa
  | verifyFull
  deriving DecidableEq, Repr

def TlsMode.encrypts (mode : TlsMode) : Bool := mode != .disabled

inductive AuthMode where
  | password
  | kerberos
  deriving DecidableEq, Repr

structure AttachedDatabase where
  name : String
  path : String
  deriving DecidableEq, Repr

inductive SavedSshAuth where
  | password
  | privateKey (path : String) (hasPassphrase : Bool)
  deriving DecidableEq, Repr

inductive SshClient where
  | builtin
  | openSsh
  deriving DecidableEq, Repr

structure SshHop where
  hopId : Uuid
  credentialRevision : Nat
  host : String
  port : UInt16
  username : String
  auth : SavedSshAuth
  client : SshClient
  agent : Bool
  agentIdentity : Option String
  deriving DecidableEq, Repr

/-- A chain of hops: `jump` is the next hop toward the database. -/
inductive SavedSshConfig where
  | last (hop : SshHop)
  | jump (hop : SshHop) (next : SavedSshConfig)
  deriving DecidableEq, Repr

def SavedSshConfig.flattenHops : SavedSshConfig → List SshHop
  | .last hop => [hop]
  | .jump hop next => hop :: next.flattenHops

structure SavedConnection where
  id : Uuid
  name : String
  driverId : String
  host : String
  port : UInt16
  socketDir : Option String
  socketPath : Option String
  database : String
  username : String
  useTls : Bool
  tlsMode : Option TlsMode
  tlsRootCert : Option String
  tlsClientCert : Option String
  tlsClientKey : Option String
  readOnly : Bool
  authMode : AuthMode
  environment : Environment
  ssh : Option SavedSshConfig
  lastOpenedAt : Option Timestamp
  connectTimeoutSecs : Option UInt32
  queryTimeoutSecs : Option UInt32
  authSource : Option String
  attachedDatabases : List AttachedDatabase
  deriving DecidableEq, Repr

def SavedConnection.effectiveTlsMode (saved : SavedConnection) : TlsMode :=
  saved.tlsMode.getD (if saved.useTls then .verifyFull else .disabled)

/-- `Path::components` of a Unix path, by which paths are compared: whether it starts at the root,
and its parts without the empty ones and, but for the first, the dots. -/
def pathComponents (path : String) : Bool × List (List Char) :=
  let parts := path.toList.splitOn '/'
  (path.toList.head? == some '/',
    parts.take 1 ++ (parts.drop 1).filter fun part => part != [] && part != ['.'])

/-- Server, port, sockets, database, user and the hops on the way. -/
structure EndpointKey where
  driverId : String
  host : String
  port : UInt16
  socketDir : Option (Bool × List (List Char))
  socketPath : Option (Bool × List (List Char))
  database : String
  username : String
  hops : List (String × UInt16 × String)
  deriving DecidableEq, Repr

def endpointKey (lower : String → String) (saved : SavedConnection) : EndpointKey :=
  { driverId := saved.driverId
    host := lower saved.host
    port := saved.port
    socketDir := saved.socketDir.map pathComponents
    socketPath := saved.socketPath.map pathComponents
    database := saved.database
    username := saved.username
    hops := (saved.ssh.elim [] SavedSshConfig.flattenHops).map (fun hop =>
      (lower hop.host, hop.port, hop.username)) }

example : pathComponents "/run//postgresql/./" = pathComponents "/run/postgresql" := by decide

def tlsRank : TlsMode → Nat
  | .disabled => 0
  | .prefer => 1
  | .require => 2
  | .verifyCa => 3
  | .verifyFull => 4

def stricterTls (left right : TlsMode) : TlsMode :=
  if tlsRank left < tlsRank right then right else left

def environmentRank : Environment → Nat
  | .local => 0
  | .dev => 1
  | .staging => 2
  | .prod => 3

def higherEnvironment (left right : Environment) : Environment :=
  if environmentRank left < environmentRank right then right else left

theorem tlsRank_stricterTls (left right : TlsMode) :
    tlsRank (stricterTls left right) = max (tlsRank left) (tlsRank right) := by
  cases left <;> cases right <;> rfl

theorem environmentRank_higherEnvironment (left right : Environment) :
    environmentRank (higherEnvironment left right) =
      max (environmentRank left) (environmentRank right) := by
  cases left <;> cases right <;> rfl

end Bookie.Connections
