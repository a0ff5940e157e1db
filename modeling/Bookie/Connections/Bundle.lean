/-
Importing a connection bundle (the storage crate's `connection_bundle`). Each connection
is new, updates the local record of the same server, or gets a fresh id. The secrets
themselves are left out, as no check reads them.
-/

import Bookie.Connections.Saved
import Bookie.Store.Assoc

namespace Bookie.Connections

open Policy Store

def maxBundleConnections : Nat := 1000

def maxSshHops : Nat := 8

inductive BundleError where
  | field (name : String)
  | tooManyConnections (got limit : Nat)
  | sshChainTooDeep (got limit : Nat)
  | duplicateConnectionId
  deriving DecidableEq, Repr

def BundleError.text : BundleError → String
  | .field name => "the bundle field " ++ name ++ " is missing or malformed"
  | .tooManyConnections got limit =>
    s!"the bundle holds {got} connections, over the limit of {limit}"
  | .sshChainTooDeep got limit =>
    s!"an SSH chain in the bundle is {got} hops deep, over the limit of {limit}"
  | .duplicateConnectionId => "the bundle lists the same connection twice"

structure BundleConnection where
  id : Uuid
  name : String
  driverId : String
  host : String
  port : UInt16
  socketDir : Option String
  socketPath : Option String
  database : String
  username : String
  tlsMode : TlsMode
  tlsRootCert : Option String
  tlsClientCert : Option String
  tlsClientKey : Option String
  readOnly : Bool
  authMode : AuthMode
  environment : Environment
  ssh : Option SavedSshConfig
  authSource : Option String
  attachedDatabases : List AttachedDatabase
  deriving DecidableEq, Repr

def BundleConnection.toSaved (bundled : BundleConnection) : SavedConnection :=
  { id := bundled.id
    name := bundled.name
    driverId := bundled.driverId
    host := bundled.host
    port := bundled.port
    socketDir := bundled.socketDir
    socketPath := bundled.socketPath
    database := bundled.database
    username := bundled.username
    useTls := bundled.tlsMode.encrypts
    tlsMode := some bundled.tlsMode
    tlsRootCert := bundled.tlsRootCert
    tlsClientCert := bundled.tlsClientCert
    tlsClientKey := bundled.tlsClientKey
    readOnly := bundled.readOnly
    authMode := bundled.authMode
    environment := bundled.environment
    ssh := bundled.ssh
    lastOpenedAt := none
    connectTimeoutSecs := none
    queryTimeoutSecs := none
    authSource := bundled.authSource
    attachedDatabases := bundled.attachedDatabases }

structure BundleOrganization where
  group : Option String
  tags : List String
  color : Option String
  deriving DecidableEq, Repr

inductive BundleSshSecretKind where
  | password
  | passphrase
  deriving DecidableEq, Repr

structure BundleSshSecret where
  hopId : Uuid
  credentialRevision : Nat
  kind : BundleSshSecretKind
  deriving DecidableEq, Repr

structure BundleSecrets where
  connectionId : Uuid
  sshHops : List BundleSshSecret
  deriving DecidableEq, Repr

structure BundleBody where
  connections : List BundleConnection
  organization : Assoc Uuid BundleOrganization
  secrets : List BundleSecrets

/-- The chain is walked with a counter, up to the first hop over the limit. -/
def sshDepthFrom (hops : Nat) : SavedSshConfig → Except BundleError Unit
  | .last _ =>
    if maxSshHops < hops + 1 then .error (.sshChainTooDeep (hops + 1) maxSshHops) else .ok ()
  | .jump _ next =>
    if maxSshHops < hops + 1 then .error (.sshChainTooDeep (hops + 1) maxSshHops)
    else sshDepthFrom (hops + 1) next

def checkSshDepth (ssh : Option SavedSshConfig) : Except BundleError Unit :=
  ssh.elim (.ok ()) (sshDepthFrom 0)

def checkConnection (connection : BundleConnection) : Except BundleError Unit := do
  checkSshDepth connection.ssh
  if ((connection.ssh.elim [] SavedSshConfig.flattenHops).map SshHop.hopId).Nodup then pure ()
  else .error (.field "connections.ssh.hop_id")

/-- The kind of secret a hop's way of authenticating asks for. -/
def expectedSecret : SavedSshAuth → BundleSshSecretKind → Bool
  | .password, .password => true
  | .privateKey _ true, .passphrase => true
  | _, _ => false

def checkHopSecrets (hops : List SshHop) (seen : List BundleSshSecret) :
    List BundleSshSecret → Except BundleError Unit
  | [] => .ok ()
  | secret :: rest =>
    if seen.contains secret then .error (.field "secrets.ssh_hops")
    else match hops.find? (fun hop => hop.hopId == secret.hopId) with
      | none => .error (.field "secrets.ssh_hops")
      | some hop =>
        if secret.credentialRevision == 0 ||
            hop.credentialRevision != secret.credentialRevision || hop.agent ||
            !expectedSecret hop.auth secret.kind then .error (.field "secrets.ssh_hops")
        else checkHopSecrets hops (secret :: seen) rest

def checkSecrets (connections : List BundleConnection) (seen : List Uuid) :
    List BundleSecrets → Except BundleError Unit
  | [] => .ok ()
  | secrets :: rest =>
    if seen.contains secrets.connectionId then .error (.field "secrets.connection_id")
    else match connections.find? (fun entry => entry.id == secrets.connectionId) with
      | none => .error (.field "secrets.connection_id")
      | some connection => do
          checkHopSecrets (connection.ssh.elim [] SavedSshConfig.flattenHops) [] secrets.sshHops
          checkSecrets connections (secrets.connectionId :: seen) rest

def checkBodyBounds (body : BundleBody) : Except BundleError Unit := do
  if maxBundleConnections < body.connections.length then
    .error (.tooManyConnections body.connections.length maxBundleConnections)
  body.connections.forM checkConnection
  checkSecrets body.connections [] body.secrets

inductive ImportDisposition where
  | new
  | updateInPlace
  | remapped
  deriving DecidableEq, Repr

structure ImportItem where
  disposition : ImportDisposition
  sourceId : Uuid
  connection : SavedConnection
  previous : Option SavedConnection
  organization : Option BundleOrganization

structure ImportPlan where
  items : List ImportItem

/-- Settings a bundle may change, with the safety ones ratcheted. -/
def mergeWithoutDowngrade (saved incoming : SavedConnection) : SavedConnection :=
  let mode := stricterTls saved.effectiveTlsMode incoming.effectiveTlsMode
  { incoming with
    attachedDatabases :=
      if incoming.attachedDatabases.isEmpty then saved.attachedDatabases
      else incoming.attachedDatabases
    readOnly := saved.readOnly || incoming.readOnly
    environment := higherEnvironment saved.environment incoming.environment
    useTls := mode.encrypts
    tlsMode := some mode
    tlsRootCert := saved.tlsRootCert.or incoming.tlsRootCert
    lastOpenedAt := saved.lastOpenedAt
    connectTimeoutSecs := saved.connectTimeoutSecs
    queryTimeoutSecs := saved.queryTimeoutSecs }

variable (lower : String → String)

/-- `drawn` is the id that `Uuid::new_v4` gives, if it is asked. -/
def planOne (saved : List SavedConnection) (drawn : Uuid) (incoming : BundleConnection)
    (organization : Option BundleOrganization) : ImportItem :=
  match saved.find? (fun existing => existing.id == incoming.id) with
  | none =>
    { disposition := .new
      sourceId := incoming.id
      connection := incoming.toSaved
      previous := none
      organization }
  | some existing =>
    if endpointKey lower existing != endpointKey lower incoming.toSaved then
      { disposition := .remapped
        sourceId := incoming.id
        connection := { incoming.toSaved with id := drawn }
        previous := none
        organization }
    else
      { disposition := .updateInPlace
        sourceId := incoming.id
        connection := mergeWithoutDowngrade existing incoming.toSaved
        previous := some existing
        organization }

def planItems (saved : List SavedConnection) (fresh : Nat → Uuid)
    (organization : Assoc Uuid BundleOrganization) :
    List Uuid → Nat → List BundleConnection → Except BundleError (List ImportItem)
  | _, _, [] => .ok []
  | seen, index, incoming :: rest =>
    if seen.contains incoming.id then .error .duplicateConnectionId
    else do
      let items ← planItems saved fresh organization (incoming.id :: seen) (index + 1) rest
      pure (planOne lower saved (fresh index) incoming (organization.get? incoming.id) :: items)

def planImport (saved : List SavedConnection) (fresh : Nat → Uuid) (body : BundleBody) :
    Except BundleError ImportPlan := do
  checkBodyBounds body
  let items ← planItems lower saved fresh body.organization [] 0 body.connections
  pure { items }

def applyImport (saved : List SavedConnection) (plan : ImportPlan) : List SavedConnection :=
  upsertAll SavedConnection.id saved (plan.items.map ImportItem.connection)

end Bookie.Connections
