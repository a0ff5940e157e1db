/-
Storing the secrets of an imported connection (the storage crate's
`connection_bundle_secret_transaction`). Any load or store may fail, and a failing
store may have taken effect; the calls that restore the keyring succeed. The labels
of the entries are left out.
-/

import Bookie.Connections.Bundle

namespace Bookie.Connections.SecretTransaction

open Policy

inductive SecretKey where
  | databasePassword
  | sshPassword
  | sshPassphrase
  | sshHopPassword (hopId : Uuid) (credentialRevision : Nat)
  | sshHopPassphrase (hopId : Uuid) (credentialRevision : Nat)
  deriving DecidableEq

structure BundleSecrets where
  dbPassword : Option String
  sshPassword : Option String
  sshPassphrase : Option String
  sshHopSecrets : List (BundleSshSecret × String)

def hopKey (secret : BundleSshSecret) : SecretKey :=
  match secret.kind with
  | .password => .sshHopPassword secret.hopId secret.credentialRevision
  | .passphrase => .sshHopPassphrase secret.hopId secret.credentialRevision

def entries (secrets : BundleSecrets) : List (SecretKey × String) :=
  (secrets.dbPassword.map fun value => (.databasePassword, value)).toList ++
    (secrets.sshPassword.map fun value => (.sshPassword, value)).toList ++
    (secrets.sshPassphrase.map fun value => (.sshPassphrase, value)).toList ++
    secrets.sshHopSecrets.map fun (secret, value) => (hopKey secret, value)

abbrev Keyring := Uuid × SecretKey → Option String

/-- A value is stored again, and an entry that was absent is deleted. -/
def restore (target : Uuid) (touched : List (SecretKey × Option String)) (keyring : Keyring) :
    Keyring :=
  touched.reverse.foldl (fun keyring entry => Function.update keyring (target, entry.1) entry.2)
    keyring

section Calls

-- how the n-th call fails, and whether a failing store takes effect
variable {ε : Type} (fails : Nat → Option (ε × Bool)) (target : Uuid)

variable {fails target} {keyring current : Keyring} {replaceExisting : Bool}

end Calls

end Bookie.Connections.SecretTransaction
