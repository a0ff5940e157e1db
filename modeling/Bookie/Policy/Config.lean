/-
The policy configuration: per-environment defaults and the two layers of
overrides on top of them, the environment's and then the connection's.
-/

import Bookie.Policy.AuditEvent

namespace Bookie.Policy

inductive WritePolicy where
  | allow
  | approve
  | deny
  deriving DecidableEq, Repr

structure EnvPolicy where
  agentWrites : WritePolicy
  agentAllowDdl : Bool
  agentAllowMultiStatement : Bool
  humanApproveWrites : Bool
  humanApproveDdl : Bool
  humanApproveUnparseable : Bool
  humanAllowUnauditedWrites : Bool
  blastRadiusMaxRows : Option Nat
  maskAgentResults : Bool
  deriving DecidableEq, Repr

namespace EnvPolicy

def default : EnvPolicy :=
  { agentWrites := .approve
    agentAllowDdl := false
    agentAllowMultiStatement := false
    humanApproveWrites := false
    humanApproveDdl := false
    humanApproveUnparseable := true
    humanAllowUnauditedWrites := false
    blastRadiusMaxRows := some 10000
    maskAgentResults := true }

def localDefaults : EnvPolicy :=
  { default with
    agentWrites := .approve
    humanApproveWrites := false
    humanApproveDdl := false
    blastRadiusMaxRows := some 100000 }

def prodDefaults : EnvPolicy :=
  { default with
    agentWrites := .deny
    agentAllowDdl := false
    humanApproveWrites := true
    humanApproveDdl := true
    blastRadiusMaxRows := some 1000
    maskAgentResults := true }

def stagingDefaults : EnvPolicy :=
  { default with
    agentWrites := .approve
    humanApproveWrites := false
    humanApproveDdl := true
    blastRadiusMaxRows := some 5000 }

end EnvPolicy

structure EnvPolicyOverride where
  agentWrites : Option WritePolicy
  agentAllowDdl : Option Bool
  agentAllowMultiStatement : Option Bool
  humanApproveWrites : Option Bool
  humanApproveDdl : Option Bool
  humanApproveUnparseable : Option Bool
  humanAllowUnauditedWrites : Option Bool
  blastRadiusMaxRows : Option Nat
  maskAgentResults : Option Bool
  deriving DecidableEq, Repr

/-- An override can set a row limit but not remove one. -/
def EnvPolicyOverride.applyTo (overrides : EnvPolicyOverride) (policy : EnvPolicy) : EnvPolicy :=
  { agentWrites := overrides.agentWrites.getD policy.agentWrites
    agentAllowDdl := overrides.agentAllowDdl.getD policy.agentAllowDdl
    agentAllowMultiStatement :=
      overrides.agentAllowMultiStatement.getD policy.agentAllowMultiStatement
    humanApproveWrites := overrides.humanApproveWrites.getD policy.humanApproveWrites
    humanApproveDdl := overrides.humanApproveDdl.getD policy.humanApproveDdl
    humanApproveUnparseable := overrides.humanApproveUnparseable.getD policy.humanApproveUnparseable
    humanAllowUnauditedWrites :=
      overrides.humanAllowUnauditedWrites.getD policy.humanAllowUnauditedWrites
    blastRadiusMaxRows := overrides.blastRadiusMaxRows.or policy.blastRadiusMaxRows
    maskAgentResults := overrides.maskAgentResults.getD policy.maskAgentResults }

structure PolicyConfig where
  environments : List (String × EnvPolicyOverride)
  connectionOverrides : List (String × EnvPolicyOverride)
  maskPatterns : List String
  deriving DecidableEq, Repr

namespace PolicyConfig

def forEnvironment (config : PolicyConfig) (environment : Environment) : EnvPolicy :=
  let defaults := match environment with
    | .local | .dev => EnvPolicy.localDefaults
    | .staging => EnvPolicy.stagingDefaults
    | .prod => EnvPolicy.prodDefaults
  match config.environments.lookup environment.asStr with
  | none => defaults
  | some overrides => overrides.applyTo defaults

def forConnection (config : PolicyConfig) (connectionId : String) (environment : Environment) :
    EnvPolicy :=
  let environmentPolicy := config.forEnvironment environment
  match config.connectionOverrides.lookup connectionId with
  | none => environmentPolicy
  | some overrides => overrides.applyTo environmentPolicy

def defaultSensitivePatterns : List String :=
  ["*pan*", "*card*", "*cvv*", "*cvc*", "*ssn*", "*iban*", "*secret*", "*token*", "*password*",
    "*passwd*", "*api_key*", "*apikey*", "*private_key*"]

def effectiveMaskPatterns (config : PolicyConfig) : List String :=
  config.maskPatterns.foldl
    (fun patterns pattern => if patterns.contains pattern then patterns else patterns ++ [pattern])
    defaultSensitivePatterns

end PolicyConfig

end Bookie.Policy
