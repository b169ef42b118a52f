import TaskotterGateway.Foundation.JsonRecords

/-! Resolution of MCP endpoints as the gateway computes it (`mcp.rs`), with its JSON forms. A
resolution names the lifecycle that a host mode has; no runtime is started for it.
-/

namespace TaskotterGateway.Mcp

open JsonCodec

inductive McpHostMode where
  | stdioHosted
  | externalRemote
  | runnerHosted
  | managedHosted
  deriving DecidableEq, Repr

structure McpEndpoint where
  integrationId : String
  hostMode : McpHostMode
  runnerId : Option String
  remoteUrl : Option String
  command : Option (List String)
  deriving DecidableEq, Repr

structure McpResolution where
  integrationId : String
  hostMode : McpHostMode
  lifecycle : String
  requiresPolicyDecision : Bool
  startsRuntime : Bool
  deriving DecidableEq, Repr

def resolveEndpoint (endpoint : McpEndpoint) : McpResolution where
  integrationId := endpoint.integrationId
  hostMode := endpoint.hostMode
  lifecycle :=
    match endpoint.hostMode with
    | .stdioHosted => "backend_or_single_node_process"
    | .externalRemote => "external_network_endpoint"
    | .runnerHosted => "runner_dispatched_process"
    | .managedHosted => "managed_paid_runtime_placeholder"
  requiresPolicyDecision := true
  startsRuntime := false

def McpHostMode.codec : Codec McpHostMode :=
  .enumeration {
    entries :=
      [(.stdioHosted, "stdio_hosted"), (.externalRemote, "external_remote"),
        (.runnerHosted, "runner_hosted"), (.managedHosted, "managed_hosted")]
  }

def McpEndpoint.codec : Codec McpEndpoint :=
  .record .ignored
    (Fields.build McpEndpoint.mk
      |>.required "integration_id" .text McpEndpoint.integrationId
      |>.required "host_mode" McpHostMode.codec McpEndpoint.hostMode
      |>.nullable "runner_id" .text McpEndpoint.runnerId
      |>.nullable "remote_url" .text McpEndpoint.remoteUrl
      |>.nullable "command" (.list .text) McpEndpoint.command)

def McpResolution.codec : Codec McpResolution :=
  .record .ignored
    (Fields.build McpResolution.mk
      |>.required "integration_id" .text McpResolution.integrationId
      |>.required "host_mode" McpHostMode.codec McpResolution.hostMode
      |>.required "lifecycle" .text McpResolution.lifecycle
      |>.required "requires_policy_decision" .flag McpResolution.requiresPolicyDecision
      |>.required "starts_runtime" .flag McpResolution.startsRuntime)

end TaskotterGateway.Mcp
