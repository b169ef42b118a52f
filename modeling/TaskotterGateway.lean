import TaskotterGateway.Mcp.AccessLists
import TaskotterGateway.Mcp.AgentBindings
import TaskotterGateway.Mcp.OutcomeSecrecy
import TaskotterGateway.Mcp.SideEffects
import TaskotterGateway.Fallback.ProviderIdentity
import TaskotterGateway.Fallback.Reach
import TaskotterGateway.Fallback.ScopeSecrecy
import TaskotterGateway.Relay.BindingLists
import TaskotterGateway.Relay.DecisionLimits
import TaskotterGateway.Relay.PromptSecrecy
import TaskotterGateway.Provider.ContentDelivery
import TaskotterGateway.Metering.DecisionLineage
import TaskotterGateway.Metering.HarnessPairs
import TaskotterGateway.Metering.IdempotencyKeys
import TaskotterGateway.Simulation.Coverage
import TaskotterGateway.Simulation.Diagnosis
import TaskotterGateway.Simulation.FakeRuns
import TaskotterGateway.Simulation.FrameNumbers
import TaskotterGateway.Simulation.RelayReplays
import TaskotterGateway.Gates.CredentialScopes
import TaskotterGateway.Gates.ProtocolVersions
import TaskotterGateway.Formats.OptIn
import TaskotterGateway.Formats.Tolerance
