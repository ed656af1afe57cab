import AssistantRuntime.Runtime.Accounting
import AssistantRuntime.Capability.Results
import AssistantRuntime.Runtime.Admissions
import AssistantRuntime.Runtime.TaskActivity
import AssistantRuntime.Runtime.Delegation
import AssistantRuntime.UserBudget.InferenceSettlement
import AssistantRuntime.Connection.Registry
import AssistantRuntime.Client.AtMostOnce
import AssistantRuntime.Provider.Streaming
import AssistantRuntime.UserBudget.Windows
import AssistantRuntime.Runtime.ActivityGuard
import AssistantRuntime.Runtime.ClosedBudgets
import AssistantRuntime.Runtime.ToolBatches
import AssistantRuntime.Capability.Frames
import AssistantRuntime.EventBus.DeadLetters
import AssistantRuntime.RateLimit.Limiters
import AssistantRuntime.Supervision.Ownership
import AssistantRuntime.Agent.CheckpointChains
import AssistantRuntime.Provider.Gemini
import AssistantRuntime.Agent.BranchDeletion
import AssistantRuntime.Agent.Selection
import AssistantRuntime.Storage.ObjectLocal
import AssistantRuntime.Client.ToolCallDeltas
import AssistantRuntime.Storage.InMemory
