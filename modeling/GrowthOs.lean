import GrowthOs.Containers.Acyclicity
import GrowthOs.Containers.CycleDetection
import GrowthOs.Containers.DelegationEvidence
import GrowthOs.Containers.OverrideQuorum
import GrowthOs.Containers.RepeatedCalls
import GrowthOs.ContextKernel.CandidatePagination
import GrowthOs.ContextKernel.CapsuleBinding
import GrowthOs.CredentialIntake.SingleUse
import GrowthOs.Delegation.NoWidening
import GrowthOs.Execution.AtMostOnce
import GrowthOs.Execution.DelegatedRuns
import GrowthOs.Execution.PlanMachine
import GrowthOs.Execution.Progress
import GrowthOs.Execution.Replay
import GrowthOs.Execution.SingleClaim
import GrowthOs.Execution.StoppedPlans
import GrowthOs.Execution.TerminalPlans
import GrowthOs.GrowthControl.DocumentIdentity
import GrowthOs.GrowthControl.MergeMonotone
import GrowthOs.GrowthControl.PolicyMonotone
import GrowthOs.GrowthControl.ScopeIsolation
import GrowthOs.ManagedExecution.FinalStatuses
import GrowthOs.ManagedExecution.RepeatedRequests
import GrowthOs.ManagedExecution.Rollbacks
import GrowthOs.Outbox.Acknowledgement
import GrowthOs.Outbox.Backfill
import GrowthOs.Recovery.ExceptionLifecycle
import GrowthOs.Recovery.FencedLock
import GrowthOs.Recovery.OrchestratorDispatch
import GrowthOs.RepositoryLease.MutualExclusion
import GrowthOs.SequentialPlan.PayloadSecrecy
