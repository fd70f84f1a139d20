import Agintor.Core.IdentityTheorems
import Agintor.Core.PatchesTheorems
import Agintor.Storage.FactoryHeadTheorems
import Agintor.Storage.FactoryOrderTheorems
import Agintor.Storage.CrashRecoveryTheorems
import Agintor.Repositories.WorkspacesTheorems
import Agintor.Evaluation.ProgressOracleTheorems
import Agintor.Kernel.EventLogTheorems
import Agintor.Kernel.CompositeReplayTheorems
import Agintor.Isolation.CommandReplaySessions
import Agintor.Isolation.DockerCommandTheorems
import Agintor.Factory.FollowupsTheorems
import Agintor.Storage.RuntimeSessionTheorems
import Agintor.Host.FinalizationTheorems
import Agintor.Runtime.ExecutorTheorems
import Agintor.Evaluation.InterventionsTheorems
import Agintor.Evaluation.PairingTheorems
import Agintor.Evaluation.HarnessServiceTheorems
import Agintor.Kernel.RepairEditTheorems
import Agintor.Kernel.RunAccountsTheorems
import Agintor.Kernel.BranchBudgetsTheorems
import Agintor.Kernel.MemoryRetrievalTheorems
import Agintor.Learning.CalibrationTheorems
import Agintor.Evaluation.OracleRunnerTheorems
import Agintor.Compiler.TopologyTheorems
import Agintor.Search.HarnessMutatorTheorems
import Agintor.Search.Lineage
import Agintor.Search.ArchiveTheorems
import Agintor.Runtime.ResumeTheorems
import Agintor.Providers.ReplayTheorems
import Agintor.Storage.PublicContextTheorems
import Agintor.Storage.CheckpointCatalogue
import Agintor.Kernel.SideEffectsTheorems
import Agintor.Runtime.PlanChecksTheorems
import Agintor.Kernel.RootFrameTheorems
import Agintor.Factory.ExportTheorems
import Agintor.Factory.ReplaceDestinationTheorems
import Agintor.Core.RedactionTheorems
import Agintor.Tracing.MaterializationTheorems
import Agintor.Search.CrossoverTheorems
import Agintor.Runtime.AsyncHandlesTheorems
import Agintor.Evaluation.DryRunTheorems
import Agintor.Kernel.RequestEstimate
