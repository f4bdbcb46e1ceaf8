import CommitCiPreflight.TrustedPlanSpec
import CommitCiPreflight.TimestampGrammar
import CommitCiPreflight.DockerDaemon
import CommitCiPreflight.ContainerEnvironment
import CommitCiPreflight.SupervisorSpec
import CommitCiPreflight.Watchdog
import CommitCiPreflight.Probe
import CommitCiPreflight.ArtifactRecords
import CommitCiPreflight.PayloadCopy
import CommitCiPreflight.MatrixBinding
import CommitCiPreflight.RunJournalRecovery
import CommitCiPreflight.RunCommand
import CommitCiPreflight.ReceiptFile
import CommitCiPreflight.WorkflowChecks
import CommitCiPreflight.YamlFilter
import CommitCiPreflight.CapabilityShell
import CommitCiPreflight.CapabilityExpansion
