import OpenScience.BindingLineage
import OpenScience.BridgeTracking
import OpenScience.CancelledShown
import OpenScience.ClientSession
import OpenScience.ControlDelivery
import OpenScience.FileCache
import OpenScience.FileService
import OpenScience.ItemTranscript
import OpenScience.LiteratureChecks
import OpenScience.LiteratureEvidence
import OpenScience.MaintenancePreflight
import OpenScience.OverviewTimes
import OpenScience.ProcessTree
import OpenScience.ProjectIsolation
import OpenScience.PromptDelivery
import OpenScience.RateLimit
import OpenScience.RecoveryRuns
import OpenScience.ReopenedTasks
import OpenScience.RestoreRuns
import OpenScience.RuntimeEvents
import OpenScience.SessionStore
import OpenScience.TelemetryReadOnly
import OpenScience.TurnEvidence
import OpenScience.TurnOrder
import OpenScience.UsageTotals
