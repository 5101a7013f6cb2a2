import Onramp.Library.Atomic
import Onramp.Library.BinaryFloat
import Onramp.Library.Codes
import Onramp.Library.Headed
import Onramp.Library.Isolation
import Onramp.Library.Keyed
import Onramp.Library.Leasing
import Onramp.Library.Partition
import Onramp.Library.Paths
import Onramp.Library.Rounding
import Onramp.Library.Runs
import Onramp.Library.Texts
import Onramp.Library.Transactions
import Onramp.Library.Votes
import Onramp.Journey
import Onramp.LaneAccounting
import Onramp.Settlement
import Onramp.TransactionalOutbox
import Onramp.LaneVotes
import Onramp.ShapeScan
import Onramp.Aliases
import Onramp.Intake
import Onramp.Dispatcher
import Onramp.Deliveries
import Onramp.Attempts
import Onramp.Retries
import Onramp.AuditTrail
import Onramp.Carriers
import Onramp.Money
import Onramp.Staging
import Onramp.Ingress
import Onramp.Ingress.Steps
import Onramp.Ingress.Idempotence
import Onramp.Ingress.Stranding
import Onramp.Archive
import Onramp.Links
import Onramp.Reprs
import Onramp.Canonical
import Onramp.Verdict
import Onramp.Escalation
import Onramp.Agreement
import Onramp.Placement
import Onramp.StoredOutput
import Onramp.Terminal
import Onramp.ReadRoutes
import Onramp.Screening
import Onramp.Descriptions
import Onramp.LiftedLanes
import Onramp.ExtractorErrors
import Onramp.ShapeGate
import Onramp.CellScan
import Onramp.ValidityDates
import Onramp.Clusters
import Onramp.ClusterLanes
import Onramp.LinParsing
import Onramp.HeaderLabels
import Onramp.PortStability
import Onramp.MagicWindow
import Onramp.SlackSigning
import Onramp.Webhooks
import Onramp.Redaction
import Onramp.Reexecution
import Onramp.Isolation
import Onramp.Conservation
import Onramp.JsonText
import Onramp.StoredFormat
import Onramp.RoundTrip
import Onramp.Artifact
import Onramp.Writers
import Onramp.Reviews
import Onramp.AuditRoute
import Onramp.Library.Csv
import Onramp.ReferenceData
import Onramp.Reports
import Onramp.SlackWebhook
import Onramp.Boot
import Onramp.Backoff
import Onramp.Outliers
