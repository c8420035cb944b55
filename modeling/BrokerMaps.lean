import BrokerMaps.Proofs.Bean.PrintedForm
import BrokerMaps.Proofs.Flatten.FitSettings
import BrokerMaps.Proofs.Flatten.Precedence
import BrokerMaps.Proofs.Flatten.RenderingChoice
import BrokerMaps.Proofs.Metrics.Refusals
import BrokerMaps.Proofs.Metrics.Registration
import BrokerMaps.Proofs.Settings.Environment
import BrokerMaps.Proofs.Workspace.EntryUses
import BrokerMaps.Proofs.Workspace.Lines
import BrokerMaps.Proofs.Workspace.ListUses
import BrokerMaps.Proofs.Workspace.Queries
import BrokerMaps.Value.Construction
