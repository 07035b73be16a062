import Mooring.CommandLine.Run
import Mooring.Host.Isolated
import Mooring.Json.Ascii
import Mooring.Main
import Mooring.Proofs.Connection.Ownership
import Mooring.Proofs.ConnectionFile.Validity
import Mooring.Proofs.Connector.FileRuns
import Mooring.Proofs.Connector.PortAccounts
import Mooring.Provisioner.Samples
import Mooring.Summary.Connector
import Mooring.Summary.Ssh
import Mooring.Proofs.Connector.Work
import Mooring.Proofs.Files.Changes
import Mooring.Proofs.Connector.Reservations
import Mooring.Proofs.Connection.Failures
import Mooring.Proofs.Connector.FailedPrepare
import Mooring.Proofs.Text.Utf8
import Mooring.Proofs.Json.Passing
import Mooring.Proofs.Credentials.FileText
import Mooring.Proofs.Credentials.Agreement
import Mooring.Proofs.Connector.SharedEndpoints
import Mooring.Proofs.Connector.LateRestarts
import Mooring.Proofs.Connection.WrittenFile
import Mooring.Proofs.Ports.Races
import Mooring.Proofs.Session.Replays
import Mooring.Proofs.ConnectionFile.Contents
import Mooring.Proofs.Connection.Reachable
import Mooring.Proofs.Ssh.Logins
import Mooring.Proofs.Ssh.Forwarding
import Mooring.Proofs.Provisioner.Relaunches
import Mooring.Proofs.CommandLine.AllOrNothing
import Mooring.Proofs.Connection.Precedence
import Mooring.Proofs.Connection.Snapshots
import Mooring.Proofs.Connection.Fillings
import Mooring.Proofs.Provisioner.Lookups
import Mooring.Proofs.Search.RegularFiles
import Mooring.Proofs.Search.Fragments
import Mooring.Proofs.Connector.Restarts
import Mooring.Proofs.Connector.Farewells
import Mooring.Proofs.Ssh.Targets
import Mooring.Proofs.Connector.KernelPaths
import Mooring.Proofs.Credentials.Endpoints
import Mooring.Proofs.ConnectionFile.SecureWrite
import Mooring.Proofs.ConnectionFile.IndexSearch
import Mooring.Proofs.CommandLine.Redaction
