import BatchFile.ConfigFile
import BatchFile.Fixture.Builder
import BatchFile.Fixture.Damage
import BatchFile.Fixture.Sample
import BatchFile.Footer.Json
import BatchFile.Proofs.FileMetadata.WellFormed
import BatchFile.Proofs.Fixture.Damage
import BatchFile.Proofs.Fixture.RoundTrip
import BatchFile.Proofs.Footer.Delimited
import BatchFile.Proofs.Footer.RoundTrip
import BatchFile.Proofs.Framing.Trailer
import BatchFile.Proofs.Ipc.Stream
import BatchFile.Proofs.Json.RoundTrip
import BatchFile.Proofs.Reader.Calls
import BatchFile.Proofs.Reader.Causes
import BatchFile.Proofs.Reader.Checks
import BatchFile.Proofs.Reader.Counted
import BatchFile.Proofs.Reader.Counters
import BatchFile.Proofs.Reader.Exact
import BatchFile.Proofs.Reader.Failure
import BatchFile.Proofs.Reader.Joined
import BatchFile.Proofs.Reader.Locality
import BatchFile.Proofs.Reader.Parallel
import BatchFile.Proofs.Reader.Records
import BatchFile.Proofs.Reader.Reports
import BatchFile.Proofs.ReaderConfig
import BatchFile.Proofs.RowRange.Split
import BatchFile.Proofs.Session.History
import BatchFile.Proofs.Session.Lifecycle
import BatchFile.Proofs.Storage.Disk
import BatchFile.Reader.Ranges
import BatchFile.RowRange
import BatchFile.Session
import BatchFile.Storage.Disk
import BatchFile.Storage.Memory
import BatchFile.Storage.Observed
import BatchFile.Window.Concat
import BatchFile.Window.Cover
