import Entrypoint.ErrorBody
import Entrypoint.Main
import Entrypoint.Proofs.Run.Isolation
import Entrypoint.Proofs.Service.Accounting
import Entrypoint.Proofs.Service.FieldRules
import Entrypoint.Proofs.Service.InitializerContract
import Entrypoint.Proofs.Service.InitializerFates
import Entrypoint.Proofs.Catalog.AddressedItems
import Entrypoint.Proofs.Program.RequestValues
import Entrypoint.Proofs.Program.FailurePolicy
import Entrypoint.Proofs.Catalog.FileOrder
import Entrypoint.Proofs.Catalog.ImportTrees
import Entrypoint.Proofs.Catalog.RelativeScope
import Entrypoint.Proofs.Catalog.NameCapture
import Entrypoint.Proofs.Catalog.StructSearch
import Entrypoint.Proofs.Run.Interruption
import Entrypoint.Proofs.Run.Regeneration
import Entrypoint.Proofs.Files.SourceSearch
import Entrypoint.Proofs.Json.TextRecord
import Entrypoint.Proofs.Numerals
import Entrypoint.Proofs.Registry.Batches
import Entrypoint.Proofs.Registry.Locations
import Entrypoint.Proofs.Role.Notice
import Entrypoint.Proofs.Role.Scanning
import Entrypoint.Proofs.Route.BasePath
import Entrypoint.Proofs.Catalog.ScalarChain
import Entrypoint.Proofs.Text.Spellings
