import BulkImport.Import.Journal
import BulkImport.Import.Dedup
import BulkImport.Import.Failures
import BulkImport.Import.Constraints
import BulkImport.Import.Download
import BulkImport.Export.Formats
import BulkImport.Control.Lifecycle
import BulkImport.Control.Progress
import BulkImport.Import.Race
import BulkImport.Api.Idempotency
import BulkImport.Import.PhaseOne
import BulkImport.Import.Conversion
import BulkImport.Api.ErrorPages
import BulkImport.Store.Batches
import BulkImport.Store.Statements
import BulkImport.Export.ReadBack
import BulkImport.Store.SelectQuery
