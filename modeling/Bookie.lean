import Bookie.Storage.JournalTamper
import Bookie.Storage.JournalSystem
import Bookie.Policy.RepeatedKeys
import Bookie.Policy.SharedTransactions
import Bookie.Script.StatementAround
import Bookie.Sql.Credentials
import Bookie.Sql.LiteralTokens
import Bookie.ClickHouse.Containment
import Bookie.Sql.SplitterAgreement
import Bookie.Sql.StatementSpans
import Bookie.Mongodb.LikeRegex
import Bookie.Guard.NoUnauditedWrite
import Bookie.Guard.CursorRuns
import Bookie.Guard.WriteLockdown
import Bookie.Guard.UnknownOutcome
import Bookie.Guard.SnapshotReads
import Bookie.Edits.Applied
import Bookie.Policy.Monotone
import Bookie.Policy.NumericLiteral
import Bookie.Guard.EstimateSkipping
import Bookie.Guard.ImportRefusal
import Bookie.Guard.CheckedBatch
import Bookie.Browse.KeysetOrder
import Bookie.Connections.Import
import Bookie.Connections.SecretTransaction
import Bookie.Mcp.TokenSystem
import Bookie.Mcp.RateLimit
import Bookie.Guard.Withholding
import Bookie.Structure.DropTable
import Bookie.Mysql.MemberLabels
import Bookie.Core.Cancellation
import Bookie.Core.HexInput
import Bookie.Mcp.Preview
import Bookie.Policy.JoinOrder
import Bookie.Export.NullMarker
import Bookie.Import.Mapping
