import TradeTracker.Text.Blank
import TradeTracker.Text.Code
import TradeTracker.Text.Digits
import TradeTracker.Text.Lines
import TradeTracker.Text.Quoted
import TradeTracker.Amount
import TradeTracker.Address
import TradeTracker.Binary64
import TradeTracker.Decimal.Text
import TradeTracker.Json.Double
import TradeTracker.Json.Printer
import TradeTracker.Json.Reader
import TradeTracker.Json.Record
import TradeTracker.Token.Catalog
import TradeTracker.Transaction.ResponseJson
import TradeTracker.Transaction.SnapshotJson
import TradeTracker.Trade.Classification
import TradeTracker.Trade.Counter
import TradeTracker.Trade.Intent
import TradeTracker.Trade.Json
import TradeTracker.Trade.Price
import TradeTracker.Protocol.Json
import TradeTracker.Scan.Account
import TradeTracker.Ini.Document
import TradeTracker.Json5.Document
import TradeTracker.Ron.Document
import TradeTracker.Toml.Document
import TradeTracker.Yaml.Document
import TradeTracker.Settings.DefaultFile
import TradeTracker.Settings.Environment
import TradeTracker.Settings.Load
import TradeTracker.CommandLine.Directory
import TradeTracker.Main
import TradeTracker.Proofs.Decimal.Rounding
import TradeTracker.Proofs.Outcome
import TradeTracker.Proofs.Protocol.Derivation
import TradeTracker.Proofs.Protocol.Reserve
import TradeTracker.Proofs.Base58
import TradeTracker.Proofs.Transaction.Conversion
import TradeTracker.Proofs.Transaction.Encodings
import TradeTracker.Proofs.Amount.Raw
import TradeTracker.Proofs.Trade.Movement
import TradeTracker.Proofs.Trade.Decision
import TradeTracker.Proofs.Trade.TrackedMovement
import TradeTracker.Proofs.Trade.Counter
import TradeTracker.Proofs.Trade.Consistency
import TradeTracker.Proofs.Scan.Report
import TradeTracker.Proofs.Scan.Completion
import TradeTracker.Proofs.Node.Paging
import TradeTracker.Proofs.Decimal.Reading
import TradeTracker.Proofs.Amount.Text
import TradeTracker.Proofs.Decimal.Order
import TradeTracker.Proofs.Trade.Price
import TradeTracker.Proofs.Protocol.Coverage
import TradeTracker.Proofs.Transaction.TokenChanges
import TradeTracker.Proofs.Trade.CounterMovement
import TradeTracker.Proofs.Amount.RoundTrip
import TradeTracker.Proofs.Trade.Candidate
import TradeTracker.Proofs.Trade.EntryOrder
import TradeTracker.Proofs.Json.Text
import TradeTracker.Proofs.Json.Record
import TradeTracker.Proofs.Transaction.Storage
import TradeTracker.Proofs.Scan.Accounting
import TradeTracker.Proofs.Scan.History
import TradeTracker.Proofs.Trade.Malformed
import TradeTracker.Proofs.Transaction.Mirror
import TradeTracker.Proofs.Trade.Mirror
import TradeTracker.Proofs.Token.Catalog
import TradeTracker.Proofs.Settings.ProtocolTokens
import TradeTracker.Proofs.Trade.Storage
import TradeTracker.Proofs.Trade.CounterChoice
import TradeTracker.Proofs.Transaction.Calls
import TradeTracker.Proofs.Protocol.Failure
import TradeTracker.Proofs.Protocol.Safety
import TradeTracker.Proofs.Protocol.Monotone
import TradeTracker.Proofs.Protocol.Peg
import TradeTracker.Proofs.Trade.PriceAccuracy
import TradeTracker.Proofs.Amount.Words
import TradeTracker.Proofs.Amount.Language
import TradeTracker.Proofs.Amount.Shortest
import TradeTracker.Proofs.Node.Transcript
import TradeTracker.Proofs.Transaction.Extraction
import TradeTracker.Proofs.Protocol.Notation
import TradeTracker.Proofs.Protocol.LeveragedPrice
import TradeTracker.Proofs.Token.Merge
import TradeTracker.Proofs.Transaction.Conservation
import TradeTracker.Proofs.CommandLine.Metrics
