import PersonRelations.Relation
import PersonRelations.Relation.Table
import PersonRelations.Statement
import PersonRelations.Files.Path
import PersonRelations.Error
import PersonRelations.Input.LineReader
import PersonRelations.Stats
import PersonRelations.Event
import PersonRelations.Output.Sink
import PersonRelations.Extraction
import PersonRelations.Stats.Json
import PersonRelations.Text.Quoted
import PersonRelations.Files.Operations
import PersonRelations.Output.RelationFiles
import PersonRelations.Gzip.Inflate
import PersonRelations.Input.Dump
import PersonRelations.Toml.Document
import PersonRelations.Settings.File
import PersonRelations.Run
import PersonRelations.Log
import PersonRelations.Command.Program
import PersonRelations.Main
import PersonRelations.Proofs.Lines.UniversalNewlines
import PersonRelations.Proofs.Extraction.Pass
import PersonRelations.Proofs.Statement.Fields
import PersonRelations.Proofs.Output.Columns
import PersonRelations.Proofs.Files.Resolution
import PersonRelations.Proofs.Output.Appending
import PersonRelations.Proofs.Output.FileTexts
import PersonRelations.Proofs.Run.BrokenInput
import PersonRelations.Proofs.Extraction.Calls
import PersonRelations.Proofs.Output.FullDevice
import PersonRelations.Proofs.Extraction.Conservation
import PersonRelations.Proofs.Output.SinkAgreement
import PersonRelations.Proofs.Output.WriteErrors
import PersonRelations.Proofs.Output.Framing
import PersonRelations.Proofs.Statement.Normalization
import PersonRelations.Proofs.Statement.RoundTrip
import PersonRelations.Proofs.Run.Shards
import PersonRelations.Proofs.Gzip.Members
import PersonRelations.Proofs.Extraction.FirstFailure
import PersonRelations.Proofs.Lines.Calls
import PersonRelations.Proofs.Lines.InvalidText
import PersonRelations.Proofs.Lines.LineEndings
import PersonRelations.Proofs.Extraction.Diagnostics
import PersonRelations.Proofs.Stats.Recording
import PersonRelations.Proofs.Stats.SummaryText
import PersonRelations.Proofs.Extraction.LineOrder
import PersonRelations.Proofs.Files.Directories
import PersonRelations.Proofs.Output.Opening
import PersonRelations.Proofs.Run.Stages
import PersonRelations.Proofs.Toml.Combinators
import PersonRelations.Proofs.Json.Reader
import PersonRelations.Proofs.Stats.ReadBack
import PersonRelations.Proofs.Settings.Documents
import PersonRelations.Proofs.Settings.Precedence
import PersonRelations.Proofs.Command.ExitStatus
