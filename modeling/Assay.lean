import Assay.CommandLine.FileTree
import Assay.Main
import Assay.Proofs.CommandLine.Run
import Assay.Report.Decode
import Assay.Proofs.Archive.Session
import Assay.Proofs.Json.Lexemes
import Assay.Proofs.Json.RoundTrip
import Assay.Proofs.Report.Payload
import Assay.Proofs.Config.RoundTrip
import Assay.Proofs.Journal.Session
import Assay.Proofs.Accumulator.Exact
import Assay.Proofs.Report.Failures
import Assay.Proofs.Report.Suites
import Assay.Proofs.Report.Reordering
import Assay.Proofs.Summary.Merge
import Assay.Proofs.Summary.Extremes
import Assay.Proofs.Summary.Serialization
import Assay.Proofs.Cell.Classification
import Assay.Proofs.Cell.IntegerText
import Assay.Proofs.Shape.Members
import Assay.Proofs.Cell.Repetition
import Assay.Proofs.Config.Acceptance
import Assay.Proofs.Config.Refusal
import Assay.Proofs.Suite.Naming
import Assay.Proofs.Journal.Equality
import Assay.Proofs.Record.Lookup
