import ParamExpansion.CommandLine.Run
import ParamExpansion.Main
import ParamExpansion.Proofs.Lexing
import ParamExpansion.Proofs.Parsing
import ParamExpansion.Proofs.Runs
import ParamExpansion.Proofs.TokenKinds
import ParamExpansion.Proofs.Consumption
import ParamExpansion.Proofs.LineBreaks
import ParamExpansion.Proofs.Translation
import ParamExpansion.Proofs.Cut
import ParamExpansion.Proofs.Evaluation
import ParamExpansion.Proofs.LineByLine
import ParamExpansion.Proofs.WellFormed
import ParamExpansion.Proofs.Scanning
import ParamExpansion.Proofs.Rendering
import ParamExpansion.Proofs.RoundTrip
import ParamExpansion.Proofs.Locations
import ParamExpansion.Proofs.Tiling
import ParamExpansion.Proofs.ViablePrefix
import ParamExpansion.Proofs.StoredEvaluation
import ParamExpansion.Proofs.DocumentedErrors
import ParamExpansion.Proofs.Encoding
import ParamExpansion.Proofs.Newlines
import ParamExpansion.Proofs.JsonReading
import ParamExpansion.Proofs.JsonDocuments
import ParamExpansion.Proofs.StoredDocuments
import ParamExpansion.Proofs.Modes
import ParamExpansion.Proofs.RunSteps
import ParamExpansion.Proofs.StoredRuns
import ParamExpansion.Proofs.Precedence
import ParamExpansion.Proofs.ConditionalForms
import ParamExpansion.Proofs.LineErrors
import ParamExpansion.Proofs.Files
import ParamExpansion.Proofs.Traces
import ParamExpansion.Proofs.ExpandingRuns
import ParamExpansion.Proofs.ParserCalls
import ParamExpansion.Proofs.StoredForms
import ParamExpansion.Proofs.Strictness
import ParamExpansion.Proofs.TraceLevels
import ParamExpansion.Proofs.SuitedValues
import ParamExpansion.Proofs.StoredFailures
import ParamExpansion.Proofs.Lookups
import ParamExpansion.Proofs.StoredLookups
import ParamExpansion.Proofs.Continuation
import ParamExpansion.Proofs.Escaping
import ParamExpansion.Proofs.SimpleForms
import ParamExpansion.Proofs.FailingParameters
import ParamExpansion.Proofs.DefinitionFormat
import ParamExpansion.Proofs.DefinitionFiles
import ParamExpansion.Proofs.StoringRuns
import ParamExpansion.Proofs.Indexes
import ParamExpansion.Proofs.Reading
import ParamExpansion.Proofs.TokenContexts
