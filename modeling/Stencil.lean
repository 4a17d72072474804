import Stencil.Main
import Stencil.Proofs.EnvironmentSemantics
import Stencil.Proofs.EnvironmentSimulation
import Stencil.Proofs.BlockReading
import Stencil.Proofs.CompileFaults
import Stencil.Proofs.SegmentCut
import Stencil.Proofs.SinkDelivery
import Stencil.Proofs.UndefinedNames
import Stencil.Proofs.PieceReading
import Stencil.Proofs.DirectiveSpelling
import Stencil.Proofs.ProgramPrinting
import Stencil.Proofs.KeywordGrammar
import Stencil.Proofs.FailedRuns
import Stencil.Proofs.ProgramStatements
import Stencil.Proofs.Unrolling
import Stencil.Proofs.PrunedData
import Stencil.Proofs.CompiledStatements
import Stencil.Proofs.MarkupEscapes
import Stencil.Proofs.MarkupSafety
import Stencil.Proofs.Concatenation
import Stencil.Proofs.ScopeWalks
import Stencil.Proofs.JsonRoundTrip
import Stencil.Proofs.BufferedOutput
import Stencil.Proofs.CommandLineStages
import Stencil.Proofs.CommandLineRuns
import Stencil.Proofs.BracesSpelledOut
import Stencil.Proofs.DirectiveBodies
import Stencil.Proofs.ErrorSpans
import Stencil.Proofs.OtherwiseClauses
import Stencil.Proofs.ReportMarks
import Stencil.Proofs.LimitedOutput
import Stencil.Proofs.CompiledPrograms
import Stencil.Proofs.FilledSources
import Stencil.Proofs.JsonDecoders
import Stencil.Proofs.LineLocality
import Stencil.Proofs.EntityDecoding
import Stencil.Proofs.CursorIteration
import Stencil.Proofs.WordRuns
