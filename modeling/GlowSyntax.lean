import GlowSyntax.Main
import GlowSyntax.Scan.Cursor
import GlowSyntax.Grammar.Registry
import GlowSyntax.Match.Probe
import GlowSyntax.Parse.Cursor
import GlowSyntax.Proofs.Automaton.Taken
import GlowSyntax.Proofs.Source.Walk
import GlowSyntax.Proofs.Diagnostic.Lines
import GlowSyntax.Proofs.Diagnostic.Header
import GlowSyntax.Proofs.Diagnostic.Rendering
import GlowSyntax.Proofs.Scan.Read
import GlowSyntax.Proofs.Lexicon.Glow
import GlowSyntax.Proofs.Scan.Yield
import GlowSyntax.Proofs.Scan.Located
import GlowSyntax.Proofs.Scan.Progress
import GlowSyntax.Proofs.Scan.Steps
import GlowSyntax.Proofs.Scan.Errors
import GlowSyntax.Proofs.Scan.Tiling
import GlowSyntax.Proofs.Grammar.Derivation
import GlowSyntax.Proofs.Grammar.Rewriting
import GlowSyntax.Proofs.Grammar.Nullable
import GlowSyntax.Proofs.Grammar.LeftRecursion
import GlowSyntax.Proofs.Grammar.Sweep
import GlowSyntax.Proofs.Grammar.Cycle
import GlowSyntax.Proofs.Match.Ensures
import GlowSyntax.Proofs.Match.Record
import GlowSyntax.Proofs.Match.Visited
import GlowSyntax.Proofs.Match.Extent
import GlowSyntax.Proofs.Match.Failures
import GlowSyntax.Proofs.Match.Expected
import GlowSyntax.Proofs.Match.OrderedChoice
import GlowSyntax.Proofs.Match.TokenList
import GlowSyntax.Proofs.Match.Misses
import GlowSyntax.Proofs.Match.Spent
import GlowSyntax.Proofs.Match.Tokenless
import GlowSyntax.Proofs.Match.Preceded
import GlowSyntax.Proofs.Match.Closed
import GlowSyntax.Proofs.Match.Ceiling
import GlowSyntax.Proofs.Match.Nesting
import GlowSyntax.Proofs.Match.InProgress
import GlowSyntax.Proofs.Match.Placeless
import GlowSyntax.Proofs.Match.Abreast
import GlowSyntax.Proofs.Parse.Outcome
import GlowSyntax.Proofs.Parse.Location
import GlowSyntax.Proofs.Parse.Session
import GlowSyntax.Proofs.Glow.Language
import GlowSyntax.Proofs.Glow.Recognition
import GlowSyntax.Proofs.Glow.Due
import GlowSyntax.Proofs.Glow.Progress
import GlowSyntax.Proofs.Glow.Acceptance
import GlowSyntax.Proofs.Glow.Rejection
import GlowSyntax.Proofs.Match.Probe
import GlowSyntax.Proofs.Parse.Cursor
import GlowSyntax.Proofs.Parse.ScanError
import GlowSyntax.Proofs.Parse.Trivia
import GlowSyntax.Proofs.Parse.Leftover
import GlowSyntax.Proofs.Parse.Errors
import GlowSyntax.Proofs.Automaton.Chain
import GlowSyntax.Proofs.Lexicon.Munch
import GlowSyntax.Proofs.Scan.Munch
import GlowSyntax.Proofs.Scan.Strings
import GlowSyntax.Proofs.Match.Limit
import GlowSyntax.Proofs.Match.Answers
import GlowSyntax.Proofs.Glow.Cut
import GlowSyntax.Proofs.Glow.Operators
import GlowSyntax.Proofs.Glow.Strings
import GlowSyntax.Proofs.Source.LineEnds
import GlowSyntax.Proofs.Source.Table
import GlowSyntax.Proofs.Lexicon.Slash
import GlowSyntax.Proofs.Scan.Comments
import GlowSyntax.Proofs.Match.Parts
import GlowSyntax.Proofs.Match.Captures
import GlowSyntax.Proofs.Output
import GlowSyntax.Proofs.Glow.Dump
import GlowSyntax.Proofs.Match.Spans
import GlowSyntax.Proofs.Match.Labelled
import GlowSyntax.Proofs.Scan.Significant
import GlowSyntax.Proofs.Firsts
import GlowSyntax.Proofs.Grammar.Registry
import GlowSyntax.Proofs.Match.Reachable
import GlowSyntax.Proofs.Diagnostic.Deepest
