import GlowSyntax.Text.Bytes
import GlowSyntax.Token

namespace GlowSyntax

inductive Mode
  | code
  | string
  | comment
  deriving DecidableEq, Repr, Inhabited

namespace Mode

def all : List Mode := [code, string, comment]

def name : Mode → String
  | code => "Syntax"
  | string => "StringLiteral"
  | comment => "Comment"

/-- The kinds that can stand in a mode, in the order in which they are tried: longer operators and
keywords come before the kinds that would take a part of them. -/
def candidates : Mode → List Kind
  | code =>
    [.slashes, .endOfLine, .endOfFile, .blank, .quote, .braceClose, .braceOpen, .bracketClose,
      .bracketOpen, .parenClose, .parenOpen, .equals, .assign, .colon, .semicolon, .times, .plus,
      .minus, .slash, .kwVar, .kwConst, .kwFunc, .identifier, .integer]
  | string => [.escapedQuote, .quote, .endOfLine, .endOfFile, .stringChar]
  | comment => [.endOfLine, .endOfFile, .commentChar]

def after : Mode → Kind → Mode
  | code, .quote => string
  | string, .quote => code
  | code, .slashes => comment
  | comment, .endOfLine => code
  | m, _ => m

def allCandidates : List Kind := all.flatMap candidates

end Mode

structure ScanState where
  offset : Nat
  line : UInt32
  column : UInt32
  mode : Mode
  deriving DecidableEq, Repr, Inhabited

namespace ScanState

def start : ScanState := ⟨0, 1, 1, .code⟩

def pos (s : ScanState) : Position := ⟨s.line, s.column⟩

/-- The state after a token. Only the kind of a line end starts a new line. -/
def advance (s : ScanState) (k : Kind) (text : List Char) : ScanState where
  offset := s.offset + Text.size text
  line := if k = .endOfLine then s.line + 1 else s.line
  column := if k = .endOfLine then 1 else s.column + text.length.toUInt32
  mode := s.mode.after k

end ScanState

end GlowSyntax
