import GlowSyntax.Diagnostic.Basic
import GlowSyntax.Parse.Parser

namespace GlowSyntax

def LexiconError.code : LexiconError → ErrorCode
  | missing _ => .missingTokenPattern
  | invalid _ => .invalidTokenPattern

def ScanError.code? : ScanError → Option ErrorCode
  | unexpected .. => some .unexpectedCharacter
  | lexicon e => some e.code
  | misplaced | endless => none

def GrammarError.code : GrammarError → ErrorCode
  | unknownRule _ => .unknownRule
  | dangling .. => .danglingReference
  | leftRecursion _ => .leftRecursion

def ParseError.code? : ParseError → Option ErrorCode
  | scan e => e.code?
  | grammar e => some e.code
  | recursionLimit .. => some .recursionLimit
  | noMatch .. => some .unexpectedToken
  | trailing .. => some .trailingInput

def ParseError.span? : ParseError → Option Span
  | scan (.unexpected _ _ span _) => some span
  | noMatch _ t fs | trailing _ t fs => some ((fs.head?.map (·.found.span)).getD t.span)
  | scan _ | grammar _ | recursionLimit .. => none

def ScanError.diagnostic? : ScanError → Option Diagnostic
  | unexpected _ _ span ch =>
    some (((Diagnostic.error .lexer span ("unexpected character `" ++ Text.shown ch ++ "`")).withCode
      .unexpectedCharacter).withLabel span "unexpected character here")
  | lexicon e => e.message?.map fun m => (Diagnostic.error .lexer .dummy m).withCode e.code
  | misplaced | endless => none

def GrammarError.diagnostic (e : GrammarError) : Diagnostic :=
  (Diagnostic.error .grammar .dummy e.message).withCode e.code

def recursionLimitDiagnostic (rule : String) (limit : Nat) : Diagnostic :=
  (Diagnostic.error .parser .dummy (recursionLimitMessage rule limit)).withCode .recursionLimit

def rulePhrase : List String → String
  | [r] => "rule `" ++ r ++ "`"
  | rs => "rules " ++ ", ".intercalate (rs.map fun r => "`" ++ r ++ "`")

def expectationDiagnostic (f : Failure) (fs : List Failure) : Diagnostic :=
  let expected := expectation (f :: fs)
  ((Diagnostic.error .parser f.found.span ("expected " ++ expected ++ ", found " ++ f.found.describe)).withCode
    .unexpectedToken).withLabel f.found.span ("expected " ++ expected)

def noMatchDiagnostic (rule : String) (t : Token) : List Failure → Diagnostic
  | f :: fs =>
    (expectationDiagnostic f fs).withNote ("while matching " ++ rulePhrase (failingRules (f :: fs)))
  | [] =>
    ((Diagnostic.error .parser t.span ("expected `" ++ rule ++ "`, found " ++ t.describe)).withCode
      .unexpectedToken).withLabel t.span ("`" ++ rule ++ "` cannot start here")

/-- A longer match that was attempted is the better explanation of what is left. -/
def trailingDiagnostic (rule : String) (t : Token) : List Failure → Diagnostic
  | f :: fs =>
    (expectationDiagnostic f fs).withNote
      ("a complete `" ++ rule ++ "` ends before " ++ t.describe ++ ", at " ++ t.pos.text)
  | [] =>
    ((Diagnostic.error .parser t.span
      ("unexpected " ++ t.describe ++ " after a complete `" ++ rule ++ "`")).withCode
      .trailingInput).withLabel t.span "input continues here"

def ParseError.diagnostic? : ParseError → Option Diagnostic
  | scan e => e.diagnostic?
  | grammar e => some e.diagnostic
  | recursionLimit r n => some (recursionLimitDiagnostic r n)
  | noMatch r t fs => some (noMatchDiagnostic r t fs)
  | trailing r t fs => some (trailingDiagnostic r t fs)

end GlowSyntax
