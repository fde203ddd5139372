import GlowSyntax.Source.Place

namespace GlowSyntax

inductive ErrorCode
  | unexpectedCharacter
  | unexpectedToken
  | trailingInput
  | recursionLimit
  | unknownRule
  | danglingReference
  | leftRecursion
  | missingTokenPattern
  | invalidTokenPattern
  deriving DecidableEq, Repr

namespace ErrorCode

def text : ErrorCode → String
  | unexpectedCharacter => "E0001"
  | unexpectedToken => "E0100"
  | trailingInput => "E0101"
  | recursionLimit => "E0102"
  | unknownRule => "E0200"
  | danglingReference => "E0201"
  | leftRecursion => "E0202"
  | missingTokenPattern => "E0203"
  | invalidTokenPattern => "E0204"

def description : ErrorCode → String
  | unexpectedCharacter => "unexpected character in input"
  | unexpectedToken => "unexpected token"
  | trailingInput => "input continues after a complete match"
  | recursionLimit => "rule attempts nested too deep without consuming input"
  | unknownRule => "grammar rule does not exist"
  | danglingReference => "pattern references an undefined rule"
  | leftRecursion => "rule can reach itself without consuming a token"
  | missingTokenPattern => "token kind has no registered pattern"
  | invalidTokenPattern => "token pattern is not a valid regular expression"

def suggestion? : ErrorCode → Option String
  | recursionLimit =>
    some "a rule reaches itself without consuming a token; check the grammar for left recursion"
  | leftRecursion => some "consume a token before referencing the rule again"
  | danglingReference => some "define the referenced rule or fix its name"
  | _ => none

end ErrorCode

inductive Severity
  | error
  | warning
  | note
  deriving DecidableEq, Repr

inductive DiagnosticKind
  | lexer
  | parser
  | grammar
  deriving DecidableEq, Repr

structure Label where
  span : Span
  message : String
  deriving DecidableEq, Repr

structure Diagnostic where
  severity : Severity
  kind : DiagnosticKind
  code : Option ErrorCode
  message : String
  span : Span
  labels : List Label
  notes : List String
  help : Option String
  deriving DecidableEq, Repr

namespace Diagnostic

def make (severity : Severity) (kind : DiagnosticKind) (span : Span) (message : String) : Diagnostic :=
  ⟨severity, kind, none, message, span, [], [], none⟩

def error (kind : DiagnosticKind) (span : Span) (message : String) : Diagnostic :=
  make .error kind span message

def warning (kind : DiagnosticKind) (span : Span) (message : String) : Diagnostic :=
  make .warning kind span message

def withCode (d : Diagnostic) (c : ErrorCode) : Diagnostic :=
  { d with code := some c, help := d.help <|> c.suggestion? }

def withLabel (d : Diagnostic) (span : Span) (message : String) : Diagnostic :=
  { d with labels := d.labels ++ [⟨span, message⟩] }

def withNote (d : Diagnostic) (note : String) : Diagnostic := { d with notes := d.notes ++ [note] }

def withHelp (d : Diagnostic) (help : String) : Diagnostic := { d with help := some help }

def isError (d : Diagnostic) : Bool := d.severity = .error

end Diagnostic

end GlowSyntax
