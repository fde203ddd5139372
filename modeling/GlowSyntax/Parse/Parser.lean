import GlowSyntax.Grammar.Glow
import GlowSyntax.Match.Attempt

namespace GlowSyntax

structure MatchOptions where
  /-- How many rule attempts may be nested at one offset. -/
  maxRecursion : Nat
  requireEnd : Bool
  deriving DecidableEq, Repr

namespace MatchOptions

def standard : MatchOptions := ⟨256, true⟩

end MatchOptions

inductive ParseError
  | scan (e : ScanError)
  | grammar (e : GrammarError)
  | recursionLimit (rule : String) (limit : Nat)
  | noMatch (rule : String) (found : Token) (failures : List Failure)
  | trailing (rule : String) (found : Token) (failures : List Failure)
  deriving DecidableEq, Repr

namespace ParseError

def ofMatch : MatchError → ParseError
  | .scan e => scan e
  | .grammar e => grammar e
  | .recursionLimit r n => recursionLimit r n

def message? : ParseError → Option String
  | scan e => e.message?
  | grammar e => some e.message
  | recursionLimit r n => some (recursionLimitMessage r n)
  | noMatch r t _ => some ("no match for rule `" ++ r ++ "` at " ++ t.pos.text)
  | trailing r t _ =>
    some ("unexpected " ++ t.describe ++ " after a complete `" ++ r ++ "` at " ++ t.pos.text)

end ParseError

structure Parser where
  grammar : Grammar
  options : MatchOptions
  valid : grammar.validate = .ok ()

structure Parsing where
  log : List Event
  result : Except ParseError Tree
  state : ScanState

namespace Parser

def ofGrammar (g : Grammar) : Except GrammarError Parser :=
  match h : g.validate with
  | .ok () => .ok ⟨g, .standard, h⟩
  | .error e => .error e

def glow : Parser := ⟨.glow, .standard, rfl⟩

def withOptions (p : Parser) (options : MatchOptions) : Parser := { p with options }

/-- Parses from a state. A match leaves the source behind it, also if more is left there than is
allowed; without a match the source stays where it was. -/
def parseFrom (p : Parser) (sc : Scanner) (s : ScanState) (start : String) : Parsing :=
  let run := attemptRule p.grammar p.options.maxRecursion sc start s 0
  let record := run.record .empty
  match run.result with
  | .error e => ⟨run.log, .error (.ofMatch e), s⟩
  | .ok none =>
    let log := run.log ++ [.noMatch start record.deepest, .scan s]
    match sc.peek s with
    | .error e => ⟨log, .error (.scan e), s⟩
    | .ok t => ⟨log, .error (.noMatch start t record.attempts), s⟩
  | .ok (some tree) =>
    if p.options.requireEnd then
      let log := run.log ++ [.scan tree.stop]
      match sc.peek tree.stop with
      | .error e => ⟨log, .error (.scan e), tree.stop⟩
      | .ok t =>
        if t.isEnd then ⟨log, .ok tree, tree.stop⟩
        else
          let further := record.deepest.any (tree.depth < ·)
          ⟨log, .error (.trailing start t (if further then record.attempts else [])), tree.stop⟩
    else ⟨run.log, .ok tree, tree.stop⟩

def parse (p : Parser) (source : SourceFile) (start : String) : Parsing :=
  p.parseFrom (.glow source) .start start

def parseText (p : Parser) (name contents start : String) : Parsing :=
  p.parse (.ofText name contents) start

end Parser

def parseGlow (source : SourceFile) : Parsing := Parser.glow.parse source Grammar.glowStart

end GlowSyntax
