import GlowSyntax.Match.Probe
import GlowSyntax.Parse.Parser

namespace GlowSyntax.Parser

def parseAt (p : Parser) (start : String) (c : Cursor) : (List Event × Except ParseError Tree) × Cursor :=
  let (run, c) := c.attemptRule p.grammar p.options.maxRecursion start 0
  let record := run.record .empty
  match run.result with
  | .error e => ((run.log, .error (.ofMatch e)), c)
  | .ok none =>
    let (look, c) := Probe.peek c
    let log := run.log ++ .noMatch start record.deepest :: look.log
    match look.result with
    | .error e => ((log, .error (.ofMatch e)), c)
    | .ok t => ((log, .error (.noMatch start t record.attempts)), c)
  | .ok (some tree) =>
    let c := c.restore tree.stop
    if p.options.requireEnd then
      let (look, c) := Probe.peek c
      let log := run.log ++ look.log
      match look.result with
      | .error e => ((log, .error (.ofMatch e)), c)
      | .ok t =>
        if t.isEnd then ((log, .ok tree), c)
        else
          let further := record.deepest.any (tree.depth < ·)
          ((log, .error (.trailing start t (if further then record.attempts else []))), c)
    else ((run.log, .ok tree), c)

end GlowSyntax.Parser
