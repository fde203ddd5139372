import GlowSyntax.Command.Arguments
import GlowSyntax.Diagnostic.Drawing
import GlowSyntax.Diagnostic.Report
import GlowSyntax.Output

namespace GlowSyntax

abbrev Files := String → Except ReadError SourceFile

def Command.file? : Command → Option String
  | tokens f _ => some f
  | parse f _ _ _ => some f
  | grammar => none

def unlines (ls : List String) : String := String.join (ls.map (· ++ "\n"))

def success (message : String) : String := "\x1b[32m" ++ message ++ "\x1b[0m\n"

def info (message : String) : String := "\x1b[34minfo:\x1b[0m " ++ message ++ "\n"

def failed (quiet : Bool) (drawing message : String) : Outcome :=
  ⟨1, "", drawing ++ if quiet then "" else "error: " ++ message ++ "\n"⟩

def unreadable (quiet : Bool) (file : String) (e : ReadError) : Outcome :=
  failed quiet "" ("cannot read file '" ++ file ++ "': " ++ e.message)

def drawn (source : SourceFile) (d : Option Diagnostic) : String :=
  (d.bind (Drawing.render? source.text source.name)).getD ""

def runTokens (source : SourceFile) (raw verbose quiet : Bool) : Outcome :=
  let sc := Scanner.glow source
  match if raw then sc.tokenizeRaw .start else sc.tokenize .start with
  | .error e => failed quiet (drawn source e.diagnostic?) "lexical error"
  | .ok ts =>
    ⟨0, unlines (ts.map Token.line) ++ if verbose then info s!"{ts.length} token(s)" else "", ""⟩

def runParse (source : SourceFile) (rule : String) (options : MatchOptions) (json quiet : Bool) : Outcome :=
  let p := Parser.glow.withOptions options
  if !p.grammar.contains rule then failed quiet "" ("unknown rule '" ++ rule ++ "'")
  else match (p.parse source rule).result with
    | .error e => failed quiet (drawn source e.diagnostic?) "parse error"
    | .ok t =>
      ⟨0, if json then t.json.pretty 0 ++ "\n"
        else t.outline ++ if quiet then "" else success "OK - parsed without errors", ""⟩

def runGrammar (quiet : Bool) : Outcome :=
  let g := Grammar.glow
  let rules := unlines (g.rules.map Rule.text)
  match g.validate with
  | .error e => { failed quiet "" e.message with output := rules }
  | .ok _ => ⟨0, rules ++ if quiet then "" else success s!"OK - {g.size} rules, grammar is valid", ""⟩

def Command.execute (c : Command) (files : Files) (verbose quiet : Bool) : Outcome :=
  match c with
  | tokens file raw =>
    match files file with
    | .error e => unreadable quiet file e
    | .ok source => runTokens source raw verbose quiet
  | parse file rule options json =>
    match files file with
    | .error e => unreadable quiet file e
    | .ok source => runParse source rule options json quiet
  | grammar => runGrammar quiet

def Request.outcome (r : Request) (files : Files) : Outcome :=
  match r with
  | run c verbose quiet => c.execute files verbose quiet
  | version => ⟨0, versionText, ""⟩
  | help t => ⟨0, helpText t, ""⟩
  | misuse => ⟨2, "", helpText .program⟩

end GlowSyntax
