import GlowSyntax.Scan.Scanner
import GlowSyntax.Text.Quoted

namespace GlowSyntax

inductive ScanNote
  | modeSwitch (old new : Mode) (pos : Position)
  | unexpected (pos : Position) (ch : Char)
  deriving DecidableEq, Repr

def ScanNote.line : ScanNote → String
  | modeSwitch old new pos => s!"TRACE mode switch from={old.name} to={new.name} pos={pos.text}"
  | unexpected pos ch => s!"DEBUG unexpected character pos={pos.text} ch={Text.quotedChar ch}"

namespace Scanner

def readNotes (sc : Scanner) (s : ScanState) : List ScanNote :=
  match sc.read s with
  | .ok (_, s') => if s'.mode = s.mode then [] else [.modeSwitch s.mode s'.mode s.pos]
  | .error (.unexpected _ pos _ ch) => [.unexpected pos ch]
  | .error _ => []

def trailWithin (sc : Scanner) : Nat → ScanState → List ScanState
  | 0, _ => []
  | n + 1, s =>
    s :: match sc.read s with
      | .ok (t, s') => if t.kind.isTrivia then trailWithin sc n s' else []
      | .error _ => []

def trail (sc : Scanner) (s : ScanState) : List ScanState := sc.trailWithin sc.steps s

def nextNotes (sc : Scanner) (s : ScanState) : List ScanNote := (sc.trail s).flatMap sc.readNotes

def visited (step : ScanState → Except ScanError (Token × ScanState)) : Nat → ScanState → List ScanState
  | 0, _ => []
  | n + 1, s =>
    s :: match step s with
      | .ok (t, s') => if t.isEnd then [] else visited step n s'
      | .error _ => []

def tokenizeNotes (sc : Scanner) (s : ScanState) : List ScanNote :=
  (visited sc.next sc.steps s).flatMap sc.nextNotes

def tokenizeRawNotes (sc : Scanner) (s : ScanState) : List ScanNote :=
  (visited sc.read sc.steps s).flatMap sc.readNotes

end Scanner

structure Cursor where
  scanner : Scanner
  state : ScanState

namespace Cursor

def start (sc : Scanner) : Cursor := ⟨sc, .start⟩

def restore (c : Cursor) (s : ScanState) : Cursor := { c with state := s }

def load (c : Cursor) (source : SourceFile) : Cursor := ⟨c.scanner.load source, .start⟩

def remaining? (c : Cursor) : Option String := (c.scanner.rest? c.state).map String.ofList

def read (c : Cursor) : Except ScanError Token × Cursor :=
  match c.scanner.read c.state with
  | .ok (t, s) => (.ok t, c.restore s)
  | .error e => (.error e, c)

/-- Reads a significant token; after a failure the cursor is behind the trivia it has passed. -/
def next (c : Cursor) : Except ScanError Token × Cursor :=
  match c.scanner.next c.state with
  | .ok (t, s) => (.ok t, c.restore s)
  | .error e => (.error e, c.restore ((c.scanner.trail c.state).getLastD c.state))

end Cursor

end GlowSyntax
