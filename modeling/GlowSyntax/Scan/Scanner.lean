import GlowSyntax.Lexicon.Glow
import GlowSyntax.Scan.State
import GlowSyntax.Source.File
import GlowSyntax.Token

namespace GlowSyntax

inductive ScanError
  | unexpected (file : String) (pos : Position) (span : Span) (ch : Char)
  | lexicon (e : LexiconError)
  | misplaced
  /-- Tokens without text follow each other for ever at the end of the text. -/
  | endless
  deriving DecidableEq, Repr

def ScanError.message? : ScanError → Option String
  | unexpected file pos _ ch =>
    some (file ++ ":" ++ pos.text ++ ": unexpected character `" ++ ch.toString ++ "`")
  | lexicon e => e.message?
  | misplaced | endless => none

/-- A source with a lexicon that spells every kind of every mode. What follows each offset of the source
is at hand, so that reading goes on anywhere in the same time. -/
structure Scanner where
  lexicon : Lexicon
  source : SourceFile
  complete : lexicon.missing? Mode.allCandidates = none
  rests : Array (Option (List Char)) := (Text.rests source.text).toArray
  rests_eq : rests = (Text.rests source.text).toArray := by rfl

namespace Scanner

def ofLexicon (lx : Lexicon) (source : SourceFile) : Except LexiconError Scanner :=
  match h : lx.missing? Mode.allCandidates with
  | some k => .error (.missing k)
  | none => .ok { lexicon := lx, source, complete := h }

def glow (source : SourceFile) : Scanner := { lexicon := .glow, source, complete := by decide }

def load (sc : Scanner) (source : SourceFile) : Scanner :=
  { lexicon := sc.lexicon, source, complete := sc.complete }

def rest? (sc : Scanner) (s : ScanState) : Option (List Char) := sc.rests[s.offset]?.join

theorem rest?_eq (sc : Scanner) (s : ScanState) : sc.rest? s = Text.dropBytes sc.source.text s.offset := by
  rw [rest?, sc.rests_eq, List.getElem?_toArray, Text.join_getElem?_rests]

def unexpected (sc : Scanner) (s : ScanState) (rest : List Char) : ScanError :=
  let ch := rest.headD '\x00'
  .unexpected sc.source.name s.pos (.ofOffsets s.offset (s.offset + min ch.utf8Size (Text.size rest))) ch

def read (sc : Scanner) (s : ScanState) : Except ScanError (Token × ScanState) :=
  match sc.rest? s with
  | none => .error .misplaced
  | some rest =>
    match sc.lexicon.find rest s.mode.candidates with
    | .error e => .error (.lexicon e)
    | .ok none => .error (sc.unexpected s rest)
    | .ok (some (k, text)) =>
      let next := s.advance k text
      .ok (⟨k, String.ofList text, s.pos, .ofOffsets s.offset next.offset, sc.source.name⟩, next)

/-- More steps than any scan takes that ends: one for each byte, one for each mode at the end of the
text, and the last one. -/
def steps (sc : Scanner) : Nat := sc.rests.size + Mode.all.length

def nextWithin (sc : Scanner) : Nat → ScanState → Except ScanError (Token × ScanState)
  | 0, _ => .error .endless
  | n + 1, s =>
    match sc.read s with
    | .error e => .error e
    | .ok (t, s') => if t.kind.isTrivia then nextWithin sc n s' else .ok (t, s')

def next (sc : Scanner) (s : ScanState) : Except ScanError (Token × ScanState) :=
  sc.nextWithin sc.steps s

def peek (sc : Scanner) (s : ScanState) : Except ScanError Token := (sc.next s).map (·.1)

def atEnd (sc : Scanner) (s : ScanState) : Except ScanError Bool := (sc.peek s).map (·.isEnd)

def collect (step : ScanState → Except ScanError (Token × ScanState)) :
    Nat → ScanState → Except ScanError (List Token)
  | 0, _ => .error .endless
  | n + 1, s =>
    match step s with
    | .error e => .error e
    | .ok (t, s') => if t.isEnd then .ok [t] else (collect step n s').map (t :: ·)

def tokenize (sc : Scanner) (s : ScanState) : Except ScanError (List Token) := collect sc.next sc.steps s

def tokenizeRaw (sc : Scanner) (s : ScanState) : Except ScanError (List Token) := collect sc.read sc.steps s

end Scanner

end GlowSyntax
