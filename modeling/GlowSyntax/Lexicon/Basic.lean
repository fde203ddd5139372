import GlowSyntax.Automaton.Run
import GlowSyntax.Regex.Reader
import GlowSyntax.Token

namespace GlowSyntax

inductive Spelling
  | literal (text : String)
  | regex (text : String) (automaton : Automaton)
  deriving DecidableEq, Repr

namespace Spelling

def ofRegex? (text : String) : Option Spelling :=
  (Regex.ofString? (Regex.anchored text)).map fun r => .regex (Regex.anchored text) (.ofRegex r)

def candidate? : Spelling → List Char → Option (List Char)
  | literal t, input => if t.toList.isPrefixOf input then some t.toList else none
  | regex _ a, input => a.prefixOf? input

/-- The start of the input that is spelled this way. Only at the end of input may it be empty, so that
scanning moves on. -/
def prefixOf? (s : Spelling) (input : List Char) : Option (List Char) :=
  (s.candidate? input).filter fun t => !t.isEmpty || input.isEmpty

end Spelling

inductive LexiconError
  | missing (k : Kind)
  | invalid (k : Kind)
  deriving DecidableEq, Repr

def LexiconError.message? : LexiconError → Option String
  | missing k => some ("no pattern is registered for token kind `" ++ k.name ++ "`")
  | invalid _ => none

structure Lexicon where
  spelling? : Kind → Option Spelling

namespace Lexicon

def empty : Lexicon := ⟨fun _ => none⟩

def insert (lx : Lexicon) (k : Kind) (s : Spelling) : Lexicon :=
  ⟨fun j => if j = k then some s else lx.spelling? j⟩

def insertRegex (lx : Lexicon) (k : Kind) (text : String) : Except LexiconError Lexicon :=
  match Spelling.ofRegex? text with
  | some s => .ok (lx.insert k s)
  | none => .error (.invalid k)

def missing? (lx : Lexicon) (ks : List Kind) : Option Kind :=
  ks.find? fun k => (lx.spelling? k).isNone

def ensure (lx : Lexicon) (ks : List Kind) : Except LexiconError Unit :=
  match lx.missing? ks with
  | some k => .error (.missing k)
  | none => .ok ()

def find (lx : Lexicon) (input : List Char) : List Kind → Except LexiconError (Option (Kind × List Char))
  | [] => .ok none
  | k :: ks =>
    match lx.spelling? k with
    | none => .error (.missing k)
    | some s =>
      match s.prefixOf? input with
      | some t => .ok (some (k, t))
      | none => find lx input ks

end Lexicon

end GlowSyntax
