import GlowSyntax.Lexicon.Basic

namespace GlowSyntax.Lexicon

/-- A keyword ends at a word edge, so that a longer name is no keyword. -/
def varSpelling : Option Spelling := Spelling.ofRegex? "var\\b"

def constSpelling : Option Spelling := Spelling.ofRegex? "const\\b"

def funcSpelling : Option Spelling := Spelling.ofRegex? "func\\b"

def identifierSpelling : Option Spelling := Spelling.ofRegex? "[a-zA-Z_][a-zA-Z_0-9]*"

def integerSpelling : Option Spelling := Spelling.ofRegex? "[0-9]+"

def blankSpelling : Option Spelling := Spelling.ofRegex? "[ \\t]"

def anySpelling : Option Spelling := Spelling.ofRegex? "."

def endSpelling : Option Spelling := Spelling.ofRegex? "$"

def glow : Lexicon where
  spelling?
    | .kwVar => varSpelling
    | .kwConst => constSpelling
    | .kwFunc => funcSpelling
    | .identifier => identifierSpelling
    | .integer => integerSpelling
    | .blank => blankSpelling
    | .stringChar | .commentChar => anySpelling
    | .endOfFile => endSpelling
    | .endOfLine => some (.literal "\n")
    | k => k.spelling?.map .literal

theorem glow_complete (k : Kind) : (glow.spelling? k).isSome := by cases k <;> decide

end GlowSyntax.Lexicon
