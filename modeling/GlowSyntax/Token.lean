import GlowSyntax.Source.Place

namespace GlowSyntax

/-- In the order in which kinds are listed and sorted. -/
inductive Kind
  | identifier
  | stringChar
  | escapedQuote
  | slashes
  | commentChar
  | endOfLine
  | endOfFile
  | blank
  | quote
  | braceClose
  | braceOpen
  | bracketClose
  | bracketOpen
  | parenClose
  | parenOpen
  | assign
  | equals
  | colon
  | semicolon
  | times
  | plus
  | minus
  | slash
  | integer
  | kwVar
  | kwConst
  | kwFunc
  deriving DecidableEq, Repr, Inhabited

namespace Kind

def all : List Kind :=
  [identifier, stringChar, escapedQuote, slashes, commentChar, endOfLine, endOfFile, blank, quote,
    braceClose, braceOpen, bracketClose, bracketOpen, parenClose, parenOpen, assign, equals, colon,
    semicolon, times, plus, minus, slash, integer, kwVar, kwConst, kwFunc]

theorem mem_all (k : Kind) : k ∈ all := by cases k <;> decide

def name : Kind → String
  | identifier => "Name"
  | stringChar => "StringChar"
  | escapedQuote => "EscapedDblQuote"
  | slashes => "DoubleSlash"
  | commentChar => "CommentChar"
  | endOfLine => "Eol"
  | endOfFile => "Eof"
  | blank => "Whitespace"
  | quote => "DblQuote"
  | braceClose => "CurlyBraceRight"
  | braceOpen => "CurlyBraceLeft"
  | bracketClose => "SquareBrackRight"
  | bracketOpen => "SquareBrackLeft"
  | parenClose => "ParenRight"
  | parenOpen => "ParenLeft"
  | assign => "Assign"
  | equals => "DoubleEq"
  | colon => "Colon"
  | semicolon => "Semicolon"
  | times => "Asterisk"
  | plus => "Plus"
  | minus => "Minus"
  | slash => "Div"
  | integer => "IntegerLiteral"
  | kwVar => "KwVar"
  | kwConst => "KwConst"
  | kwFunc => "KwFunc"

def ofName? (s : String) : Option Kind := all.find? (·.name == s)

theorem ofName?_name (k : Kind) : ofName? k.name = some k := by cases k <;> decide

def spelling? : Kind → Option String
  | escapedQuote => some "\\\""
  | slashes => some "//"
  | quote => some "\""
  | braceClose => some "\x7d"
  | braceOpen => some "\x7b"
  | bracketClose => some "]"
  | bracketOpen => some "["
  | parenClose => some ")"
  | parenOpen => some "("
  | assign => some "="
  | equals => some "=="
  | colon => some ":"
  | semicolon => some ";"
  | times => some "*"
  | plus => some "+"
  | minus => some "-"
  | slash => some "/"
  | kwVar => some "var"
  | kwConst => some "const"
  | kwFunc => some "func"
  | _ => none

def isKeyword : Kind → Bool
  | kwVar | kwConst | kwFunc => true
  | _ => false

def isTrivia : Kind → Bool
  | blank | endOfLine | slashes | commentChar => true
  | _ => false

def describe : Kind → String
  | identifier => "name"
  | integer => "integer literal"
  | stringChar => "string character"
  | commentChar => "comment character"
  | blank => "whitespace"
  | endOfLine => "end of line"
  | endOfFile => "end of file"
  | k => "`" ++ k.spelling?.getD k.name ++ "`"

def sorted (ks : List Kind) : List Kind := ks.mergeSort fun a b => a.ctorIdx ≤ b.ctorIdx

end Kind

structure Token where
  kind : Kind
  content : String
  pos : Position
  span : Span
  file : String
  deriving DecidableEq, Repr, Inhabited

namespace Token

def isEnd (t : Token) : Bool := t.kind = .endOfFile

def describe (t : Token) : String :=
  match t.kind with
  | .endOfFile => "end of file"
  | .endOfLine => "end of line"
  | _ => "`" ++ t.content ++ "`"

end Token

end GlowSyntax
