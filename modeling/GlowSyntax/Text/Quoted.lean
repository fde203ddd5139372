import GlowSyntax.Unicode.Combining
import GlowSyntax.Unicode.Printable

namespace GlowSyntax.Text

structure Escaping where
  single : Bool
  double : Bool

def hexEscape (c : Char) : String :=
  "\\u\x7b" ++ String.ofList (Nat.toDigits 16 c.toNat) ++ "\x7d"

def Escaping.char (e : Escaping) (c : Char) : String :=
  match c with
  | '\x00' => "\\0"
  | '\t' => "\\t"
  | '\r' => "\\r"
  | '\n' => "\\n"
  | '\\' => "\\\\"
  | '"' => if e.double then "\\\"" else "\""
  | '\'' => if e.single then "\\'" else "'"
  | c => if Unicode.isCombining c || !Unicode.isPrintable c then hexEscape c else c.toString

def Escaping.text (e : Escaping) (s : String) : String :=
  String.join (s.toList.map e.char)

def shown (c : Char) : String := Escaping.char ⟨true, true⟩ c

def quoted (s : String) : String := "\"" ++ Escaping.text ⟨false, true⟩ s ++ "\""

def quotedChar (c : Char) : String := "'" ++ Escaping.char ⟨true, false⟩ c ++ "'"

end GlowSyntax.Text
