import GlowSyntax.Match.Tree
import GlowSyntax.Text.Quoted

namespace GlowSyntax

def padded (width : Nat) (s : String) : String := s.pushn ' ' (width - s.length)

def Token.line (t : Token) : String :=
  padded 8 t.pos.text ++ " " ++ padded 16 t.kind.name ++ " " ++ Text.quoted t.content

def outlineEntries (level : Nat) (entries : List (String × (Nat → String))) : String :=
  String.join (entries.map fun e => "".pushn ' ' (2 * level) ++ e.1 ++ ": " ++ e.2 level)

def Tree.outline (t : Tree) : String :=
  t.rule.name ++ "\n" ++ outlineEntries 1 (t.parts.collect
    (fun x _ => x.kind.name ++ " " ++ Text.quoted x.content ++ "\n")
    (fun node _ entries level => node.rule.name ++ "\n" ++ outlineEntries (level + 1) entries))

inductive Json
  | null
  | number (n : Nat)
  | string (s : String)
  | array (items : List Json)
  | object (members : List (String × Json))
  deriving Repr

namespace Json

def escapeChar (c : Char) : String :=
  match c with
  | '"' => "\\\""
  | '\\' => "\\\\"
  | '\n' => "\\n"
  | '\r' => "\\r"
  | '\t' => "\\t"
  | '\x08' => "\\b"
  | '\x0c' => "\\f"
  | c =>
    if c.toNat < 32 then
      let digits := String.ofList (Nat.toDigits 16 c.toNat)
      "\\u" ++ "".pushn '0' (4 - digits.length) ++ digits
    else c.toString

def escaped (s : String) : String := "\"" ++ String.join (s.toList.map escapeChar) ++ "\""

mutual

def compact : Json → String
  | null => "null"
  | number n => toString n
  | string s => escaped s
  | array items => "[" ++ ",".intercalate (compactItems items) ++ "]"
  | object members => "\x7b" ++ ",".intercalate (compactMembers members) ++ "\x7d"

def compactItems : List Json → List String
  | [] => []
  | j :: js => j.compact :: compactItems js

def compactMembers : List (String × Json) → List String
  | [] => []
  | (k, j) :: ms => (escaped k ++ ":" ++ j.compact) :: compactMembers ms

end

def newline (level : Nat) : String := "\n" ++ "".pushn ' ' (2 * level)

mutual

def pretty : Json → Nat → String
  | null, _ => "null"
  | number n, _ => toString n
  | string s, _ => escaped s
  | array [], _ => "[]"
  | array (j :: js), level => "[" ++ ",".intercalate (prettyItems (j :: js) (level + 1)) ++ newline level ++ "]"
  | object [], _ => "\x7b\x7d"
  | object (m :: ms), level =>
    "\x7b" ++ ",".intercalate (prettyMembers (m :: ms) (level + 1)) ++ newline level ++ "\x7d"

def prettyItems : List Json → Nat → List String
  | [], _ => []
  | j :: js, level => (newline level ++ j.pretty level) :: prettyItems js level

def prettyMembers : List (String × Json) → Nat → List String
  | [], _ => []
  | (k, j) :: ms, level => (newline level ++ escaped k ++ ": " ++ j.pretty level) :: prettyMembers ms level

end

end Json

def Span.json (a : Span) : Json := .array [.number a.start.toNat, .number a.stop.toNat]

def Token.json (t : Token) : Json := .object [
  ("column", .number t.pos.column.toNat),
  ("content", .string t.content),
  ("kind", .string t.kind.name),
  ("line", .number t.pos.line.toNat)]

def Node.json (node : Node) (span : Option Span) (captures : List (String × Json)) : Json := .object [
  ("alternative", .number node.alternative),
  ("captures", .object captures),
  ("rule", .string node.rule.name),
  ("span", span.elim .null Span.json)]

def Tree.json (t : Tree) : Json :=
  t.node.json t.span (t.parts.collect Token.json fun node parts entries => node.json parts.span entries)

end GlowSyntax
