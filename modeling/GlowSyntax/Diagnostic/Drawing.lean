import GlowSyntax.Diagnostic.Basic
import GlowSyntax.Unicode.Classes
import GlowSyntax.Unicode.Width

/-!
Diagnostics drawn as text: a headline and, if the label has a place in the source, the line of that
place with the label below it. Spans are taken as counts of characters.
-/

namespace GlowSyntax.Drawing

def isLineEnd (c : Char) : Bool :=
  ['\n', '\r', '\x0b', '\x0c', '\u0085', '\u2028', '\u2029'].contains c

def lines : List Char → List (List Char)
  | [] => []
  | '\r' :: '\n' :: cs => ['\r', '\n'] :: lines cs
  | c :: cs =>
    if isLineEnd c then [c] :: lines cs
    else match lines cs with
      | [] => [[c]]
      | l :: ls => (c :: l) :: ls

structure Line where
  number : Nat
  start : Nat
  chars : List Char

def numberedFrom : Nat → Nat → List (List Char) → List Line
  | _, _, [] => []
  | n, o, l :: ls => ⟨n, o, l⟩ :: numberedFrom (n + 1) (o + l.length) ls

def numbered (text : List Char) : List Line := numberedFrom 1 0 (lines text)

def lineAt? (text : List Char) (offset : Nat) : Option Line :=
  if text.length < offset then none
  else ((numbered text).filter (·.start ≤ offset)).getLast?

def width (c : Char) (column : Nat) : Nat :=
  if c = '\t' then 4 - column % 4 else if Unicode.isSpace c then 1 else Unicode.width c

def shownChar (c : Char) (column : Nat) : String :=
  if Unicode.isSpace c then "".pushn ' ' (width c column) else c.toString

def Line.visible (l : Line) : List Char := (l.chars.reverse.dropWhile Unicode.isSpace).reverse

def Line.shown (l : Line) : String :=
  String.join ((l.visible.zipIdx).map fun (c, k) => shownChar c k)

def Line.widths (l : Line) (n : Nat) : List Nat :=
  let shown := l.visible.zipIdx.map fun (c, k) => width c k
  (shown ++ List.replicate (n - shown.length) 1).take n

def repeated (c : Char) (n : Nat) : String := "".pushn c n

def headed (first other : Char) (n : Nat) : String :=
  if n = 0 then "" else (repeated first 1).pushn other (n - 1)

def underline (l : Line) (start stop hook columns : Nat) : String :=
  String.join ((l.widths columns).zipIdx.map fun (w, k) =>
    let inside := start ≤ l.start + k && l.start + k < stop
    let other := if inside then '─' else ' '
    headed (if k ≠ hook then other else if inside then '┬' else '│') other w)

def leader (l : Line) (hook columns : Nat) (message : String) : String :=
  String.join ((l.widths columns).zipIdx.map fun (w, k) =>
    let other := if k < hook then ' ' else '─'
    headed (if k = hook then '╰' else other) other w) ++ " " ++ message

def headline (d : Diagnostic) : String :=
  let code := d.code.elim "" fun c => "[" ++ c.text ++ "] "
  let severity := match d.severity with
    | .error => "Error"
    | .warning => "Warning"
    | .note => "Advice"
  code ++ severity ++ ": " ++ d.message ++ "\n"

def labelled (margin : String) (numberWidth : Nat) (l : Line) (label : Label) : String :=
  let start := label.span.start.toNat
  let stop := label.span.stop.toNat
  if l.start ≤ start ∧ stop ≤ l.start + l.chars.length then
    let number := toString l.number
    let hook := max ((start + stop) / 2) start - l.start
    let columns := (stop - l.start) + 2
    " " ++ repeated ' ' (numberWidth - number.length) ++ number ++ " │ " ++ l.shown ++ "\n"
      ++ margin ++ underline l start stop hook columns ++ "\n"
      ++ margin ++ leader l hook columns label.message ++ "\n"
  else margin ++ "\n"

def body (text : List Char) (file : String) (d : Diagnostic) (label : Label) (l : Line) : String :=
  let numberWidth := (toString l.number).length
  let indent := repeated ' ' (numberWidth + 2)
  let margin := indent ++ "│ "
  let offset := d.span.start.toNat
  let place := match lineAt? text offset with
    | some m => s!"{m.number}:{offset - m.start + 1}"
    | none => "?:?"
  indent ++ "╭─[" ++ file ++ ":" ++ place ++ "]\n" ++ indent ++ "│\n"
    ++ labelled margin numberWidth l label
    ++ d.help.elim "" (fun h => margin ++ "\n" ++ margin ++ "Help: " ++ h ++ "\n")
    ++ d.notes.getLast?.elim "" (fun n => margin ++ "\n" ++ margin ++ "Note: " ++ n ++ "\n")
    ++ repeated '─' (numberWidth + 2) ++ "╯\n"

def labelLine? (text : List Char) (label : Label) : Option Line :=
  let start := label.span.start.toNat
  let stop := label.span.stop.toNat
  if start < stop ∧ (lineAt? text (stop - 1)).isNone then none else lineAt? text start

/-- A diagnostic over a source text; it has at most one label. A label that ends before it starts cannot
be drawn. -/
def render? (text : List Char) (file : String) (d : Diagnostic) : Option String :=
  if d.labels.any fun l => l.span.stop < l.span.start then none
  else some (headline d ++ ((d.labels.head?).bind fun label =>
    (labelLine? text label).map (body text file d label)).getD "")

end GlowSyntax.Drawing
