import GlowSyntax.Regex.Class
import GlowSyntax.Regex.Size

/-!
Reading regular expressions. Known are literals, escapes, classes with nesting and set operations, the
dot, groups, alternatives, anchors, word edges, greedy and lazy repetitions, and the flags `i` (ignore
case) and `s` (the dot takes line breaks too). A text that is no such expression reads as nothing, and
so does one that is nested too deeply, names two groups alike or whose expression is too large.
-/

namespace GlowSyntax.Regex

namespace Reader

def count? (cs : List Char) : Option (Nat × List Char) :=
  let (ds, cs) := (cs.dropWhile Unicode.isSpace).span Char.isDigit
  match (String.ofList ds).toNat? with
  | some n => if n < UInt32.size then some (n, cs.dropWhile Unicode.isSpace) else none
  | none => none

def bounds? (cs : List Char) : Option (Nat × Option Nat × List Char) := do
  let (lo, cs) ← count? cs
  match cs with
  | '\x7d' :: cs => some (lo, some lo, cs)
  | ',' :: '\x7d' :: cs => some (lo, none, cs)
  | ',' :: cs =>
    match ← count? cs with
    | (hi, '\x7d' :: cs) => if lo ≤ hi then some (lo, some hi, cs) else none
    | _ => none
  | _ => none

def greed : List Char → Bool × List Char
  | '?' :: cs => (false, cs)
  | cs => (true, cs)

inductive Opening
  | group (f : Flags) (captures : Bool) (name : Option (List Char))
  | directive (f : Flags)

def flags? (f : Flags) (value : Bool) (seen : List Char) : List Char → Option (Opening × List Char)
  | [] => none
  | ':' :: cs => if seen.head? = some '-' then none else some (.group f false none, cs)
  | ')' :: cs => if seen.head? = some '-' || seen.isEmpty then none else some (.directive f, cs)
  | c :: cs =>
    if seen.contains c then none
    else if c = '-' then flags? f false (c :: seen) cs
    else match f.switch? c value with
      | some f => flags? f value (c :: seen) cs
      | none => none

def groupName? (cs : List Char) : Option (List Char × List Char) :=
  match cs.span (· != '>') with
  | (c :: name, _ :: rest) =>
    if (c.isAlpha || c == '_') && name.all (fun d => d.isAlphanum || "_.[]".toList.contains d) then
      some (c :: name, rest)
    else none
  | _ => none

def opening? (f : Flags) : List Char → Option (Opening × List Char)
  | '?' :: 'P' :: '<' :: cs => (groupName? cs).map fun (name, cs) => (.group f true name, cs)
  | '?' :: '<' :: cs => (groupName? cs).map fun (name, cs) => (.group f true name, cs)
  | '?' :: cs => flags? f true [] cs
  | cs => some (.group f true none, cs)

structure Piece where
  expr : Regex
  depth : Nat
  names : List (List Char)

namespace Piece

def flat (r : Regex) : Piece := ⟨r, 0, []⟩

def combine (f : List Regex → Regex) : List Piece → Piece
  | [p] => p
  | ps =>
    ⟨f (ps.map (·.expr)), if ps.isEmpty then 0 else (ps.map (·.depth)).foldl max 0 + 1, ps.flatMap (·.names)⟩

def within (p : Piece) (f : Regex → Regex) : Piece := ⟨f p.expr, p.depth + 1, p.names⟩

def named (p : Piece) (name : Option (List Char)) : Piece := { p with names := name.toList ++ p.names }

end Piece

/-- What has been read of a group: its finished branches, and the parts of the branch that is being read,
in both the last one first. Nothing stands for a directive. -/
structure Draft where
  flags : Flags
  branches : List Piece
  parts : List (Option Piece)

namespace Draft

def start (f : Flags) : Draft := ⟨f, [], []⟩

def branch (d : Draft) : Piece :=
  .combine concat (d.parts.reverse.map fun p => p.getD (.flat .empty))

def add (d : Draft) (p : Piece) : Draft := { d with parts := some p :: d.parts }

def value (d : Draft) : Piece := .combine alternation (d.branch :: d.branches).reverse

def nextBranch (d : Draft) : Draft := ⟨d.flags, d.branch :: d.branches, []⟩

def direct (d : Draft) (f : Flags) : Draft := ⟨f, d.branches, none :: d.parts⟩

def repeated? (d : Draft) (least : Nat) (most : Option Nat) (greedy : Bool) : Option Draft :=
  match d.parts with
  | some p :: ps => some { d with parts := some (p.within (·.repeated least most greedy)) :: ps }
  | _ => none

def addAtom (d : Draft) (a : Atom) : Draft := d.add (.flat (a.regex d.flags))

end Draft

def body? : Nat → Draft → List Char → Option (Piece × List Char)
  | 0, _, _ => none
  | _ + 1, d, [] => some (d.value, [])
  | n + 1, d, c :: cs =>
    match c with
    | ')' => some (d.value, c :: cs)
    | '|' => body? n d.nextBranch cs
    | '(' =>
      match opening? d.flags cs with
      | none => none
      | some (.directive f, cs) => body? n (d.direct f) cs
      | some (.group f captures name, cs) =>
        match body? n (.start f) cs with
        | some (p, ')' :: cs) => body? n (d.add ((p.within (if captures then .group else id)).named name)) cs
        | _ => none
    | '[' =>
      let (negated, e, cs) := classStart cs
      match class? d.flags n negated e cs with
      | some (p, cs) => body? n (d.add ⟨ofSet p.set, p.depth, []⟩) cs
      | none => none
    | '*' =>
      let (greedy, cs) := greed cs
      match d.repeated? 0 none greedy with
      | some d => body? n d cs
      | none => none
    | '+' =>
      let (greedy, cs) := greed cs
      match d.repeated? 1 none greedy with
      | some d => body? n d cs
      | none => none
    | '?' =>
      let (greedy, cs) := greed cs
      match d.repeated? 0 (some 1) greedy with
      | some d => body? n d cs
      | none => none
    | '\x7b' =>
      match bounds? cs with
      | none => none
      | some (least, most, cs) =>
        let (greedy, cs) := greed cs
        match d.repeated? least most greedy with
        | some d => body? n d cs
        | none => none
    | '.' => body? n (d.addAtom (.set (if d.flags.dotAll then .full else .noLineBreak))) cs
    | '^' => body? n (d.addAtom (.look .atStart)) cs
    | '$' => body? n (d.addAtom (.look .atEnd)) cs
    | '\\' =>
      match escape? cs with
      | some (a, cs) => body? n (d.addAtom a) cs
      | none => none
    | c => body? n (d.addAtom (.char c)) cs

def depthLimit : Nat := 250

end Reader

def ofString? (text : String) : Option Regex :=
  match Reader.body? (text.length + 1) (.start .none) text.toList with
  | some (p, []) =>
    if p.depth ≤ Reader.depthLimit && p.names.Nodup && p.expr.isSmall then some p.expr else none
  | _ => none

def anchored (text : String) : String := "^(?:" ++ text ++ ")"

end GlowSyntax.Regex
