import GlowSyntax.Regex.Atom

namespace GlowSyntax.Regex.Reader

structure ClassPart where
  set : CharSet
  depth : Nat

namespace ClassPart

def flat (s : CharSet) : ClassPart := ⟨s, 0⟩

def union : List ClassPart → ClassPart
  | [] => flat .empty
  | [p] => p
  | ps => ⟨.unions (ps.map (·.set)), (ps.map (·.depth)).foldl max 0 + 1⟩

def bracketed (p : ClassPart) (f : Flags) (negated : Bool) : ClassPart :=
  let s := f.apply p.set
  ⟨if negated then s.compl else s, p.depth + 1⟩

end ClassPart

def member? : List Char → Option (Atom × List Char)
  | [] => none
  | '\\' :: cs => escape? cs
  | c :: cs => some (.char c, cs)

def range? (cs : List Char) : Option (CharSet × List Char) := do
  let (a, cs) ← member? cs
  let alone : Option (CharSet × List Char) :=
    match a with
    | .char c => some (.single c, cs)
    | .set s => some (s, cs)
    | .look _ => none
  match cs with
  | [] => none
  | '-' :: ']' :: _ | '-' :: '-' :: _ => alone
  | '-' :: cs =>
    match a, ← member? cs with
    | .char lo, (.char hi, rest) => if lo ≤ hi then some (.range lo hi, rest) else none
    | _, _ => none
  | _ => alone

def namedClass? (f : Flags) (cs : List Char) : Option (CharSet × List Char) :=
  let (negated, cs) := match cs with
    | '^' :: cs => (true, cs)
    | cs => (false, cs)
  match cs.span (· != ':') with
  | (letters, ':' :: ']' :: rest) =>
    (CharSet.named? (String.ofList letters)).map fun s =>
      (if negated then (f.apply s).compl else f.apply s, rest)
  | _ => none

inductive SetOp
  | both
  | without
  | either

def SetOp.apply : SetOp → CharSet → CharSet → CharSet
  | both, s, t => s.inter t
  | without, s, t => s.inter t.compl
  | either, s, t => (s.inter t.compl).union (t.inter s.compl)

structure ClassDraft where
  waiting : Option (ClassPart × SetOp)
  members : List ClassPart

namespace ClassDraft

def add (d : ClassDraft) (p : ClassPart) : ClassDraft := { d with members := d.members ++ [p] }

def value (f : Flags) (d : ClassDraft) : ClassPart :=
  let operand := ClassPart.union d.members
  match d.waiting with
  | none => operand
  | some (p, op) => ⟨op.apply (f.apply p.set) (f.apply operand.set), max p.depth operand.depth + 1⟩

def operate (f : Flags) (d : ClassDraft) (op : SetOp) : ClassDraft := ⟨some (d.value f, op), []⟩

end ClassDraft

def classStart (cs : List Char) : Bool × ClassDraft × List Char :=
  let (negated, cs) := match cs with
    | '^' :: cs => (true, cs)
    | cs => (false, cs)
  let (dashes, cs) := cs.span (· == '-')
  match dashes, cs with
  | [], ']' :: cs => (negated, ⟨none, [.flat (.single ']')]⟩, cs)
  | _, cs => (negated, ⟨none, dashes.map fun c => .flat (.single c)⟩, cs)

def class? (f : Flags) : Nat → Bool → ClassDraft → List Char → Option (ClassPart × List Char)
  | 0, _, _, _ => none
  | _ + 1, _, _, [] => none
  | _ + 1, negated, d, ']' :: cs => some ((d.value f).bracketed f negated, cs)
  | n + 1, negated, d, '[' :: cs =>
    let named := match cs with
      | ':' :: cs => namedClass? f cs
      | _ => none
    match named with
    | some (s, cs) => class? f n negated (d.add (.flat s)) cs
    | none =>
      let (inside, e, cs) := classStart cs
      match class? f n inside e cs with
      | some (p, cs) => class? f n negated (d.add p) cs
      | none => none
  | n + 1, negated, d, '&' :: '&' :: cs => class? f n negated (d.operate f .both) cs
  | n + 1, negated, d, '-' :: '-' :: cs => class? f n negated (d.operate f .without) cs
  | n + 1, negated, d, '~' :: '~' :: cs => class? f n negated (d.operate f .either) cs
  | n + 1, negated, d, cs =>
    match range? cs with
    | some (s, cs) => class? f n negated (d.add (.flat s)) cs
    | none => none

end GlowSyntax.Regex.Reader
