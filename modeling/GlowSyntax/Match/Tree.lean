import GlowSyntax.Grammar.Basic
import GlowSyntax.Scan.State
import GlowSyntax.Token

/-!
Match trees: which alternative of which rule matched, and the tokens and trees that its items matched.
Labelled parts are captures, looked up by label; of several parts with one label the last counts.
-/

namespace GlowSyntax

structure Node where
  rule : Rule
  alternative : Nat
  stop : ScanState
  /-- The number of tokens consumed, added to the depth at which the match began. -/
  depth : Nat
  deriving DecidableEq, Repr

inductive Forest
  | nil
  | token (label : Option String) (t : Token) (rest : Forest)
  | tree (label : Option String) (node : Node) (parts : Forest) (rest : Forest)
  deriving DecidableEq, Repr

structure Tree where
  node : Node
  parts : Forest
  deriving DecidableEq, Repr

inductive Capture
  | token (t : Token)
  | tree (t : Tree)
  deriving DecidableEq, Repr

def insertMissing {β : Type} (label : String) (b : β) : List (String × β) → List (String × β)
  | [] => [(label, b)]
  | (l, c) :: es =>
    if label < l then (label, b) :: (l, c) :: es
    else if label = l then (l, c) :: es
    else (l, c) :: insertMissing label b es

def cover : Option Span → Option Span → Option Span
  | none, b => b
  | a, none => a
  | some a, some b => some (a.merge b)

namespace Forest

def tokens : Forest → List Token
  | nil => []
  | token _ t rest => t :: rest.tokens
  | tree _ _ parts rest => parts.tokens ++ rest.tokens

def span : Forest → Option Span
  | nil => none
  | token _ t rest => cover (some t.span) rest.span
  | tree _ _ parts rest => cover parts.span rest.span

/-- The captures in label order, each as what the given functions make of it; the value of a tree is
made from its node, its parts and the values of its own captures. -/
def collect {β : Type} (onToken : Token → β) (onTree : Node → Forest → List (String × β) → β) :
    Forest → List (String × β)
  | nil => []
  | token none _ rest => rest.collect onToken onTree
  | token (some l) t rest => insertMissing l (onToken t) (rest.collect onToken onTree)
  | tree none _ _ rest => rest.collect onToken onTree
  | tree (some l) node parts rest =>
    insertMissing l (onTree node parts (parts.collect onToken onTree)) (rest.collect onToken onTree)

def captures (f : Forest) : List (String × Capture) :=
  f.collect .token fun node parts _ => .tree ⟨node, parts⟩

def capturedTokens (f : Forest) : List Token :=
  (f.collect (β := List Token) ([·]) fun _ _ entries => entries.flatMap (·.2)).flatMap (·.2)

end Forest

inductive CaptureError
  | missing (rule label : String)
  | notToken (rule label : String)
  | notTree (rule label : String)
  deriving DecidableEq, Repr

def CaptureError.message : CaptureError → String
  | missing r l => "rule `" ++ r ++ "` has no captured component `" ++ l ++ "`"
  | notToken r l => "component `" ++ l ++ "` of rule `" ++ r ++ "` is not a token"
  | notTree r l => "component `" ++ l ++ "` of rule `" ++ r ++ "` is not a rule match"

namespace Tree

def rule (t : Tree) : Rule := t.node.rule

def stop (t : Tree) : ScanState := t.node.stop

def depth (t : Tree) : Nat := t.node.depth

def matched (t : Tree) : Alternative := (t.rule.alternatives[t.node.alternative]?).getD []

def span (t : Tree) : Option Span := t.parts.span

def captures (t : Tree) : List (String × Capture) := t.parts.captures

def labels (t : Tree) : List String := t.captures.map (·.1)

def capture (t : Tree) (label : String) : Except CaptureError Capture :=
  match t.captures.lookup label with
  | some c => .ok c
  | none => .error (.missing t.rule.name label)

def hasCapture (t : Tree) (label : String) : Bool := (t.captures.lookup label).isSome

def token (t : Tree) (label : String) : Except CaptureError Token :=
  match t.capture label with
  | .ok (.token x) => .ok x
  | .ok (.tree _) => .error (.notToken t.rule.name label)
  | .error e => .error e

def subtree (t : Tree) (label : String) : Except CaptureError Tree :=
  match t.capture label with
  | .ok (.tree x) => .ok x
  | .ok (.token _) => .error (.notTree t.rule.name label)
  | .error e => .error e

def tokens (t : Tree) : List Token :=
  t.parts.capturedTokens.mergeSort fun a b => a.span.start ≤ b.span.start

end Tree

end GlowSyntax
