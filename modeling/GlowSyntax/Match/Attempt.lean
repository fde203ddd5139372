import GlowSyntax.Match.Run
import GlowSyntax.Match.Tree

/-!
Matching by ordered choice: the alternatives of a rule are tried in order, their items from left to
right, and the first alternative that matches as a whole is taken. No rule matches at the end of the
text, not even by an empty alternative. Rule attempts nested at one offset are limited in number.
-/

namespace GlowSyntax

/-- A rule attempt in progress: where it began, and how many attempts around it began there too. -/
structure Frame where
  offset : Nat
  stalled : Nat
  deriving DecidableEq, Repr

def Frame.enter (parent : Option Frame) (offset : Nat) : Frame :=
  match parent with
  | some f => ⟨offset, if f.offset = offset then f.stalled + 1 else 0⟩
  | none => ⟨offset, 0⟩

@[simp] theorem Frame.enter_offset (parent : Option Frame) (offset : Nat) :
    (enter parent offset).offset = offset := by
  cases parent <;> rfl

abbrev Attempt := String → ScanState → Nat → Option Frame → Run (Option Tree)

def scanToken (sc : Scanner) (s : ScanState) : Run (Token × ScanState) where
  trail := .single (.scan s)
  result := match sc.next s with
    | .ok r => .ok r
    | .error e => .error (.scan e)

theorem scanToken_eq_ok {sc : Scanner} {s : ScanState} {out : Token × ScanState}
    (h : (scanToken sc s).result = .ok out) : sc.next s = .ok out := by
  simp only [scanToken] at h
  split at h
  · next r hn =>
    cases h
    exact hn
  · cases h

def matchItems (sc : Scanner) (call : Attempt) (rule : String) (frame : Frame) :
    List Item → ScanState → Nat → Run (Option (Forest × ScanState × Nat))
  | [], s, depth => return some (.nil, s, depth)
  | ⟨.token k, label⟩ :: items, s, depth => do
    let (t, s') ← scanToken sc s
    if t.kind = k then
      let rest ← matchItems sc call rule frame items s' (depth + 1)
      return rest.map fun (parts, stop) => (.token label t parts, stop)
    else
      Run.note (.failure ⟨rule, t, k, depth⟩)
      return none
  | ⟨.rule name, label⟩ :: items, s, depth => do
    match ← call name s depth (some frame) with
    | none => return none
    | some sub =>
      let rest ← matchItems sc call rule frame items sub.stop sub.depth
      return rest.map fun (parts, stop) => (.tree label sub.node sub.parts parts, stop)

def matchAlternative (sc : Scanner) (call : Attempt) (r : Rule) (frame : Frame) (s : ScanState)
    (depth i : Nat) (a : Alternative) : Run (Option Tree) := do
  match ← matchItems sc call r.name frame a s depth with
  | some (parts, stop, depth) =>
    Run.note (.matched r.name a)
    return some ⟨⟨r, i, stop, depth⟩, parts⟩
  | none =>
    Run.note (.failed r.name a)
    return none

def matchAlternatives (sc : Scanner) (call : Attempt) (r : Rule) (frame : Frame) (s : ScanState)
    (depth : Nat) : Nat → List Alternative → Run (Option Tree)
  | _, [] => return none
  | i, a :: as => do
    match ← matchAlternative sc call r frame s depth i a with
    | some t => return some t
    | none => matchAlternatives sc call r frame s depth (i + 1) as

section

variable (g : Grammar) (limit : Nat) (sc : Scanner)

def matchRule (call : Attempt) : Attempt := fun name s depth parent => do
  let frame := Frame.enter parent s.offset
  if limit ≤ frame.stalled then
    Run.fail (.recursionLimit name limit)
  else
    Run.note (.entered name)
    match g.find? name with
    | none => Run.fail (.grammar (.unknownRule name))
    | some r =>
      let (t, _) ← scanToken sc s
      if t.isEnd then
        Run.note (.atEnd name)
        Run.note (.left name)
        return none
      else
        Run.note (.attempt name s.pos depth)
        let out ← matchAlternatives sc call r frame s depth 0 r.alternatives
        Run.note (.left name)
        return out

def matchNested : Nat → Attempt
  | 0 => fun name _ _ _ => Run.fail (.recursionLimit name limit)
  | n + 1 => matchRule g limit sc (matchNested n)

/-- As many attempts as can be nested: at each offset no more than the limit, and the one that is
refused. -/
def nesting : Nat := limit * (Text.size sc.source.text + 1) + 1

def attemptRule (name : String) (s : ScanState) (depth : Nat) : Run (Option Tree) :=
  matchNested g limit sc (nesting limit sc) name s depth none

def attemptAlternative (r : Rule) (i : Nat) (a : Alternative) (s : ScanState) (depth : Nat) :
    Run (Option Tree) :=
  matchAlternative sc (matchNested g limit sc (nesting limit sc)) r (.enter none s.offset) s depth i a

end

end GlowSyntax
