import GlowSyntax.Match.Attempt
import GlowSyntax.Scan.Cursor

/-!
Probing: the matcher on a cursor. Reading moves the cursor, and the match of a nested rule is adopted by moving
it to where that match stops. A look ahead and an alternative put the cursor back, whatever comes of them.
-/

namespace GlowSyntax

/-- What is done with a cursor: a run, and the cursor as the run leaves it, also where it ends in an error. -/
def Probe (α : Type) : Type := Cursor → Run α × Cursor

namespace Probe

variable {α β : Type}

def ofRun (x : Run α) : Probe α := fun c => (x, c)

def bind (x : Probe α) (f : α → Probe β) : Probe β := fun c =>
  let (run, c) := x c
  match run.result with
  | .ok a =>
    let (more, c) := f a c
    (⟨.join run.trail more.trail, more.result⟩, c)
  | .error e => (⟨run.trail, .error e⟩, c)

instance : Monad Probe where
  pure a := ofRun (Run.ok a)
  bind := bind

def fail (e : MatchError) : Probe α := ofRun (.fail e)

def note (e : Event) : Probe Unit := ofRun (.note e)

def state : Probe ScanState := fun c => (.ok c.state, c)

def restore (s : ScanState) : Probe Unit := fun c => (.ok (), c.restore s)

def next : Probe Token := fun c =>
  let (t, c') := c.next
  (⟨.single (.scan c.state), t.mapError .scan⟩, c')

def rollback (x : Probe α) : Probe (α × ScanState) := fun c =>
  let (run, c') := x c
  (⟨run.trail, run.result.map (·, c'.state)⟩, c'.restore c.state)

def peek : Probe Token := Prod.fst <$> rollback next

end Probe

abbrev NestedProbe := String → Nat → Option Frame → Probe (Option Tree)

def probeItems (call : NestedProbe) (rule : String) (frame : Frame) :
    List Item → Nat → Probe (Option (Forest × Nat))
  | [], depth => return some (.nil, depth)
  | ⟨.token k, label⟩ :: items, depth => do
    let t ← Probe.next
    if t.kind = k then
      let rest ← probeItems call rule frame items (depth + 1)
      return rest.map fun (parts, depth) => (.token label t parts, depth)
    else
      Probe.note (.failure ⟨rule, t, k, depth⟩)
      return none
  | ⟨.rule name, label⟩ :: items, depth => do
    match ← call name depth (some frame) with
    | none => return none
    | some sub =>
      Probe.restore sub.stop
      let rest ← probeItems call rule frame items sub.depth
      return rest.map fun (parts, depth) => (.tree label sub.node sub.parts parts, depth)

def probeAlternative (call : NestedProbe) (r : Rule) (frame : Frame) (depth i : Nat) (a : Alternative) :
    Probe (Option Tree) := do
  match ← Probe.rollback (probeItems call r.name frame a depth) with
  | (some (parts, depth), stop) =>
    Probe.note (.matched r.name a)
    return some ⟨⟨r, i, stop, depth⟩, parts⟩
  | (none, _) =>
    Probe.note (.failed r.name a)
    return none

def probeAlternatives (call : NestedProbe) (r : Rule) (frame : Frame) (depth : Nat) :
    Nat → List Alternative → Probe (Option Tree)
  | _, [] => return none
  | i, a :: as => do
    match ← probeAlternative call r frame depth i a with
    | some t => return some t
    | none => probeAlternatives call r frame depth (i + 1) as

section

variable (g : Grammar) (limit : Nat)

def probeNested : Nat → NestedProbe
  | 0 => fun name _ _ => Probe.fail (.recursionLimit name limit)
  | n + 1 => fun name depth parent => do
    let s ← Probe.state
    let frame := Frame.enter parent s.offset
    if limit ≤ frame.stalled then
      Probe.fail (.recursionLimit name limit)
    else
      Probe.note (.entered name)
      match g.find? name with
      | none => Probe.fail (.grammar (.unknownRule name))
      | some r =>
        let t ← Probe.peek
        if t.isEnd then
          Probe.note (.atEnd name)
          Probe.note (.left name)
          return none
        else
          Probe.note (.attempt name s.pos depth)
          let out ← probeAlternatives (probeNested n) r frame depth 0 r.alternatives
          Probe.note (.left name)
          return out

end

namespace Cursor

def attemptRule (c : Cursor) (g : Grammar) (limit : Nat) (name : String) (depth : Nat) :
    Run (Option Tree) × Cursor :=
  probeNested g limit (nesting limit c.scanner) name depth none c

def attemptAlternative (c : Cursor) (g : Grammar) (limit : Nat) (r : Rule) (i : Nat) (a : Alternative)
    (depth : Nat) : Run (Option Tree) × Cursor :=
  probeAlternative (probeNested g limit (nesting limit c.scanner)) r (.enter none c.state.offset) depth i a c

end Cursor

end GlowSyntax
