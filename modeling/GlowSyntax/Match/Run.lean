import GlowSyntax.Grammar.Basic
import GlowSyntax.Match.Failure
import GlowSyntax.Scan.Cursor

namespace GlowSyntax

/-- What ends matching for good. That nothing matches is no error. -/
inductive MatchError
  | scan (e : ScanError)
  | grammar (e : GrammarError)
  | recursionLimit (rule : String) (limit : Nat)
  deriving DecidableEq, Repr

def recursionLimitMessage (rule : String) (limit : Nat) : String :=
  s!"recursion limit of {limit} reached while matching rule `" ++ rule ++ "` without consuming input"

def MatchError.message? : MatchError → Option String
  | scan e => e.message?
  | grammar e => some e.message
  | recursionLimit r n => some (recursionLimitMessage r n)

inductive Event
  | scan (s : ScanState)
  /-- A rule attempt was let in by the recursion limit. -/
  | entered (rule : String)
  | left (rule : String)
  | atEnd (rule : String)
  | attempt (rule : String) (pos : Position) (depth : Nat)
  | failure (f : Failure)
  | matched (rule : String) (a : Alternative)
  | failed (rule : String) (a : Alternative)
  | noMatch (rule : String) (deepest : Option Nat)
  deriving DecidableEq, Repr

namespace Event

def failure? : Event → Option Failure
  | failure f => some f
  | _ => none

def lines (sc : Scanner) : Event → List String
  | scan s => (sc.nextNotes s).map ScanNote.line
  | atEnd r => ["TRACE end of input, not attempting rule rule=" ++ Text.quoted r]
  | attempt r pos depth => [s!"TRACE attempting rule rule={Text.quoted r} pos={pos.text} depth={depth}"]
  | matched r a => ["DEBUG pattern matched rule=" ++ Text.quoted r ++ " pattern=" ++ a.text]
  | failed r a => ["DEBUG pattern failed rule=" ++ Text.quoted r ++ " pattern=" ++ a.text]
  | noMatch r deepest =>
    ["DEBUG no match rule=" ++ Text.quoted r ++ " deepest="
      ++ deepest.elim "None" fun n => s!"Some({n})"]
  | entered _ | left _ | failure _ => []

end Event

def failuresOf (log : List Event) : List Failure := log.filterMap Event.failure?

/-- A log put together from pieces, so that joining takes no copies. -/
inductive Log
  | empty
  | single (e : Event)
  | join (l m : Log)

namespace Log

def followedBy : Log → List Event → List Event
  | empty, es => es
  | single e, es => e :: es
  | join l m, es => l.followedBy (m.followedBy es)

def events (l : Log) : List Event := l.followedBy []

theorem followedBy_eq (l : Log) (es : List Event) : l.followedBy es = l.events ++ es := by
  induction l generalizing es with
  | empty => rfl
  | single e => rfl
  | join l m hl hm =>
    show l.followedBy (m.followedBy es) = l.followedBy (m.followedBy []) ++ es
    rw [hl, hl (m.followedBy []), hm es]
    exact (List.append_assoc ..).symm

@[simp] theorem events_empty : empty.events = [] := rfl

@[simp] theorem events_single (e : Event) : (single e).events = [e] := rfl

@[simp] theorem events_join (l m : Log) : (join l m).events = l.events ++ m.events :=
  followedBy_eq l _

end Log

structure Run (α : Type) where
  trail : Log
  result : Except MatchError α

namespace Run

variable {α β : Type}

def ok (a : α) : Run α := ⟨.empty, .ok a⟩

def fail (e : MatchError) : Run α := ⟨.empty, .error e⟩

def note (e : Event) : Run Unit := ⟨.single e, .ok ()⟩

def bind (x : Run α) (f : α → Run β) : Run β :=
  match x.result with
  | .ok a =>
    let y := f a
    ⟨.join x.trail y.trail, y.result⟩
  | .error e => ⟨x.trail, .error e⟩

instance : Monad Run where
  pure := ok
  bind := bind

def log (x : Run α) : List Event := x.trail.events

@[simp] theorem log_ok (a : α) : (ok a).log = [] := rfl

@[simp] theorem log_fail (e : MatchError) : (fail e : Run α).log = [] := rfl

@[simp] theorem log_note (e : Event) : (note e).log = [e] := rfl

theorem log_bind_ok {x : Run α} {a : α} (h : x.result = .ok a) (f : α → Run β) :
    (x.bind f).log = x.log ++ (f a).log := by
  simp only [bind, h, log, Log.events_join]

theorem log_bind_error {x : Run α} {e : MatchError} (h : x.result = .error e) (f : α → Run β) :
    (x.bind f).log = x.log := by
  simp only [bind, h, log]

theorem result_bind_ok {x : Run α} {a : α} (h : x.result = .ok a) (f : α → Run β) :
    (x.bind f).result = (f a).result := by
  simp only [bind, h]

theorem result_bind_error {x : Run α} {e : MatchError} (h : x.result = .error e) (f : α → Run β) :
    (x.bind f).result = .error e := by
  simp only [bind, h]

def record (x : Run α) (r : FailureRecord) : FailureRecord := r.addAll (failuresOf x.log)

end Run

end GlowSyntax
