import GlowSyntax.Command.Basic

/-!
Reading arguments. Switches and options can stand before and behind the file; two dashes end them.
Switches can be written together behind one dash, the last of them may be an option with its value.
The verbose and quiet switches belong to the program and to each command; at one of these levels they
exclude each other.
-/

namespace GlowSyntax.Arguments

structure Name where
  long : String
  letter : Option Char

structure Level where
  topic : Topic
  switches : List Name
  options : List Name
  hasVersion : Bool

def common : List Name := [⟨"verbose", some 'v'⟩, ⟨"quiet", some 'q'⟩]

def programLevel : Level := ⟨.program, common, [], true⟩

def tokensLevel : Level := ⟨.tokens, ⟨"raw", none⟩ :: common, [], false⟩

def parseLevel : Level :=
  ⟨.parse, ⟨"allow-trailing", none⟩ :: ⟨"json", none⟩ :: common,
    [⟨"rule", some 'r'⟩, ⟨"max-recursion", none⟩], false⟩

def grammarLevel : Level := ⟨.grammar, common, [], false⟩

structure Seen where
  switches : List String
  values : List (String × String)
  positional : List String

def Seen.empty : Seen := ⟨[], [], []⟩

def Seen.has (s : Seen) (name : String) : Bool := s.switches.contains name

def count? (v : String) : Option Nat :=
  let digits := match v.toList with
    | '+' :: ds => ds
    | ds => ds
  if digits.isEmpty || !digits.all Char.isDigit then none
  else
    let n := digits.foldl (fun n d => 10 * n + (d.toNat - '0'.toNat)) 0
    if n < UInt64.size then some n else none

def Seen.switch (s : Seen) (name : String) : Except Request Seen :=
  if s.has name then .error .misuse else .ok { s with switches := name :: s.switches }

def Seen.value (s : Seen) (name v : String) : Except Request Seen :=
  if (s.values.lookup name).isSome || (name == "max-recursion" && (count? v).isNone) then .error .misuse
  else .ok { s with values := (name, v) :: s.values }

def isValue (a : String) : Bool := a == "-" || !a.startsWith "-"

def Seen.nextValue (s : Seen) (name : String) : List String → Except Request (Seen × Bool)
  | v :: _ => if isValue v then (s.value name v).map (·, true) else .error .misuse
  | [] => .error .misuse

def letters (lv : Level) (s : Seen) (next : List String) : List Char → Except Request (Seen × Bool)
  | [] => .ok (s, false)
  | c :: cs =>
    if c == 'h' then .error (.help lv.topic)
    else if c == 'V' && lv.hasVersion then .error .version
    else match lv.switches.find? (·.letter == some c), lv.options.find? (·.letter == some c) with
      | some n, _ =>
        match s.switch n.long with
        | .ok s => letters lv s next cs
        | .error r => .error r
      | none, some n =>
        match cs with
        | [] => s.nextValue n.long next
        | '=' :: v => (s.value n.long (String.ofList v)).map (·, false)
        | v => (s.value n.long (String.ofList v)).map (·, false)
      | none, none => .error .misuse

def longName (lv : Level) (s : Seen) (next : List String) (a : List Char) : Except Request (Seen × Bool) :=
  let (name, rest) := a.span (· != '=')
  let name := String.ofList name
  match rest with
  | [] =>
    if name == "help" then .error (.help lv.topic)
    else if name == "version" && lv.hasVersion then .error .version
    else if lv.switches.any (·.long == name) then (s.switch name).map (·, false)
    else if lv.options.any (·.long == name) then s.nextValue name next
    else .error .misuse
  | _ :: v =>
    if lv.options.any (·.long == name) then (s.value name (String.ofList v)).map (·, false)
    else .error .misuse

def read (lv : Level) (wanted : Nat) : Seen → List String → Except Request (Seen × List String)
  | s, [] => .ok (s, [])
  | s, a :: as =>
    if a == "--" then
      if s.positional.length + as.length ≤ wanted && lv.topic != .program then
        .ok ({ s with positional := s.positional ++ as }, [])
      else .error .misuse
    else if isValue a then
      if wanted ≤ s.positional.length then .error .misuse
      else if lv.topic == .program then .ok ({ s with positional := [a] }, as)
      else read lv wanted { s with positional := s.positional ++ [a] } as
    else
      let taken := match a.toList with
        | '-' :: '-' :: name => longName lv s as name
        | cs => letters lv s as (cs.drop 1)
      match taken with
      | .error r => .error r
      | .ok (s, false) => read lv wanted s as
      | .ok (s, true) =>
        match as with
        | [] => .ok (s, [])
        | _ :: as => read lv wanted s as

def Seen.check (s : Seen) : Except Request Unit :=
  if s.has "verbose" && s.has "quiet" then .error .misuse else .ok ()

def Seen.file (s : Seen) : Except Request String :=
  match s.positional with
  | [f] => .ok f
  | _ => .error .misuse

def command (before : Seen) (name : String) (args : List String) : Except Request Request := do
  let finish (s : Seen) (c : Command) : Except Request Request := do
    s.check
    before.check
    return .run c (s.has "verbose" || before.has "verbose") (s.has "quiet" || before.has "quiet")
  match name with
  | "tokens" =>
    let (s, _) ← read tokensLevel 1 .empty args
    finish s (.tokens (← s.file) (s.has "raw"))
  | "parse" =>
    let (s, _) ← read parseLevel 1 .empty args
    let limit := ((s.values.lookup "max-recursion").bind count?).getD MatchOptions.standard.maxRecursion
    finish s (.parse (← s.file) ((s.values.lookup "rule").getD Grammar.glowStart)
      ⟨limit, !s.has "allow-trailing"⟩ (s.has "json"))
  | "grammar" =>
    let (s, _) ← read grammarLevel 0 .empty args
    finish s .grammar
  | "help" =>
    match args with
    | [] => .error (.help .program)
    | ["tokens"] => .error (.help .tokens)
    | ["parse"] => .error (.help .parse)
    | ["grammar"] => .error (.help .grammar)
    | ["help"] => .error (.help .help)
    | _ => .error .misuse
  | _ => .error .misuse

end Arguments

def Request.ofArguments (args : List String) : Request :=
  let read : Except Request Request := do
    let (before, rest) ← Arguments.read Arguments.programLevel 1 .empty args
    match before.positional with
    | [name] => Arguments.command before name rest
    | _ => .error .misuse
  match read with
  | .ok r => r
  | .error r => r

end GlowSyntax
