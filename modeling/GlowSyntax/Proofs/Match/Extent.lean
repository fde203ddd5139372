import GlowSyntax.Proofs.Grammar.Derivation
import GlowSyntax.Proofs.Match.Ensures
import GlowSyntax.Proofs.Scan.Yield

namespace GlowSyntax

inductive Forest.Fits (g : Grammar) : List Item → Forest → Prop
  | nil : Fits g [] .nil
  | token {k label t items rest} : t.kind = k → Fits g items rest →
      Fits g (⟨.token k, label⟩ :: items) (.token label t rest)
  | tree {name label node a parts items rest} : g.find? name = some node.rule →
      node.rule.alternatives[node.alternative]? = some a → Fits g a parts → Fits g items rest →
      Fits g (⟨.rule name, label⟩ :: items) (.tree label node parts rest)

lemma Forest.Fits.derives {g : Grammar} {items : List Item} {f : Forest} (h : Fits g items f) :
    Derives g items (f.tokens.map Token.kind) := by
  induction h with
  | nil => exact .nil
  | token hk _ ih => exact hk ▸ .token ih
  | tree hf ha _ _ ihp ih =>
    rw [tokens, List.map_append]
    exact .rule hf (List.mem_of_getElem? ha) ihp ih

def Tree.forest (t : Tree) : Forest := .tree none t.node t.parts .nil

structure Advance (sc : Scanner) (s : ScanState) (depth : Nat) (ts : List Token) (s' : ScanState)
    (depth' : Nat) : Prop where
  yields : sc.Yields s ts s'
  depth_eq : depth' = depth + ts.length

def Failure.Met (sc : Scanner) (s : ScanState) (depth : Nat) (f : Failure) : Prop :=
  ∃ ts s', sc.Yields s (ts ++ [f.found]) s' ∧ f.depth = depth + ts.length

def MatchError.Raised (g : Grammar) (limit : Nat) (sc : Scanner) (s : ScanState) : MatchError → Prop
  | .scan e => ∃ ts m, sc.Yields s ts m ∧ sc.next m = .error e
  | .grammar e => ∃ name, e = .unknownRule name ∧ g.find? name = none
  | .recursionLimit _ n => n = limit

variable {sc : Scanner} {s m s' : ScanState} {depth d d' : Nat} {ts us : List Token}

namespace Advance

lemma refl : Advance sc s depth [] s depth := ⟨.nil, rfl⟩

lemma trans (h : Advance sc s depth ts m d) (h' : Advance sc m d us s' d') :
    Advance sc s depth (ts ++ us) s' d' := by
  refine ⟨h.yields.append h'.yields, ?_⟩
  rw [h'.depth_eq, h.depth_eq, List.length_append, Nat.add_assoc]

lemma single {t : Token} (h : sc.next s = .ok (t, s')) : Advance sc s depth [t] s' (depth + 1) :=
  ⟨.single h, rfl⟩

end Advance

lemma Failure.Met.after {f : Failure} (h : f.Met sc m d) (ha : Advance sc s depth ts m d) :
    f.Met sc s depth := by
  obtain ⟨us, s', hy, hd⟩ := h
  refine ⟨ts ++ us, s', ?_, ?_⟩
  · rw [List.append_assoc]
    exact ha.yields.append hy
  · rw [hd, ha.depth_eq, List.length_append, Nat.add_assoc]

lemma MatchError.Raised.after {g : Grammar} {limit : Nat} {e : MatchError} (h : e.Raised g limit sc m)
    (hy : sc.Yields s ts m) : e.Raised g limit sc s := by
  cases e with
  | scan err =>
    obtain ⟨us, u, hu, hn⟩ := h
    exact ⟨ts ++ us, u, hy.append hu, hn⟩
  | grammar e => exact h
  | recursionLimit r n => exact h

lemma raised_scan {g : Grammar} {limit : Nat} (e : ScanError) (h : sc.next s = .error e) :
    (MatchError.scan e).Raised g limit sc s :=
  ⟨[], s, .nil, h⟩

section

variable (g : Grammar) (sc : Scanner)

def MatchesItems (items : List Item) (s : ScanState) (depth : Nat) : Option (Forest × ScanState × Nat) → Prop
  | none => True
  | some (parts, stop, d) => Forest.Fits g items parts ∧ Advance sc s depth parts.tokens stop d

def MatchesRule (name : String) (s : ScanState) (depth : Nat) : Option Tree → Prop
  | none => True
  | some t => Forest.Fits g [.rule name] t.forest ∧ Advance sc s depth t.parts.tokens t.stop t.depth

end

open Run

variable {g : Grammar} {limit : Nat} {call : Attempt} {rule : String} {frame : Frame}

lemma matchItems_extent
    (hcall : ∀ name s depth parent,
      Ensures (call name s depth parent) (Failure.Met sc s depth) (MatchError.Raised g limit sc s)
        (MatchesRule g sc name s depth)) (items : List Item) (s : ScanState) (depth : Nat) :
    Ensures (matchItems sc call rule frame items s depth) (Failure.Met sc s depth)
      (MatchError.Raised g limit sc s) (MatchesItems g sc items s depth) := by
  induction items generalizing s depth with
  | nil => exact matchItems_nil_ensures ⟨.nil, .refl⟩
  | cons item items ih =>
    obtain ⟨symbol, label⟩ := item
    cases symbol with
    | token k =>
      refine matchItems_token_ensures raised_scan ?_ ?_
      · intro t s' hn _
        exact ⟨⟨[], s', .single hn, rfl⟩, trivial⟩
      · intro t s' hn hk
        have ha : Advance sc s depth [t] s' (depth + 1) := .single hn
        refine (ih s' (depth + 1)).mono (fun f hf => hf.after ha) (fun e he => he.after ha.yields) ?_
        rintro (_ | ⟨parts, stop, d⟩) h
        · trivial
        · exact ⟨.token hk h.1, ha.trans h.2⟩
    | rule name =>
      refine matchItems_rule_ensures (hcall name s depth (some frame)) (fun _ => trivial) ?_
      rintro sub ⟨hfit, ha⟩
      refine (ih sub.stop sub.depth).mono (fun f hf => hf.after ha) (fun e he => he.after ha.yields) ?_
      rintro (_ | ⟨parts, stop, d⟩) h
      · trivial
      · cases hfit with
        | tree hr halt hp _ => exact ⟨.tree hr halt hp h.1, ha.trans h.2⟩

def MatchesAlternative (g : Grammar) (sc : Scanner) (r : Rule) (i : Nat) (a : Alternative) (s : ScanState)
    (depth : Nat) : Option Tree → Prop
  | none => True
  | some t => t.node.rule = r ∧ t.node.alternative = i ∧ Forest.Fits g a t.parts ∧
      Advance sc s depth t.parts.tokens t.stop t.depth

lemma matchAlternative_extent
    (hcall : ∀ name s depth parent,
      Ensures (call name s depth parent) (Failure.Met sc s depth) (MatchError.Raised g limit sc s)
        (MatchesRule g sc name s depth)) (r : Rule) (s : ScanState) (depth i : Nat) (a : Alternative) :
    Ensures (matchAlternative sc call r frame s depth i a) (Failure.Met sc s depth)
      (MatchError.Raised g limit sc s) (MatchesAlternative g sc r i a s depth) := by
  refine matchAlternative_ensures (matchItems_extent hcall a s depth) (fun _ => trivial) ?_
  rintro parts stop d ⟨hfit, ha⟩
  exact ⟨rfl, rfl, hfit, ha⟩

lemma matchNested_extent (n : Nat) (name : String) (s : ScanState) (depth : Nat) (parent : Option Frame) :
    Ensures (matchNested g limit sc n name s depth parent) (Failure.Met sc s depth)
      (MatchError.Raised g limit sc s) (MatchesRule g sc name s depth) := by
  induction n generalizing name s depth parent with
  | zero => exact .fail rfl
  | succ n ih =>
    refine matchRule_ensures (fun _ => rfl) (fun hn => ⟨name, rfl, hn⟩) raised_scan
      (fun _ _ _ _ _ _ => trivial) ?_
    intro r t s' _ hr _ _
    refine matchAlternatives_ensures (N := fun _ => True)
      (T := fun i a t => MatchesAlternative g sc r i a s depth (some t)) ?_ (fun _ => trivial) ?_
    · intro i a _
      refine (matchAlternative_extent ih r s depth i a).imp ?_
      rintro (_ | t) h
      · trivial
      · exact h
    · rintro before a after t has - ⟨rfl, hi, hfit, ha⟩
      have hget : t.node.rule.alternatives[t.node.alternative]? = some a := by
        rw [hi, has]
        simp
      exact ⟨.tree hr hget hfit .nil, ha⟩

lemma attemptRule_extent (name : String) (s : ScanState) (depth : Nat) :
    Ensures (attemptRule g limit sc name s depth) (Failure.Met sc s depth)
      (MatchError.Raised g limit sc s) (MatchesRule g sc name s depth) :=
  matchNested_extent _ name s depth none

lemma attemptAlternative_extent (r : Rule) (i : Nat) (a : Alternative) (s : ScanState) (depth : Nat) :
    Ensures (attemptAlternative g limit sc r i a s depth) (Failure.Met sc s depth)
      (MatchError.Raised g limit sc s) (MatchesAlternative g sc r i a s depth) :=
  matchAlternative_extent (matchNested_extent _) r s depth i a

end GlowSyntax
