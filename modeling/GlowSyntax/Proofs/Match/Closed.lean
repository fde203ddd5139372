import GlowSyntax.Proofs.Grammar.Derivation
import GlowSyntax.Proofs.Match.Ensures

namespace GlowSyntax

open Run

def MatchError.Known : MatchError → Prop
  | .grammar _ => False
  | _ => True

variable {g : Grammar} {limit : Nat} {sc : Scanner}

lemma matchItems_known {call : Attempt} {rule : String} {frame : Frame} {items : List Item} {s : ScanState}
    {depth : Nat}
    (hcall : ∀ name ∈ g.names, ∀ s depth parent,
      Ensures (call name s depth parent) (fun _ => True) MatchError.Known fun _ => True)
    (hi : Alternative.references items ⊆ g.names) :
    Ensures (matchItems sc call rule frame items s depth) (fun _ => True) MatchError.Known fun _ => True := by
  induction items generalizing s depth with
  | nil => exact matchItems_nil_ensures trivial
  | cons item items ih =>
    obtain ⟨symbol, label⟩ := item
    cases symbol with
    | token k =>
      refine matchItems_token_ensures (fun _ _ => trivial) (fun _ _ _ _ => ⟨trivial, trivial⟩) ?_
      intro t s' _ _
      exact ih hi
    | rule name =>
      obtain ⟨hname, hi⟩ := List.cons_subset.mp hi
      exact matchItems_rule_ensures (hcall name hname s depth _) (fun _ => trivial) fun _ _ => ih hi

lemma matchNested_known (hg : ∀ r ∈ g.rules, r.references ⊆ g.names) (n : Nat) {name : String}
    (hname : name ∈ g.names) (s : ScanState) (depth : Nat) (parent : Option Frame) :
    Ensures (matchNested g limit sc n name s depth parent) (fun _ => True) MatchError.Known fun _ => True := by
  induction n generalizing name s depth parent with
  | zero => exact .fail trivial
  | succ n ih =>
    refine matchRule_errors (fun _ => trivial) (fun hf => absurd hname (Grammar.find?_eq_none.mp hf))
      (fun _ _ => trivial) ?_
    intro r t s' a _ hf _ _ ha
    refine matchItems_known (fun name hn s depth parent => ih hn s depth parent) ?_
    intro x hx
    exact hg r (Grammar.find?_eq_some hf).1 (List.mem_flatMap.mpr ⟨a, ha, hx⟩)

lemma attemptRule_known (hv : g.validate = .ok ()) {name : String} (hname : name ∈ g.names) (s : ScanState)
    (depth : Nat) :
    Ensures (attemptRule g limit sc name s depth) (fun _ => True) MatchError.Known fun _ => True :=
  matchNested_known (fun _ => Grammar.references_subset hv) _ hname s depth none

end GlowSyntax
