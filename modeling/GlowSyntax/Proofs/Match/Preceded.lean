import GlowSyntax.Proofs.Match.TokenList

/-!
A failure at the end of file is never met at the first item of an alternative, since no rule is tried there:
the item before has read up to it.
-/

namespace GlowSyntax

open Run

def Failure.Preceded (g : Grammar) (tokens : Nat → Option Token) (f : Failure) : Prop :=
  ∃ r ∈ g.rules, ∃ a ∈ r.alternatives, ∃ before x label after,
    a = before ++ x :: ⟨.token f.expected, label⟩ :: after ∧ ∃ m, Takes g tokens [x] m f.depth

variable {g : Grammar} {limit : Nat} {sc : Scanner} {tokens : Nat → Option Token} {call : Attempt} {frame : Frame}
  {s : ScanState} {depth : Nat} {us : List Token}

lemma matchItems_preceded (hl : sc.Lists tokens)
    (hcall : ∀ name s depth parent us, sc.Yields .start us s → us.length = depth →
      Ensures (call name s depth parent) (fun f => f.found.isEnd → f.Preceded g tokens) (fun _ => True)
        fun found => ReadsRule g tokens sc name s found ∧ MatchesRule g sc name s depth found)
    {r : Rule} {before items : List Item} (hr : r ∈ g.rules) (ha : before ++ items ∈ r.alternatives)
    (hy : sc.Yields .start us s) (hd : us.length = depth)
    (hbefore : kindAt tokens depth = some .endOfFile →
      ∃ rest x m, before = rest ++ [x] ∧ Takes g tokens [x] m depth) :
    Ensures (matchItems sc call r.name frame items s depth) (fun f => f.found.isEnd → f.Preceded g tokens)
      (fun _ => True) fun _ => True := by
  induction items generalizing before s depth us with
  | nil => exact matchItems_nil_ensures trivial
  | cons item items ih =>
    have hrest : (before ++ [item]) ++ items ∈ r.alternatives := by simpa using ha
    obtain ⟨symbol, label⟩ := item
    cases symbol with
    | token k =>
      refine matchItems_token_ensures (fun _ _ => trivial) ?_ ?_
      · intro t s' hn _
        refine ⟨fun hend => ?_, trivial⟩
        have hk : kindAt tokens depth = some .endOfFile := by
          rw [← hd, hl.kindAt_eq hy hn]
          simpa [Token.isEnd] using hend
        obtain ⟨rest, x, m, rfl, hx⟩ := hbefore hk
        exact ⟨r, hr, _, ha, rest, x, label, items, by simp, m, hx⟩
      · intro t s' hn hk
        have hkind : kindAt tokens depth = some k := by rw [← hd, hl.kindAt_eq hy hn, hk]
        refine (ih hrest (hy.snoc hn) (by simp [hd]) fun _ => ?_).imp fun _ _ => trivial
        exact ⟨before, _, depth, rfl, .token hkind .nil⟩
    | rule name =>
      refine matchItems_rule_ensures (hcall name s depth (some frame) us hy hd) (fun _ => trivial) ?_
      rintro sub ⟨hreads, -, hadvance⟩
      refine (ih hrest (hy.append hadvance.yields) ?_ fun _ => ?_).imp fun _ _ => trivial
      · rw [List.length_append, hd, hadvance.depth_eq]
      · have htakes : Takes g tokens [.rule name] depth sub.depth := by
          rw [hadvance.depth_eq, ← hd]
          exact ⟨_, hreads us hy⟩
        exact ⟨before, _, depth, rfl, .rule htakes .nil⟩

lemma matchNested_preceded (hl : sc.Lists tokens) (n : Nat) (name : String) (s : ScanState) (depth : Nat)
    (parent : Option Frame) (us : List Token) (hy : sc.Yields .start us s) (hd : us.length = depth) :
    Ensures (matchNested g limit sc n name s depth parent) (fun f => f.found.isEnd → f.Preceded g tokens)
      (fun _ => True) fun _ => True := by
  induction n generalizing name s depth parent us with
  | zero => exact .fail trivial
  | succ n ih =>
    refine matchRule_ensures (fun _ => trivial) (fun _ => trivial) (fun _ _ => trivial)
      (fun _ _ _ _ _ _ => trivial) ?_
    intro r t s' _ hf hn ht
    have hcall : ∀ name s depth parent us, sc.Yields .start us s → us.length = depth →
        Ensures (matchNested g limit sc n name s depth parent) (fun f => f.found.isEnd → f.Preceded g tokens)
          (fun _ => True) fun found => ReadsRule g tokens sc name s found ∧ MatchesRule g sc name s depth found :=
      fun name s depth parent us hy hd =>
        ((ih name s depth parent us hy hd).and_result (matchNested_outcome hl n name s depth parent)).imp
          fun _ h => h.2
    refine matchAlternatives_ensures (N := fun _ => True) (T := fun _ _ _ => True) ?_ (fun _ => trivial)
      (fun _ _ _ _ _ _ _ => trivial)
    intro i a ha
    refine Ensures.imp (P := fun _ => True) (matchAlternative_ensures (matchItems_preceded hl hcall
      (Grammar.find?_eq_some hf).1 (show [] ++ a ∈ r.alternatives from ha) hy hd ?_) (fun _ => trivial)
      fun _ _ _ _ => trivial) ?_
    · intro hend
      rw [← hd, hl.kindAt_eq hy hn] at hend
      exact absurd (Option.some.inj hend) (by simpa [Token.isEnd] using ht)
    · rintro (_ | t) - <;> trivial

lemma attemptRule_preceded (hl : sc.Lists tokens) {name : String} {f : Failure}
    (hf : f ∈ failuresOf (attemptRule g limit sc name .start 0).log) (he : f.found.isEnd) : f.Preceded g tokens :=
  (matchNested_preceded hl _ name .start 0 none [] .nil rfl).failures f hf he

end GlowSyntax
