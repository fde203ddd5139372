import GlowSyntax.Proofs.Grammar.Rewriting
import GlowSyntax.Proofs.Match.Failures

namespace GlowSyntax

open Run

structure Failure.Continues (g : Grammar) (sc : Scanner) (items : List Item) (s : ScanState) (depth : Nat)
    (f : Failure) (ts : List Token) : Prop where
  yields : ∃ s', sc.Yields s (ts ++ [f.found]) s'
  depth_eq : f.depth = depth + ts.length
  begins : Begins g items (ts.map Token.kind ++ [f.expected])

def Failure.Expectable (g : Grammar) (sc : Scanner) (items : List Item) (s : ScanState) (depth : Nat)
    (f : Failure) : Prop :=
  ∃ ts, f.Continues g sc items s depth ts

def Failure.ExpectableIn (g : Grammar) (sc : Scanner) (name : String) (s : ScanState) (depth : Nat)
    (f : Failure) : Prop :=
  ∃ r a, g.find? name = some r ∧ a ∈ r.alternatives ∧ f.Expectable g sc a s depth

variable {g : Grammar} {limit : Nat} {sc : Scanner} {call : Attempt} {rule : String} {frame : Frame}
  {s s' : ScanState} {depth d : Nat} {items : List Item} {f : Failure} {name : String} {label : Option String}

namespace Failure.Expectable

lemma behind {item : Item} {us : List Token} (h : f.Expectable g sc items s' d)
    (ha : Advance sc s depth us s' d)
    (hb : ∀ w, Begins g items w → Begins g (item :: items) (us.map Token.kind ++ w)) :
    f.Expectable g sc (item :: items) s depth := by
  obtain ⟨ts, ⟨m, hy⟩, hd, hw⟩ := h
  refine ⟨us ++ ts, ⟨m, ?_⟩, ?_, ?_⟩
  · rw [List.append_assoc]
    exact ha.yields.append hy
  · rw [hd, ha.depth_eq, List.length_append, Nat.add_assoc]
  · rw [List.map_append, List.append_assoc]
    exact hb _ hw

lemma inside (h : f.ExpectableIn g sc name s depth) :
    f.Expectable g sc (⟨.rule name, label⟩ :: items) s depth := by
  obtain ⟨r, a, hf, ha, ts, hy, hd, hw⟩ := h
  exact ⟨ts, hy, hd, .inside hf ha hw⟩

end Failure.Expectable

lemma matchItems_expectable
    (hcall : ∀ name s depth parent, Ensures (call name s depth parent) (Failure.ExpectableIn g sc name s depth)
      (fun _ => True) (MatchesRule g sc name s depth)) (items : List Item) (s : ScanState) (depth : Nat) :
    Ensures (matchItems sc call rule frame items s depth) (Failure.Expectable g sc items s depth)
      (fun _ => True) fun _ => True := by
  induction items generalizing s depth with
  | nil => exact matchItems_nil_ensures trivial
  | cons item items ih =>
    obtain ⟨symbol, label⟩ := item
    cases symbol with
    | token k =>
      refine matchItems_token_ensures (fun _ _ => trivial) ?_ ?_
      · intro t s' hn _
        exact ⟨⟨[], ⟨s', .single hn⟩, rfl, .token .nil⟩, trivial⟩
      · intro t s' hn hk
        refine (ih s' (depth + 1)).mono (fun f hf => ?_) (fun _ => id) fun _ => id
        refine hf.behind (.single hn) fun w hw => ?_
        rw [List.map_singleton, hk]
        exact .token hw
    | rule name =>
      refine matchItems_rule_ensures
        ((hcall name s depth (some frame)).mono (fun f hf => .inside hf) (fun _ => id) fun _ => id)
        (fun _ => trivial) ?_
      rintro sub ⟨hfit, hadvance⟩
      refine (ih sub.stop sub.depth).mono (fun f hf => ?_) (fun _ => id) fun _ => id
      refine hf.behind hadvance fun w hw => ?_
      cases hfit with
      | tree hr halt hparts _ => exact .behind hr (List.mem_of_getElem? halt) hparts.derives hw

lemma matchAlternative_expectable
    (hcall : ∀ name s depth parent, Ensures (call name s depth parent) (Failure.ExpectableIn g sc name s depth)
      (fun _ => True) (MatchesRule g sc name s depth)) (r : Rule) (i : Nat) (a : Alternative) :
    Ensures (matchAlternative sc call r frame s depth i a) (Failure.Expectable g sc a s depth)
      (fun _ => True) fun _ => True :=
  matchAlternative_ensures (matchItems_expectable hcall a s depth) (fun _ => trivial) fun _ _ _ _ => trivial

lemma matchNested_expectable (n : Nat) (name : String) (s : ScanState) (depth : Nat) (parent : Option Frame) :
    Ensures (matchNested g limit sc n name s depth parent) (Failure.ExpectableIn g sc name s depth)
      (fun _ => True) fun _ => True := by
  induction n generalizing name s depth parent with
  | zero => exact .fail trivial
  | succ n ih =>
    refine matchRule_ensures (fun _ => trivial) (fun _ => trivial) (fun _ _ => trivial)
      (fun _ _ _ _ _ _ => trivial) ?_
    intro r t s' _ hr _ _
    have hcall : ∀ name s depth parent, Ensures (matchNested g limit sc n name s depth parent)
        (Failure.ExpectableIn g sc name s depth) (fun _ => True) (MatchesRule g sc name s depth) :=
      fun name s depth parent =>
        ((ih name s depth parent).and_result (matchNested_extent n name s depth parent)).imp fun _ h => h.2
    refine matchAlternatives_ensures (N := fun _ => True) (T := fun _ _ _ => True) ?_ (fun _ => trivial)
      (fun _ _ _ _ _ _ _ => trivial)
    intro i a ha
    refine (matchAlternative_expectable hcall r i a).mono (fun f hf => ⟨r, a, hr, ha, hf⟩) (fun _ => id) ?_
    rintro (_ | t) - <;> trivial

lemma attemptRule_expectable (h : f ∈ failuresOf (attemptRule g limit sc name s depth).log) :
    ∃ ts, f.Continues g sc [.rule name] s depth ts := by
  have hf := (matchNested_expectable _ name s depth none).failures f h
  exact Failure.Expectable.inside hf

def Grammar.Admits (g : Grammar) (start : String) (ts : List Token) (k : Kind) : Prop :=
  ∃ rest, g.Generates [.rule start] ((ts.map Token.kind).map Symbol.token ++ .token k :: rest)

lemma Failure.Continues.admits {ts : List Token} (h : f.Continues g sc [.rule name] s depth ts) :
    g.Admits name ts f.expected := by
  obtain ⟨rest, hrest⟩ := h.begins.generates
  simp only [List.map_append, List.append_assoc, List.map_singleton, List.singleton_append] at hrest
  exact ⟨rest, hrest⟩

/-- An expected kind can follow the tokens before the one that was found, for every failure of an attempt,
and so can all the kinds that are listed together when a fresh record is explained. -/
theorem expected_admitted (g : Grammar) (limit : Nat) (sc : Scanner) (name : String) (s : ScanState) :
    (∀ f ∈ failuresOf (attemptRule g limit sc name s 0).log, ∃ ts s', ts.length = f.depth ∧
      sc.Yields s (ts ++ [f.found]) s' ∧ g.Admits name ts f.expected) ∧
    ∀ f ∈ ((attemptRule g limit sc name s 0).record .empty).attempts, ∃ ts s',
      sc.Yields s (ts ++ [f.found]) s' ∧
      f.Explained ((attemptRule g limit sc name s 0).record .empty).attempts ∧
      ∀ k ∈ expectedKinds ((attemptRule g limit sc name s 0).record .empty).attempts, g.Admits name ts k := by
  have hkeeps := FailureRecord.keeps_addAll (failuresOf (attemptRule g limit sc name s 0).log)
  constructor
  · intro f hf
    obtain ⟨ts, hts⟩ := attemptRule_expectable hf
    obtain ⟨s', hy⟩ := hts.yields
    exact ⟨ts, s', by simpa using hts.depth_eq.symm, hy, hts.admits⟩
  · intro f hf
    obtain ⟨hsame, hexplained⟩ := kept_explained (Attempted.rule name).met hf
    obtain ⟨hm, hd⟩ := hkeeps.mem_attempts.mp hf
    obtain ⟨ts, hts⟩ := attemptRule_expectable hm
    obtain ⟨s', hy⟩ := hts.yields
    refine ⟨ts, s', hy, hexplained, ?_⟩
    intro k hk
    obtain ⟨f', hf', rfl⟩ := mem_expectedKinds.mp hk
    obtain ⟨hm', hd'⟩ := hkeeps.mem_attempts.mp hf'
    obtain ⟨ts', hts'⟩ := attemptRule_expectable hm'
    obtain ⟨m, hy'⟩ := hts'.yields
    -- Both failures are as deep, so the same tokens stand before what they found.
    have hlen : (ts' ++ [f'.found]).length = (ts ++ [f.found]).length := by
      have hdepth := Option.some.inj (hd'.symm.trans hd)
      have h := hts.depth_eq
      have h' := hts'.depth_eq
      simp only [List.length_append, List.length_singleton]
      omega
    have heq := (hy'.unique hy hlen).1
    obtain rfl : ts' = ts := by
      rw [hsame f' hf'] at heq
      exact List.append_cancel_right heq
    exact hts'.admits

def operandRun : Run (Option Tree) :=
  attemptRule .glow 256 (.glow (.ofText "operand" "var a = (b + ;")) "program" .start 0

theorem expected_admitted_operand :
    ∃ f ∈ (operandRun.record .empty).attempts, f.found.kind = .semicolon ∧ f.depth = 6 ∧ ∃ ts s',
      (Scanner.glow (.ofText "operand" "var a = (b + ;")).Yields .start (ts ++ [f.found]) s' ∧
      ∀ k ∈ [Kind.parenOpen, .identifier, .integer, .quote], Grammar.glow.Admits "program" ts k := by
  have hkinds : expectedKinds (operandRun.record .empty).attempts = [.parenOpen, .identifier, .integer, .quote] := by
    decide +kernel
  have hfound : ∃ f ∈ (operandRun.record .empty).attempts, f.found.kind = .semicolon ∧ f.depth = 6 := by
    decide +kernel
  obtain ⟨f, hf, hk, hd⟩ := hfound
  obtain ⟨ts, s', hy, _, hadmits⟩ := (expected_admitted _ _ _ "program" .start).2 f hf
  refine ⟨f, hf, hk, hd, ts, s', hy, ?_⟩
  rw [← hkinds]
  exact hadmits

end GlowSyntax
