import GlowSyntax.Proofs.Match.Nesting

/-!
Recursion limits compared. A run that a limit does not end makes no use of it: under a greater limit it is the same
run, with the same result, the same log and so the same record of failures.
-/

namespace GlowSyntax

namespace Run

variable {α β : Type}

def Limited (x : Run α) : Prop := ∃ r n, x.result = .error (.recursionLimit r n)

def Outlasted (x y : Run α) : Prop := x.Limited ∨ x = y

namespace Outlasted

lemma refl (x : Run α) : Outlasted x x := Or.inr rfl

lemma fail (r : String) (n : Nat) (y : Run α) : Outlasted (Run.fail (.recursionLimit r n)) y := Or.inl ⟨r, n, rfl⟩

lemma bind {x y : Run α} {f f' : α → Run β} (h : Outlasted x y) (hf : ∀ a, Outlasted (f a) (f' a)) :
    Outlasted (x >>= f) (y >>= f') := by
  change Outlasted (x.bind f) (y.bind f')
  rcases h with ⟨r, n, hx⟩ | rfl
  · exact Or.inl ⟨r, n, result_bind_error hx f⟩
  · cases hx : x.result with
    | error e =>
      refine Or.inr ?_
      simp only [Run.bind, hx]
    | ok a =>
      rcases hf a with ⟨r, n, ha⟩ | ha
      · exact Or.inl ⟨r, n, (result_bind_ok hx f).trans ha⟩
      · refine Or.inr ?_
        simp only [Run.bind, hx, ha]

end Outlasted

end Run

open Run

variable {g : Grammar} {limit limit' : Nat} {sc : Scanner} {call call' : Attempt}

section Calls

variable (hcall : ∀ name s depth parent, Outlasted (call name s depth parent) (call' name s depth parent))
include hcall

lemma matchItems_outlasted (rule : String) (frame : Frame) (items : List Item) (s : ScanState) (depth : Nat) :
    Outlasted (matchItems sc call rule frame items s depth) (matchItems sc call' rule frame items s depth) := by
  induction items generalizing s depth with
  | nil => exact .refl _
  | cons item items ih =>
    obtain ⟨symbol, label⟩ := item
    cases symbol with
    | token k =>
      rw [matchItems, matchItems]
      refine (Outlasted.refl _).bind fun out => ?_
      obtain ⟨t, s'⟩ := out
      by_cases hk : t.kind = k
      · simp only [if_pos hk]
        exact (ih s' (depth + 1)).bind fun _ => .refl _
      · simp only [if_neg hk]
        exact .refl _
    | rule name =>
      rw [matchItems, matchItems]
      refine (hcall name s depth (some frame)).bind fun out => ?_
      cases out with
      | none => exact .refl _
      | some sub => exact (ih sub.stop sub.depth).bind fun _ => .refl _

lemma matchAlternatives_outlasted (r : Rule) (frame : Frame) (s : ScanState) (depth i : Nat)
    (as : List Alternative) :
    Outlasted (matchAlternatives sc call r frame s depth i as) (matchAlternatives sc call' r frame s depth i as) := by
  induction as generalizing i with
  | nil => exact .refl _
  | cons a as ih =>
    have ha : Outlasted (matchAlternative sc call r frame s depth i a)
        (matchAlternative sc call' r frame s depth i a) := by
      rw [matchAlternative, matchAlternative]
      exact (matchItems_outlasted hcall r.name frame a s depth).bind fun _ => .refl _
    rw [matchAlternatives, matchAlternatives]
    refine ha.bind fun out => ?_
    cases out with
    | none => exact ih (i + 1)
    | some t => exact .refl _

lemma matchRule_outlasted (hle : limit ≤ limit') (name : String) (s : ScanState) (depth : Nat)
    (parent : Option Frame) :
    Outlasted (matchRule g limit sc call name s depth parent) (matchRule g limit' sc call' name s depth parent) := by
  unfold matchRule
  dsimp only
  by_cases hl : limit ≤ (Frame.enter parent s.offset).stalled
  · rw [if_pos hl]
    exact .fail _ _ _
  · have hl' : ¬ limit' ≤ (Frame.enter parent s.offset).stalled := fun h => hl (hle.trans h)
    rw [if_neg hl, if_neg hl']
    refine (Outlasted.refl _).bind fun _ => ?_
    split
    · exact .refl _
    · next r _ =>
      refine (Outlasted.refl _).bind fun out => ?_
      by_cases ht : out.1.isEnd
      · simp only [if_pos ht]
        exact .refl _
      · simp only [if_neg ht]
        refine (Outlasted.refl _).bind fun _ => ?_
        exact (matchAlternatives_outlasted hcall r _ s depth 0 r.alternatives).bind fun _ => .refl _

end Calls

lemma matchNested_outlasted (hle : limit ≤ limit') (n : Nat) (name : String) (s : ScanState) (depth : Nat)
    (parent : Option Frame) :
    Outlasted (matchNested g limit sc n name s depth parent) (matchNested g limit' sc n name s depth parent) := by
  induction n generalizing name s depth parent with
  | zero => exact .fail _ _ _
  | succ n ih => exact matchRule_outlasted ih hle name s depth parent

lemma nesting_mono (hle : limit ≤ limit') : nesting limit sc ≤ nesting limit' sc :=
  Nat.succ_le_succ (Nat.mul_le_mul_right _ hle)

lemma attemptRule_outlasted (hle : limit ≤ limit') (name : String) (s : ScanState) (depth : Nat) :
    Outlasted (attemptRule g limit sc name s depth) (attemptRule g limit' sc name s depth) := by
  -- The greater limit leaves room for more nested attempts, and the smaller one may be given the same room.
  rw [attemptRule_nested (nesting_mono hle), attemptRule_nested (le_refl (nesting limit' sc))]
  exact matchNested_outlasted hle _ name s depth none

theorem attemptRule_of_greater_limit (hle : limit ≤ limit') {name : String} {s : ScanState} {depth : Nat}
    (h : ∀ r n, (attemptRule g limit sc name s depth).result ≠ .error (.recursionLimit r n)) :
    (attemptRule g limit' sc name s depth).result = (attemptRule g limit sc name s depth).result ∧
    (attemptRule g limit' sc name s depth).log = (attemptRule g limit sc name s depth).log ∧
    ∀ before, (attemptRule g limit' sc name s depth).record before =
      (attemptRule g limit sc name s depth).record before := by
  rcases attemptRule_outlasted hle name s depth with ⟨r, n, hr⟩ | heq
  · exact absurd hr (h r n)
  · rw [heq]
    exact ⟨rfl, rfl, fun _ => rfl⟩

def roundRules : Grammar :=
  .ofRules [⟨"a", [[.token .plus], [.rule "b"]]⟩, ⟨"b", [[.token .identifier, .token .plus], [.tokenAs .identifier "x"],
    [.rule "a"]]⟩]

def roundScanner : Scanner := .glow (.ofText "round" "; x")

theorem attemptRule_of_greater_limit_round :
    roundRules.leftRecursion?.isSome ∧
    (attemptRule roundRules 1 roundScanner "a" ⟨1, 1, 2, .code⟩ 3).result.toOption.isNone ∧
    (attemptRule roundRules 2 roundScanner "a" ⟨1, 1, 2, .code⟩ 3).result.toOption.join.isSome ∧
    (attemptRule roundRules 256 roundScanner "a" ⟨1, 1, 2, .code⟩ 3).result =
      (attemptRule roundRules 2 roundScanner "a" ⟨1, 1, 2, .code⟩ 3).result ∧
    ((attemptRule roundRules 256 roundScanner "a" ⟨1, 1, 2, .code⟩ 3).record .empty).deepest = some 4 := by
  have hsome : (attemptRule roundRules 2 roundScanner "a" ⟨1, 1, 2, .code⟩ 3).result.toOption.join.isSome := by
    decide +kernel
  have hlimit : ∀ r n, (attemptRule roundRules 2 roundScanner "a" ⟨1, 1, 2, .code⟩ 3).result ≠
      .error (.recursionLimit r n) := by
    intro r n hr
    rw [hr] at hsome
    cases hsome
  obtain ⟨hresult, -, hrecord⟩ := attemptRule_of_greater_limit (show 2 ≤ 256 by decide) hlimit
  refine ⟨by decide +kernel, by decide +kernel, hsome, hresult, ?_⟩
  rw [hrecord]
  decide +kernel

end GlowSyntax
