import GlowSyntax.Diagnostic.Report
import GlowSyntax.Proofs.Match.Extent
import GlowSyntax.Proofs.Match.Record

namespace GlowSyntax

open Run

variable {g : Grammar} {sc : Scanner} {s : ScanState} {depth : Nat}

lemma Failure.Met.found_eq {f f' : Failure} (h : f.Met sc s depth) (h' : f'.Met sc s depth)
    (hd : f.depth = f'.depth) : f.found = f'.found := by
  obtain ⟨ts, m, hy, hl⟩ := h
  obtain ⟨ts', m', hy', hl'⟩ := h'
  have hlen : (ts ++ [f.found]).length = (ts' ++ [f'.found]).length := by
    simp only [List.length_append, List.length_singleton]
    omega
  have heq := (hy.unique hy' hlen).1
  exact (List.concat_inj.mp (by simpa using heq)).2

lemma mem_expectedKinds {fs : List Failure} {k : Kind} : k ∈ expectedKinds fs ↔ ∃ f ∈ fs, f.expected = k := by
  simp [expectedKinds]

structure Failure.Explained (f : Failure) (fs : List Failure) : Prop where
  message : expectedMessage? fs = some ("expected " ++ expectation fs ++ ", found " ++ f.found.describe)
  expected : ∀ k, k ∈ expectedKinds fs ↔ ∃ f' ∈ fs, f'.expected = k ∧ f'.found = f.found
  noMatch_span : ∀ r t, (ParseError.noMatch r t fs).span? = some f.found.span
  trailing_span : ∀ r t, (ParseError.trailing r t fs).span? = some f.found.span

lemma explained_of_found_eq {f : Failure} {fs : List Failure} (hf : f ∈ fs)
    (h : ∀ f' ∈ fs, f'.found = f.found) : f.Explained fs := by
  obtain ⟨f₀, rest, rfl⟩ := List.exists_cons_of_ne_nil (List.ne_nil_of_mem hf)
  have h₀ : f₀.found = f.found := h f₀ List.mem_cons_self
  refine ⟨?_, ?_, ?_, ?_⟩
  · simp [expectedMessage?, h₀]
  · intro k
    rw [mem_expectedKinds]
    constructor
    · rintro ⟨f', hf', rfl⟩
      exact ⟨f', hf', rfl, h f' hf'⟩
    · rintro ⟨f', hf', hk, _⟩
      exact ⟨f', hf', hk⟩
  · intro r t
    simp [ParseError.span?, h₀]
  · intro r t
    simp [ParseError.span?, h₀]

lemma kept_explained {α : Type} {x : Run α} (h : ∀ f ∈ failuresOf x.log, f.Met sc s depth) {f : Failure}
    (hf : f ∈ (x.record .empty).attempts) :
    (∀ f' ∈ (x.record .empty).attempts, f'.found = f.found) ∧ f.Explained (x.record .empty).attempts := by
  have hk := FailureRecord.keeps_addAll (failuresOf x.log)
  have hsame : ∀ f' ∈ (x.record .empty).attempts, f'.found = f.found := by
    intro f' hf'
    obtain ⟨hm, hd⟩ := hk.mem_attempts.mp hf
    obtain ⟨hm', hd'⟩ := hk.mem_attempts.mp hf'
    exact (h f' hm').found_eq (h f hm) (Option.some.inj (hd'.symm.trans hd))
  exact ⟨hsame, explained_of_found_eq hf hsame⟩

inductive Attempted (g : Grammar) (limit : Nat) (sc : Scanner) (s : ScanState) (depth : Nat) :
    Run (Option Tree) → Prop
  | rule (name : String) : Attempted g limit sc s depth (attemptRule g limit sc name s depth)
  | alternative (r : Rule) (i : Nat) (a : Alternative) :
      Attempted g limit sc s depth (attemptAlternative g limit sc r i a s depth)

lemma Attempted.met {limit : Nat} {x : Run (Option Tree)} (h : Attempted g limit sc s depth x) :
    ∀ f ∈ failuresOf x.log, f.Met sc s depth := by
  cases h with
  | rule name => exact (attemptRule_extent name s depth).failures
  | alternative r i a => exact (attemptAlternative_extent r i a s depth).failures

/-- Each failure that an attempt meets is about the token whose number is its depth, so those that a fresh
record keeps are about one token, and what is reported of the first of them holds of all. -/
theorem failures_at_depth {g : Grammar} {limit : Nat} {sc : Scanner} {s : ScanState} {depth : Nat}
    {x : Run (Option Tree)} (h : Attempted g limit sc s depth x) :
    (∀ f ∈ failuresOf x.log, depth ≤ f.depth ∧
      ∃ ts s', ts.length = f.depth - depth ∧ sc.Yields s (ts ++ [f.found]) s') ∧
    ∀ f ∈ (x.record .empty).attempts,
      (∀ f' ∈ (x.record .empty).attempts, f'.found = f.found) ∧ f.Explained (x.record .empty).attempts := by
  constructor
  · intro f hf
    obtain ⟨ts, s', hy, hd⟩ := h.met f hf
    exact ⟨by omega, ts, s', by omega, hy⟩
  · intro f hf
    exact kept_explained h.met hf

def hollowRun : Run (Option Tree) :=
  attemptRule .glow 256 (.glow (.ofText "hollow" "()")) "paren" .start 0

theorem failures_at_depth_hollow :
    (expectedKinds (hollowRun.record .empty).attempts = [.parenOpen, .identifier, .integer, .quote]) ∧
    ∀ f ∈ (hollowRun.record .empty).attempts, ∀ f' ∈ (hollowRun.record .empty).attempts,
      f'.found = f.found :=
  ⟨by decide +kernel, fun f hf => ((failures_at_depth (.rule "paren")).2 f hf).1⟩

end GlowSyntax
