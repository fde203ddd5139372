import GlowSyntax.Proofs.Parse.Cursor
import GlowSyntax.Proofs.Scan.Steps
import Mathlib.Logic.Function.Iterate

namespace GlowSyntax

namespace Scanner

variable {sc : Scanner} {step : ScanState → Except ScanError (Token × ScanState)} {more : Kind → Bool}
  {n : Nat} {s m : ScanState} {ts : List Token}

lemma goesOn_of_endless (hstep : ∀ s, step s ≠ .error .endless) (h : collect step n s = .error .endless) :
    GoesOn step (· != .endOfFile) n s := by
  induction n generalizing s with
  | zero => trivial
  | succ n ih =>
    rw [collect] at h
    split at h
    · next e he =>
      cases h
      exact absurd he (hstep s)
    · next t s' hs =>
      split at h
      · cases h
      · next ht =>
        refine ⟨t, s', hs, by simpa [Token.isEnd] using ht, ih ?_⟩
        cases hrest : collect step n s' with
        | error e => rw [hrest] at h; exact h
        | ok ts => rw [hrest] at h; cases h

lemma goesOn_read (h : GoesOn sc.read more sc.steps s) :
    ∃ t s', sc.read s = .ok (t, s') ∧ more t.kind ∧ GoesOn sc.read more sc.steps s' :=
  read_strides.goesOn_succ (modes_lt_steps sc s).le h

lemma nextWithin_goesOn (h : GoesOn sc.read (· != .endOfFile) sc.steps s) : sc.nextWithin n s = .error .endless ∨
    ∃ t s', sc.nextWithin n s = .ok (t, s') ∧ ¬ t.isEnd ∧ GoesOn sc.read (· != .endOfFile) sc.steps s' := by
  induction n generalizing s with
  | zero => exact Or.inl rfl
  | succ n ih =>
    obtain ⟨t, s', hread, hmore, hrest⟩ := goesOn_read h
    rw [nextWithin, hread]
    dsimp only
    split
    · exact ih hrest
    · exact Or.inr ⟨t, s', rfl, by simpa [Token.isEnd] using hmore, hrest⟩

lemma collect_next_goesOn (h : GoesOn sc.read (· != .endOfFile) sc.steps s) :
    collect sc.next n s = .error .endless := by
  induction n generalizing s with
  | zero => rfl
  | succ n ih =>
    rcases nextWithin_goesOn (n := sc.steps) h with hnext | ⟨t, s', hnext, ht, hrest⟩
    · rw [collect, next, hnext]
    · rw [collect, next, hnext]
      simp only [if_neg ht, ih hrest]
      rfl

lemma tokenize_endless (h : sc.tokenizeRaw s = .error .endless) : sc.tokenize s = .error .endless :=
  collect_next_goesOn (goesOn_of_endless (fun _ => read_ne_endless) h)

def significant (ts : List Token) : List Token :=
  ts.filter fun t => t.kind ∉ [.blank, .endOfLine, .slashes, .commentChar]

section Significant

variable {t : Token}

lemma isTrivia_iff {k : Kind} : k.isTrivia ↔ k ∈ [.blank, .endOfLine, .slashes, .commentChar] := by
  cases k <;> decide

lemma significant_of_trivia (h : t.kind.isTrivia) : significant (t :: ts) = significant ts :=
  List.filter_cons_of_neg fun hsignificant => of_decide_eq_true hsignificant (isTrivia_iff.mp h)

lemma significant_cons (h : ¬ t.kind.isTrivia) : significant (t :: ts) = t :: significant ts :=
  List.filter_cons_of_pos (decide_eq_true (mt isTrivia_iff.mpr h))

lemma not_end_of_trivia (h : t.kind.isTrivia) : ¬ t.isEnd := by
  intro ht
  have hk : t.kind = .endOfFile := by simpa [Token.isEnd] using ht
  rw [hk] at h
  cases h

end Significant

lemma tokenize_of_collect (h : collect sc.read n s ≠ .error .endless) :
    sc.tokenize s = (collect sc.read n s).map significant := by
  induction n generalizing s with
  | zero => exact absurd rfl h
  | succ n ih =>
    rw [tokenize_eq]
    rw [collect] at h ⊢
    cases hread : sc.read s with
    | error e => rfl
    | ok out =>
      obtain ⟨t, s'⟩ := out
      rw [hread] at h
      dsimp only at h ⊢
      -- What is left is scanned as it is read, where reading goes on.
      have hrest : ¬ t.isEnd → sc.tokenize s' = (collect sc.read n s').map significant := by
        intro ht
        rw [if_neg ht] at h
        exact ih fun hendless => h (by rw [hendless]; rfl)
      by_cases htrivia : t.kind.isTrivia
      · have ht := not_end_of_trivia htrivia
        rw [if_pos htrivia, if_neg ht, hrest ht]
        cases collect sc.read n s' with
        | error e => rfl
        | ok ts => exact congrArg Except.ok (significant_of_trivia htrivia).symm
      · rw [if_neg htrivia]
        split
        · have hlast : significant [t] = [t] := significant_cons htrivia
          exact congrArg Except.ok hlast.symm
        · next ht =>
          rw [hrest ht]
          cases collect sc.read n s' with
          | error e => rfl
          | ok ts => exact congrArg Except.ok (significant_cons htrivia).symm

lemma next_of_mem_trail : ∀ m ∈ sc.trailWithin n s, sc.next m = sc.next s := by
  induction n generalizing s with
  | zero => simp [trailWithin]
  | succ n ih =>
    rw [trailWithin]
    refine List.forall_mem_cons.mpr ⟨rfl, fun m hm => ?_⟩
    rw [next_eq sc s]
    split at hm
    · next t s' hread =>
      split at hm
      · next htrivia =>
        rw [hread]
        simp only [if_pos htrivia]
        exact ih m hm
      · cases hm
    · cases hm

end Scanner

namespace Cursor

variable {c : Cursor} {e : ScanError}

lemma next_fst (c : Cursor) : c.next.1 = c.scanner.peek c.state := by
  rw [next, Scanner.peek]
  cases c.scanner.next c.state <;> rfl

lemma next_error (h : c.next.1 = .error e) : c.next.2.next.1 = .error e := by
  rw [next_fst] at h ⊢
  have hnext := Scanner.peek_eq_error.mp h
  have hstays : c.next.2 = c.restore ((c.scanner.trail c.state).getLastD c.state) := by rw [next, hnext]
  rw [hstays]
  have hsame : c.scanner.next ((c.scanner.trail c.state).getLastD c.state) = c.scanner.next c.state := by
    rcases List.mem_cons.mp List.getLastD_mem_cons with hlast | hlast
    · rw [hlast]
    · exact Scanner.next_of_mem_trail _ hlast
  exact Scanner.peek_eq_error.mpr (hsame.trans hnext)

lemma next_error_again (h : c.next.1 = .error e) (n : Nat) : ((fun c => c.next.2)^[n] c).next.1 = .error e := by
  induction n generalizing c with
  | zero => exact h
  | succ n ih => exact ih (next_error h)

end Cursor

/-- Scanning yields what reading yields without the trivia, or the same error; to look ahead is to scan the next token
and to go back; and a token that cannot be scanned cannot be scanned again. -/
theorem tokenize_significant (sc : Scanner) (s : ScanState) :
    sc.tokenize s = (sc.tokenizeRaw s).map Scanner.significant ∧
    (Probe.peek ⟨sc, s⟩).1.result = (Cursor.mk sc s).next.1.mapError .scan ∧ (Probe.peek ⟨sc, s⟩).2 = ⟨sc, s⟩ ∧
    ∀ e, (Cursor.mk sc s).next.1 = .error e →
      ∀ n, ((fun c => c.next.2)^[n] (Cursor.mk sc s)).next.1 = .error e := by
  obtain ⟨-, hstays, hpeek⟩ := peek_eq ⟨sc, s⟩
  refine ⟨?_, hpeek.trans (by rw [Cursor.next_fst]), hstays, fun e he => Cursor.next_error_again he⟩
  by_cases hendless : sc.tokenizeRaw s = .error .endless
  · rw [hendless, Scanner.tokenize_endless hendless]
    rfl
  · exact Scanner.tokenize_of_collect hendless

def tildeScanner : Scanner := .glow (.ofText "tilde" " // b\n ~")

theorem tokenize_significant_tilde :
    ∃ e, tildeScanner.tokenizeRaw .start = .error e ∧ tildeScanner.tokenize .start = .error e ∧
      ∀ n, ((fun c => c.next.2)^[n] (Cursor.start tildeScanner)).next.1 = .error e := by
  have hraw : tildeScanner.tokenizeRaw .start = .error (.unexpected "tilde" ⟨2, 2⟩ ⟨7, 8⟩ '~') := by
    decide +kernel
  have hnext : (Cursor.start tildeScanner).next.1 = .error (.unexpected "tilde" ⟨2, 2⟩ ⟨7, 8⟩ '~') := by
    decide +kernel
  obtain ⟨hscan, -, -, hagain⟩ := tokenize_significant tildeScanner .start
  rw [hraw] at hscan
  exact ⟨_, hraw, hscan, hagain _ hnext⟩

end GlowSyntax
