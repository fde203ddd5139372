import GlowSyntax.Proofs.Automaton.Taken
import GlowSyntax.Proofs.Scan.Read

namespace GlowSyntax

namespace Spelling

def lacks (c : Char) : Spelling → Bool
  | literal t => !t.toList.contains c
  | regex _ a => a.states.all fun
    | .take s => !s.contains c
    | _ => true

lemma not_mem_of_lacks {s : Spelling} {input t : List Char} {c : Char} (hl : s.lacks c = true)
    (h : s.prefixOf? input = some t) : c ∉ t := by
  have hc := (Option.filter_eq_some_iff.mp h).1
  intro hmem
  cases s with
  | literal l =>
    simp only [candidate?, Option.ite_none_right_eq_some, Option.some.injEq] at hc
    obtain ⟨-, rfl⟩ := hc
    simp [lacks, hmem] at hl
  | regex _ a =>
    obtain ⟨set, hset, hcontains⟩ := Automaton.admits_of_prefixOf? hc c hmem
    obtain ⟨i, hi, hget⟩ := Array.mem_iff_getElem.mp hset
    rw [lacks, Array.all_eq_true] at hl
    have hnot := hl i hi
    rw [hget] at hnot
    simp [hcontains] at hnot

end Spelling

namespace Lexicon

lemma find_ne_error {input : List Char} {ks : List Kind} {e : LexiconError} : glow.find input ks ≠ .error e :=
  find_ne_error_of_spelled fun k _ => glow_complete k

lemma find_eq_none {lx : Lexicon} {input : List Char} {ks : List Kind} (h : lx.find input ks = .ok none) :
    ∀ k ∈ ks, ∀ s, lx.spelling? k = some s → s.prefixOf? input = none := by
  induction ks with
  | nil => simp
  | cons k ks ih =>
    rw [find] at h
    split at h
    · cases h
    · next s hs =>
      split at h
      · cases h
      · next hnone =>
        refine List.forall_mem_cons.mpr ⟨?_, ih h⟩
        intro s' hs'
        rw [hs] at hs'
        cases hs'
        exact hnone

lemma glow_lacks_lineBreak {k : Kind} (hk : k ≠ .endOfLine) {s : Spelling} (hs : glow.spelling? k = some s) :
    s.lacks '\n' = true := by
  have hall : (glow.spelling? k).all (Spelling.lacks '\n') = true := by
    revert hk
    cases k <;> decide +kernel
  rw [hs] at hall
  exact hall

lemma find_lineBreak {input t : List Char} {ks : List Kind} {k : Kind}
    (h : glow.find input ks = .ok (some (k, t))) : if k = .endOfLine then t = ['\n'] else '\n' ∉ t := by
  obtain ⟨_, s, hs, hp⟩ := find_eq_some h
  split
  · next hk =>
    subst hk
    obtain rfl : s = .literal "\n" := (Option.some.inj hs).symm
    have hc := (Option.filter_eq_some_iff.mp hp).1
    simp only [Spelling.candidate?, Option.ite_none_right_eq_some, Option.some.injEq] at hc
    exact hc.2.symm
  · next hk => exact Spelling.not_mem_of_lacks (glow_lacks_lineBreak hk hs) hp

def anyAutomaton : Automaton := ⟨#[.look .atStart, .take .noLineBreak, .accept]⟩

lemma anySpelling_eq : anySpelling = some (.regex "^(?:.)" anyAutomaton) := rfl

lemma noLineBreak_contains {c : Char} (hc : c ≠ '\n') : CharSet.noLineBreak.contains c = true := by
  have hn : c.toNat ≠ 10 := fun h => hc (Char.toNat_inj.mp h)
  have hlast : c.toNat ≤ Unicode.Table.lastCodePoint := by
    have hvalid := c.valid
    simp only [UInt32.isValidChar, Nat.isValidChar] at hvalid
    show c.val.toNat ≤ 0x10FFFF
    omega
  have hset : CharSet.noLineBreak.ranges = [(0, 9), (11, Unicode.Table.lastCodePoint)] := by decide
  simp only [CharSet.contains, Unicode.Table.contains, hset, List.any_cons, List.any_nil, Bool.or_false,
    Bool.or_eq_true, Bool.and_eq_true, decide_eq_true_eq]
  omega

lemma any_hasEdge : anyAutomaton.hasEdge = false := by simp [Automaton.hasEdge, anyAutomaton]

lemma any_step {c : Char} (hc : c ≠ '\n') : anyAutomaton.step true .start c = ⟨some c, 1, none, [2]⟩ := by
  have hwaiting : anyAutomaton.settle true ⟨none, some c⟩ [0] = [0, 1] := rfl
  have hadvance : anyAutomaton.advance c [0, 1] = [2] := by
    simp [Automaton.advance, anyAutomaton, noLineBreak_contains hc]
  simp only [Automaton.step, Automaton.Run.start, hwaiting, hadvance]
  rfl

lemma any_prefixOf? {c : Char} (hc : c ≠ '\n') (cs : List Char) :
    anyAutomaton.prefixOf? (c :: cs) = some [c] := by
  have hfirst : anyAutomaton.run? true .start (c :: cs) = anyAutomaton.run? true ⟨some c, 1, none, [2]⟩ cs := by
    rw [Automaton.run?, if_neg (by decide), if_neg (by simp [any_hasEdge]), any_step hc]
  have hrest : ∃ r, anyAutomaton.run? true ⟨some c, 1, none, [2]⟩ cs = some r ∧ r.best = some 1 := by
    cases cs with
    | nil => exact ⟨_, rfl, rfl⟩
    | cons d ds =>
      have hnext : anyAutomaton.step true ⟨some c, 1, none, [2]⟩ d = ⟨some d, 2, some 1, []⟩ := rfl
      rw [Automaton.run?, if_neg (by simp [Automaton.Run.isOver]), if_neg (by simp [any_hasEdge]), hnext]
      exact Automaton.run?_of_states_nil any_hasEdge rfl
  obtain ⟨r, hr, hb⟩ := hrest
  simp [Automaton.prefixOf?, hfirst, hr, hb]

lemma find_lineBreak_ne_none (m : Mode) (cs : List Char) : glow.find ('\n' :: cs) m.candidates ≠ .ok none := by
  intro hf
  have hend : Kind.endOfLine ∈ m.candidates := by cases m <;> decide
  have hp := find_eq_none hf _ hend _ rfl
  simp [Spelling.prefixOf?, Spelling.candidate?] at hp

lemma find_isSome {m : Mode} (hm : m ≠ .code) (input : List Char) :
    ∃ k t, glow.find input m.candidates = .ok (some (k, t)) := by
  cases input with
  | nil => exact ⟨_, _, find_nil m⟩
  | cons c cs =>
    cases hf : glow.find (c :: cs) m.candidates with
    | error e => exact absurd hf find_ne_error
    | ok found =>
      cases found with
      | some r => exact ⟨r.1, r.2, rfl⟩
      | none =>
        have hnone := find_eq_none hf
        by_cases hc : c = '\n'
        · subst hc
          exact absurd hf (find_lineBreak_ne_none m cs)
        · have hany : ∃ k ∈ m.candidates, glow.spelling? k = anySpelling := by
            cases m with
            | code => exact absurd rfl hm
            | string => exact ⟨.stringChar, by decide, rfl⟩
            | comment => exact ⟨.commentChar, by decide, rfl⟩
          obtain ⟨k, hk, hs⟩ := hany
          have hp := hnone k hk _ (hs.trans anySpelling_eq)
          simp [Spelling.prefixOf?, Spelling.candidate?, any_prefixOf? hc] at hp

end Lexicon

end GlowSyntax
