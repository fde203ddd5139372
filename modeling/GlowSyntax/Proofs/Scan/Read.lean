import GlowSyntax.Scan.Scanner
import Mathlib.Order.Nat

namespace GlowSyntax

namespace Spelling

lemma candidate?_begins {s : Spelling} {input t : List Char} (h : s.candidate? input = some t) :
    t <+: input := by
  cases s with
  | literal l =>
    simp only [candidate?, Option.ite_none_right_eq_some, Option.some.injEq] at h
    exact h.2 ▸ List.isPrefixOf_iff_prefix.mp h.1
  | regex _ a =>
    simp only [candidate?, Automaton.prefixOf?, Option.map_eq_some_iff] at h
    obtain ⟨n, _, rfl⟩ := h
    exact List.take_prefix n input

lemma prefixOf?_eq_some {s : Spelling} {input t : List Char} (h : s.prefixOf? input = some t) :
    t <+: input ∧ (t = [] → input = []) := by
  obtain ⟨hc, he⟩ := Option.filter_eq_some_iff.mp h
  refine ⟨candidate?_begins hc, ?_⟩
  rintro rfl
  simpa using he

end Spelling

namespace Lexicon

lemma find_eq_some {lx : Lexicon} {input t : List Char} {ks : List Kind} {k : Kind}
    (h : lx.find input ks = .ok (some (k, t))) :
    k ∈ ks ∧ ∃ s, lx.spelling? k = some s ∧ s.prefixOf? input = some t := by
  induction ks with
  | nil => simp [find] at h
  | cons j js ih =>
    rw [find] at h
    split at h
    · cases h
    · next s hs =>
      split at h
      · next u hu =>
        cases h
        exact ⟨List.mem_cons_self, s, hs, hu⟩
      · obtain ⟨hk, hr⟩ := ih h
        exact ⟨List.mem_cons_of_mem _ hk, hr⟩

lemma text_prefix_of_find {lx : Lexicon} {input t : List Char} {ks : List Kind} {k : Kind}
    (h : lx.find input ks = .ok (some (k, t))) : t <+: input := by
  obtain ⟨_, _, _, hp⟩ := find_eq_some h
  exact (Spelling.prefixOf?_eq_some hp).1

lemma find_ne_error_of_spelled {lx : Lexicon} {input : List Char} {ks : List Kind} {e : LexiconError}
    (h : ∀ k ∈ ks, (lx.spelling? k).isSome) : lx.find input ks ≠ .error e := by
  induction ks with
  | nil => simp [find]
  | cons k ks ih =>
    obtain ⟨hk, hks⟩ := List.forall_mem_cons.mp h
    obtain ⟨s, hs⟩ := Option.isSome_iff_exists.mp hk
    rw [find, hs]
    dsimp only
    split
    · simp
    · exact ih hks

lemma end_prefixOf? (c : Char) (cs : List Char) :
    Automaton.prefixOf? ⟨#[.look .atStart, .look .atEnd, .accept]⟩ (c :: cs) = none := by
  have hr : ∀ r : Automaton.Run, r.states = [] → r.best = none → ∃ r',
      Automaton.run? ⟨#[.look .atStart, .look .atEnd, .accept]⟩ true r cs = some r' ∧ r'.best = none := by
    intro r hs hb
    cases cs with
    | nil =>
      refine ⟨_, rfl, ?_⟩
      rw [Automaton.finish, hs]
      exact hb
    | cons d ds =>
      refine ⟨r, ?_, hb⟩
      rw [Automaton.run?, if_pos]
      simp [Automaton.Run.isOver, hs, hb]
  have hstart : Automaton.run? ⟨#[.look .atStart, .look .atEnd, .accept]⟩ true .start (c :: cs) =
      Automaton.run? ⟨#[.look .atStart, .look .atEnd, .accept]⟩ true ⟨some c, 1, none, []⟩ cs := by
    rw [Automaton.run?, if_neg (by decide), if_neg (by simp [Automaton.hasEdge])]
    rfl
  obtain ⟨r, hr, hb⟩ := hr ⟨some c, 1, none, []⟩ rfl rfl
  simp [Automaton.prefixOf?, hstart, hr, hb]

lemma find_nil (m : Mode) : glow.find [] m.candidates = .ok (some (.endOfFile, [])) := by
  cases m <;> rfl

lemma find_end {input t : List Char} {ks : List Kind} (h : glow.find input ks = .ok (some (.endOfFile, t))) :
    input = [] := by
  obtain ⟨_, s, hs, hp⟩ := find_eq_some h
  have he : s = .regex "^(?:$)" ⟨#[.look .atStart, .look .atEnd, .accept]⟩ := (Option.some.inj hs).symm
  cases input with
  | nil => rfl
  | cons c cs =>
    rw [he, Spelling.prefixOf?, Spelling.candidate?, end_prefixOf?] at hp
    cases hp

lemma find_isEmpty {input t : List Char} {m : Mode} {k : Kind}
    (h : glow.find input m.candidates = .ok (some (k, t))) : t = [] ↔ k = .endOfFile := by
  obtain ⟨_, s, hs, hp⟩ := find_eq_some h
  obtain ⟨hpre, hempty⟩ := Spelling.prefixOf?_eq_some hp
  constructor
  · intro ht
    rw [hempty ht, find_nil] at h
    cases h
    rfl
  · rintro rfl
    rw [find_end h] at hpre
    exact List.prefix_nil.mp hpre

end Lexicon

namespace Scanner

lemma read_eq_ok {sc : Scanner} {s s' : ScanState} {t : Token} (h : sc.read s = .ok (t, s')) :
    ∃ rest text, sc.rest? s = some rest ∧ sc.lexicon.find rest s.mode.candidates = .ok (some (t.kind, text)) ∧
      t = ⟨t.kind, String.ofList text, s.pos, .ofOffsets s.offset s'.offset, sc.source.name⟩ ∧
      s' = s.advance t.kind text := by
  rw [read] at h
  split at h
  · cases h
  · next rest hr =>
    split at h
    · cases h
    · cases h
    · next k text hf =>
      cases h
      exact ⟨rest, text, hr, hf, rfl, rfl⟩

lemma read_bounds {sc : Scanner} {s s' : ScanState} {t : Token} (h : sc.read s = .ok (t, s')) :
    s.offset ≤ s'.offset ∧ s'.offset ≤ Text.size sc.source.text := by
  obtain ⟨rest, text, hr, hf, _, rfl⟩ := read_eq_ok h
  obtain ⟨more, rfl⟩ := Lexicon.text_prefix_of_find hf
  rw [rest?_eq] at hr
  obtain ⟨taken, htext, hsize⟩ := Text.dropBytes_eq_some_iff.mp hr
  simp only [ScanState.advance, htext, Text.size_append]
  omega

lemma modes_lt_steps (sc : Scanner) (s : ScanState) :
    Text.size sc.source.text - s.offset + Mode.all.length < sc.steps := by
  rw [steps, rests_eq, List.size_toArray, Text.length_rests]
  omega

lemma lt_steps (sc : Scanner) (s : ScanState) : Text.size sc.source.text - s.offset < sc.steps :=
  lt_of_le_of_lt (Nat.le_add_right _ _) (modes_lt_steps sc s)

variable {source : SourceFile} {s s' : ScanState} {t : Token}

lemma read_end (h : (Scanner.glow source).read s = .ok (t, s')) (ht : t.isEnd) : s' = s := by
  obtain ⟨rest, text, _, hf, _, rfl⟩ := read_eq_ok h
  have hk : t.kind = .endOfFile := by simpa [Token.isEnd] using ht
  obtain rfl : text = [] := (Lexicon.find_isEmpty hf).mpr hk
  rw [hk]
  cases s with
  | mk offset line column mode => cases mode <;> simp [ScanState.advance, Mode.after]

lemma read_advances (h : (Scanner.glow source).read s = .ok (t, s')) (ht : ¬ t.isEnd) :
    s.offset < s'.offset := by
  obtain ⟨rest, text, _, hf, _, rfl⟩ := read_eq_ok h
  have hne : text ≠ [] := by
    intro he
    exact ht (by simpa [Token.isEnd] using (Lexicon.find_isEmpty hf).mp he)
  obtain ⟨c, cs, rfl⟩ := List.exists_cons_of_ne_nil hne
  have hc := c.utf8Size_pos
  simp only [ScanState.advance, Text.size_cons]
  omega

end Scanner

end GlowSyntax
