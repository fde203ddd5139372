import GlowSyntax.Proofs.Automaton.Chain
import GlowSyntax.Proofs.Lexicon.Glow

/-!
The order of the candidates of a mode is that of maximal munch: what is found first is as long as anything
that stands there. Two candidates seldom begin with the same character, and then the one tried first is
the longer one.
-/

namespace GlowSyntax

namespace CharSet

def apart (s t : CharSet) : Bool := s.ranges.all fun a => t.ranges.all fun b => a.2 < b.1 || b.2 < a.1

lemma not_contains_of_apart {s t : CharSet} {c : Char} (h : s.apart t = true) (hs : s.contains c = true) :
    t.contains c = false := by
  simp only [contains, Unicode.Table.contains, List.any_eq_true, List.any_eq_false, Bool.and_eq_true,
    decide_eq_true_eq] at hs ⊢
  obtain ⟨a, ha, hlo, hhi⟩ := hs
  intro b hb
  have hab := List.all_eq_true.mp (List.all_eq_true.mp h a ha) b hb
  simp only [Bool.or_eq_true, decide_eq_true_eq] at hab
  omega

def below (s : CharSet) (limit : Nat) : Bool := s.ranges.all (·.2 < limit)

lemma lt_of_below {s : CharSet} {limit : Nat} {c : Char} (h : s.below limit = true) (hs : s.contains c = true) :
    c.toNat < limit := by
  simp only [contains, Unicode.Table.contains, List.any_eq_true, Bool.and_eq_true, decide_eq_true_eq] at hs
  obtain ⟨a, ha, _, hhi⟩ := hs
  have hlimit : a.2 < limit := by simpa using List.all_eq_true.mp h a ha
  omega

def within (s t : CharSet) : Bool := s.ranges.all fun a => t.ranges.any fun b => b.1 ≤ a.1 && a.2 ≤ b.2

lemma contains_of_within {s t : CharSet} {c : Char} (h : s.within t = true) (hs : s.contains c = true) :
    t.contains c = true := by
  simp only [contains, Unicode.Table.contains, List.any_eq_true, Bool.and_eq_true, decide_eq_true_eq] at hs ⊢
  obtain ⟨a, ha, hlo, hhi⟩ := hs
  have hrow := List.all_eq_true.mp h a ha
  simp only [List.any_eq_true, Bool.and_eq_true, decide_eq_true_eq] at hrow
  obtain ⟨b, hb, hlo', hhi'⟩ := hrow
  exact ⟨b, hb, by omega, by omega⟩

end CharSet

namespace Unicode

lemma isWord_eq {c : Char} (hc : c.toNat < 128) : isWord c = CharSet.asciiWord.contains c := by
  have hall : ∀ n < 128, isWord (Char.ofNat n) = CharSet.asciiWord.contains (Char.ofNat n) := by decide +kernel
  rw [← Char.ofNat_toNat c]
  exact hall _ hc

lemma isWord_of_asciiWord {c : Char} (hc : CharSet.asciiWord.contains c = true) : isWord c = true := by
  rw [isWord_eq (CharSet.lt_of_below (by decide) hc)]
  exact hc

end Unicode

namespace Spelling

def openers? : Spelling → Option CharSet
  | literal t => t.toList.head?.map .single
  | regex _ a =>
    match a.states.toList with
    | .look .atStart :: .take s :: _ => some s
    | _ => none

lemma openers_of_candidate? {s : Spelling} {set : CharSet} {input t : List Char} (hset : s.openers? = some set)
    (h : s.candidate? input = some t) : ∃ c cs, input = c :: cs ∧ set.contains c = true := by
  cases s with
  | literal l =>
    obtain ⟨c, hc, rfl⟩ := Option.map_eq_some_iff.mp hset
    obtain ⟨cs, hl⟩ := List.head?_eq_some_iff.mp hc
    simp only [candidate?, Option.ite_none_right_eq_some, hl] at h
    obtain ⟨after, rfl⟩ := List.isPrefixOf_iff_prefix.mp h.1
    exact ⟨c, cs ++ after, rfl, Automaton.contains_single.mpr rfl⟩
  | regex _ a =>
    rw [openers?] at hset
    split at hset
    · next more hstates =>
      cases hset
      have hget (i : Nat) : a.states[i]? = (Automaton.State.look .atStart :: .take set :: more)[i]? := by
        rw [← hstates, Array.getElem?_toList]
      exact Automaton.opens_of_prefixOf? (hget 0) (hget 1) h
    · cases hset

lemma prefixOf?_of_candidate? {s : Spelling} {input t : List Char} (h : s.candidate? input = some t)
    (ht : t ≠ []) : s.prefixOf? input = some t := by
  simp [prefixOf?, h, ht]

end Spelling

namespace Lexicon

lemma find_first {lx : Lexicon} {input t : List Char} {ks : List Kind} {k : Kind}
    (h : lx.find input ks = .ok (some (k, t))) :
    ∃ earlier later, ks = earlier ++ k :: later ∧
      ∀ j ∈ earlier, ∀ s, lx.spelling? j = some s → s.prefixOf? input = none := by
  induction ks with
  | nil => cases h
  | cons j ks ih =>
    rw [find] at h
    split at h
    · cases h
    · next s hs =>
      split at h
      · cases h
        exact ⟨[], ks, rfl, by simp⟩
      · next hnone =>
        obtain ⟨earlier, later, rfl, hearlier⟩ := ih h
        refine ⟨j :: earlier, later, rfl, List.forall_mem_cons.mpr ⟨?_, hearlier⟩⟩
        intro s' hs'
        rw [hs] at hs'
        cases hs'
        exact hnone

section Words

def nameStart : CharSet := .unions [.range 'A' 'Z', .single '_', .range 'a' 'z']

def nameAutomaton : Automaton :=
  ⟨#[.look .atStart, .take nameStart, .fork 1 3, .take .asciiWord, .jump (-2), .accept]⟩

lemma identifierSpelling_eq : identifierSpelling = some (.regex "^(?:[a-zA-Z_][a-zA-Z_0-9]*)" nameAutomaton) := by
  decide +kernel

lemma name_prefixOf? (c : Char) (cs : List Char) : nameAutomaton.prefixOf? (c :: cs) =
    if nameStart.contains c then some ((c :: cs).takeWhile CharSet.asciiWord.contains) else none := by
  have hsettle (staged : Bool) : ∀ i ∈ [2, 4], ∀ p, nameAutomaton.settle staged p [i] = [3, 5] := by
    cases staged <;> exact List.forall_mem_cons.mpr ⟨fun _ => rfl, List.forall_mem_singleton.mpr fun _ => rfl⟩
  have hstart (c : Char) (hc : nameStart.contains c = true) : CharSet.asciiWord.contains c = true :=
    CharSet.contains_of_within (by decide) hc
  exact Automaton.loop_prefixOf? rfl rfl hsettle rfl rfl (by simp) (by simp) hstart

lemma name_candidate? {s : Spelling} (hs : glow.spelling? .identifier = some s) {input t : List Char}
    (h : s.candidate? input = some t) : t = input.takeWhile CharSet.asciiWord.contains := by
  obtain rfl := Option.some.inj (hs.symm.trans identifierSpelling_eq)
  obtain ⟨c, cs, rfl, hc⟩ := Automaton.opens_of_prefixOf? rfl rfl h
  rw [Spelling.candidate?, name_prefixOf?, if_pos hc] at h
  exact (Option.some.inj h).symm

def digits : CharSet := .range '0' '9'

def integerAutomaton : Automaton := ⟨#[.look .atStart, .take digits, .fork (-1) 1, .accept]⟩

lemma integerSpelling_eq : integerSpelling = some (.regex "^(?:[0-9]+)" integerAutomaton) := by
  decide +kernel

lemma integer_prefixOf? (c : Char) (cs : List Char) : integerAutomaton.prefixOf? (c :: cs) =
    if digits.contains c then some ((c :: cs).takeWhile digits.contains) else none := by
  have hsettle (staged : Bool) : ∀ i ∈ [2], ∀ p, integerAutomaton.settle staged p [i] = [1, 3] := by
    cases staged <;> exact List.forall_mem_singleton.mpr fun _ => rfl
  exact Automaton.loop_prefixOf? rfl rfl hsettle rfl rfl (by simp) (by simp) fun _ hc => hc

lemma integer_candidate? {s : Spelling} (hs : glow.spelling? .integer = some s) {input t : List Char}
    (h : s.candidate? input = some t) : t = input.takeWhile digits.contains := by
  obtain rfl := Option.some.inj (hs.symm.trans integerSpelling_eq)
  obtain ⟨c, cs, rfl, hc⟩ := Automaton.opens_of_prefixOf? rfl rfl h
  rw [Spelling.candidate?, integer_prefixOf?, if_pos hc] at h
  exact (Option.some.inj h).symm

lemma keyword_spelling {k : Kind} (hk : k.isKeyword = true) :
    ∃ text c w, glow.spelling? k = some (.regex text (.ofWord (c :: w))) ∧
      k.spelling? = some (String.ofList (c :: w)) ∧ ∀ d ∈ c :: w, CharSet.asciiWord.contains d = true := by
  cases k with
  | kwVar => exact ⟨"^(?:var\\b)", 'v', ['a', 'r'], by decide +kernel, rfl, List.all_eq_true.mp rfl⟩
  | kwConst => exact ⟨"^(?:const\\b)", 'c', ['o', 'n', 's', 't'], by decide +kernel, rfl, List.all_eq_true.mp rfl⟩
  | kwFunc => exact ⟨"^(?:func\\b)", 'f', ['u', 'n', 'c'], by decide +kernel, rfl, List.all_eq_true.mp rfl⟩
  | _ => cases hk

lemma keyword_candidate? {k : Kind} (hk : k.isKeyword = true) {s : Spelling} (hs : glow.spelling? k = some s)
    (input : List Char) : ∃ w, k.spelling? = some (String.ofList w) ∧
      (∀ c ∈ w, CharSet.asciiWord.contains c = true) ∧
      s.candidate? input = if Automaton.standsAlone w input then some w else none := by
  obtain ⟨text, c, w, hspelling, hw, hall⟩ := keyword_spelling hk
  obtain rfl := Option.some.inj (hs.symm.trans hspelling)
  exact ⟨c :: w, hw, hall, Automaton.ofWord_prefixOf? fun d hd => Unicode.isWord_of_asciiWord (hall d hd)⟩

lemma literal_spelling {k : Kind} (hk : ¬ k.isKeyword = true) {w : String} (hw : k.spelling? = some w) :
    glow.spelling? k = some (.literal w) := by
  have hglow : glow.spelling? k = k.spelling?.map .literal := by
    cases k <;> first | rfl | exact absurd rfl hk | cases hw
  rw [hglow, hw, Option.map_some]

lemma spelling_of_find {input t : List Char} {ks : List Kind} {k : Kind} {w : String}
    (h : glow.find input ks = .ok (some (k, t))) (hw : k.spelling? = some w) : String.ofList t = w := by
  obtain ⟨_, s, hs, hp⟩ := find_eq_some h
  have hc : s.candidate? input = some t := (Option.filter_eq_some_iff.mp hp).1
  by_cases hk : k.isKeyword = true
  · obtain ⟨v, hv, -, hcandidate⟩ := keyword_candidate? hk hs input
    rw [hcandidate, Option.ite_none_right_eq_some] at hc
    rw [← Option.some.inj hc.2]
    exact Option.some.inj (hv.symm.trans hw)
  · obtain rfl := Option.some.inj (hs.symm.trans (literal_spelling hk hw))
    simp only [Spelling.candidate?, Option.ite_none_right_eq_some, Option.some.injEq] at hc
    rw [← hc.2, String.ofList_toList]

end Words

end Lexicon

namespace Spelling

def isShort : Spelling → Bool
  | literal t => t.toList.length ≤ 1
  | regex _ a => a == Lexicon.anyAutomaton

lemma length_le_of_isShort {s : Spelling} {input t : List Char} (hs : s.isShort = true)
    (h : s.candidate? input = some t) : t.length ≤ 1 := by
  cases s with
  | literal l =>
    simp only [candidate?, Option.ite_none_right_eq_some, Option.some.injEq] at h
    simpa [isShort, h.2] using hs
  | regex _ a =>
    obtain rfl : a = Lexicon.anyAutomaton := by simpa [isShort] using hs
    obtain ⟨c, cs, rfl, hc⟩ := Automaton.opens_of_prefixOf? rfl rfl h
    have hbreak : c ≠ '\n' := by
      rintro rfl
      exact absurd hc (by decide)
    rw [candidate?, Lexicon.any_prefixOf? hbreak] at h
    rw [← Option.some.inj h, List.length_singleton]

end Spelling

namespace Kind

def openers (k : Kind) : CharSet := ((Lexicon.glow.spelling? k).bind Spelling.openers?).getD .empty

def isShort (k : Kind) : Bool := (Lexicon.glow.spelling? k).all Spelling.isShort

end Kind

namespace Lexicon

variable {input t t' : List Char} {k k' : Kind} {s s' : Spelling}

lemma openers_contains (hs : glow.spelling? k = some s) (hc : s.candidate? input = some t) (ht : t ≠ []) :
    ∃ c cs, input = c :: cs ∧ k.openers.contains c = true := by
  by_cases hk : k = .endOfFile
  · obtain ⟨c, cs, rfl⟩ := List.exists_cons_of_ne_nil ht
    obtain ⟨after, rfl⟩ := Spelling.candidate?_begins hc
    have hend : s = .regex "^(?:$)" ⟨#[.look .atStart, .look .atEnd, .accept]⟩ := by
      subst hk
      exact (Option.some.inj hs).symm
    rw [hend, Spelling.candidate?, List.cons_append, end_prefixOf?] at hc
    cases hc
  · have hall : ((glow.spelling? k).bind Spelling.openers?).isSome = true := by
      revert hk
      clear hs
      cases k <;> decide +kernel
    obtain ⟨set, hset⟩ := Option.isSome_iff_exists.mp hall
    rw [Kind.openers, hset]
    rw [hs] at hset
    exact Spelling.openers_of_candidate? hset hc

/-- Of two kinds that can stand at the same place the first one is not shorter: they begin with different
characters, the second one has a single character, or a keyword comes before the names. -/
def Outdoes (k k' : Kind) : Prop :=
  k.openers.apart k'.openers = true ∨ k'.isShort = true ∨ (k.isKeyword = true ∧ k' = .identifier)

instance (k k' : Kind) : Decidable (Outdoes k k') := inferInstanceAs (Decidable (_ ∨ _))

lemma candidates_outdo (m : Mode) : m.candidates.Pairwise Outdoes := by
  cases m <;> decide +kernel

lemma prefix_of_outdoes (h : Outdoes k k') (hs : glow.spelling? k = some s) (hs' : glow.spelling? k' = some s')
    (hc : s.candidate? input = some t) (hc' : s'.candidate? input = some t') (ht : t ≠ []) (ht' : t' ≠ []) :
    t' <+: t := by
  obtain hapart | hshort | ⟨hkeyword, rfl⟩ := h
  · obtain ⟨c, cs, rfl, hopens⟩ := openers_contains hs hc ht
    obtain ⟨c', cs', hcons, hopens'⟩ := openers_contains hs' hc' ht'
    obtain ⟨rfl, -⟩ := List.cons.inj hcons
    rw [CharSet.not_contains_of_apart hapart hopens] at hopens'
    cases hopens'
  · have hlength : t'.length ≤ 1 := by
      rw [Kind.isShort, hs'] at hshort
      exact Spelling.length_le_of_isShort hshort hc'
    have hpos := List.length_pos_iff.mpr ht
    exact List.prefix_of_prefix_length_le (Spelling.candidate?_begins hc') (Spelling.candidate?_begins hc)
      (by omega)
  · obtain ⟨w, -, hall, hw⟩ := keyword_candidate? hkeyword hs input
    rw [hw, Option.ite_none_right_eq_some] at hc
    obtain ⟨halone, hwt⟩ := hc
    obtain rfl := Option.some.inj hwt
    obtain ⟨after, rfl, hafter⟩ := Automaton.standsAlone_iff.mp halone
    have hstop : after.takeWhile CharSet.asciiWord.contains = [] := by
      cases after with
      | nil => rfl
      | cons c cs =>
        have hword : ¬ CharSet.asciiWord.contains c = true := fun h => by
          simp [Unicode.isWord_of_asciiWord h] at hafter
        exact List.takeWhile_cons_of_neg hword
    obtain rfl : t' = w := by
      rw [name_candidate? hs' hc', List.takeWhile_append_of_pos hall, hstop, List.append_nil]
    exact List.prefix_rfl

lemma prefix_of_find {m : Mode} (h : glow.find input m.candidates = .ok (some (k, t))) (hk' : k' ∈ m.candidates)
    (hs' : glow.spelling? k' = some s') (hc' : s'.candidate? input = some t') : t' <+: t := by
  obtain ⟨_, s, hs, hp⟩ := find_eq_some h
  have hc : s.candidate? input = some t := (Option.filter_eq_some_iff.mp hp).1
  by_cases ht' : t' = []
  · rw [ht']
    exact List.nil_prefix
  · have ht : t ≠ [] := by
      rintro rfl
      rw [(Spelling.prefixOf?_eq_some hp).2 rfl] at hc'
      exact ht' (List.prefix_nil.mp (Spelling.candidate?_begins hc'))
    obtain ⟨earlier, later, hsplit, hearlier⟩ := find_first h
    have hpairs := candidates_outdo m
    rw [hsplit] at hk' hpairs
    obtain ⟨-, hpairs, -⟩ := List.pairwise_append.mp hpairs
    rcases List.mem_append.mp hk' with hbefore | hafter
    · have hnone := hearlier k' hbefore s' hs'
      rw [Spelling.prefixOf?_of_candidate? hc' ht'] at hnone
      cases hnone
    · rcases List.mem_cons.mp hafter with rfl | hlater
      · rw [hs] at hs'
        cases hs'
        rw [hc] at hc'
        cases hc'
        exact List.prefix_rfl
      · exact prefix_of_outdoes (List.rel_of_pairwise_cons hpairs hlater) hs hs' hc hc' ht ht'

lemma ascii_of_find {c : Char} {cs : List Char} (h : glow.find (c :: cs) Mode.code.candidates = .ok (some (k, t))) :
    c.toNat < 128 := by
  obtain ⟨hk, s, hs, hp⟩ := find_eq_some h
  have hc : s.candidate? (c :: cs) = some t := (Option.filter_eq_some_iff.mp hp).1
  have ht : t ≠ [] := fun ht => by cases (Spelling.prefixOf?_eq_some hp).2 ht
  obtain ⟨c', cs', hcons, hopens⟩ := openers_contains hs hc ht
  obtain ⟨rfl, -⟩ := List.cons.inj hcons
  have hall : ∀ j ∈ Mode.code.candidates, j.openers.below 128 = true := by decide +kernel
  exact CharSet.lt_of_below (hall k hk) hopens

def goesOnWith (k : Kind) (c : Char) : Bool :=
  match k with
  | .identifier => Unicode.isWord c
  | .integer => CharSet.decimal.contains c
  | _ => false

lemma stops_of_eq_takeWhile {p : Char → Bool} {c : Char} {cs : List Char} (h : t = (t ++ c :: cs).takeWhile p) :
    p c = false := by
  have hall : ∀ d ∈ t, p d = true := by
    intro d hd
    rw [h] at hd
    exact List.all_eq_true.mp List.all_takeWhile d hd
  rw [List.takeWhile_append_of_pos hall] at h
  have hnil := List.append_right_eq_self.mp h.symm
  by_contra hc
  rw [List.takeWhile_cons_of_pos (by simpa using hc)] at hnil
  cases hnil

lemma not_goesOnWith_of_ascii {c : Char} {cs : List Char} (hc : c.toNat < 128)
    (h : glow.find (t ++ c :: cs) Mode.code.candidates = .ok (some (k, t))) : goesOnWith k c = false := by
  obtain ⟨_, s, hs, hp⟩ := find_eq_some h
  have hcandidate : s.candidate? (t ++ c :: cs) = some t := (Option.filter_eq_some_iff.mp hp).1
  cases k with
  | identifier =>
    rw [goesOnWith, Unicode.isWord_eq hc]
    exact stops_of_eq_takeWhile (name_candidate? hs hcandidate)
  | integer =>
    have hdigits : digits.contains c = false := stops_of_eq_takeWhile (integer_candidate? hs hcandidate)
    have hbeyond : Unicode.decimalTable.all (128 ≤ ·.1) = true := by decide
    rw [goesOnWith, CharSet.decimal, CharSet.contains, Unicode.Table.contains, List.any_append, Bool.or_eq_false_iff]
    refine ⟨hdigits, List.any_eq_false.mpr fun row hrow => ?_⟩
    have hrow := List.all_eq_true.mp hbeyond row hrow
    simp only [decide_eq_true_eq] at hrow
    simp only [Bool.and_eq_true, decide_eq_true_eq]
    omega
  | _ => rfl

lemma ne_keyword_of_find {after : List Char} (hk : k.isKeyword = true)
    (h : glow.find (t ++ after) Mode.code.candidates = .ok (some (.identifier, t)))
    (hafter : after.head?.any Unicode.isWord = false) : k.spelling? ≠ some (String.ofList t) := by
  intro hspelling
  obtain ⟨s, hs⟩ := Option.isSome_iff_exists.mp (glow_complete k)
  obtain ⟨w, hw, _, hcandidate⟩ := keyword_candidate? hk hs (t ++ after)
  obtain rfl : w = t := String.ofList_inj.mp (Option.some.inj (hw.symm.trans hspelling))
  rw [if_pos (Automaton.standsAlone_iff.mpr ⟨after, rfl, hafter⟩)] at hcandidate
  have hne : w ≠ [] := by
    rintro rfl
    cases (find_isEmpty h).mp rfl
  obtain ⟨earlier, later, hsplit, hearlier⟩ := find_first h
  -- Keywords are tried before names.
  have hmem : k ∈ Mode.code.candidates := by cases k <;> first | decide | cases hk
  have horder : Mode.code.candidates.Pairwise fun j j' => j = .identifier → j'.isKeyword = false := by decide
  rw [hsplit] at hmem horder
  rcases List.mem_append.mp hmem with hbefore | hbehind
  · have hnone := hearlier k hbefore s hs
    rw [Spelling.prefixOf?_of_candidate? hcandidate hne] at hnone
    cases hnone
  · rcases List.mem_cons.mp hbehind with rfl | hlater
    · cases hk
    · have hno := List.rel_of_pairwise_cons (List.pairwise_append.mp horder).2.1 hlater rfl
      rw [hk] at hno
      cases hno

end Lexicon

end GlowSyntax
