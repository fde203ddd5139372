import GlowSyntax.Proofs.Lexicon.Munch

/-!
Slashes behind a text. In front of a slash the same candidate is found as at the end of the text, since no candidate
but two slashes goes on with one; so what follows the slash does not matter. The exception is a slash at the end of
the text, which the next one makes the beginning of a comment.
-/

namespace GlowSyntax

variable {r y t w : List Char} {c : Char} {p : Char → Bool}

lemma prefix_append_slash_iff (h : '/' ∉ t) : t <+: r ++ '/' :: y ↔ t <+: r := by
  induction t generalizing r with
  | nil => simp
  | cons c t ih =>
    obtain ⟨hc, ht⟩ := not_or.mp (mt List.mem_cons.mpr h)
    cases r with
    | nil => simp [List.cons_prefix_cons, Ne.symm hc]
    | cons d r => rw [List.cons_append, List.cons_prefix_cons, List.cons_prefix_cons, ih ht]

lemma takeWhile_append_slash (h : p '/' = false) : (r ++ '/' :: y).takeWhile p = r.takeWhile p := by
  induction r with
  | nil => simp [h]
  | cons c r ih => rw [List.cons_append, List.takeWhile_cons, List.takeWhile_cons, ih]

lemma Automaton.standsAlone_slash (h : '/' ∉ w) : standsAlone w (r ++ '/' :: y) = standsAlone w r := by
  induction w generalizing r with
  | nil =>
    cases r with
    | nil =>
      have hslash : Unicode.isWord '/' = false := by decide +kernel
      simp [standsAlone, hslash]
    | cons c r => rfl
  | cons d w ih =>
    obtain ⟨hd, hw⟩ := not_or.mp (mt List.mem_cons.mpr h)
    cases r with
    | nil => simp [standsAlone, hd]
    | cons c r => rw [List.cons_append, standsAlone, standsAlone, ih hw]

namespace Spelling

variable {s : Spelling}

lemma literal_slash {l : String} (hl : '/' ∉ l.toList.tail) (hr : r ≠ []) :
    (literal l).candidate? (r ++ '/' :: y) = (literal l).candidate? r := by
  obtain ⟨c, r, rfl⟩ := List.exists_cons_of_ne_nil hr
  have hiff : l.toList <+: c :: (r ++ '/' :: y) ↔ l.toList <+: c :: r := by
    cases h : l.toList with
    | nil => simp
    | cons d t =>
      rw [h, List.tail_cons] at hl
      rw [List.cons_prefix_cons, List.cons_prefix_cons, prefix_append_slash_iff hl]
  simp only [candidate?, List.cons_append, List.isPrefixOf_iff_prefix, hiff]

lemma slashes_slash (hr : r ≠ []) (hslash : r ≠ ['/']) :
    (literal "//").candidate? (r ++ '/' :: y) = (literal "//").candidate? r := by
  obtain ⟨c, r, rfl⟩ := List.exists_cons_of_ne_nil hr
  have hiff : ['/', '/'] <+: c :: (r ++ '/' :: y) ↔ ['/', '/'] <+: c :: r := by
    rw [List.cons_prefix_cons, List.cons_prefix_cons]
    cases r with
    | nil =>
      have hc : '/' ≠ c := by
        rintro rfl
        exact hslash rfl
      simp [hc]
    | cons d r => simp [List.cons_prefix_cons]
  have htext : "//".toList = ['/', '/'] := rfl
  simp only [candidate?, htext, List.cons_append, List.isPrefixOf_iff_prefix, hiff]

lemma prefixOf?_slash (hr : r ≠ []) (h : s.candidate? (r ++ '/' :: y) = s.candidate? r) :
    s.prefixOf? (r ++ '/' :: y) = s.prefixOf? r := by
  obtain ⟨c, r, rfl⟩ := List.exists_cons_of_ne_nil hr
  rw [prefixOf?, h, prefixOf?]
  rfl

end Spelling

namespace Lexicon

variable {k : Kind} {s : Spelling}

lemma blankSpelling_eq :
    blankSpelling = some (.regex "^(?:[ \\t])" ⟨#[.look .atStart, .take ⟨[(9, 9), (32, 32)]⟩, .accept]⟩) := by
  decide +kernel

lemma candidate?_slash (hs : glow.spelling? k = some s) (hr : r ≠ []) (hslash : k = .slashes → r ≠ ['/']) :
    s.candidate? (r ++ '/' :: y) = s.candidate? r := by
  obtain ⟨c, r, rfl⟩ := List.exists_cons_of_ne_nil hr
  by_cases hk : k.isKeyword = true
  · obtain ⟨text, d, w, hspelling, -, hword⟩ := keyword_spelling hk
    obtain rfl := Option.some.inj (hs.symm.trans hspelling)
    have hw : '/' ∉ d :: w := fun hmem => absurd (hword _ hmem) (by decide)
    have hall : ∀ e ∈ d :: w, Unicode.isWord e = true := fun e he => Unicode.isWord_of_asciiWord (hword e he)
    rw [Spelling.candidate?, Spelling.candidate?, Automaton.ofWord_prefixOf? hall, Automaton.ofWord_prefixOf? hall,
      Automaton.standsAlone_slash hw]
  · cases k with
    | kwVar | kwConst | kwFunc => exact absurd rfl hk
    | identifier =>
      obtain rfl := Option.some.inj (hs.symm.trans identifierSpelling_eq)
      simp only [Spelling.candidate?, List.cons_append, name_prefixOf?]
      rw [← List.cons_append, takeWhile_append_slash (by decide)]
    | integer =>
      obtain rfl := Option.some.inj (hs.symm.trans integerSpelling_eq)
      simp only [Spelling.candidate?, List.cons_append, integer_prefixOf?]
      rw [← List.cons_append, takeWhile_append_slash (by decide)]
    | blank =>
      obtain rfl := Option.some.inj (hs.symm.trans blankSpelling_eq)
      simp only [Spelling.candidate?, List.cons_append]
      rw [Automaton.single_prefixOf? rfl rfl rfl, Automaton.single_prefixOf? rfl rfl rfl]
    | stringChar | commentChar =>
      obtain rfl := Option.some.inj (hs.symm.trans anySpelling_eq)
      simp only [Spelling.candidate?, List.cons_append]
      rw [Automaton.single_prefixOf? rfl rfl rfl, Automaton.single_prefixOf? rfl rfl rfl]
    | endOfFile =>
      obtain rfl : s = .regex "^(?:$)" ⟨#[.look .atStart, .look .atEnd, .accept]⟩ := (Option.some.inj hs).symm
      simp only [Spelling.candidate?, List.cons_append, end_prefixOf?]
    | slashes =>
      obtain rfl := Option.some.inj hs
      exact Spelling.slashes_slash hr (hslash rfl)
    | _ =>
      obtain rfl := Option.some.inj hs
      exact Spelling.literal_slash (by decide +kernel) hr

lemma find_append_slash {ks : List Kind} (hr : r ≠ []) (hslash : .slashes ∈ ks → r ≠ ['/']) :
    glow.find (r ++ '/' :: y) ks = glow.find r ks := by
  induction ks with
  | nil => rfl
  | cons k ks ih =>
    obtain ⟨s, hs⟩ := Option.isSome_iff_exists.mp (glow_complete k)
    have hcandidate : s.candidate? (r ++ '/' :: y) = s.candidate? r :=
      candidate?_slash hs hr fun hk => hslash (hk ▸ List.mem_cons_self)
    rw [find, find, hs, ih fun hmem => hslash (List.mem_cons_of_mem k hmem)]
    simp only [Spelling.prefixOf?_slash hr hcandidate]

theorem find_slash {m : Mode} (hr : r ≠ []) (hslash : m = .code → r ≠ ['/']) :
    glow.find (r ++ '/' :: y) m.candidates = glow.find r m.candidates := by
  apply find_append_slash hr
  intro hmem
  cases m with
  | code => exact hslash rfl
  | string | comment => exact absurd hmem (by decide)

lemma find_slashes (y : List Char) :
    glow.find ('/' :: '/' :: y) Mode.code.candidates = .ok (some (.slashes, ['/', '/'])) := rfl

lemma find_cons_of_none {lx : Lexicon} {ks : List Kind} (hs : lx.spelling? k = some s) (h : s.prefixOf? r = none) :
    lx.find r (k :: ks) = lx.find r ks := by
  rw [find, hs]
  simp only [h]

lemma find_cons_of_some {lx : Lexicon} {ks : List Kind} (hs : lx.spelling? k = some s) (h : s.prefixOf? r = some t) :
    lx.find r (k :: ks) = .ok (some (k, t)) := by
  rw [find, hs]
  simp only [h]

lemma find_commentChar (hc : c ≠ '\n') (y : List Char) :
    glow.find (c :: y) Mode.comment.candidates = .ok (some (.commentChar, [c])) := by
  have hbreak : (Spelling.literal "\n").prefixOf? (c :: y) = none := by
    simp [Spelling.prefixOf?, Spelling.candidate?, Ne.symm hc]
  have hend : (Spelling.regex "^(?:$)" ⟨#[.look .atStart, .look .atEnd, .accept]⟩).prefixOf? (c :: y) = none := by
    simp [Spelling.prefixOf?, Spelling.candidate?, end_prefixOf?]
  have hany : (Spelling.regex "^(?:.)" anyAutomaton).prefixOf? (c :: y) = some [c] := by
    simp [Spelling.prefixOf?, Spelling.candidate?, any_prefixOf? hc]
  calc
    _ = glow.find (c :: y) [.endOfFile, .commentChar] := find_cons_of_none rfl hbreak
    _ = glow.find (c :: y) [.commentChar] := find_cons_of_none rfl hend
    _ = .ok (some (.commentChar, [c])) := find_cons_of_some rfl hany

lemma find_commentEnd (y : List Char) :
    glow.find ('\n' :: y) Mode.comment.candidates = .ok (some (.endOfLine, ['\n'])) := rfl

end Lexicon

end GlowSyntax
