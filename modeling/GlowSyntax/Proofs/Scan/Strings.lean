import GlowSyntax.Proofs.Parse.Leftover
import GlowSyntax.Proofs.Scan.Located

namespace GlowSyntax

namespace Scanner

variable {source : SourceFile} {s s' : ScanState} {t : Token} {ts : List Token} {before rest : List Char} {n : Nat}

lemma eq_endOfLine_of_trivia {k : Kind} (hk : k ∈ Mode.string.candidates) (ht : k.isTrivia = true) :
    k = .endOfLine := by
  cases k <;> first | rfl | exact absurd hk (by decide) | exact absurd ht (by decide)

lemma after_string {k : Kind} (hk : k ≠ .quote) : Mode.string.after k = .string := by
  cases k <;> first | rfl | exact absurd rfl hk

lemma after_ne_string {m : Mode} {k : Kind} (hm : m ≠ .string) (hk : k.isTrivia = true) : m.after k ≠ .string := by
  cases m with
  | string => exact absurd rfl hm
  | code | comment => cases k <;> first | decide | exact absurd hk (by decide)

lemma find_quote {input text : List Char} {ks : List Kind} (h : Lexicon.glow.find input ks = .ok (some (.quote, text))) :
    text = ['"'] := by
  obtain ⟨_, s, hs, hp⟩ := Lexicon.find_eq_some h
  obtain rfl : s = .literal "\"" := (Option.some.inj hs).symm
  have hc := (Option.filter_eq_some_iff.mp hp).1
  simp only [Spelling.candidate?, Option.ite_none_right_eq_some, Option.some.injEq] at hc
  exact hc.2.symm

structure Crosses (source : SourceFile) (before rest : List Char) (t : Token) (s' : ScanState) (skipped : List Char) :
    Prop where
  breaks : ∀ c ∈ skipped, c = '\n'
  no_break : '\n' ∉ t.content.toList
  mode_eq : s'.mode = Mode.string.after t.kind
  quote : t.kind = .quote → t.content.toList = ['"']
  between : ∃ after, rest = skipped ++ (t.content.toList ++ after) ∧
    s'.Between source (before ++ (skipped ++ t.content.toList)) after

lemma nextWithin_crosses (hs : s.Between source before rest) (hmode : s.mode = .string)
    (h : (Scanner.glow source).nextWithin n s = .ok (t, s')) : ∃ skipped, Crosses source before rest t s' skipped := by
  induction n generalizing s before rest with
  | zero => cases h
  | succ n ih =>
    rw [nextWithin] at h
    split at h
    · cases h
    · next u m hread =>
      obtain ⟨text, after, rfl, hf, hu, hadvance, hm⟩ := read_between hs hread
      have hcontent : u.content.toList = text := by rw [hu, String.toList_ofList]
      have hkind := (Lexicon.find_eq_some hf).1
      have hbreak := Lexicon.find_lineBreak hf
      have hmode' : m.mode = Mode.string.after u.kind := by
        rw [hadvance, ← hmode]
        rfl
      rw [hmode] at hkind
      split at h
      · next htrivia =>
        have hk := eq_endOfLine_of_trivia hkind htrivia
        rw [if_pos hk] at hbreak
        rw [hk] at hmode'
        subst hbreak
        obtain ⟨skipped, hc⟩ := ih hm hmode' h
        obtain ⟨last, hrest, hlast⟩ := hc.between
        refine ⟨'\n' :: skipped, List.forall_mem_cons.mpr ⟨rfl, hc.breaks⟩, hc.no_break, hc.mode_eq, hc.quote, last, ?_, ?_⟩
        · rw [hrest]
          rfl
        · rwa [List.append_assoc] at hlast
      · next htrivia =>
        cases h
        have hk : t.kind ≠ .endOfLine := by
          intro hk
          rw [hk] at htrivia
          exact htrivia rfl
        rw [if_neg hk] at hbreak
        refine ⟨[], by simp, hcontent ▸ hbreak, hmode', ?_, after, ?_, ?_⟩
        · intro hquote
          rw [hquote] at hf
          rw [hcontent, find_quote hf]
        · rw [hcontent]
          rfl
        · rw [hcontent]
          exact hm

lemma yields_string (hs : s.Between source before rest) (hmode : s.mode = .string)
    (h : Yields (.glow source) s ts s') (hts : ∀ t ∈ ts, t.kind ≠ .quote) :
    ∃ inner after, rest = inner ++ after ∧ inner.filter (· ≠ '\n') = ts.flatMap (·.content.toList) ∧
      s'.mode = .string ∧ s'.Between source (before ++ inner) after := by
  induction h generalizing before rest with
  | nil => exact ⟨[], rest, rfl, rfl, hmode, by rwa [List.append_nil]⟩
  | @cons s m s' t ts hn _ ih =>
    obtain ⟨ht, hts⟩ := List.forall_mem_cons.mp hts
    obtain ⟨skipped, hc⟩ := nextWithin_crosses hs hmode hn
    obtain ⟨last, rfl, hm⟩ := hc.between
    have hmode' : m.mode = .string := hc.mode_eq.trans (after_string ht)
    obtain ⟨inner, after, rfl, hfilter, hmode, hbetween⟩ := ih hm hmode' hts
    refine ⟨skipped ++ (t.content.toList ++ inner), after, by simp, ?_, hmode, by simpa using hbetween⟩
    have hskipped : skipped.filter (· ≠ '\n') = [] := by simpa using hc.breaks
    have hcontent : t.content.toList.filter (· ≠ '\n') = t.content.toList := by
      rw [List.filter_eq_self]
      intro c hmem
      have hne : c ≠ '\n' := fun heq => hc.no_break (heq ▸ hmem)
      simpa using hne
    rw [List.filter_append, List.filter_append, hskipped, hcontent, hfilter]
    rfl

lemma nextWithin_opens (hs : s.Located source) (hmode : s.mode ≠ .string)
    (h : (Scanner.glow source).nextWithin n s = .ok (t, s')) (ht : t.kind = .quote) :
    s'.mode = .string ∧ ∃ before rest, s'.Between source (before ++ ['"']) rest := by
  induction n generalizing s with
  | zero => cases h
  | succ n ih =>
    rw [nextWithin] at h
    split at h
    · cases h
    · next u m hread =>
      obtain ⟨before, rest, hbetween⟩ := hs
      obtain ⟨text, after, rfl, hf, -, hadvance, hm⟩ := read_between hbetween hread
      have hkind := (Lexicon.find_eq_some hf).1
      have hmode' : m.mode = s.mode.after u.kind := by
        rw [hadvance]
        rfl
      split at h
      · next htrivia =>
        exact ih ⟨_, _, hm⟩ (hmode' ▸ after_ne_string hmode htrivia) h
      · cases h
        rw [ht] at hf hkind hmode'
        have hcode : s.mode = .code := by
          generalize s.mode = mode at hmode hkind
          cases mode with
          | code => rfl
          | string => exact absurd rfl hmode
          | comment => exact absurd hkind (by decide)
        rw [hcode] at hmode'
        rw [find_quote hf] at hm
        exact ⟨hmode', before, after, hm⟩

lemma yields_quoted {q c : Token} (hs : s.Located source) (hmode : s.mode ≠ .string)
    (h : Yields (.glow source) s (q :: (ts ++ [c])) s') (hq : q.kind = .quote) (hts : ∀ t ∈ ts, t.kind ≠ .quote)
    (hc : c.kind = .quote) :
    ∃ m before inner after, (Scanner.glow source).next s = .ok (q, m) ∧
      m.Between source (before ++ ['"']) (inner ++ '"' :: after) ∧
      s'.Between source (before ++ ['"'] ++ (inner ++ ['"'])) after ∧
      ts.flatMap (·.content.toList) = inner.filter (· ≠ '\n') := by
  cases h with
  | @cons _ m _ _ _ hopen hrest =>
    obtain ⟨hm, before, rest, hbetween⟩ := nextWithin_opens hs hmode hopen hq
    obtain ⟨m', htext, hclose⟩ := hrest.split
    obtain ⟨inner, after, rfl, hfilter, hm', hbetween'⟩ := yields_string hbetween hm htext hts
    cases hclose with
    | cons hn hnil =>
      cases hnil
      obtain ⟨skipped, hcross⟩ := nextWithin_crosses hbetween' hm' hn
      obtain ⟨last, rfl, hlast⟩ := hcross.between
      rw [hcross.quote hc] at hbetween hlast
      have hskipped : skipped.filter (· ≠ '\n') = [] := by simpa using hcross.breaks
      refine ⟨m, before, inner ++ skipped, last, hopen, by simpa using hbetween, by simpa using hlast, ?_⟩
      rw [List.filter_append, hskipped, hfilter, List.append_nil]

lemma Yields.sorted {sc : Scanner} (hsize : Text.size sc.source.text < 2 ^ 32) (h : Yields sc s ts s') :
    (∀ u ∈ ts, s.offset ≤ u.span.start.toNat) ∧ ts.Pairwise fun a b => a.span.start ≤ b.span.start := by
  induction h with
  | nil => simp
  | @cons s m s' t ts hn _ ih =>
    obtain ⟨hstarts, hsorted⟩ := ih
    obtain ⟨n, hle, hlt, hspan⟩ := next_span hn
    have hbounds := next_bounds hn
    have hstart : t.span.start.toNat = n := by
      rw [hspan]
      exact Span.start_ofOffsets (lt_of_le_of_lt (hlt.trans hbounds.2) hsize)
    refine ⟨List.forall_mem_cons.mpr ⟨hstart ▸ hle, fun u hu => hbounds.1.trans (hstarts u hu)⟩,
      List.pairwise_cons.mpr ⟨fun u hu => ?_, hsorted⟩⟩
    rw [UInt32.le_iff_toNat_le, hstart]
    exact hlt.trans (hstarts u hu)

end Scanner

end GlowSyntax
