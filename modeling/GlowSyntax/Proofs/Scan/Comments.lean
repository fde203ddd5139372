import GlowSyntax.Proofs.Lexicon.Slash
import GlowSyntax.Proofs.Scan.Steps
import GlowSyntax.Proofs.Scan.Tiling
import GlowSyntax.Proofs.Source.LineEnds

/-!
Comments. Two sources that differ in a comment only are scanned alike: up to the comment their texts are the same, and
behind its line break they go on in the same mode at the same position.
-/

namespace GlowSyntax

structure Token.Echoes (t u : Token) : Prop where
  kind_eq : t.kind = u.kind
  content_eq : t.content = u.content
  pos_eq : t.pos = u.pos

def SourceFile.EndsIn (source : SourceFile) (m : Mode) : Prop :=
  ∃ ts e, (Scanner.glow source).tokenize .start = .ok ts ∧ Scanner.Yields (.glow source) .start ts e ∧ e.mode = m

lemma ScanState.Between.extend {source target : SourceFile} {before rest more : List Char} {s : ScanState}
    (h : s.Between source before rest) (htext : target.text = source.text ++ more) :
    s.Between target before (rest ++ more) where
  text_eq := by rw [htext, h.text_eq, List.append_assoc]
  offset_eq := h.offset_eq
  pos_eq := h.pos_eq

namespace Scanner

inductive Agree : Except ScanError (List Token) → Except ScanError (List Token) → Prop
  | ok {ts us} : List.Forall₂ Token.Echoes ts us → Agree (.ok ts) (.ok us)
  | unexpected {file file' pos span span' ch} :
      Agree (.error (.unexpected file pos span ch)) (.error (.unexpected file' pos span' ch))

section Step

variable {sc sc' : Scanner} {s s' u u' : ScanState} {t v : Token} {e : ScanError}

lemma tokenize_of_read_error (h : sc.read s = .error e) : sc.tokenize s = .error e := by
  rw [tokenize_eq, h]

lemma tokenize_of_trivia (h : sc.read s = .ok (t, s')) (ht : t.kind.isTrivia = true) :
    sc.tokenize s = sc.tokenize s' := by
  rw [tokenize_eq, h]
  exact if_pos ht

lemma Agree.map {a b : Except ScanError (List Token)} (h : Agree a b) (ht : t.Echoes v) :
    Agree (a.map (t :: ·)) (b.map (v :: ·)) := by
  cases h with
  | ok hts => exact .ok (.cons ht hts)
  | unexpected => exact .unexpected

lemma Agree.of_read (h : sc.read s = .ok (t, s')) (h' : sc'.read u = .ok (v, u')) (ht : t.Echoes v)
    (hrest : ¬ t.isEnd → Agree (sc.tokenize s') (sc'.tokenize u')) : Agree (sc.tokenize s) (sc'.tokenize u) := by
  rw [tokenize_eq, h, tokenize_eq, h']
  simp only [Token.isEnd, ← ht.kind_eq] at hrest ⊢
  by_cases hend : t.kind = .endOfFile
  · have htrivia : ¬ Kind.isTrivia .endOfFile = true := by decide
    simp only [hend, if_neg htrivia, decide_true, if_true]
    exact .ok (.cons ht .nil)
  · have hrest := hrest (by simpa using hend)
    by_cases htrivia : t.kind.isTrivia = true
    · rw [if_pos htrivia, if_pos htrivia]
      exact hrest
    · rw [if_neg htrivia, if_neg htrivia]
      simp only [hend, decide_false, Bool.false_eq_true, if_false]
      exact hrest.map ht

end Step

variable {source target : SourceFile} {s u e : ScanState} {before before' rest after text w y y' : List Char}
  {k : Kind}

lemma read_of_find (text : List Char) (hs : s.Between source before (text ++ after))
    (hf : Lexicon.glow.find (text ++ after) s.mode.candidates = .ok (some (k, text))) :
    (Scanner.glow source).read s =
      .ok (⟨k, String.ofList text, s.pos, .ofOffsets s.offset (s.advance k text).offset, source.name⟩,
        s.advance k text) ∧
    (s.advance k text).Between source (before ++ text) after :=
  ⟨read_of_find_some hs hf, hs.advance hf⟩

lemma agree_of_same_rest (hs : s.Between source before rest) (hu : u.Between target before' rest)
    (hpos : s.pos = u.pos) (hmode : s.mode = u.mode) :
    Agree ((Scanner.glow source).tokenize s) ((Scanner.glow target).tokenize u) := by
  induction hn : rest.length using Nat.strong_induction_on generalizing s u before before' rest with
  | h n ih =>
    cases hf : Lexicon.glow.find rest s.mode.candidates with
    | error e => exact absurd hf Lexicon.find_ne_error
    | ok found =>
      cases found with
      | none =>
        obtain ⟨c, after, rfl, -, he⟩ := unexpected_of_find_none hs hf
        obtain ⟨c', after', hcons, -, he'⟩ := unexpected_of_find_none hu (hmode ▸ hf)
        obtain ⟨rfl, -⟩ := List.cons.inj hcons
        rw [tokenize_of_read_error (read_of_find_none hs hf),
          tokenize_of_read_error (read_of_find_none hu (hmode ▸ hf)), he, he', hpos]
        exact .unexpected
      | some r =>
        obtain ⟨k, text⟩ := r
        obtain ⟨after, rfl⟩ := Lexicon.text_prefix_of_find hf
        obtain ⟨hread, hs'⟩ := read_of_find text hs hf
        obtain ⟨hread', hu'⟩ := read_of_find text hu (hmode ▸ hf)
        refine Agree.of_read hread hread' ⟨rfl, rfl, hpos⟩ fun hend => ?_
        have htext : text ≠ [] := fun h => hend (by simpa [Token.isEnd] using (Lexicon.find_isEmpty hf).mp h)
        have hlength := List.length_pos_iff.mpr htext
        rw [List.length_append] at hn
        refine ih after.length (by omega) hs' hu' ?_ ?_ rfl
        · have hbreak := Lexicon.find_lineBreak hf
          rw [ScanState.pos_advance hbreak, ScanState.pos_advance hbreak, hpos]
        · simp only [ScanState.advance, hmode]

lemma tokenize_comment (hs : s.Between source before (w ++ '\n' :: after)) (hmode : s.mode = .comment)
    (hw : '\n' ∉ w) :
    ∃ s', (Scanner.glow source).tokenize s = (Scanner.glow source).tokenize s' ∧ s'.mode = .code ∧
      s'.Between source (before ++ (w ++ ['\n'])) after := by
  induction w generalizing s before with
  | nil =>
    obtain ⟨hread, hs'⟩ := read_of_find ['\n'] hs (hmode ▸ Lexicon.find_commentEnd after)
    refine ⟨_, tokenize_of_trivia hread rfl, ?_, hs'⟩
    simp only [ScanState.advance, hmode]
    rfl
  | cons c w ih =>
    obtain ⟨hc, hw⟩ := not_or.mp (mt List.mem_cons.mpr hw)
    obtain ⟨hread, hs'⟩ := read_of_find [c] hs (hmode ▸ Lexicon.find_commentChar (Ne.symm hc) _)
    have hmode' : (s.advance .commentChar [c]).mode = .comment := by
      simp only [ScanState.advance, hmode]
      rfl
    obtain ⟨s', htokenize, hcode, hbetween⟩ := ih hs' hmode' hw
    refine ⟨s', (tokenize_of_trivia hread rfl).trans htokenize, hcode, ?_⟩
    simpa using hbetween

lemma tokenize_slashes (hs : s.Between source before ('/' :: '/' :: (w ++ '\n' :: after))) (hmode : s.mode = .code)
    (hw : '\n' ∉ w) :
    ∃ s' before', (Scanner.glow source).tokenize s = (Scanner.glow source).tokenize s' ∧ s'.mode = .code ∧
      s'.pos = ⟨s.pos.line + 1, 1⟩ ∧ s'.Between source before' after := by
  obtain ⟨hread, hbetween⟩ := read_of_find ['/', '/'] hs (hmode ▸ Lexicon.find_slashes _)
  have hcomment : (s.advance .slashes ['/', '/']).mode = .comment := by
    simp only [ScanState.advance, hmode]
    rfl
  obtain ⟨s', htokenize, hcode, hs'⟩ := tokenize_comment hbetween hcomment hw
  have hline : '\n' ∉ ['/', '/'] ++ w := by simp [hw]
  refine ⟨s', _, (tokenize_of_trivia hread rfl).trans htokenize, hcode, ?_, hs'⟩
  calc
    s'.pos = (before ++ ['/', '/'] ++ (w ++ ['\n'])).foldl Position.after .start := hs'.pos_eq
    _ = ((['/', '/'] ++ w).foldl Position.after s.pos).after '\n' := by
      rw [hs.pos_eq, ← List.foldl_append, ← List.append_assoc, List.append_assoc before, ← List.append_assoc before,
        List.foldl_concat]
    _ = ⟨s.pos.line + 1, 1⟩ := by
      rw [Position.foldl_after hline]
      rfl

lemma exists_leads_end {m : Mode} (h : source.EndsIn m) :
    ∃ e, (Scanner.glow source).Leads .start e ∧ e.mode = m ∧ e.Between source source.text [] := by
  obtain ⟨ts, e, htokens, hyields, hmode⟩ := h
  obtain ⟨us, t, rfl, ht⟩ := collect_eq_concat htokens
  obtain ⟨m', hfirst, hlast⟩ := hyields.split
  cases hlast with
  | cons hn hnil =>
    cases hnil
    obtain ⟨s, hleads, hread⟩ := nextWithin_last hn
    obtain rfl := read_end hread ht
    have hall : (Scanner.glow source).Leads .start e := hfirst.leads.trans hleads
    obtain ⟨before, rest, hs⟩ := Leads.located hall (ScanState.located_start source)
    obtain ⟨text, after, -, hf, -⟩ := read_between hs hread
    have hkind : t.kind = .endOfFile := by simpa [Token.isEnd] using ht
    obtain rfl := Lexicon.find_end (hkind ▸ hf)
    have htext : source.text = before := by rw [hs.text_eq, List.append_nil]
    exact ⟨_, hall, hmode, htext ▸ hs⟩

-- By induction on the reads that lead to the end: up to there the slashes behind the text change none of them.
lemma agree_of_leads {first second : SourceFile} (hfirst : first.text = source.text ++ '/' :: y)
    (hsecond : second.text = source.text ++ '/' :: y') (hs : s.Located source) (h : (Scanner.glow source).Leads s e)
    (hcode : e.mode = .code) (he : e.Between source source.text [])
    (hend : ∀ m before rest, m.mode = .code → m.Between source before rest → rest = [] ∨ rest = ['/'] →
      Agree ((Scanner.glow first).tokenize m) ((Scanner.glow second).tokenize m)) :
    Agree ((Scanner.glow first).tokenize s) ((Scanner.glow second).tokenize s) := by
  induction h using Relation.ReflTransGen.head_induction_on with
  | refl => exact hend e _ _ hcode he (Or.inl rfl)
  | @head s m hr hrest ih =>
    obtain ⟨t, hr⟩ := hr
    by_cases ht : t.isEnd
    · obtain rfl := read_end hr ht
      exact ih hs
    · obtain ⟨before, rest, hs⟩ := hs
      obtain ⟨text, after, rfl, hf, -, rfl, hm⟩ := read_between hs hr
      have hne : text ++ after ≠ [] := by
        intro hnil
        obtain ⟨rfl, -⟩ := List.append_eq_nil_iff.mp hnil
        exact ht (by simpa [Token.isEnd] using (Lexicon.find_isEmpty hf).mp rfl)
      by_cases hslash : s.mode = .code ∧ text ++ after = ['/']
      · exact hend s _ _ hslash.1 hs (Or.inr hslash.2)
      · have hlocal (z : List Char) : Lexicon.glow.find (text ++ (after ++ '/' :: z)) s.mode.candidates =
            .ok (some (t.kind, text)) := by
          rw [← List.append_assoc, Lexicon.find_slash hne fun hmode htext => hslash ⟨hmode, htext⟩, hf]
        have hs₁ := hs.extend hfirst
        have hs₂ := hs.extend hsecond
        rw [List.append_assoc] at hs₁ hs₂
        obtain ⟨hread, -⟩ := read_of_find text hs₁ (hlocal y)
        obtain ⟨hread', -⟩ := read_of_find text hs₂ (hlocal y')
        exact Agree.of_read hread hread' ⟨rfl, rfl, rfl⟩ fun _ => ih ⟨_, _, hm⟩

end Scanner

section Texts

variable {p c s : String}

lemma exists_comment_text (name : String) (hc : '\n' ∉ c.toList) :
    ∃ w, '\n' ∉ w ∧ (SourceFile.ofText name (p ++ "//" ++ c ++ "\n" ++ s)).text =
      normalizeLineEnds p.toList ++ '/' :: '/' :: (w ++ '\n' :: normalizeLineEnds s.toList) := by
  obtain ⟨w, hw, hline⟩ : ∃ w, '\n' ∉ w ∧
      normalizeLineEnds (c.toList ++ '\n' :: s.toList) = w ++ '\n' :: normalizeLineEnds s.toList :=
    exists_normalizeLineEnds_break hc
  refine ⟨w, hw, ?_⟩
  have htext : (p ++ "//" ++ c ++ "\n" ++ s).toList = p.toList ++ '/' :: '/' :: (c.toList ++ '\n' :: s.toList) := by
    simp
  have hslashes : normalizeLineEnds ('/' :: '/' :: (c.toList ++ '\n' :: s.toList)) =
      '/' :: '/' :: (w ++ '\n' :: normalizeLineEnds s.toList) := by
    rw [normalizeLineEnds_cons (by simp), normalizeLineEnds_cons (by simp), hline]
  rw [SourceFile.ofText, htext, normalizeLineEnds_append (by simp), hslashes]

end Texts

theorem comments_opaque {p c d name : String} (hp : (SourceFile.ofText name p).EndsIn .code) (hc : '\n' ∉ c.toList)
    (hd : '\n' ∉ d.toList) (s first second : String) :
    Scanner.Agree ((Scanner.glow (.ofText first (p ++ "//" ++ c ++ "\n" ++ s))).tokenize .start)
      ((Scanner.glow (.ofText second (p ++ "//" ++ d ++ "\n" ++ s))).tokenize .start) := by
  obtain ⟨e, hleads, hcode, he⟩ := Scanner.exists_leads_end hp
  obtain ⟨w, hw, hfirst⟩ := exists_comment_text (p := p) (s := s) first hc
  obtain ⟨v, hv, hsecond⟩ := exists_comment_text (p := p) (s := s) second hd
  refine Scanner.agree_of_leads hfirst hsecond (ScanState.located_start _) hleads hcode he ?_
  intro m before rest hm hbetween hrest
  -- A slash at the end of the text is the first of the two, and the third one belongs to the comment.
  have hslashes (w : List Char) (hw : '\n' ∉ w) : ∃ x, '\n' ∉ x ∧
      rest ++ '/' :: '/' :: (w ++ '\n' :: normalizeLineEnds s.toList) =
        '/' :: '/' :: (x ++ '\n' :: normalizeLineEnds s.toList) := by
    rcases hrest with rfl | rfl
    · exact ⟨w, hw, rfl⟩
    · exact ⟨'/' :: w, by simp [hw], rfl⟩
  obtain ⟨x, hx, hxtext⟩ := hslashes w hw
  obtain ⟨z, hz, hztext⟩ := hslashes v hv
  obtain ⟨s₁, _, htokens₁, hmode₁, hpos₁, hbetween₁⟩ :=
    Scanner.tokenize_slashes (hxtext ▸ hbetween.extend hfirst) hm hx
  obtain ⟨s₂, _, htokens₂, hmode₂, hpos₂, hbetween₂⟩ :=
    Scanner.tokenize_slashes (hztext ▸ hbetween.extend hsecond) hm hz
  rw [htokens₁, htokens₂]
  exact Scanner.agree_of_same_rest hbetween₁ hbetween₂ (hpos₁.trans hpos₂.symm) (hmode₁.trans hmode₂.symm)

lemma quotient_endsIn : (SourceFile.ofText "quotient" "a /").EndsIn .code := by
  have hname : (Scanner.glow (.ofText "quotient" "a /")).next .start =
      .ok (⟨.identifier, "a", ⟨1, 1⟩, ⟨0, 1⟩, "quotient"⟩, ⟨1, 1, 2, .code⟩) := by decide +kernel
  have hslash : (Scanner.glow (.ofText "quotient" "a /")).next ⟨1, 1, 2, .code⟩ =
      .ok (⟨.slash, "/", ⟨1, 3⟩, ⟨2, 3⟩, "quotient"⟩, ⟨3, 1, 4, .code⟩) := by decide +kernel
  have hend : (Scanner.glow (.ofText "quotient" "a /")).next ⟨3, 1, 4, .code⟩ =
      .ok (⟨.endOfFile, "", ⟨1, 4⟩, ⟨3, 3⟩, "quotient"⟩, ⟨3, 1, 4, .code⟩) := by decide +kernel
  exact ⟨_, _, by decide +kernel, .cons hname (.cons hslash (.single hend)), rfl⟩

theorem comments_opaque_quotient :
    (SourceFile.ofText "quotient" "a /").EndsIn .code ∧ '\n' ∉ "\"é\r".toList ∧ '\n' ∉ "/ \\".toList ∧
    Scanner.Agree ((Scanner.glow (.ofText "quoted" ("a /" ++ "//" ++ "\"é\r" ++ "\n" ++ "b #"))).tokenize .start)
      ((Scanner.glow (.ofText "slashed" ("a /" ++ "//" ++ "/ \\" ++ "\n" ++ "b #"))).tokenize .start) := by
  have hc : '\n' ∉ "\"é\r".toList := by decide +kernel
  have hd : '\n' ∉ "/ \\".toList := by decide +kernel
  exact ⟨quotient_endsIn, hc, hd, comments_opaque quotient_endsIn hc hd "b #" "quoted" "slashed"⟩

end GlowSyntax
