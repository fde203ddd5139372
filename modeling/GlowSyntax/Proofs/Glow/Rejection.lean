import GlowSyntax.Proofs.Glow.Acceptance
import GlowSyntax.Proofs.Glow.Due
import GlowSyntax.Proofs.Glow.Progress
import GlowSyntax.Proofs.Match.Expected
import GlowSyntax.Proofs.Parse.Location

/-!
A source that is no program is rejected at the first token with which its tokens begin no program, unless the
text ends there where a string could begin or end: rules are not tried at the end of the text, so what they
would have missed there is not reported.
-/

namespace GlowSyntax

def Viable (w : List Kind) : Prop := ∃ x, Sentence .program x ∧ w <+: x ++ [.endOfFile]

structure FirstInvalid (ts before : List Token) (t : Token) : Prop where
  split : ∃ after, ts = before ++ t :: after
  viable : Viable (before.map Token.kind)
  invalid : ¬ Viable ((before ++ [t]).map Token.kind)

variable {source : SourceFile} {ts before us : List Token} {t : Token} {tokens : Nat → Option Token}
  {u v w : List Kind} {i m : Nat} {err : ParseError}

lemma exists_sentence (p : Phrase) : ∃ w, Sentence p w := by
  have hexpr : Sentence .expr [.identifier] := .expr .name .noOperations
  have hdeclaration : Sentence .declaration [.kwVar, .identifier, .assign, .identifier, .semicolon] :=
    .declaration (Or.inl rfl) hexpr
  cases p with
  | chars => exact ⟨_, .noChars⟩
  | factor => exact ⟨_, .name⟩
  | operations => exact ⟨_, .noOperations⟩
  | expr => exact ⟨_, hexpr⟩
  | declaration => exact ⟨_, hdeclaration⟩
  | program => exact ⟨_, .lastDeclaration hdeclaration⟩

lemma Sentence.program_eq (h : Sentence .program w) : ∃ k y, w = k :: .identifier :: .assign :: y ∧ y ≠ [] := by
  have hdeclaration : ∀ {u}, Sentence .declaration u → ∃ k y, u = k :: .identifier :: .assign :: y ∧ y ≠ [] := by
    intro u hu
    cases hu with
    | @declaration k w _ _ => exact ⟨k, w ++ [.semicolon], rfl, by simp⟩
  cases h with
  | lastDeclaration hu => exact hdeclaration hu
  | @moreDeclarations u v hu _ =>
    obtain ⟨k, y, rfl, hy⟩ := hdeclaration hu
    exact ⟨k, y ++ v, rfl, by simp [hy]⟩

namespace Viable

lemma shorten (h : Viable w) (hv : v <+: w) : Viable v := by
  obtain ⟨x, hx, hw⟩ := h
  exact ⟨x, hx, hv.trans hw⟩

lemma of_sentence (h : Sentence .program v) (hw : w <+: v) : Viable w :=
  ⟨v, h, hw.trans (List.prefix_append v _)⟩

lemma sentence {k : Kind} (h : Viable (w ++ [k])) (hk : k ≠ .endOfFile) : ∃ v, Sentence .program (w ++ k :: v) := by
  obtain ⟨x, hx, hw⟩ := h
  rcases List.prefix_concat_iff.mp hw with heq | ⟨v, rfl⟩
  · obtain ⟨-, heq⟩ := List.append_inj' heq rfl
    exact absurd (List.cons.inj heq).1 hk
  · exact ⟨v, by simpa using hx⟩

lemma nil : Viable [] := by
  obtain ⟨x, hx⟩ := exists_sentence .program
  exact ⟨x, hx, List.nil_prefix⟩

end Viable

lemma exists_firstInvalid (h : ¬ Viable (ts.map Token.kind)) : ∃ before t, FirstInvalid ts before t := by
  induction ts using List.reverseRecOn with
  | nil => exact absurd .nil h
  | append_singleton ts t ih =>
    by_cases hts : Viable (ts.map Token.kind)
    · exact ⟨ts, t, ⟨[], rfl⟩, hts, h⟩
    · obtain ⟨before, t', ⟨after, rfl⟩, hviable, hinvalid⟩ := ih hts
      exact ⟨before, t', ⟨after ++ [t], by simp⟩, hviable, hinvalid⟩

section Places

lemma kindsAt_begins (hu : KindsAt tokens i u) (hv : KindsAt tokens i v) (hl : u.length ≤ v.length) : u <+: v := by
  induction u generalizing i v with
  | nil => exact List.nil_prefix
  | cons k u ih =>
    cases v with
    | nil => simp at hl
    | cons l v =>
      obtain rfl : k = l := Option.some.inj (hu.1.symm.trans hv.1)
      exact List.cons_prefix_cons.mpr ⟨rfl, ih hu.2 hv.2 (by simpa using hl)⟩

lemma kindsAt_yields {sc : Scanner} {s : ScanState} (hl : sc.Lists tokens) (hy : sc.Yields .start us s) :
    KindsAt tokens 0 (us.map Token.kind) := by
  refine kindsAt_map fun n hn => ?_
  have hsplit : us = us.take n ++ us[n] :: us.drop (n + 1) := by simp
  rw [hsplit] at hy
  obtain ⟨m, htake, hdrop⟩ := hy.split
  cases hdrop with
  | cons hnext _ =>
    have htoken := hl _ m us[n] _ htake hnext
    rw [List.length_take, Nat.min_eq_left hn.le] at htoken
    rw [Nat.zero_add, htoken, List.getElem?_eq_getElem hn]

lemma kindsAt_unique (hu : KindsAt tokens i u) (hv : KindsAt tokens i v) (hl : u.length = v.length) : u = v :=
  (kindsAt_begins hu hv hl.le).eq_of_length hl

lemma FirstInvalid.kindsAt (h : FirstInvalid ts before t) :
    KindsAt (Scanner.continued ts) 0 (before.map Token.kind) := by
  obtain ⟨after, rfl⟩ := h.split
  exact kindsAt_continued

lemma FirstInvalid.listed (h : FirstInvalid ts before t) : Scanner.continued ts before.length = some t := by
  obtain ⟨after, rfl⟩ := h.split
  rw [Scanner.continued_eq (by simp)]
  simp

lemma FirstInvalid.kindAt_eq (h : FirstInvalid ts before t) :
    kindAt (Scanner.continued ts) before.length = some t.kind := congrArg (Option.map Token.kind) h.listed

lemma stuck_of_firstInvalid (h : FirstInvalid ts before t)
    (hq : t.isEnd → ¬ Viable (before.map Token.kind ++ [.quote])) :
    Phrase.Stuck (Scanner.continued ts) before.length t.kind .program 0 (before.map Token.kind) := by
  refine ⟨h.kindsAt, by simp, h.kindAt_eq, ?_, ?_⟩
  · intro v hv
    refine h.invalid (.of_sentence hv ?_)
    simp
  · intro he v hv
    refine hq (by simp [Token.isEnd, he]) (.of_sentence hv ?_)
    simp

lemma FirstInvalid.length_le (h : FirstInvalid ts before t) (hk : KindsAt (Scanner.continued ts) 0 w)
    (hw : Viable w) : w.length ≤ before.length := by
  obtain ⟨⟨after, rfl⟩, -, hinvalid⟩ := h
  by_contra hlt
  have hbefore := @kindsAt_continued (before ++ [t]) after
  rw [List.append_assoc, List.singleton_append] at hbefore
  exact hinvalid (hw.shorten (kindsAt_begins hbefore hk (by simp; omega)))

lemma FirstInvalid.unique {before' : List Token} {t' : Token} (h : FirstInvalid ts before t)
    (h' : FirstInvalid ts before' t') : before = before' ∧ t = t' := by
  obtain ⟨after, rfl⟩ := h.split
  obtain ⟨after', hsplit⟩ := h'.split
  have hle := h'.length_le h.kindsAt h.viable
  have hge := h.length_le h'.kindsAt h'.viable
  simp only [List.length_map] at hle hge
  obtain ⟨rfl, hcons⟩ := List.append_inj hsplit (by omega)
  exact ⟨rfl, (List.cons.inj hcons).1⟩

end Places

section Tokenized

variable (hts : (Scanner.glow source).tokenize .start = .ok ts)
include hts

lemma sentence_of_failure {f : Failure}
    (hf : f ∈ failuresOf (Parser.glow.attempt (.glow source) .start Grammar.glowStart).log) :
    ∃ w v, w.length = f.depth ∧ KindsAt (Scanner.continued ts) 0 w ∧ Sentence .program (w ++ f.expected :: v) := by
  obtain ⟨us, ⟨s', hy⟩, hd, hb⟩ := attemptRule_expectable hf
  obtain ⟨s, hus, -⟩ := hy.split
  obtain ⟨v, hv⟩ := hb.spells (fun name => exists_sentence (phraseOf name)) glow_spells
  have hs := spells_rule hv
  rw [List.append_assoc] at hs
  exact ⟨us.map Token.kind, v, by simp [hd], kindsAt_yields (lists_continued hts) hus, hs⟩

lemma sentence_of_match {tree : Tree}
    (hr : (Parser.glow.attempt (.glow source) .start Grammar.glowStart).result = .ok (some tree)) :
    ∃ w, w.length = tree.depth ∧ KindsAt (Scanner.continued ts) 0 w ∧ Sentence .program w := by
  obtain ⟨hfit, ha⟩ := (attemptRule_extent Grammar.glowStart .start 0).result _ hr
  have hk := kindsAt_yields (lists_continued hts) ha.yields
  refine ⟨tree.parts.tokens.map Token.kind, ?_, hk, sentence_of_fits hfit⟩
  rw [List.length_map, ha.depth_eq, Nat.zero_add]

lemma viable_of_furthest
    (h : (Parser.glow.attempt (.glow source) .start Grammar.glowStart).Furthest m) :
    ∃ w, w.length = m ∧ KindsAt (Scanner.continued ts) 0 w ∧ Viable w := by
  rcases h.reached with rfl | ⟨f, hf, rfl⟩ | ⟨tree, hr, rfl⟩
  · exact ⟨[], rfl, trivial, .nil⟩
  · obtain ⟨w, v, hlen, hk, hs⟩ := sentence_of_failure hts hf
    exact ⟨w, hlen, hk, .of_sentence hs (List.prefix_append ..)⟩
  · obtain ⟨w, hlen, hk, hs⟩ := sentence_of_match hts hr
    exact ⟨w, hlen, hk, .of_sentence hs (List.prefix_refl _)⟩

lemma ne_of_firstInvalid (h : FirstInvalid ts before t) (he : t.isEnd)
    (hq : Viable (before.map Token.kind ++ [.quote]))
    (hm : (Parser.glow.attempt (.glow source) .start Grammar.glowStart).Furthest m) : m ≠ before.length := by
  have hkind : t.kind = .endOfFile := by simpa [Token.isEnd] using he
  obtain ⟨v, hquote⟩ := hq.sentence (by decide)
  rintro rfl
  rcases hm.reached with hzero | ⟨f, hf, hd⟩ | ⟨tree, hr, hd⟩
  · -- At the start of the text a declaration is due.
    obtain rfl := List.eq_nil_of_length_eq_zero hzero
    obtain ⟨d, hd, hafter⟩ := Due.leads_of_program hquote
    cases hd
    cases hafter
  · have hlisted := ((attemptRule_extent Grammar.glowStart .start 0).failures f hf).listed (lists_continued hts)
    rw [hd, h.listed] at hlisted
    obtain rfl := Option.some.inj hlisted
    obtain ⟨w, u, hlen, hk, hs⟩ := sentence_of_failure hts hf
    obtain rfl := kindsAt_unique hk h.kindsAt (by rw [hlen, hd, List.length_map])
    exact not_due_at_end (attemptRule_preceded (lists_continued hts) hf he) (by rw [hd, h.kindAt_eq, hkind]) hk hlen
      hs hquote
  · obtain ⟨w, hlen, hk, hs⟩ := sentence_of_match hts hr
    obtain rfl := kindsAt_unique hk h.kindsAt (by rw [hlen, hd, List.length_map])
    exact h.invalid ⟨_, hs, by simp [hkind]⟩

lemma parse_of_sentence {x : List Kind} (hx : Sentence .program x)
    (hk : KindsAt (Scanner.continued ts) 0 (x ++ [.endOfFile])) :
    ∃ tree, (Parser.glow.parse source Grammar.glowStart).result = .ok tree := by
  obtain ⟨hk, hend, -⟩ := kindsAt_append.mp hk
  obtain ⟨tree, hr, hlen⟩ := attempt_of_takes hts (by decide) (takes_sentence hx hk rfl hend)
  have hy := ((attemptRule_extent Grammar.glowStart .start 0).result _ hr).2.yields
  obtain ⟨t, hp, ht⟩ := peek_listed hts hy
  rw [hlen] at ht
  have hkind : t.kind = .endOfFile := Option.some.inj ((congrArg (Option.map Token.kind) ht).symm.trans hend)
  exact ⟨tree, Parser.parseFrom_of_end hr hp (by simp [Token.isEnd, hkind])⟩

variable (hrej : (Parser.glow.parse source Grammar.glowStart).result = .error err)
include hrej

lemma prefix_of_rejected (hk : KindsAt (Scanner.continued ts) 0 w) (hw : Viable w) :
    ∃ x, Sentence .program x ∧ w <+: x := by
  obtain ⟨x, hx, hw⟩ := hw
  rcases List.prefix_concat_iff.mp hw with rfl | hw
  · obtain ⟨tree, hr⟩ := parse_of_sentence hts hx hk
    cases hr.symm.trans hrej
  · exact ⟨x, hx, hw⟩

lemma not_viable_of_rejected : ¬ Viable (ts.map Token.kind) := by
  intro hv
  obtain ⟨us, e, rfl, he⟩ := Scanner.collect_eq_concat hts
  have hk := @kindsAt_continued (us ++ [e]) []
  rw [List.append_nil] at hk
  obtain ⟨x, hx, hw⟩ := prefix_of_rejected hts hrej hk hv
  have hend : e.kind = .endOfFile := by simpa [Token.isEnd] using he
  exact hx.end_not_mem (hw.subset (by simp [hend]))

lemma le_of_firstInvalid (h : FirstInvalid ts before t)
    (hq : t.isEnd → ¬ Viable (before.map Token.kind ++ [.quote]))
    (hm : (Parser.glow.attempt (.glow source) .start Grammar.glowStart).Furthest m) : before.length ≤ m := by
  have hstuck := stuck_of_firstInvalid h hq
  obtain ⟨x, hx, hw⟩ := prefix_of_rejected hts hrej hstuck.kinds h.viable
  obtain ⟨found, hr, -⟩ := attempt_outcome hts (show Grammar.glowStart ∈ Grammar.glow.names by decide)
  cases hstuck.comes hx hw with
  | misses hmiss =>
    obtain ⟨f, hf, hd⟩ := attemptRule_meets (lists_continued hts) hmiss .nil found hr
    have hle := hm.failure_le f hf
    simp only [List.length_nil] at hd
    omega
  | takes _ ht =>
    obtain ⟨tree, hr, hlen⟩ := attempt_of_takes hts (by decide) ht
    have hle := hm.tree_le tree hr
    have hd := ((attemptRule_extent Grammar.glowStart .start 0).result _ hr).2.depth_eq
    omega
  | refused _ hnil =>
    rcases hnil with hnil | ⟨⟨⟩, -⟩
    simp [List.map_eq_nil_iff.mp hnil]

end Tokenized

theorem rejected_at_firstInvalid (hts : (Scanner.glow source).tokenize .start = .ok ts)
    (hrej : (Parser.glow.parse source Grammar.glowStart).result = .error err) :
    ∃ before t, FirstInvalid ts before t ∧
      ((t.isEnd → ¬ Viable (before.map Token.kind ++ [.quote])) → err.span? = some t.span) ∧
      (t.isEnd → Viable (before.map Token.kind ++ [.quote]) → ∃ u ∈ before, err.span? = some u.span) := by
  obtain ⟨before, t, h⟩ := exists_firstInvalid (not_viable_of_rejected hts hrej)
  obtain ⟨found, hr, -⟩ := attempt_outcome hts (show Grammar.glowStart ∈ Grammar.glow.names by decide)
  obtain ⟨m, u, hu, hspan, hm⟩ := error_at_furthest hts hrej fun e he => by cases hr.symm.trans he
  obtain ⟨w, rfl, hk, hw⟩ := viable_of_furthest hts hm
  have hle := h.length_le hk hw
  refine ⟨before, t, h, fun hq => ?_, fun he hq => ?_⟩
  · have heq : w.length = before.length := le_antisymm hle (le_of_firstInvalid hts hrej h hq hm)
    rw [heq, h.listed] at hu
    rw [hspan, ← Option.some.inj hu]
  · have hlt : w.length < before.length := lt_of_le_of_ne hle (ne_of_firstInvalid hts h he hq hm)
    obtain ⟨after, rfl⟩ := h.split
    rw [Scanner.continued_eq (by rw [List.length_append]; omega), List.getElem?_append_left hlt] at hu
    exact ⟨u, List.mem_of_getElem? hu, hspan⟩

lemma viable_header {k : Kind} (hk : k.IsBinder) : Viable [k, .identifier, .assign] :=
  .of_sentence (.lastDeclaration (.declaration hk (.expr .name .noOperations))) ⟨_, rfl⟩

def numberSource : SourceFile := .ofText "number" "var 1"

theorem rejected_at_firstInvalid_number :
    ∃ err, (Parser.glow.parse numberSource Grammar.glowStart).result = .error err ∧ err.span? = some ⟨4, 5⟩ := by
  let var : Token := ⟨.kwVar, "var", ⟨1, 1⟩, ⟨0, 3⟩, "number"⟩
  let one : Token := ⟨.integer, "1", ⟨1, 5⟩, ⟨4, 5⟩, "number"⟩
  let eof : Token := ⟨.endOfFile, "", ⟨1, 6⟩, ⟨5, 5⟩, "number"⟩
  have hts : (Scanner.glow numberSource).tokenize .start = .ok [var, one, eof] :=
    eq_ok_of_toOption (by decide +kernel)
  obtain ⟨err, herr⟩ := error_of_toOption
    (show (Parser.glow.parse numberSource Grammar.glowStart).result.toOption = none by decide +kernel)
  obtain ⟨before, t, hfirst, hspan, -⟩ := rejected_at_firstInvalid hts herr
  have hnumber : FirstInvalid [var, one, eof] [var] one := by
    refine ⟨⟨[eof], rfl⟩, (viable_header (Or.inl rfl)).shorten ⟨_, rfl⟩, ?_⟩
    rintro ⟨x, hx, hw⟩
    obtain ⟨k, y, rfl, -⟩ := hx.program_eq
    simp [var, one] at hw
  obtain ⟨rfl, rfl⟩ := hfirst.unique hnumber
  exact ⟨err, herr, hspan fun hend => absurd hend (by decide)⟩

def unfinishedSource : SourceFile := .ofText "unfinished" "var x ="

/-- The text ends where an expression is due. The first token with which the tokens begin no program is the end
of file, but the error is at the first token of the text. -/
theorem unfinished_rejected_early :
    ∃ before e err, (Scanner.glow unfinishedSource).tokenize .start = .ok (before ++ [e]) ∧
      (Parser.glow.parse unfinishedSource Grammar.glowStart).result = .error err ∧
      FirstInvalid (before ++ [e]) before e ∧ e.span = ⟨7, 7⟩ ∧ err.span? = some ⟨0, 3⟩ := by
  let var : Token := ⟨.kwVar, "var", ⟨1, 1⟩, ⟨0, 3⟩, "unfinished"⟩
  let x : Token := ⟨.identifier, "x", ⟨1, 5⟩, ⟨4, 5⟩, "unfinished"⟩
  let assign : Token := ⟨.assign, "=", ⟨1, 7⟩, ⟨6, 7⟩, "unfinished"⟩
  let eof : Token := ⟨.endOfFile, "", ⟨1, 8⟩, ⟨7, 7⟩, "unfinished"⟩
  have hts : (Scanner.glow unfinishedSource).tokenize .start = .ok [var, x, assign, eof] :=
    eq_ok_of_toOption (by decide +kernel)
  obtain ⟨err, herr⟩ := error_of_toOption
    (show (Parser.glow.parse unfinishedSource Grammar.glowStart).result.toOption = none by decide +kernel)
  have hspan : err.span? = some ⟨0, 3⟩ := by
    have heval : ((Parser.glow.parse unfinishedSource Grammar.glowStart).result.map fun _ => ()).mapError
        ParseError.span? = .error (some ⟨0, 3⟩) := by decide +kernel
    rw [herr] at heval
    exact Except.error.inj heval
  refine ⟨[var, x, assign], eof, err, hts, herr, ⟨⟨[], rfl⟩, viable_header (Or.inl rfl), ?_⟩, rfl, hspan⟩
  rintro ⟨w, hw, hprefix⟩
  obtain ⟨k, y, rfl, hy⟩ := hw.program_eq
  obtain ⟨l, z, rfl⟩ := List.exists_cons_of_ne_nil hy
  have hkinds : Kind.kwVar = k ∧ Kind.endOfFile = l := by simpa [var, x, assign, eof] using hprefix
  exact hw.end_not_mem (by simp [hkinds.2])

end GlowSyntax
