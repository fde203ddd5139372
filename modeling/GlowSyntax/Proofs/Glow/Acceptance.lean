import GlowSyntax.Proofs.Glow.Recognition
import GlowSyntax.Proofs.Match.Ceiling
import GlowSyntax.Proofs.Match.Closed
import GlowSyntax.Proofs.Match.TokenList

namespace GlowSyntax

variable {source : SourceFile} {ts us : List Token} {e : Token} {tree : Tree}

lemma kindsAt_map {tokens : Nat → Option Token} {i : Nat} (h : ∀ n, n < us.length → tokens (i + n) = us[n]?) :
    KindsAt tokens i (us.map Token.kind) := by
  induction us generalizing i with
  | nil => trivial
  | cons u us ih =>
    refine ⟨kindAt_eq_some.mpr ⟨u, h 0 (Nat.succ_pos _), rfl⟩, ih fun n hn => ?_⟩
    rw [Nat.add_assoc, Nat.add_comm 1 n]
    exact h (n + 1) (Nat.succ_lt_succ hn)

lemma kindsAt_continued {after : List Token} :
    KindsAt (Scanner.continued (us ++ after)) 0 (us.map Token.kind) := by
  refine kindsAt_map fun n hn => ?_
  rw [Nat.zero_add, Scanner.continued_eq (by rw [List.length_append]; omega), List.getElem?_append_left hn]

lemma kindAt_continued_end (he : e.isEnd) :
    kindAt (Scanner.continued (us ++ [e])) us.length = some .endOfFile := by
  refine kindAt_eq_some.mpr ⟨e, ?_, by simpa [Token.isEnd] using he⟩
  rw [Scanner.continued_eq (by simp), List.getElem?_concat_length]

lemma takes_program_of_sentence (he : e.isEnd) (h : Sentence .program (us.map Token.kind)) :
    Takes .glow (Scanner.continued (us ++ [e])) [.rule "program"] 0 us.length :=
  takes_sentence h kindsAt_continued (by simp) (kindAt_continued_end he)

lemma attempt_outcome (hts : (Scanner.glow source).tokenize .start = .ok ts) {name : String}
    (hname : name ∈ Grammar.glow.names) :
    ∃ found, (Parser.glow.attempt (.glow source) .start name).result = .ok found ∧
      Reads .glow (Scanner.continued ts) [.rule name] 0 (outcome 0 found) := by
  have hlimit : ∀ r n, (Parser.glow.attempt (.glow source) .start name).result ≠ .error (.recursionLimit r n) :=
    fun r n he => (attemptRule_within Parser.glow.valid (by decide) (by decide) name .start 0).error _ he
  have hknown : ∀ r,
      (Parser.glow.attempt (.glow source) .start name).result ≠ .error (.grammar (.unknownRule r)) :=
    fun r he => (attemptRule_known Parser.glow.valid hname .start 0).error _ he
  exact attemptRule_outcome hts .nil hlimit hknown

lemma attempt_of_takes (hts : (Scanner.glow source).tokenize .start = .ok ts) {name : String}
    (hname : name ∈ Grammar.glow.names) {j : Nat}
    (h : Takes .glow (Scanner.continued ts) [.rule name] 0 j) :
    ∃ tree, (Parser.glow.attempt (.glow source) .start name).result = .ok (some tree) ∧
      tree.parts.tokens.length = j := by
  obtain ⟨found, hr, hreads⟩ := attempt_outcome hts hname
  obtain ⟨parts, htakes⟩ := h
  have hout := hreads.unique htakes
  cases found with
  | none => cases hout
  | some tree =>
    simp only [outcome, Option.map_some, Option.some.injEq, Prod.mk.injEq, Nat.zero_add] at hout
    exact ⟨tree, hr, hout.2⟩

lemma sentence_of_fits {name : String} (h : Forest.Fits .glow [.rule name] tree.forest) :
    Sentence (phraseOf name) (tree.parts.tokens.map Token.kind) := by
  simpa [Tree.forest, Forest.tokens] using h.derives.sentence

lemma sentence_of_parse {name : String} (h : (Parser.glow.parse source name).result = .ok tree) :
    ∃ t m, (Scanner.glow source).Yields .start tree.parts.tokens tree.stop ∧
      (Scanner.glow source).next tree.stop = .ok (t, m) ∧ t.isEnd ∧
      Sentence (phraseOf name) (tree.parts.tokens.map Token.kind) := by
  obtain ⟨hfit, hy⟩ := Parser.extent_of_parseFrom h
  obtain ⟨t, m, hn, ht⟩ := Parser.end_of_parseFrom h rfl
  exact ⟨t, m, hy, hn, ht, sentence_of_fits hfit⟩

lemma Sentence.not_isEnd {p : Phrase} (h : Sentence p (us.map Token.kind)) : ∀ u ∈ us, ¬ u.isEnd := by
  intro u hu he
  refine h.end_not_mem (List.mem_map.mpr ⟨u, hu, ?_⟩)
  simpa [Token.isEnd] using he

theorem parse_glow_iff (hts : (Scanner.glow source).tokenize .start = .ok ts) :
    (∃ tree, (Parser.glow.parse source Grammar.glowStart).result = .ok tree) ↔
      Sentence .program (ts.dropLast.map Token.kind) := by
  constructor
  · rintro ⟨tree, h⟩
    obtain ⟨t, m, hy, hn, ht, hs⟩ := sentence_of_parse h
    rw [Scanner.collect_of_yields hts hy hs.not_isEnd hn ht, List.dropLast_concat]
    exact hs
  · intro h
    obtain ⟨us, e, rfl, he⟩ := Scanner.collect_eq_concat hts
    rw [List.dropLast_concat] at h
    obtain ⟨tree, hr, hlen⟩ := attempt_of_takes hts (by decide) (takes_program_of_sentence he h)
    have hy := ((attemptRule_extent Grammar.glowStart .start 0).result _ hr).2.yields
    obtain ⟨t, m, hn, ht⟩ := Scanner.tokenize_continued hts hy
    rw [hlen, Scanner.continued_eq (by simp), List.getElem?_concat_length] at ht
    cases ht
    exact ⟨tree, Parser.parseFrom_of_end hr (Scanner.peek_eq_ok.mpr ⟨m, hn⟩) he⟩

def sumSource : SourceFile := .ofText "sum" "const a = b + 1; // c"

def sumKinds : List Kind := [.kwConst, .identifier, .assign, .identifier, .plus, .integer, .semicolon]

theorem parse_glow_iff_sum :
    ∃ ts, (Scanner.glow sumSource).tokenize .start = .ok ts ∧ ts.dropLast.map Token.kind = sumKinds ∧
      ∃ tree, (Parser.glow.parse sumSource Grammar.glowStart).result = .ok tree := by
  have hkinds : ((Scanner.glow sumSource).tokenize .start).toOption.map (fun ts => ts.dropLast.map Token.kind) =
      some sumKinds := by decide +kernel
  have hsum : Sentence .expr [.identifier, .plus, .integer] :=
    .expr .name (.moreOperations (Or.inr (Or.inr (Or.inl rfl))) .integer .noOperations)
  obtain ⟨ts, hts, hk⟩ := Option.map_eq_some_iff.mp hkinds
  refine ⟨ts, eq_ok_of_toOption hts, hk, (parse_glow_iff (eq_ok_of_toOption hts)).mpr ?_⟩
  rw [hk]
  exact .lastDeclaration (.declaration (Or.inr rfl) hsum)

lemma Parser.attemptsOf_parseFrom (p : Parser) (sc : Scanner) (s : ScanState) (start : String) :
    attemptsOf (p.parseFrom sc s start).log = attemptsOf (p.attempt sc s start).log := by
  rw [parseFrom, attempt]
  dsimp only
  split
  · rfl
  · split <;> simp [attemptsOf, Event.isAttempt]
  · split
    · split
      · simp [attemptsOf, Event.isAttempt]
      · split <;> simp [attemptsOf, Event.isAttempt]
    · rfl

theorem attempts_linear {source : SourceFile} {tree : Tree} (h : (parseGlow source).result = .ok tree) :
    ∃ ts, (Scanner.glow source).tokenize .start = .ok ts ∧
      attemptsOf (parseGlow source).log ≤ 6 * ts.dropLast.length := by
  obtain ⟨t, s, hy, hn, ht, hs⟩ := sentence_of_parse h
  obtain ⟨ts, hts⟩ := Scanner.tokenize_of_end hy hn ht
  obtain rfl : ts = tree.parts.tokens ++ [t] := Scanner.collect_of_yields hts hy hs.not_isEnd hn ht
  refine ⟨_, hts, ?_⟩
  have hprogram : Sentence .program (tree.parts.tokens.map Token.kind) := hs
  have hcosts := costs_sentence hprogram kindsAt_continued (by simp) (kindAt_continued_end ht)
  have hstart : Grammar.glowStart ∈ Grammar.glow.names := by decide
  obtain ⟨found, hr, -⟩ := attempt_outcome hts hstart
  have hle : attemptsOf (Parser.glow.attempt (.glow source) .start Grammar.glowStart).log ≤
      6 * (tree.parts.tokens.map Token.kind).length :=
    hcosts.spends _ [] .start _ _ 0 none (lists_continued hts) rfl .nil found hr
  rwa [parseGlow, Parser.parse, Parser.attemptsOf_parseFrom, List.dropLast_concat, ← List.length_map Token.kind]

def nestedSum : SourceFile := .ofText "nested" "var x = ((1 + a) * \"b\"); // c"

theorem attempts_linear_nestedSum :
    ∃ tree ts, (parseGlow nestedSum).result = .ok tree ∧ (Scanner.glow nestedSum).tokenize .start = .ok ts ∧
      attemptsOf (parseGlow nestedSum).log ≤ 6 * ts.dropLast.length := by
  have hsome : (parseGlow nestedSum).result.toOption.isSome = true := by decide +kernel
  obtain ⟨tree, hr⟩ := exists_ok_of_isSome hsome
  obtain ⟨ts, hts, hle⟩ := attempts_linear hr
  exact ⟨tree, ts, hr, hts, hle⟩

end GlowSyntax
