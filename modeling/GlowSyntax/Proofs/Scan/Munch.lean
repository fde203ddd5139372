import GlowSyntax.Proofs.Lexicon.Munch
import GlowSyntax.Proofs.Scan.Progress

/-!
Maximal munch: the candidate that is found first is as long as any other, and in a source that is scanned to
its end no name and no integer stops short. The edge of a keyword sees letters beyond ASCII, which no name
has; since no token begins with them, a keyword before one of them becomes a name only in a scan that fails.
-/

namespace GlowSyntax.Scanner

section Collect

variable {sc : Scanner} {s : ScanState} {t : Token} {us vs : List Token} {n : Nat}

lemma collect_append (h : collect sc.next n s = .ok (us ++ t :: vs)) :
    ∃ m s', Yields sc s us m ∧ sc.next m = .ok (t, s') ∧ (t.isEnd ∨ ∃ r, sc.next s' = .ok r) := by
  induction us generalizing n s with
  | nil =>
    cases n with
    | zero => cases h
    | succ n =>
      obtain ⟨u, m, hn, ⟨hend, hts⟩ | ⟨_, rest, hrest, hts⟩⟩ := collect_succ h
      · obtain ⟨rfl, -⟩ := List.cons.inj hts
        exact ⟨s, m, .nil, hn, .inl hend⟩
      · obtain ⟨rfl, rfl⟩ := List.cons.inj hts
        refine ⟨s, m, .nil, hn, .inr ?_⟩
        cases n with
        | zero => cases hrest
        | succ n =>
          obtain ⟨v, m', hv, _⟩ := collect_succ hrest
          exact ⟨_, hv⟩
  | cons u us ih =>
    cases n with
    | zero => cases h
    | succ n =>
      obtain ⟨v, m, hn, ⟨_, hts⟩ | ⟨_, rest, hrest, hts⟩⟩ := collect_succ h
      · obtain ⟨-, hnil⟩ := List.cons.inj hts
        simp at hnil
      · obtain ⟨rfl, rfl⟩ := List.cons.inj hts
        obtain ⟨m', s', hy, hnext, hmore⟩ := ih hrest
        exact ⟨m', s', .cons hn hy, hnext, hmore⟩

lemma read_of_next {r : Token × ScanState} (h : sc.next s = .ok r) : ∃ u m, sc.read s = .ok (u, m) := by
  have hsteps : sc.steps = (sc.rests.size + 2) + 1 := rfl
  rw [next, hsteps, nextWithin] at h
  split at h
  · cases h
  · next u m hr => exact ⟨u, m, hr⟩

end Collect

structure Reads (source : SourceFile) (us : List Token) (t : Token) (before after : List Char) (s : ScanState) :
    Prop where
  yields : Yields (.glow source) .start (us ++ [t]) s
  between : s.Between source (before ++ t.content.toList) after
  span_eq : t.span = .ofOffsets (Text.size before) s.offset

variable {source : SourceFile} {t : Token} {us vs : List Token} {s s' : ScanState} {before rest text after : List Char}

lemma mode_of_goesOnWith {m : Mode} {k : Kind} {c : Char} (hk : k ∈ m.candidates)
    (hc : Lexicon.goesOnWith k c = true) : m = .code ∧ m.after k = .code := by
  cases k with
  | identifier | integer => cases m <;> first | exact ⟨rfl, rfl⟩ | exact absurd hk (by decide)
  | _ => cases hc

section Stops

variable (hf : Lexicon.glow.find (text ++ after) s.mode.candidates = .ok (some (t.kind, text)))
  (hs' : s'.Between source (before ++ text) after) (hadvance : s' = s.advance t.kind text)
  (hmore : t.isEnd ∨ ∃ r, (Scanner.glow source).next s' = .ok r)
include hf hs' hadvance hmore

lemma not_goesOnWith_head : ∀ c ∈ after.head?, Lexicon.goesOnWith t.kind c = false := by
  intro c hc
  obtain ⟨cs, rfl⟩ := List.head?_eq_some_iff.mp hc
  by_contra hgoes
  have hgoes : Lexicon.goesOnWith t.kind c = true := by simpa using hgoes
  obtain ⟨hmode, hmode'⟩ := mode_of_goesOnWith (Lexicon.find_eq_some hf).1 hgoes
  obtain ⟨r, hr⟩ : ∃ r, (Scanner.glow source).next s' = .ok r := by
    rcases hmore with hend | hmore
    · have hk : t.kind = .endOfFile := by simpa [Token.isEnd] using hend
      rw [hk] at hgoes
      cases hgoes
    · exact hmore
  obtain ⟨u, m, hread⟩ := read_of_next hr
  obtain ⟨_, _, _, hfound, _⟩ := read_between hs' hread
  have hcode : s'.mode = .code := by
    rw [hadvance]
    exact hmode'
  rw [hcode] at hfound
  rw [hmode] at hf
  rw [Lexicon.not_goesOnWith_of_ascii (Lexicon.ascii_of_find hfound) hf] at hgoes
  cases hgoes

lemma name_ne_keyword (hk : t.kind = .identifier) : String.ofList text ∉ ["var", "const", "func"] := by
  have hstops := not_goesOnWith_head hf hs' hadvance hmore
  rw [hk] at hf hstops
  have hafter : after.head?.any Unicode.isWord = false := by
    cases after with
    | nil => rfl
    | cons c cs => exact hstops c rfl
  obtain ⟨hmode, -⟩ := mode_of_goesOnWith (c := '_') (Lexicon.find_eq_some hf).1 rfl
  rw [hmode] at hf
  have hne (k : Kind) (hkeyword : k.isKeyword = true) := Lexicon.ne_keyword_of_find hkeyword hf hafter
  simp only [List.mem_cons, List.not_mem_nil, or_false]
  rintro (h | h | h)
  · exact hne .kwVar rfl (congrArg some h.symm)
  · exact hne .kwConst rfl (congrArg some h.symm)
  · exact hne .kwFunc rfl (congrArg some h.symm)

end Stops

theorem tokenize_munches :
    (∀ (m : Mode) (input t : List Char) (k : Kind), Lexicon.glow.find input m.candidates = .ok (some (k, t)) →
      ∀ k' ∈ m.candidates, ∀ s t', Lexicon.glow.spelling? k' = some s → s.candidate? input = some t' →
        t'.length ≤ t.length) ∧
    ∀ (source : SourceFile) (us vs : List Token) (t : Token),
      (Scanner.glow source).tokenize .start = .ok (us ++ t :: vs) →
      (t.kind = .identifier → t.content ∉ ["var", "const", "func"]) ∧
      ∃ before after s, Reads source us t before after s ∧
        ∀ c ∈ after.head?, Lexicon.goesOnWith t.kind c = false := by
  constructor
  · intro m input t k hf k' hk' s t' hs hc
    exact (Lexicon.prefix_of_find hf hk' hs hc).length_le
  · intro source us vs t htokens
    obtain ⟨m, s', hyields, hnext, hmore⟩ := collect_append htokens
    obtain ⟨s, hleads, hread⟩ := nextWithin_last hnext
    obtain ⟨before, rest, hs⟩ := Leads.located (hyields.leads.trans hleads) (ScanState.located_start source)
    obtain ⟨text, after, rfl, hf, ht, hadvance, hs'⟩ := read_between hs hread
    have hstops := not_goesOnWith_head hf hs' hadvance hmore
    have hcontent : t.content.toList = text := by rw [ht, String.toList_ofList]
    refine ⟨?_, before, after, s', ⟨hyields.snoc hnext, ?_, ?_⟩, hstops⟩
    · intro hk
      have hname := name_ne_keyword hf hs' hadvance hmore hk
      rwa [← hcontent, String.ofList_toList] at hname
    · rw [hcontent]
      exact hs'
    · rw [ht, hs.offset_eq]

def variableSource : SourceFile := .ofText "variable" "variable == 12"

theorem tokenize_munches_variable :
    (Lexicon.glow.find "==".toList Mode.code.candidates = .ok (some (.equals, "==".toList)) ∧
      (Spelling.literal "=").candidate? "==".toList = some "=".toList ∧ "=".toList.length ≤ "==".toList.length) ∧
    ∃ t vs, (Scanner.glow variableSource).tokenize .start = .ok (t :: vs) ∧ t.kind = .identifier ∧
      t.content ∉ ["var", "const", "func"] ∧ ∃ before after s, Reads variableSource [] t before after s ∧
        ∀ c ∈ after.head?, Unicode.isWord c = false := by
  have hfind : Lexicon.glow.find "==".toList Mode.code.candidates = .ok (some (.equals, "==".toList)) := by
    decide +kernel
  have hassign : (Spelling.literal "=").candidate? "==".toList = some "=".toList := by decide +kernel
  have htokens : (Scanner.glow variableSource).tokenize .start = .ok (
      [] ++ ⟨.identifier, "variable", ⟨1, 1⟩, ⟨0, 8⟩, "variable"⟩ ::
        [⟨.equals, "==", ⟨1, 10⟩, ⟨9, 11⟩, "variable"⟩, ⟨.integer, "12", ⟨1, 13⟩, ⟨12, 14⟩, "variable"⟩,
          ⟨.endOfFile, "", ⟨1, 15⟩, ⟨14, 14⟩, "variable"⟩]) := by
    decide +kernel
  obtain ⟨hlongest, hscan⟩ := tokenize_munches
  obtain ⟨hname, hreads⟩ := hscan variableSource _ _ _ htokens
  exact ⟨⟨hfind, hassign, hlongest .code _ _ _ hfind .assign (by decide) _ _ rfl hassign⟩,
    _, _, htokens, rfl, hname rfl, hreads⟩

end GlowSyntax.Scanner
