import GlowSyntax.Grammar.Glow
import GlowSyntax.Proofs.Match.OrderedChoice

namespace GlowSyntax

open Run

def Scanner.Lists (sc : Scanner) (tokens : Nat → Option Token) : Prop :=
  ∀ us s t s', sc.Yields .start us s → sc.next s = .ok (t, s') → tokens us.length = some t

lemma Scanner.Lists.kindAt_eq {sc : Scanner} {tokens : Nat → Option Token} (hl : sc.Lists tokens) {us : List Token}
    {s s' : ScanState} {t : Token} (hy : sc.Yields .start us s) (hn : sc.next s = .ok (t, s')) :
    kindAt tokens us.length = some t.kind :=
  kindAt_eq_some.mpr ⟨t, hl us s t s' hy hn, rfl⟩

def outcome (i : Nat) (found : Option Tree) : Option (Reading × Nat) :=
  found.map fun t => (t.forest.reading, i + t.parts.tokens.length)

def partialOutcome (i : Nat) (found : Option (Forest × ScanState × Nat)) : Option (Reading × Nat) :=
  found.map fun r => (r.1.reading, i + r.1.tokens.length)

section

variable (g : Grammar) (tokens : Nat → Option Token) (sc : Scanner)

def ReadsRule (name : String) (s : ScanState) (found : Option Tree) : Prop :=
  ∀ us, sc.Yields .start us s → Reads g tokens [.rule name] us.length (outcome us.length found)

def ReadsItems (items : List Item) (s : ScanState) (found : Option (Forest × ScanState × Nat)) : Prop :=
  ∀ us, sc.Yields .start us s → Reads g tokens items us.length (partialOutcome us.length found)

end

variable {g : Grammar} {limit : Nat} {tokens : Nat → Option Token} {sc : Scanner} {call : Attempt}
  {frame : Frame}

lemma matchItems_reads (hl : sc.Lists tokens) {rule : String}
    (hcall : ∀ name s depth parent, Ensures (call name s depth parent) (fun _ => True) (fun _ => True)
      fun found => ReadsRule g tokens sc name s found ∧ MatchesRule g sc name s depth found)
    (items : List Item) (s : ScanState) (depth : Nat) :
    Ensures (matchItems sc call rule frame items s depth) (fun _ => True) (fun _ => True)
      (ReadsItems g tokens sc items s) := by
  induction items generalizing s depth with
  | nil => exact matchItems_nil_ensures fun us _ => .nil
  | cons item items ih =>
    obtain ⟨symbol, label⟩ := item
    cases symbol with
    | token k =>
      refine matchItems_token_ensures (fun _ _ => trivial) ?_ ?_
      · intro t s' hn hk
        refine ⟨trivial, fun us hy => .other ?_⟩
        intro t' ht'
        rw [hl us s t s' hy hn] at ht'
        exact Option.some.inj ht' ▸ hk
      · intro t s' hn hk
        refine (ih s' (depth + 1)).imp fun found hr us hy => ?_
        have hrest := hr (us ++ [t]) (hy.snoc hn)
        rw [List.length_append, List.length_singleton] at hrest
        have h : Reads g tokens (⟨.token k, label⟩ :: items) us.length _ := .token (hl us s t s' hy hn) hk hrest
        cases found with
        | none => exact h
        | some r =>
          simp only [partialOutcome, Option.map_some, Forest.reading, Forest.tokens, List.length_cons] at h ⊢
          rwa [Nat.add_assoc, Nat.add_comm 1] at h
    | rule name =>
      refine matchItems_rule_ensures (hcall name s depth (some frame)) ?_ ?_
      · rintro ⟨hr, -⟩ us hy
        exact (hr us hy).cons_none
      · rintro sub ⟨hsub, hfit, ha⟩
        refine (ih sub.stop sub.depth).imp fun found hr us hy => ?_
        have hrest := hr (us ++ sub.parts.tokens) (hy.append ha.yields)
        rw [List.length_append] at hrest
        have h : Reads g tokens (⟨.rule name, label⟩ :: items) us.length _ := (hsub us hy).cons_some hrest
        cases found with
        | none => exact h
        | some r =>
          simpa only [partialOutcome, Option.map_some, Forest.reading, Forest.tokens, List.length_append,
            Nat.add_assoc] using h

lemma matchNested_reads (hl : sc.Lists tokens) (n : Nat) (name : String) (s : ScanState) (depth : Nat)
    (parent : Option Frame) :
    Ensures (matchNested g limit sc n name s depth parent) (fun _ => True) (fun _ => True)
      (ReadsRule g tokens sc name s) := by
  induction n generalizing name s depth parent with
  | zero => exact .fail trivial
  | succ n ih =>
    refine matchRule_ensures (fun _ => trivial) (fun _ => trivial) (fun _ _ => trivial) ?_ ?_
    · intro r t s' hf hn ht us hy
      exact .ended hf (hl us s t s' hy hn) ht
    · intro r t s' _ hf hn ht
      have hcall : ∀ name s depth parent, Ensures (matchNested g limit sc n name s depth parent)
          (fun _ => True) (fun _ => True)
          fun found => ReadsRule g tokens sc name s found ∧ MatchesRule g sc name s depth found :=
        fun name s depth parent => (ih name s depth parent).and_result (matchNested_extent n name s depth parent)
      refine matchAlternatives_ensures
        (N := fun a => ∀ us, sc.Yields .start us s → Reads g tokens a us.length none)
        (T := fun i a t => ∀ us, sc.Yields .start us s → t.node.rule = r ∧ t.node.alternative = i ∧
          Reads g tokens a us.length (some (t.parts.reading, us.length + t.parts.tokens.length))) ?_ ?_ ?_
      · intro i a _
        refine matchAlternative_ensures (matchItems_reads hl hcall a s depth) ?_ ?_
        · intro h us hy
          exact h us hy
        · intro parts stop d h us hy
          exact ⟨rfl, rfl, h us hy⟩
      · intro hnone us hy
        exact .refused hf (hl us s t s' hy hn) ht fun a ha => hnone a ha us hy
      · intro before a after found has hbefore hfound us hy
        obtain ⟨rfl, hi, hr⟩ := hfound us hy
        have h : Reads g tokens [⟨.rule name, none⟩] us.length _ :=
          .chosen hf (hl us s t s' hy hn) ht has (fun b hb => hbefore b hb us hy) hr .nil
        rw [Nat.zero_add] at hi
        simp only [outcome, Option.map_some, Tree.forest, Forest.reading, hi]
        exact h

lemma matchNested_outcome (hl : sc.Lists tokens) (n : Nat) (name : String) (s : ScanState) (depth : Nat)
    (parent : Option Frame) :
    Ensures (matchNested g limit sc n name s depth parent) (fun _ => True) (fun _ => True)
      fun found => ReadsRule g tokens sc name s found ∧ MatchesRule g sc name s depth found :=
  (matchNested_reads hl n name s depth parent).and_result (matchNested_extent n name s depth parent)

lemma matchNested_takes (hl : sc.Lists tokens) {us : List Token} {s : ScanState} {name : String} {j : Nat}
    (hy : sc.Yields .start us s) (ht : Takes g tokens [.rule name] us.length j) (n depth : Nat)
    (parent : Option Frame) :
    Ensures (matchNested g limit sc n name s depth parent) (fun _ => True) (fun _ => True)
      fun found => ∃ sub, found = some sub ∧ us.length + sub.parts.tokens.length = j ∧
        Advance sc s depth sub.parts.tokens sub.stop sub.depth := by
  refine (matchNested_outcome hl n name s depth parent).imp ?_
  rintro found ⟨hreads, hmatches⟩
  obtain ⟨parts, ht⟩ := ht
  have hout := (hreads us hy).unique ht
  cases found with
  | none => cases hout
  | some sub => exact ⟨sub, rfl, congrArg Prod.snd (Option.some.inj hout), hmatches.2⟩

section Tokenized

variable {source : SourceFile} {ts us : List Token} {s : ScanState} {name : String} {depth : Nat}
  (hts : (Scanner.glow source).tokenize .start = .ok ts)

include hts

lemma lists_continued : (Scanner.glow source).Lists (Scanner.continued ts) := by
  intro us s t s' hy hn
  obtain ⟨t', m, hn', hc⟩ := Scanner.tokenize_continued hts hy
  rw [hn] at hn'
  cases hn'
  exact hc

variable (hs : (Scanner.glow source).Yields .start us s)
  (hlimit : ∀ r n, (attemptRule g limit (.glow source) name s depth).result ≠ .error (.recursionLimit r n))
  (hknown : ∀ r, (attemptRule g limit (.glow source) name s depth).result ≠ .error (.grammar (.unknownRule r)))

include hs hlimit hknown

lemma attemptRule_result : ∃ found, (attemptRule g limit (.glow source) name s depth).result = .ok found := by
  cases hr : (attemptRule g limit (.glow source) name s depth).result with
  | ok found => exact ⟨found, rfl⟩
  | error e =>
    have he := (attemptRule_extent name s depth).error e hr
    cases e with
    | scan err =>
      -- Where the attempt stops to read the source has a token.
      obtain ⟨more, m, hm, hn⟩ := he
      obtain ⟨t, m', hn', _⟩ := Scanner.tokenize_continued hts (hs.append hm)
      rw [hn] at hn'
      cases hn'
    | grammar e =>
      obtain ⟨r, rfl, _⟩ := he
      exact absurd hr (hknown r)
    | recursionLimit r n => exact absurd hr (hlimit r n)

lemma attemptRule_outcome :
    ∃ found, (attemptRule g limit (.glow source) name s depth).result = .ok found ∧
      Reads g (Scanner.continued ts) [.rule name] us.length (outcome us.length found) := by
  obtain ⟨found, hr⟩ := attemptRule_result hts hs hlimit hknown
  exact ⟨found, hr, (matchNested_reads (lists_continued hts) _ name s depth none).result found hr us hs⟩

end Tokenized

/-- An attempt has the one outcome that its rule has on the tokens of the source, the end of file repeated:
the same tree with the same captures, and the state behind the tokens that the tree consumed. -/
theorem attemptRule_reads {g : Grammar} {limit : Nat} {source : SourceFile} {ts us : List Token} {s : ScanState}
    {name : String} {depth : Nat} (hts : (Scanner.glow source).tokenize .start = .ok ts)
    (hs : (Scanner.glow source).Yields .start us s)
    (hlimit : ∀ r n, (attemptRule g limit (.glow source) name s depth).result ≠ .error (.recursionLimit r n))
    (hknown : ∀ r, (attemptRule g limit (.glow source) name s depth).result ≠ .error (.grammar (.unknownRule r))) :
    ∃ found, (attemptRule g limit (.glow source) name s depth).result = .ok found ∧
      (∀ out, Reads g (Scanner.continued ts) [.rule name] us.length out ↔ out = outcome us.length found) ∧
      ∀ t, found = some t → (Scanner.glow source).Yields s t.parts.tokens t.stop ∧
        t.captures.map (Prod.map id Capture.reading) = t.parts.reading.captures := by
  obtain ⟨found, hr, hreads⟩ := attemptRule_outcome hts hs hlimit hknown
  refine ⟨found, hr, ?_, ?_⟩
  · intro out
    constructor
    · intro h
      exact h.unique hreads
    · rintro rfl
      exact hreads
  · rintro t rfl
    have ht := (attemptRule_extent name s depth).result (some t) hr
    exact ⟨ht.2.yields, t.parts.captures_reading⟩

lemma eq_ok_of_toOption {ε α : Type} {x : Except ε α} {a : α} (h : x.toOption = some a) : x = .ok a := by
  cases x with
  | error e => cases h
  | ok b => exact congrArg Except.ok (Option.some.inj h)

lemma exists_ok_of_isSome {ε α : Type} {x : Except ε α} (h : x.toOption.isSome = true) : ∃ a, x = .ok a := by
  obtain ⟨a, ha⟩ := Option.isSome_iff_exists.mp h
  exact ⟨a, eq_ok_of_toOption ha⟩

lemma error_of_toOption {ε α : Type} {x : Except ε α} (h : x.toOption = none) : ∃ e, x = .error e := by
  cases x with
  | error e => exact ⟨e, rfl⟩
  | ok a => cases h

def innerSource : SourceFile := .ofText "inner" "-(a)"

def innerTokens : List Token :=
  [⟨.minus, "-", ⟨1, 1⟩, ⟨0, 1⟩, "inner"⟩, ⟨.parenOpen, "(", ⟨1, 2⟩, ⟨1, 2⟩, "inner"⟩,
    ⟨.identifier, "a", ⟨1, 3⟩, ⟨2, 3⟩, "inner"⟩, ⟨.parenClose, ")", ⟨1, 4⟩, ⟨3, 4⟩, "inner"⟩,
    ⟨.endOfFile, "", ⟨1, 5⟩, ⟨4, 4⟩, "inner"⟩]

def innerRun : Run (Option Tree) := attemptRule .glow 256 (.glow innerSource) "paren" ⟨1, 1, 2, .code⟩ 0

theorem attemptRule_reads_inner :
    ∃ t, innerRun.result = .ok (some t) ∧
      Reads .glow (Scanner.continued innerTokens) [.rule "paren"] 1
        (some (t.forest.reading, 1 + t.parts.tokens.length)) := by
  have hts : (Scanner.glow innerSource).tokenize .start = .ok innerTokens :=
    eq_ok_of_toOption (by decide +kernel)
  have hs : (Scanner.glow innerSource).Yields .start [innerTokens.head!] ⟨1, 1, 2, .code⟩ :=
    .single (eq_ok_of_toOption (by decide +kernel))
  have hsome : innerRun.result.toOption.join.isSome := by decide +kernel
  obtain ⟨t, ht⟩ := Option.isSome_iff_exists.mp hsome
  obtain ⟨found, hr, rfl⟩ : ∃ found, innerRun.result = .ok found ∧ found = some t := by
    cases hr : innerRun.result with
    | error e =>
      rw [hr] at ht
      cases ht
    | ok found =>
      rw [hr] at ht
      exact ⟨found, rfl, ht⟩
  have hlimit : ∀ r n, innerRun.result ≠ .error (.recursionLimit r n) := fun r n he => by cases hr.symm.trans he
  have hknown : ∀ r, innerRun.result ≠ .error (.grammar (.unknownRule r)) := fun r he => by cases hr.symm.trans he
  obtain ⟨found, hr', hreads, -⟩ := attemptRule_reads hts hs hlimit hknown
  obtain rfl := Except.ok.inj (hr.symm.trans hr')
  exact ⟨t, hr, (hreads _).mpr rfl⟩

def endTwice : Grammar := .ofRules [⟨"a", [[.token .identifier, .token .endOfFile, .token .endOfFile]]⟩]

def endSource : SourceFile := .ofText "end" "x"

/-- The end of file stands once in the list of tokens but is read as often as a rule asks for it: without
its repetitions the list has no match where the attempt has one. -/
theorem end_not_repeated :
    ∃ ts t, (Scanner.glow endSource).tokenize .start = .ok ts ∧
      (attemptRule endTwice 256 (.glow endSource) "a" .start 0).result = .ok (some t) ∧
      Reads endTwice (fun i => ts[i]?) [.rule "a"] 0 none ∧
      ∀ q, ¬ Reads endTwice (fun i => ts[i]?) [.rule "a"] 0 (some q) := by
  let x : Token := ⟨.identifier, "x", ⟨1, 1⟩, ⟨0, 1⟩, "end"⟩
  let e : Token := ⟨.endOfFile, "", ⟨1, 2⟩, ⟨1, 1⟩, "end"⟩
  have hts : (Scanner.glow endSource).tokenize .start = .ok [x, e] := eq_ok_of_toOption (by decide +kernel)
  have hr : (attemptRule endTwice 256 (.glow endSource) "a" .start 0).result = .ok (some
      ⟨⟨⟨"a", [[.token .identifier, .token .endOfFile, .token .endOfFile]]⟩, 0, ⟨1, 1, 2, .code⟩, 3⟩,
        .token none x (.token none e (.token none e .nil))⟩) := eq_ok_of_toOption (by decide +kernel)
  have hnone : Reads endTwice (fun i => [x, e][i]?) [.rule "a"] 0 none := by
    refine .refused (show endTwice.find? "a" = some _ from rfl) rfl (by decide) ?_
    simp only [List.mem_singleton, forall_eq]
    have hlast : Reads endTwice (fun i => [x, e][i]?) [.token .endOfFile] 2 none := .other (by simp)
    exact .token rfl rfl (.token rfl rfl hlast)
  refine ⟨_, _, hts, hr, hnone, ?_⟩
  intro q hq
  cases hnone.unique hq

end GlowSyntax
