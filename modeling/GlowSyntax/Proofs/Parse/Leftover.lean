import GlowSyntax.Proofs.Match.Failures
import GlowSyntax.Proofs.Parse.Location
import GlowSyntax.Proofs.Source.Walk
import Mathlib.Algebra.Group.Nat.Defs

namespace GlowSyntax

namespace Scanner

variable {sc : Scanner} {s m m' s' : ScanState} {t u : Token} {ts us : List Token}

lemma next_span (h : sc.next s = .ok (t, s')) :
    ∃ n, s.offset ≤ n ∧ n ≤ s'.offset ∧ t.span = .ofOffsets n s'.offset := by
  obtain ⟨m, hr, ho⟩ := nextWithin_eq_ok h
  obtain ⟨rest, text, -, -, ht, -⟩ := read_eq_ok hr
  exact ⟨m.offset, ho, (read_bounds hr).1, by rw [ht]⟩

lemma Yields.next_after (h : sc.Yields s ts m) (ht : sc.next m = .ok (t, m')) (hu : sc.Yields s (us ++ [u]) s')
    (hlt : ts.length < us.length) : ∃ n, m'.offset ≤ n.offset ∧ sc.next n = .ok (u, s') := by
  have hsplit : us ++ [u] = us.take (ts.length + 1) ++ (us.drop (ts.length + 1) ++ [u]) := by
    rw [← List.append_assoc, List.take_append_drop]
  rw [hsplit] at hu
  obtain ⟨m₂, hfirst, hrest⟩ := hu.split
  have hlength : (ts ++ [t]).length = (us.take (ts.length + 1)).length := by
    rw [List.length_append, List.length_singleton, List.length_take]
    omega
  obtain ⟨-, rfl⟩ := (h.snoc ht).unique hfirst hlength
  obtain ⟨n, hbetween, hlast⟩ := hrest.split
  cases hlast with
  | cons hn hnil =>
    cases hnil
    exact ⟨n, hbetween.offset_le, hn⟩

lemma span_le (hsize : Text.size sc.source.text < 2 ^ 32) (ht : sc.next s = .ok (t, m)) (hle : m.offset ≤ m'.offset)
    (hu : sc.next m' = .ok (u, s')) : t.span.stop ≤ u.span.start := by
  obtain ⟨a, -, -, hta⟩ := next_span ht
  obtain ⟨b, hb, hbs, hub⟩ := next_span hu
  have hend : s'.offset < UInt32.size := lt_of_le_of_lt (next_bounds hu).2 hsize
  have hstop : t.span.stop.toNat = m.offset := by
    rw [hta]
    exact Span.stop_ofOffsets (by omega)
  have hstart : u.span.start.toNat = b := by
    rw [hub]
    exact Span.start_ofOffsets (by omega)
  rw [UInt32.le_iff_toNat_le, hstop, hstart]
  exact hle.trans hb

end Scanner

structure Leftover (sc : Scanner) (x : Run (Option Tree)) (tree : Tree) (t : Token) (fs : List Failure) : Prop where
  behind : ∃ ts s, sc.Yields .start ts tree.stop ∧ ts.length = tree.depth ∧ sc.next tree.stop = .ok (t, s)
  not_end : ¬ t.isEnd
  further : (fs = [] ∧ ∀ f ∈ failuresOf x.log, f.depth ≤ tree.depth) ∨
    fs ≠ [] ∧ ∃ u, t.span.stop ≤ u.span.start ∧ ∀ f ∈ fs, tree.depth < f.depth ∧ f.found = u

namespace Parser

variable {p : Parser} {sc : Scanner} {start : String} {tree : Tree} {t : Token}

lemma parseFrom_partly {s : ScanState} (hend : p.options.requireEnd = false)
    (hr : (p.attempt sc s start).result = .ok (some tree)) : (p.parseFrom sc s start).result = .ok tree := by
  rw [attempt] at hr
  rw [parseFrom, hr]
  simp [hend]

lemma leftover_of_peek (hsize : Text.size sc.source.text < 2 ^ 32)
    (hr : (p.attempt sc .start start).result = .ok (some tree)) (hp : sc.peek tree.stop = .ok t) (ht : ¬ t.isEnd) :
    Leftover sc (p.attempt sc .start start) tree t
      (if ((p.attempt sc .start start).record .empty).deepest.any (tree.depth < ·) then
        ((p.attempt sc .start start).record .empty).attempts else []) := by
  have hextent : Run.Ensures (p.attempt sc .start start) (Failure.Met sc .start 0)
      (MatchError.Raised p.grammar p.options.maxRecursion sc .start) (MatchesRule p.grammar sc start .start 0) :=
    attemptRule_extent start .start 0
  obtain ⟨-, ha⟩ := hextent.result _ hr
  obtain ⟨s, hn⟩ := Scanner.peek_eq_ok.mp hp
  have hdepth : tree.parts.tokens.length = tree.depth := by rw [ha.depth_eq, Nat.zero_add]
  refine ⟨⟨_, s, ha.yields, hdepth, hn⟩, ht, ?_⟩
  cases hd : ((p.attempt sc .start start).record .empty).deepest.any (tree.depth < ·) with
  | false => exact Or.inl ⟨if_neg Bool.false_ne_true, (furthest_tree hr hd).failure_le⟩
  | true =>
    rw [if_pos rfl]
    obtain ⟨f, rest, hat, hlt⟩ := exists_further hd
    have hk := FailureRecord.keeps_addAll (failuresOf (p.attempt sc .start start).log)
    have hf : f ∈ ((p.attempt sc .start start).record .empty).attempts := hat ▸ List.mem_cons_self
    obtain ⟨hmem, hdeepest⟩ := hk.mem_attempts.mp hf
    obtain ⟨us, s', hu, hfd⟩ := hextent.failures f hmem
    obtain ⟨n, hle, hfound⟩ := ha.yields.next_after hn hu (by omega)
    refine Or.inr ⟨List.ne_nil_of_mem hf, f.found, Scanner.span_le hsize hn hle hfound, fun f' hf' => ⟨?_, ?_⟩⟩
    · have hdeepest' := (hk.mem_attempts.mp hf').2
      rwa [← Option.some.inj (hdeepest.symm.trans hdeepest')]
    · exact (kept_explained hextent.failures hf).1 f' hf'

end Parser

/-- A parse that has to reach the end makes the match of one that need not. If something is left behind it, that is
the token there, and the failures it gives are about one token that stands behind this one. -/
theorem trailing_leftover {source : SourceFile} (hsize : Text.size source.text < 2 ^ 32 - 1) (p : Parser) (limit : Nat)
    (start : String) :
    (∀ r t fs, ((p.withOptions ⟨limit, true⟩).parse source start).result = .error (.trailing r t fs) → r = start ∧
      ∃ tree, ((p.withOptions ⟨limit, false⟩).parse source start).result = .ok tree ∧
        Leftover (.glow source) (attemptRule p.grammar limit (.glow source) start .start 0) tree t fs) ∧
    ∀ tree, ((p.withOptions ⟨limit, true⟩).parse source start).result = .ok tree →
      ((p.withOptions ⟨limit, false⟩).parse source start).result = .ok tree := by
  have ho := (p.withOptions ⟨limit, true⟩).outcome_parseFrom (.glow source) .start start
  constructor
  · intro r t fs h
    rw [Parser.parse] at h
    rw [h] at ho
    generalize hout : (.error (.trailing r t fs) : Except ParseError Tree) = out at ho
    cases ho with
    | @ended e _ => cases e <;> cases hout
    | trailing hr _ hp ht =>
      cases hout
      have hleft := Parser.leftover_of_peek (lt_of_lt_of_le hsize (Nat.sub_le _ _)) hr hp ht
      exact ⟨rfl, _, Parser.parseFrom_partly rfl hr, hleft⟩
    | _ => cases hout
  · intro tree h
    rw [Parser.parse] at h
    rw [h] at ho
    cases ho with
    | complete hr _ _ _ => exact Parser.parseFrom_partly rfl hr
    | partly hr _ => exact Parser.parseFrom_partly rfl hr

def brokenSource : SourceFile := .ofText "broken" "var x = 1;\nvar y = 2 + ;"

theorem trailing_leftover_broken :
    Text.size brokenSource.text < 2 ^ 32 - 1 ∧ ∃ r t fs tree,
      ((Parser.glow.withOptions ⟨256, true⟩).parse brokenSource "program").result = .error (.trailing r t fs) ∧
      t.span = ⟨11, 14⟩ ∧ fs ≠ [] ∧
      Leftover (.glow brokenSource) (attemptRule .glow 256 (.glow brokenSource) "program" .start 0) tree t fs := by
  have hsize : Text.size brokenSource.text < 2 ^ 32 - 1 := by decide +kernel
  have hfails : (match ((Parser.glow.withOptions ⟨256, true⟩).parse brokenSource "program").result with
      | .error (.trailing _ t fs) => t.span = ⟨11, 14⟩ && !fs.isEmpty
      | _ => false) = true := by decide +kernel
  refine ⟨hsize, ?_⟩
  cases hr : ((Parser.glow.withOptions ⟨256, true⟩).parse brokenSource "program").result with
  | ok tree =>
    rw [hr] at hfails
    cases hfails
  | error err =>
    rw [hr] at hfails
    cases err with
    | trailing r t fs =>
      obtain ⟨-, tree, -, hleft⟩ := (trailing_leftover hsize Parser.glow 256 "program").1 r t fs hr
      obtain ⟨hspan, hfs⟩ := (Bool.and_eq_true_iff).mp hfails
      exact ⟨r, t, fs, tree, rfl, of_decide_eq_true hspan, by simpa using hfs, hleft⟩
    | _ => cases hfails

end GlowSyntax
