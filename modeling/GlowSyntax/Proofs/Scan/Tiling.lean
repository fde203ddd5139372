import GlowSyntax.Proofs.Scan.Located
import Mathlib.Algebra.Group.Nat.Defs

namespace GlowSyntax

structure Token.StandsAt (source : SourceFile) (offset : Nat) (m : Mode) (t : Token) : Prop where
  start_eq : t.span.start.toNat = offset
  stop_eq : t.span.stop.toNat = offset + Text.size t.content.toList
  pos_eq : source.positionAt offset = some t.pos
  found : ∃ after, Text.dropBytes source.text offset = some (t.content.toList ++ after) ∧
    Lexicon.glow.find (t.content.toList ++ after) m.candidates = .ok (some (t.kind, t.content.toList))

inductive Tiling (source : SourceFile) : Nat → Mode → List Token → Nat → Mode → Prop
  | nil {n m} : Tiling source n m [] n m
  | cons {n m t ts n' m'} : t.StandsAt source n m →
      Tiling source (n + Text.size t.content.toList) (m.after t.kind) ts n' m' → Tiling source n m (t :: ts) n' m'

def SourceFile.Blocked (source : SourceFile) (offset : Nat) : Prop :=
  ∃ ts rest, (∀ t ∈ ts, ¬ t.isEnd) ∧ Tiling source 0 .code ts offset .code ∧
    Text.dropBytes source.text offset = some rest ∧ Lexicon.glow.find rest Mode.code.candidates = .ok none

variable {source : SourceFile}

lemma Token.StandsAt.not_blocked {n : Nat} {m : Mode} {t : Token} {rest : List Char} (h : t.StandsAt source n m)
    (hr : Text.dropBytes source.text n = some rest) : Lexicon.glow.find rest m.candidates ≠ .ok none := by
  obtain ⟨after, hafter, hfound⟩ := h.found
  obtain rfl := Option.some.inj (hr.symm.trans hafter)
  rw [hfound]
  simp

lemma Token.StandsAt.unique {n : Nat} {m : Mode} {t t' : Token} (h : t.StandsAt source n m)
    (h' : t'.StandsAt source n m) : t.kind = t'.kind ∧ t.content = t'.content := by
  obtain ⟨after, hafter, hfound⟩ := h.found
  obtain ⟨after', hafter', hfound'⟩ := h'.found
  rw [Option.some.inj (hafter.symm.trans hafter'), hfound'] at hfound
  simp only [Except.ok.injEq, Option.some.injEq, Prod.mk.injEq, String.toList_inj] at hfound
  exact ⟨hfound.1.symm, hfound.2.symm⟩

namespace Tiling

lemma blocked_unique {n p p' : Nat} {m : Mode} {ts ts' : List Token} {rest rest' : List Char}
    (h : Tiling source n m ts p .code) (h' : Tiling source n m ts' p' .code)
    (hr : Text.dropBytes source.text p = some rest) (hf : Lexicon.glow.find rest Mode.code.candidates = .ok none)
    (hr' : Text.dropBytes source.text p' = some rest')
    (hf' : Lexicon.glow.find rest' Mode.code.candidates = .ok none) : p = p' := by
  generalize hm : Mode.code = c at h h' hf hf'
  induction h generalizing ts' with
  | nil =>
    cases h' with
    | nil => rfl
    | cons ht _ => exact absurd hf (ht.not_blocked hr)
  | cons ht _ ih =>
    cases h' with
    | nil => exact absurd hf' (ht.not_blocked hr')
    | cons ht' hrest' =>
      obtain ⟨hk, hc⟩ := ht.unique ht'
      rw [← hk, ← hc] at hrest'
      exact ih hr hm hrest' hf hf'

end Tiling

namespace Scanner

variable {s s' : ScanState} {t : Token} {before rest : List Char}

lemma read_of_find_some {k : Kind} {text : List Char} (hs : s.Between source before rest)
    (hf : Lexicon.glow.find rest s.mode.candidates = .ok (some (k, text))) :
    (Scanner.glow source).read s =
      .ok (⟨k, String.ofList text, s.pos, .ofOffsets s.offset (s.advance k text).offset, source.name⟩,
        s.advance k text) := by
  have hlexicon : (Scanner.glow source).lexicon.find rest s.mode.candidates = .ok (some (k, text)) := hf
  rw [read, hs.rest?_eq_some]
  simp only [hlexicon]
  rfl

lemma read_of_find_none (hs : s.Between source before rest)
    (hf : Lexicon.glow.find rest s.mode.candidates = .ok none) :
    (Scanner.glow source).read s = .error ((Scanner.glow source).unexpected s rest) := by
  have hlexicon : (Scanner.glow source).lexicon.find rest s.mode.candidates = .ok none := hf
  rw [read, hs.rest?_eq_some]
  simp only [hlexicon]

structure Moves (source : SourceFile) (s : ScanState) (before rest : List Char) (t : Token) (s' : ScanState) :
    Prop where
  stands : t.StandsAt source s.offset s.mode
  offset_eq : s'.offset = s.offset + Text.size t.content.toList
  mode_eq : s'.mode = s.mode.after t.kind
  between : ∃ after, rest = t.content.toList ++ after ∧ s'.Between source (before ++ t.content.toList) after

lemma moves_of_read (hsize : Text.size source.text < 2 ^ 32) (hs : s.Between source before rest)
    (h : (Scanner.glow source).read s = .ok (t, s')) : Moves source s before rest t s' := by
  obtain ⟨text, after, rfl, hf, ht, hadvance, hs'⟩ := read_between hs h
  obtain rfl : t.content.toList = text := by rw [ht, String.toList_ofList]
  have hoffset : s'.offset = s.offset + Text.size t.content.toList := by
    rw [hadvance]
    rfl
  have hlt : s'.offset < UInt32.size := by
    have hrest := hs'.size_eq
    have h32 : UInt32.size = 2 ^ 32 := rfl
    omega
  have hspan : t.span = .ofOffsets s.offset s'.offset := by rw [ht]
  refine ⟨⟨?_, ?_, ?_, after, hs.dropBytes_eq, hf⟩, hoffset, ?_, after, rfl, hs'⟩
  · rw [hspan]
    exact Span.start_ofOffsets (lt_of_le_of_lt (by omega) hlt)
  · rw [hspan, ← hoffset]
    exact Span.stop_ofOffsets hlt
  · rw [hs.positionAt, ht]
  · rw [hadvance]
    rfl

structure Completes (source : SourceFile) (s : ScanState) (rest : List Char) (ts : List Token) (e : Token) :
    Prop where
  no_end : ∀ t ∈ ts, ¬ t.isEnd
  isEnd : e.isEnd
  contents : (ts ++ [e]).flatMap (·.content.toList) = rest
  tiling : ∃ m, Tiling source s.offset s.mode (ts ++ [e]) (Text.size source.text) m

structure Stops (source : SourceFile) (s : ScanState) (ts : List Token) (before : List Char) (c : Char)
    (after : List Char) (e : ScanError) : Prop where
  no_end : ∀ t ∈ ts, ¬ t.isEnd
  text_eq : source.text = before ++ c :: after
  tiling : Tiling source s.offset s.mode ts (Text.size before) .code
  blocked : Lexicon.glow.find (c :: after) Mode.code.candidates = .ok none
  error : ∃ pos span, e = .unexpected source.name pos span c ∧ source.positionAt (Text.size before) = some pos ∧
    span.start.toNat = Text.size before ∧ span.stop.toNat = Text.size before + c.utf8Size

lemma Moves.tiling {ts : List Token} {n : Nat} {m : Mode} (h : Moves source s before rest t s')
    (ht : Tiling source s'.offset s'.mode ts n m) : Tiling source s.offset s.mode (t :: ts) n m := by
  rw [h.offset_eq, h.mode_eq] at ht
  exact .cons h.stands ht

lemma Completes.cons {after : List Char} {ts : List Token} {e : Token} (h : Completes source s' after ts e)
    (ht : ¬ t.isEnd) (hm : Moves source s before (t.content.toList ++ after) t s') :
    Completes source s (t.content.toList ++ after) (t :: ts) e := by
  obtain ⟨m, htiling⟩ := h.tiling
  refine ⟨List.forall_mem_cons.mpr ⟨ht, h.no_end⟩, h.isEnd, ?_, m, hm.tiling htiling⟩
  rw [List.cons_append, List.flatMap_cons, h.contents]

lemma Stops.cons {ts : List Token} {before' after : List Char} {c : Char} {e : ScanError}
    (h : Stops source s' ts before' c after e) (ht : ¬ t.isEnd) (hm : Moves source s before rest t s') :
    Stops source s (t :: ts) before' c after e :=
  ⟨List.forall_mem_cons.mpr ⟨ht, h.no_end⟩, h.text_eq, hm.tiling h.tiling, h.blocked, h.error⟩

lemma completes_of_end (hs : s.Between source before rest) (hm : Moves source s before rest t s') (ht : t.isEnd) :
    Completes source s rest [] t := by
  have hkind : t.kind = .endOfFile := by simpa [Token.isEnd] using ht
  obtain ⟨after, rfl, -⟩ := hm.between
  obtain ⟨after', hafter, hfound⟩ := hm.stands.found
  obtain rfl : after = after' := List.append_cancel_left (Option.some.inj (hs.dropBytes_eq.symm.trans hafter))
  obtain ⟨hcontent, rfl⟩ := List.append_eq_nil_iff.mp (Lexicon.find_end (hkind ▸ hfound))
  refine ⟨by simp, ht, by simp, s'.mode, ?_⟩
  have hsize : Text.size source.text = s'.offset := by
    rw [hs.size_eq, List.append_nil, hm.offset_eq]
  rw [hsize]
  exact hm.tiling .nil

lemma unexpected_of_find_none (hs : s.Between source before rest)
    (hf : Lexicon.glow.find rest s.mode.candidates = .ok none) :
    ∃ c after, rest = c :: after ∧ c ≠ '\n' ∧ (Scanner.glow source).unexpected s rest =
      .unexpected source.name s.pos (.ofOffsets (Text.size before) (Text.size before + c.utf8Size)) c := by
  cases rest with
  | nil =>
    rw [Lexicon.find_nil] at hf
    cases hf
  | cons c after =>
    refine ⟨c, after, rfl, ?_, ?_⟩
    · rintro rfl
      exact Lexicon.find_lineBreak_ne_none _ _ hf
    · rw [unexpected, List.headD_cons, Text.size_cons, Nat.min_eq_left (Nat.le_add_right _ _), hs.offset_eq]
      rfl

lemma stops_of_find_none (hsize : Text.size source.text < 2 ^ 32) (hs : s.Between source before rest)
    (hf : Lexicon.glow.find rest s.mode.candidates = .ok none) :
    ∃ c after, Stops source s [] before c after ((Scanner.glow source).unexpected s rest) := by
  have hmode : s.mode = .code := by
    by_contra hm
    obtain ⟨k, t, hkt⟩ := Lexicon.find_isSome hm rest
    rw [hf] at hkt
    cases hkt
  obtain ⟨c, after, rfl, -, he⟩ := unexpected_of_find_none hs hf
  have hstop : Text.size before + c.utf8Size < UInt32.size := by
    have h32 : UInt32.size = 2 ^ 32 := rfl
    rw [hs.text_eq, Text.size_append, Text.size_cons] at hsize
    omega
  refine ⟨c, after, by simp, hs.text_eq, ?_, hmode ▸ hf, s.pos, _, he, ?_, ?_, ?_⟩
  · rw [hmode, hs.offset_eq]
    exact .nil
  · rw [← hs.offset_eq]
    exact hs.positionAt
  · exact Span.start_ofOffsets (lt_of_le_of_lt (Nat.le_add_right _ _) hstop)
  · exact Span.stop_ofOffsets hstop

lemma collect_read (hsize : Text.size source.text < 2 ^ 32) (n : Nat) (hs : s.Between source before rest)
    (hn : Text.size rest < n) :
    (∃ ts e, collect (Scanner.glow source).read n s = .ok (ts ++ [e]) ∧ Completes source s rest ts e) ∨
    ∃ ts before c after e, collect (Scanner.glow source).read n s = .error e ∧
      Stops source s ts before c after e := by
  induction n generalizing s before rest with
  | zero => exact absurd hn (Nat.not_lt_zero _)
  | succ n ih =>
    rw [collect]
    cases hf : Lexicon.glow.find rest s.mode.candidates with
    | error e => exact absurd hf Lexicon.find_ne_error
    | ok found =>
      cases found with
      | none =>
        obtain ⟨c, after, hstops⟩ := stops_of_find_none hsize hs hf
        rw [read_of_find_none hs hf]
        exact Or.inr ⟨[], before, c, after, _, rfl, hstops⟩
      | some r =>
        obtain ⟨t, s', hread⟩ : ∃ t s', (Scanner.glow source).read s = .ok (t, s') := ⟨_, _, read_of_find_some hs hf⟩
        have hm := moves_of_read hsize hs hread
        rw [hread]
        dsimp only
        by_cases ht : t.isEnd
        · rw [if_pos ht]
          exact Or.inl ⟨[], t, rfl, completes_of_end hs hm ht⟩
        · have hadvances := read_advances hread ht
          have hoffset := hm.offset_eq
          obtain ⟨after, rfl, hs'⟩ := hm.between
          rw [Text.size_append] at hn
          rw [if_neg ht]
          rcases ih hs' (by omega) with ⟨ts, e, hcollect, h⟩ | ⟨ts, before', c, after', e, hcollect, h⟩
          · exact Or.inl ⟨t :: ts, e, by rw [hcollect]; rfl, h.cons ht hm⟩
          · exact Or.inr ⟨t :: ts, before', c, after', e, by rw [hcollect]; rfl, h.cons ht hm⟩

end Scanner

/-- A raw scan comes to an end. Either its tokens cover the text up to its end, where the end of file is, or it
stops at the first offset at which it is outside strings and comments and nothing is found, and the error is
about the character there. -/
theorem tokenizeRaw_tiles {source : SourceFile} (hsize : Text.size source.text < 2 ^ 32 - 1) :
    (∃ ts e, (Scanner.glow source).tokenizeRaw .start = .ok (ts ++ [e]) ∧
      Scanner.Completes source .start source.text ts e) ∨
    ∃ ts before c after e, (Scanner.glow source).tokenizeRaw .start = .error e ∧
      Scanner.Stops source .start ts before c after e ∧
      ∀ offset, source.Blocked offset → Text.size before ≤ offset := by
  have hsteps : Text.size source.text < (Scanner.glow source).steps := by
    have hrests : (Scanner.glow source).rests.size = Text.size source.text + 1 := by
      rw [Scanner.rests_eq, List.size_toArray, Text.length_rests]
      rfl
    rw [Scanner.steps, hrests]
    omega
  rcases Scanner.collect_read (by omega) _ (ScanState.between_start source) hsteps with
    ⟨ts, e, hcollect, h⟩ | ⟨ts, before, c, after, e, hcollect, h⟩
  · exact Or.inl ⟨ts, e, hcollect, h⟩
  · refine Or.inr ⟨ts, before, c, after, e, hcollect, h, ?_⟩
    rintro offset ⟨ts', rest, _, htiling, hrest, hblocked⟩
    have hdrop : Text.dropBytes source.text (Text.size before) = some (c :: after) :=
      Text.dropBytes_eq_some_iff.mpr ⟨before, h.text_eq, rfl⟩
    exact (h.tiling.blocked_unique htiling hdrop h.blocked hrest hblocked).le

def hashSource : SourceFile := .ofText "hash" "\"é#\" // é#\n #é"

theorem tokenizeRaw_tiles_hash :
    Text.size hashSource.text < 2 ^ 32 - 1 ∧ ∃ ts before c after e,
      (Scanner.glow hashSource).tokenizeRaw .start = .error e ∧
      Scanner.Stops hashSource .start ts before c after e ∧ Text.size before = 14 := by
  have hsize : Text.size hashSource.text < 2 ^ 32 - 1 := by decide +kernel
  have hscan : (Scanner.glow hashSource).tokenizeRaw .start = .error (.unexpected "hash" ⟨2, 2⟩ ⟨14, 15⟩ '#') := by
    decide +kernel
  refine ⟨hsize, ?_⟩
  rcases tokenizeRaw_tiles hsize with ⟨ts, e, htokens, _⟩ | ⟨ts, before, c, after, e, herror, h, _⟩
  · cases htokens.symm.trans hscan
  · obtain ⟨pos, span, rfl, _, hstart, _⟩ := h.error
    cases herror.symm.trans hscan
    exact ⟨ts, before, _, after, _, herror, h, hstart.symm⟩

end GlowSyntax
