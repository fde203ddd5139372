import GlowSyntax.Proofs.Lexicon.Glow
import GlowSyntax.Proofs.Scan.Yield
import GlowSyntax.Proofs.Source.Walk
import GlowSyntax.Scan.Cursor
import Mathlib.Logic.Relation

namespace GlowSyntax

structure ScanState.Between (source : SourceFile) (before rest : List Char) (s : ScanState) : Prop where
  text_eq : source.text = before ++ rest
  offset_eq : s.offset = Text.size before
  pos_eq : s.pos = before.foldl Position.after .start

def ScanState.Located (source : SourceFile) (s : ScanState) : Prop := ∃ before rest, s.Between source before rest

namespace ScanState

lemma between_start (source : SourceFile) : start.Between source [] source.text := ⟨rfl, rfl, rfl⟩

lemma located_start (source : SourceFile) : start.Located source := ⟨_, _, between_start source⟩

namespace Between

variable {source : SourceFile} {before rest : List Char} {s : ScanState} (h : s.Between source before rest)

include h

lemma positionAt : source.positionAt s.offset = some s.pos := by
  rw [h.offset_eq, h.pos_eq]
  exact SourceFile.positionAt_append h.text_eq

lemma dropBytes_eq : Text.dropBytes source.text s.offset = some rest :=
  Text.dropBytes_eq_some_iff.mpr ⟨before, h.text_eq, h.offset_eq.symm⟩

lemma size_eq : Text.size source.text = s.offset + Text.size rest := by
  rw [h.text_eq, Text.size_append, h.offset_eq]

lemma rest?_eq_some : (Scanner.glow source).rest? s = some rest := by
  rw [Scanner.rest?_eq]
  exact h.dropBytes_eq

end Between

lemma pos_advance {k : Kind} {text : List Char} (h : if k = .endOfLine then text = ['\n'] else '\n' ∉ text)
    (s : ScanState) : (s.advance k text).pos = text.foldl Position.after s.pos := by
  split at h
  · next hk =>
    subst h hk
    rfl
  · next hk =>
    rw [Position.foldl_after h]
    simp [pos, advance, hk]

lemma Between.advance {source : SourceFile} {before text after : List Char} {s : ScanState} {k : Kind}
    (hs : s.Between source before (text ++ after))
    (hf : Lexicon.glow.find (text ++ after) s.mode.candidates = .ok (some (k, text))) :
    (s.advance k text).Between source (before ++ text) after where
  text_eq := by rw [hs.text_eq, List.append_assoc]
  offset_eq := by
    rw [Text.size_append, ← hs.offset_eq]
    rfl
  pos_eq := by rw [pos_advance (Lexicon.find_lineBreak hf), hs.pos_eq, List.foldl_append]

end ScanState

namespace Scanner

def Leads (sc : Scanner) : ScanState → ScanState → Prop :=
  Relation.ReflTransGen fun s s' => ∃ t, sc.read s = .ok (t, s')

section Leads

variable {sc : Scanner} {s m s' : ScanState} {t : Token} {ts : List Token}

lemma nextWithin_leads {n : Nat} (h : sc.nextWithin n s = .ok (t, s')) : sc.Leads s s' := by
  induction n generalizing s with
  | zero => cases h
  | succ n ih =>
    rw [nextWithin] at h
    split at h
    · cases h
    · next u m hr =>
      split at h
      · exact .head ⟨u, hr⟩ (ih h)
      · cases h
        exact .single ⟨t, hr⟩

lemma next_leads (h : sc.next s = .ok (t, s')) : sc.Leads s s' := nextWithin_leads h

lemma Yields.leads (h : Yields sc s ts s') : sc.Leads s s' := by
  induction h with
  | nil => exact .refl
  | cons hn _ ih => exact (next_leads hn).trans ih

lemma trailWithin_leads {n : Nat} : ∀ m ∈ sc.trailWithin n s, sc.Leads s m := by
  induction n generalizing s with
  | zero =>
    intro m hm
    cases hm
  | succ n ih =>
    rw [trailWithin]
    refine List.forall_mem_cons.mpr ⟨.refl, ?_⟩
    intro m hm
    split at hm
    · next t s' hr =>
      split at hm
      · exact .head ⟨t, hr⟩ (ih m hm)
      · cases hm
    · cases hm

lemma trail_leads : ∀ m ∈ sc.trail s, sc.Leads s m := trailWithin_leads

lemma Leads.offset_le (h : sc.Leads s s') : s.offset ≤ s'.offset := by
  induction h with
  | refl => exact le_refl _
  | tail _ hr ih =>
    obtain ⟨t, hr⟩ := hr
    exact ih.trans (read_bounds hr).1

end Leads

variable {source : SourceFile} {s m s' : ScanState} {t : Token}

lemma read_between {before rest : List Char} (hs : s.Between source before rest)
    (h : (Scanner.glow source).read s = .ok (t, s')) :
    ∃ text after, rest = text ++ after ∧
      Lexicon.glow.find rest s.mode.candidates = .ok (some (t.kind, text)) ∧
      t = ⟨t.kind, String.ofList text, s.pos, .ofOffsets s.offset s'.offset, source.name⟩ ∧
      s' = s.advance t.kind text ∧ s'.Between source (before ++ text) after := by
  obtain ⟨rest', text, hr, hf, ht, hadvance⟩ := read_eq_ok h
  obtain rfl := Option.some.inj (hs.rest?_eq_some.symm.trans hr)
  obtain ⟨after, rfl⟩ := Lexicon.text_prefix_of_find hf
  exact ⟨text, after, rfl, hf, ht, hadvance, hadvance ▸ hs.advance hf⟩

lemma located_of_read (hs : s.Located source) (h : (Scanner.glow source).read s = .ok (t, s')) :
    s'.Located source := by
  obtain ⟨before, rest, hs⟩ := hs
  obtain ⟨text, after, _, _, _, _, hs'⟩ := read_between hs h
  exact ⟨before ++ text, after, hs'⟩

lemma Leads.located (h : (Scanner.glow source).Leads s s') (hs : s.Located source) : s'.Located source := by
  induction h with
  | refl => exact hs
  | tail _ hr ih =>
    obtain ⟨t, hr⟩ := hr
    exact located_of_read ih hr

lemma Leads.eq_of_offset_eq (h : (Scanner.glow source).Leads s s') (ho : s.offset = s'.offset) : s = s' := by
  induction h using Relation.ReflTransGen.head_induction_on with
  | refl => rfl
  | head hr hrest ih =>
    obtain ⟨t, hr⟩ := hr
    by_cases ht : t.isEnd
    · obtain rfl := read_end hr ht
      exact ih ho
    · -- Any other token moves the offset, and nothing moves it back.
      have hlt := read_advances hr ht
      have hle := Leads.offset_le hrest
      omega

lemma Leads.eq_of_same_offset (h : (Scanner.glow source).Leads m s) (h' : (Scanner.glow source).Leads m s')
    (ho : s.offset = s'.offset) : s = s' := by
  have hunique : Relator.RightUnique fun s s' => ∃ t, (Scanner.glow source).read s = .ok (t, s') := by
    rintro a b c ⟨t, hb⟩ ⟨u, hc⟩
    rw [hb] at hc
    cases hc
    rfl
  rcases Relation.ReflTransGen.total_of_right_unique hunique h h' with hss | hss
  · exact Leads.eq_of_offset_eq hss ho
  · exact (Leads.eq_of_offset_eq hss ho.symm).symm

end Scanner

end GlowSyntax
