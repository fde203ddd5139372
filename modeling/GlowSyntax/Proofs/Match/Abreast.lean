import GlowSyntax.Proofs.Match.Nesting
import GlowSyntax.Proofs.Match.Placeless

/-!
Two scanners that read the same tokens at different places keep a matcher abreast: its runs over them have the
same results and meet the same failures, up to the places. The recursion limit compares offsets, which differ; but
on both sides an offset comes back only where no token has been read in between.
-/

namespace GlowSyntax

namespace Run

variable {α β γ δ : Type} {R : α → β → Prop}

structure Abreast (x : Run α) (y : Run β) (R : α → β → Prop) : Prop where
  failures : (failuresOf x.log).map Failure.placeless = (failuresOf y.log).map Failure.placeless
  result : (∃ e, x.result = .error e ∧ y.result = .error e) ∨ ∃ a b, x.result = .ok a ∧ y.result = .ok b ∧ R a b

namespace Abreast

lemma pure {a : α} {b : β} (h : R a b) : Abreast (Pure.pure a) (Pure.pure b) R :=
  ⟨rfl, .inr ⟨a, b, rfl, rfl, h⟩⟩

lemma fail (e : MatchError) : Abreast (Run.fail e : Run α) (Run.fail e : Run β) R :=
  ⟨rfl, .inl ⟨e, rfl, rfl⟩⟩

lemma note {e e' : Event} (h : e.failure?.map Failure.placeless = e'.failure?.map Failure.placeless) :
    Abreast (Run.note e) (Run.note e') fun _ _ => True where
  failures := by
    simp only [log_note, failuresOf, List.filterMap_cons, List.filterMap_nil]
    cases he : e.failure? <;> cases he' : e'.failure? <;> simp_all
  result := .inr ⟨(), (), rfl, rfl, trivial⟩

lemma bind {x : Run α} {y : Run β} {f : α → Run γ} {f' : β → Run δ} {T : γ → δ → Prop} (h : Abreast x y R)
    (hf : ∀ a b, x.result = .ok a → y.result = .ok b → R a b → Abreast (f a) (f' b) T) :
    Abreast (x >>= f) (y >>= f') T := by
  change Abreast (x.bind f) (y.bind f') T
  obtain ⟨e, hx, hy⟩ | ⟨a, b, hx, hy, hr⟩ := h.result
  · refine ⟨?_, .inl ⟨e, result_bind_error hx f, result_bind_error hy f'⟩⟩
    rw [log_bind_error hx, log_bind_error hy]
    exact h.failures
  · have hab := hf a b hx hy hr
    refine ⟨?_, ?_⟩
    · have hlogs := congrArg₂ (· ++ ·) h.failures hab.failures
      simpa only [log_bind_ok hx, log_bind_ok hy, failuresOf, List.filterMap_append, List.map_append] using hlogs
    · rw [result_bind_ok hx, result_bind_ok hy]
      exact hab.result

lemma record {x : Run α} {y : Run β} (h : Abreast x y R) :
    (x.record .empty).placeless = (y.record .empty).placeless := by
  rw [Run.record, Run.record, FailureRecord.addAll_placeless, FailureRecord.addAll_placeless, h.failures]

end Abreast

end Run

namespace Scanner

variable {sc : Scanner} {i j : Nat} {s m m' : ScanState} {t : Token}

def Reaches (sc : Scanner) (i : Nat) (s : ScanState) : Prop := ∃ ts, sc.Yields .start ts s ∧ ts.length = i

lemma reaches_start (sc : Scanner) : sc.Reaches 0 .start := ⟨[], .nil, rfl⟩

lemma Reaches.next (h : sc.Reaches i s) (hn : sc.next s = .ok (t, m)) : sc.Reaches (i + 1) m := by
  obtain ⟨ts, hy, rfl⟩ := h
  exact ⟨ts ++ [t], hy.snoc hn, by simp⟩

lemma Reaches.yields (hm : sc.Reaches j m) (h : sc.Reaches i s) (hji : j ≤ i) :
    ∃ ts, sc.Yields m ts s ∧ ts.length = i - j := by
  obtain ⟨us, hus, rfl⟩ := hm
  obtain ⟨ts, hts, rfl⟩ := h
  rw [← List.take_append_drop us.length ts] at hts
  obtain ⟨v, hv, hd⟩ := hts.split
  obtain ⟨-, rfl⟩ := hv.unique hus (by simpa using hji)
  exact ⟨_, hd, List.length_drop⟩

structure Level (sc sc' : Scanner) (i : Nat) (s s' : ScanState) : Prop where
  left : sc.Reaches i s
  right : sc'.Reaches i s'

def Alike (sc sc' : Scanner) : Prop := ∀ i s s', Level sc sc' i s s' →
  ∃ t m t' m', sc.next s = .ok (t, m) ∧ sc'.next s' = .ok (t', m') ∧ t.placeless = t'.placeless

lemma continued_map (f : Token → Token) (ts : List Token) (i : Nat) :
    continued (ts.map f) i = (continued ts i).map f := by
  simp only [continued, List.getElem?_map, List.getLast?_map]
  cases ts[i]? <;> rfl

lemma alike_of_tokenize {source source' : SourceFile} {ts ts' : List Token}
    (h : (Scanner.glow source).tokenize .start = .ok ts) (h' : (Scanner.glow source').tokenize .start = .ok ts')
    (hsame : ts.map Token.placeless = ts'.map Token.placeless) : Alike (.glow source) (.glow source') := by
  rintro i s s' ⟨⟨us, hy, rfl⟩, ⟨us', hy', hlen⟩⟩
  obtain ⟨t, m, hn, ht⟩ := tokenize_continued h hy
  obtain ⟨t', m', hn', ht'⟩ := tokenize_continued h' hy'
  rw [hlen] at ht'
  have hplaceless := congrArg (continued · us.length) hsame
  simp only [continued_map, ht, ht', Option.map_some, Option.some_inj] at hplaceless
  exact ⟨t, m, t', m', hn, hn', hplaceless⟩

end Scanner

open Run Scanner

namespace Frame

/-- The frame of an attempt that began behind the first `j` tokens: by its offset the state where it began is told
from the later ones. -/
def Marks (sc : Scanner) (j : Nat) (f : Frame) : Prop :=
  ∀ i s, j ≤ i → sc.Reaches i s → (f.offset = s.offset ↔ i = j)

lemma marks_enter {source : SourceFile} {j : Nat} {s m : ScanState} {t : Token} (parent : Option Frame)
    (hs : (Scanner.glow source).Reaches j s) (hn : (Scanner.glow source).next s = .ok (t, m)) (ht : ¬ t.isEnd) :
    Marks (.glow source) j (.enter parent s.offset) := by
  intro i s' hji hs'
  rw [enter_offset]
  obtain ⟨ts, hy, hlen⟩ := hs.yields hs' hji
  cases hy with
  | nil => exact iff_of_true rfl (le_antisymm (Nat.sub_eq_zero_iff_le.mp hlen.symm) hji)
  | cons hu hy =>
    rw [hn] at hu
    cases hu
    have hlt : s.offset < s'.offset := (next_advances hn ht).trans_le hy.offset_le
    refine iff_of_false hlt.ne ?_
    rintro rfl
    simp at hlen

structure Level (sc sc' : Scanner) (j : Nat) (f f' : Frame) : Prop where
  left : f.Marks sc j
  right : f'.Marks sc' j
  stalled_eq : f.stalled = f'.stalled

lemma Level.enter {sc sc' : Scanner} {i j : Nat} {f f' : Frame} {s s' : ScanState} (h : Level sc sc' j f f')
    (hji : j ≤ i) (hs : Scanner.Level sc sc' i s s') :
    (Frame.enter (some f) s.offset).stalled = (Frame.enter (some f') s'.offset).stalled := by
  have hleft := h.left i s hji hs.left
  have hright := h.right i s' hji hs.right
  simp only [Frame.enter, hleft, hright, h.stalled_eq]

end Frame

structure Tree.Level (sc sc' : Scanner) (j : Nat) (t t' : Tree) : Prop where
  placeless : t.placeless = t'.placeless
  stop : ∃ i ≥ j, Scanner.Level sc sc' i t.stop t'.stop

variable {sc sc' : Scanner} {i j : Nat} {s s' : ScanState} {depth : Nat} {f f' : Frame} {call call' : Attempt}

section Scan

variable (halike : Alike sc sc')
include halike

lemma scanToken_abreast (hs : Scanner.Level sc sc' i s s') :
    Abreast (scanToken sc s) (scanToken sc' s') fun out out' =>
      out.1.placeless = out'.1.placeless ∧ Scanner.Level sc sc' (i + 1) out.2 out'.2 := by
  obtain ⟨t, m, t', m', hn, hn', ht⟩ := halike i s s' hs
  refine ⟨rfl, .inr ⟨(t, m), (t', m'), ?_, ?_, ht, hs.left.next hn, hs.right.next hn'⟩⟩
  · simp only [scanToken, hn]
  · simp only [scanToken, hn']

variable (hcall : ∀ name i s s' depth, j ≤ i → Scanner.Level sc sc' i s s' →
  Abreast (call name s depth (some f)) (call' name s' depth (some f')) (Option.Rel (Tree.Level sc sc' i)))
include hcall

lemma matchItems_abreast (rule : String) (items : List Item) (hji : j ≤ i) (hs : Scanner.Level sc sc' i s s') :
    Abreast (matchItems sc call rule f items s depth) (matchItems sc' call' rule f' items s' depth)
      (Option.Rel fun out out' => out.1.placeless = out'.1.placeless ∧ out.2.2 = out'.2.2 ∧
        ∃ k ≥ i, Scanner.Level sc sc' k out.2.1 out'.2.1) := by
  induction items generalizing i s s' depth with
  | nil => exact .pure (.some ⟨rfl, rfl, i, le_refl i, hs⟩)
  | cons item items ih =>
    obtain ⟨symbol, label⟩ := item
    cases symbol with
    | token k =>
      rw [matchItems, matchItems]
      refine (scanToken_abreast halike hs).bind ?_
      rintro ⟨t, m⟩ ⟨t', m'⟩ - - ⟨ht, hm⟩
      have hkind : t.kind = t'.kind := (Token.placeless_eq_iff.mp ht).1
      simp only [hkind]
      split
      · refine (ih (hji.trans (Nat.le_succ i)) hm).bind ?_
        rintro _ _ - - (⟨hparts, hdepth, k, hk, hstop⟩ | _)
        · refine .pure (.some ⟨?_, hdepth, k, (Nat.le_succ i).trans hk, hstop⟩)
          simp only [Forest.placeless, ht, hparts]
        · exact .pure .none
      · refine (Abreast.note ?_).bind fun _ _ _ _ _ => .pure .none
        simp only [Event.failure?, Option.map_some, Failure.placeless, ht]
    | rule name =>
      rw [matchItems, matchItems]
      refine (hcall name i s s' depth hji hs).bind ?_
      rintro _ _ - - (⟨hsub, k, hk, hstop⟩ | _)
      · rename_i sub sub'
        obtain ⟨hnode, hparts⟩ := Tree.mk.inj hsub
        simp only [Tree.depth_eq_of_placeless hsub]
        refine (ih (hji.trans hk) hstop).bind ?_
        rintro _ _ - - (⟨hrest, hdepth, l, hl, hstop⟩ | _)
        · refine .pure (.some ⟨?_, hdepth, l, hk.trans hl, hstop⟩)
          simp only [Forest.placeless, hnode, hparts, hrest]
        · exact .pure .none
      · exact .pure .none

lemma matchAlternative_abreast (r : Rule) (n : Nat) (a : Alternative) (hji : j ≤ i)
    (hs : Scanner.Level sc sc' i s s') :
    Abreast (matchAlternative sc call r f s depth n a) (matchAlternative sc' call' r f' s' depth n a)
      (Option.Rel (Tree.Level sc sc' i)) := by
  rw [matchAlternative, matchAlternative]
  refine (matchItems_abreast halike hcall r.name a hji hs).bind ?_
  rintro _ _ - - (⟨hparts, hdepth, hstop⟩ | _)
  · refine (Abreast.note rfl).bind fun _ _ _ _ _ => .pure (.some ⟨?_, hstop⟩)
    simp only [Tree.placeless, Node.placeless, hparts, hdepth]
  · exact (Abreast.note rfl).bind fun _ _ _ _ _ => .pure .none

lemma matchAlternatives_abreast (r : Rule) (n : Nat) (as : List Alternative) (hji : j ≤ i)
    (hs : Scanner.Level sc sc' i s s') :
    Abreast (matchAlternatives sc call r f s depth n as) (matchAlternatives sc' call' r f' s' depth n as)
      (Option.Rel (Tree.Level sc sc' i)) := by
  induction as generalizing n with
  | nil => exact .pure .none
  | cons a as ih =>
    rw [matchAlternatives, matchAlternatives]
    refine (matchAlternative_abreast halike hcall r n a hji hs).bind ?_
    rintro _ _ - - (htree | _)
    · exact .pure (.some htree)
    · exact ih (n + 1)

end Scan

variable {g : Grammar} {limit : Nat} {source source' : SourceFile}

lemma matchNested_abreast (halike : Alike (.glow source) (.glow source')) (n : Nat) (name : String)
    {parent parent' : Option Frame} (hs : Scanner.Level (.glow source) (.glow source') i s s')
    (hstalled : (Frame.enter parent s.offset).stalled = (Frame.enter parent' s'.offset).stalled) :
    Abreast (matchNested g limit (.glow source) n name s depth parent)
      (matchNested g limit (.glow source') n name s' depth parent')
      (Option.Rel (Tree.Level (.glow source) (.glow source') i)) := by
  induction n generalizing name i s s' depth parent parent' with
  | zero => exact .fail _
  | succ n ih =>
    rw [matchNested, matchNested, matchRule, matchRule]
    simp only [← hstalled]
    split
    · exact .fail _
    · refine (Abreast.note rfl).bind fun _ _ _ _ _ => ?_
      cases g.find? name with
      | none => exact .fail _
      | some r =>
        refine (scanToken_abreast halike hs).bind ?_
        rintro ⟨t, m⟩ ⟨t', m'⟩ hn hn' ⟨ht, -⟩
        simp only [← Token.isEnd_eq_of_placeless ht]
        split
        · refine (Abreast.note rfl).bind fun _ _ _ _ _ => ?_
          exact (Abreast.note rfl).bind fun _ _ _ _ _ => .pure .none
        · next hend =>
          have hend' : ¬ t'.isEnd := by rwa [← Token.isEnd_eq_of_placeless ht]
          -- only an attempt before a token marks its offset: the end of file is read without moving on
          have hframes : Frame.Level (.glow source) (.glow source') i (.enter parent s.offset)
              (.enter parent' s'.offset) :=
            ⟨Frame.marks_enter parent hs.left (scanToken_eq_ok hn) hend,
              Frame.marks_enter parent' hs.right (scanToken_eq_ok hn') hend', hstalled⟩
          refine .bind (.note rfl) fun _ _ _ _ _ => ?_
          refine (matchAlternatives_abreast halike ?_ r 0 r.alternatives (le_refl i) hs).bind ?_
          · intro name k u u' depth hik hu
            exact ih name hu (hframes.enter hik hu)
          · intro out out' _ _ hout
            exact (Abreast.note rfl).bind fun _ _ _ _ _ => .pure hout

-- The two sources have room for different numbers of nested attempts; either run may be given the greater one.
lemma attemptRule_abreast (g : Grammar) (limit : Nat) (halike : Alike (.glow source) (.glow source'))
    (name : String) :
    Abreast (attemptRule g limit (.glow source) name .start 0) (attemptRule g limit (.glow source') name .start 0)
      (Option.Rel (Tree.Level (.glow source) (.glow source') 0)) := by
  rw [attemptRule_nested (le_max_left (nesting limit (.glow source)) (nesting limit (.glow source'))),
    attemptRule_nested (le_max_right (nesting limit (.glow source)) (nesting limit (.glow source')))]
  exact matchNested_abreast halike _ name ⟨reaches_start _, reaches_start _⟩ rfl

end GlowSyntax
