import GlowSyntax.Proofs.Match.Ceiling

/-!
As many nested attempts as there is room for are enough: with more of them a matcher makes the same run. Each
attempt inside another one lowers the room, by its offset or by the attempts that have begun there.
-/

namespace GlowSyntax

namespace Run

variable {α β : Type} {x : Run α} {f f' : α → Run β}

lemma bind_congr (h : ∀ a, x.result = .ok a → f a = f' a) : x >>= f = x >>= f' := by
  change x.bind f = x.bind f'
  cases hr : x.result with
  | error e => simp only [bind, hr]
  | ok a => simp only [bind, hr, h a hr]

end Run

variable {g : Grammar} {limit n : Nat} {sc : Scanner} {call call' : Attempt} {frame : Frame}

section Congruence

variable {P : ScanState → Prop} (hnext : ∀ s t s', P s → sc.next s = .ok (t, s') → P s')
  (hstop : ∀ name s depth t, P s → (call name s depth (some frame)).result = .ok (some t) → P t.stop)
  (hcall : ∀ name s depth, P s → call name s depth (some frame) = call' name s depth (some frame))
include hnext hstop hcall

lemma matchItems_congr (rule : String) (items : List Item) (s : ScanState) (depth : Nat) (hs : P s) :
    matchItems sc call rule frame items s depth = matchItems sc call' rule frame items s depth := by
  induction items generalizing s depth with
  | nil => rfl
  | cons item items ih =>
    obtain ⟨symbol, label⟩ := item
    cases symbol with
    | token k =>
      rw [matchItems, matchItems]
      refine Run.bind_congr fun out hr => ?_
      obtain ⟨t, s'⟩ := out
      simp only [ih s' (depth + 1) (hnext s t s' hs (scanToken_eq_ok hr))]
    | rule name =>
      rw [matchItems, matchItems, ← hcall name s depth hs]
      refine Run.bind_congr fun out hr => ?_
      cases out with
      | none => rfl
      | some sub => simp only [ih sub.stop sub.depth (hstop name s depth sub hs hr)]

lemma matchAlternatives_congr (r : Rule) (s : ScanState) (depth i : Nat) (as : List Alternative) (hs : P s) :
    matchAlternatives sc call r frame s depth i as = matchAlternatives sc call' r frame s depth i as := by
  induction as generalizing i with
  | nil => rfl
  | cons a as ih =>
    simp only [matchAlternatives, matchAlternative, matchItems_congr hnext hstop hcall r.name a s depth hs, ih]

end Congruence

lemma Frame.room_enter {f : Frame} {offset size : Nat} (h : f.stalled < limit) (hle : f.offset ≤ offset)
    (hsize : offset ≤ size) : (enter (some f) offset).room limit size < f.room limit size := by
  rcases hle.eq_or_lt with rfl | hlt
  · exact room_enter_same h
  · exact room_enter_later h hlt hsize

lemma matchRule_congr {name : String} {s : ScanState} {depth : Nat} {parent : Option Frame}
    (h : ∀ r t s', (Frame.enter parent s.offset).stalled < limit → sc.next s = .ok (t, s') → ¬ t.isEnd →
      matchAlternatives sc call r (.enter parent s.offset) s depth 0 r.alternatives =
        matchAlternatives sc call' r (.enter parent s.offset) s depth 0 r.alternatives) :
    matchRule g limit sc call name s depth parent = matchRule g limit sc call' name s depth parent := by
  unfold matchRule
  dsimp only
  split
  · rfl
  · next hlt =>
    refine Run.bind_congr fun _ _ => ?_
    split
    · rfl
    · next r _ =>
      refine Run.bind_congr fun (t, s') hr => ?_
      by_cases ht : t.isEnd
      · simp only [if_pos ht]
      · simp only [if_neg ht, h r t s' (not_le.mp hlt) (scanToken_eq_ok hr) ht]

-- By induction on `n`: one attempt further in, the room is smaller, and so is the number that is left.
lemma matchNested_succ (name : String) (s : ScanState) (depth : Nat) (parent : Option Frame)
    (hroom : (Frame.enter parent s.offset).room limit (Text.size sc.source.text) ≤ n) :
    matchNested g limit sc n name s depth parent = matchNested g limit sc (n + 1) name s depth parent := by
  induction n generalizing name s depth parent with
  | zero =>
    have hle : limit ≤ (Frame.enter parent s.offset).stalled := by
      rw [Frame.room] at hroom
      omega
    rw [matchNested, matchNested, matchRule]
    exact (if_pos hle).symm
  | succ n ih =>
    refine matchRule_congr fun r t s' hlt hn _ => ?_
    have hsize := Scanner.next_bounds hn
    refine matchAlternatives_congr (P := fun m => s.offset ≤ m.offset ∧ m.offset ≤ Text.size sc.source.text)
      ?_ ?_ ?_ r s depth 0 r.alternatives ⟨le_refl _, hsize.1.trans hsize.2⟩
    · rintro m u m' ⟨hm, -⟩ hu
      have hbounds := Scanner.next_bounds hu
      exact ⟨hm.trans hbounds.1, hbounds.2⟩
    · rintro name m depth u ⟨hm, hle⟩ hu
      obtain ⟨-, ha⟩ := (matchNested_extent n name m depth _).result _ hu
      exact ⟨hm.trans ha.yields.offset_le, ha.yields.offset_le_size hle⟩
    · rintro name m depth ⟨hm, hle⟩
      refine ih name m depth _ (Nat.lt_succ_iff.mp ?_)
      exact (Frame.room_enter hlt ((Frame.enter_offset parent s.offset).trans_le hm) hle).trans_le hroom

lemma attemptRule_nested (hn : nesting limit sc ≤ n) (name : String) (s : ScanState) (depth : Nat) :
    attemptRule g limit sc name s depth = matchNested g limit sc n name s depth none := by
  rw [attemptRule]
  induction n, hn using Nat.le_induction with
  | base => rfl
  | succ n hn ih =>
    rw [ih]
    refine matchNested_succ name s depth none (le_trans ?_ hn)
    have hmul : limit * (Text.size sc.source.text - s.offset) ≤ limit * Text.size sc.source.text :=
      Nat.mul_le_mul_left limit (Nat.sub_le ..)
    simp only [Frame.room, Frame.enter, nesting, Nat.mul_succ]
    omega

end GlowSyntax
