import GlowSyntax.Proofs.Match.Nesting
import GlowSyntax.Proofs.Scan.Progress

/-!
The attempts in progress. Matching comes to an end for any grammar, and at no moment are there more attempts nested
in each other than the limit allows for each token that is ahead and for the end behind them.
-/

namespace GlowSyntax

def Event.track (active : List String) : Event → List String
  | entered r => r :: active
  | left r => active.erase r
  | _ => active

def inProgress (log : List Event) : List String := log.foldl Event.track []

namespace Run

variable {α β : Type} {own : List String} {m n : Nat}

/-- A run, inside some attempts, ends those of them that are its own and all that it begins; until then there are at
most `n` more than there were around its own. -/
structure Nests (x : Run α) (own : List String) (n : Nat) : Prop where
  height : ∀ active moment, moment <+: x.log →
    (moment.foldl Event.track (own ++ active)).length ≤ active.length + n
  closed : ∀ a, x.result = .ok a → ∀ active, x.log.foldl Event.track (own ++ active) = active

namespace Nests

lemma mono {x : Run α} (h : Nests x own m) (hmn : m ≤ n) : Nests x own n where
  height active moment hm := (h.height active moment hm).trans (by omega)
  closed := h.closed

lemma pure {a : α} : Nests (Pure.pure a) [] n where
  height active moment hm := by
    obtain rfl := List.prefix_nil.mp hm
    exact Nat.le_add_right _ _
  closed _ _ _ := rfl

lemma fail {e : MatchError} (hn : own.length ≤ n) : Nests (Run.fail e : Run α) own n where
  height active moment hm := by
    obtain rfl := List.prefix_nil.mp hm
    rw [List.foldl_nil, List.length_append]
    omega
  closed a ha := by cases ha

lemma quiet {x : Run α} {e : Event} (hlog : x.log = [e]) (he : ∀ active, Event.track active e = active) :
    Nests x [] n where
  height active moment hm := by
    rw [hlog] at hm
    have hsame : moment.foldl Event.track active = active := by
      rcases List.prefix_cons_iff.mp hm with rfl | ⟨rest, rfl, hrest⟩
      · rfl
      · obtain rfl := List.prefix_nil.mp hrest
        exact he active
    rw [List.nil_append, hsame]
    exact Nat.le_add_right _ _
  closed a _ active := by
    rw [hlog]
    exact he active

lemma bind {x : Run α} {f : α → Run β} (hx : Nests x [] m) (hn : own.length + m ≤ n)
    (hf : ∀ a, x.result = .ok a → Nests (f a) own n) : Nests (x >>= f) own n := by
  change Nests (x.bind f) own n
  have hheight : ∀ active moment, moment <+: x.log →
      (moment.foldl Event.track (own ++ active)).length ≤ active.length + n := by
    intro active moment hm
    have h := hx.height (own ++ active) moment hm
    rw [List.nil_append, List.length_append] at h
    omega
  cases hr : x.result with
  | error e =>
    refine ⟨?_, ?_⟩
    · rw [log_bind_error hr]
      exact hheight
    · intro b hb
      rw [result_bind_error hr] at hb
      cases hb
  | ok a =>
    have hy := hf a hr
    refine ⟨?_, ?_⟩
    · rw [log_bind_ok hr]
      intro active moment hm
      rcases List.prefix_or_prefix_of_prefix hm (List.prefix_append x.log _) with hm' | ⟨rest, rfl⟩
      · exact hheight active moment hm'
      · have hclosed := hx.closed a hr (own ++ active)
        rw [List.nil_append] at hclosed
        rw [List.foldl_append, hclosed]
        exact hy.height active rest ((List.prefix_append_right_inj x.log).mp hm)
    · intro b hb active
      have hclosed := hx.closed a hr (own ++ active)
      rw [List.nil_append] at hclosed
      rw [result_bind_ok hr] at hb
      rw [log_bind_ok hr, List.foldl_append, hclosed]
      exact hy.closed b hb active

lemma enter {name : String} {f : Unit → Run α} (hf : Nests (f ()) [name] n) :
    Nests (Run.note (.entered name) >>= f) [] n := by
  change Nests ((Run.note (.entered name)).bind f) [] n
  refine ⟨?_, ?_⟩
  · rw [log_bind_ok rfl, log_note]
    intro active moment hm
    rcases List.prefix_cons_iff.mp hm with rfl | ⟨rest, rfl, hrest⟩
    · exact Nat.le_add_right _ _
    · exact hf.height active rest hrest
  · intro a ha active
    rw [log_bind_ok rfl, log_note]
    exact hf.closed a ha active

lemma leave {name : String} {a : α} (hn : 1 ≤ n) :
    Nests (Run.note (.left name) >>= fun _ => Pure.pure a) [name] n := by
  change Nests ((Run.note (.left name)).bind fun _ => Run.ok a) [name] n
  have hclosed : ∀ active : List String, [Event.left name].foldl Event.track ([name] ++ active) = active :=
    fun active => List.erase_cons_head name active
  have hlog : ((Run.note (.left name)).bind fun _ => Run.ok a).log = [.left name] := by
    rw [log_bind_ok rfl, log_note, log_ok, List.append_nil]
  refine ⟨?_, ?_⟩
  · intro active moment hm
    rw [hlog] at hm
    rcases List.prefix_cons_iff.mp hm with rfl | ⟨rest, rfl, hrest⟩
    · rw [List.foldl_nil, List.length_append, List.length_singleton]
      omega
    · obtain rfl := List.prefix_nil.mp hrest
      rw [hclosed]
      exact Nat.le_add_right _ _
  · intro _ _ active
    rw [hlog, hclosed]

end Nests

end Run

open Run

variable {g : Grammar} {limit n : Nat} {sc : Scanner} {call : Attempt} {frame : Frame}

lemma scanToken_nests (sc : Scanner) (s : ScanState) : Nests (scanToken sc s) [] n := .quiet rfl fun _ => rfl

section Nests

variable {P : ScanState → Prop} (hnext : ∀ s t s', P s → sc.next s = .ok (t, s') → P s')
  (hstop : ∀ name s depth t, P s → (call name s depth (some frame)).result = .ok (some t) → P t.stop)
  (hcall : ∀ name s depth, P s → Nests (call name s depth (some frame)) [] n)
include hnext hstop hcall

lemma matchItems_nests (rule : String) (items : List Item) (s : ScanState) (depth : Nat) (hs : P s) :
    Nests (matchItems sc call rule frame items s depth) [] n := by
  induction items generalizing s depth with
  | nil => exact .pure
  | cons item items ih =>
    obtain ⟨symbol, label⟩ := item
    cases symbol with
    | token k =>
      rw [matchItems]
      refine (scanToken_nests sc s).bind (Nat.zero_add n).le fun out hr => ?_
      obtain ⟨t, s'⟩ := out
      by_cases hk : t.kind = k
      · simp only [if_pos hk]
        have hrest := ih s' (depth + 1) (hnext s t s' hs (scanToken_eq_ok hr))
        exact hrest.bind (Nat.zero_add n).le fun _ _ => .pure
      · simp only [if_neg hk]
        exact (Nests.quiet rfl fun _ => rfl).bind (Nat.zero_add n).le fun _ _ => .pure
    | rule name =>
      rw [matchItems]
      refine (hcall name s depth hs).bind (Nat.zero_add n).le fun out hr => ?_
      cases out with
      | none => exact .pure
      | some sub =>
        have hrest := ih sub.stop sub.depth (hstop name s depth sub hs hr)
        exact hrest.bind (Nat.zero_add n).le fun _ _ => .pure

lemma matchAlternatives_nests (r : Rule) (s : ScanState) (depth i : Nat) (as : List Alternative) (hs : P s) :
    Nests (matchAlternatives sc call r frame s depth i as) [] n := by
  induction as generalizing i with
  | nil => exact .pure
  | cons a as ih =>
    have ha : Nests (matchAlternative sc call r frame s depth i a) [] n := by
      rw [matchAlternative]
      refine (matchItems_nests hnext hstop hcall r.name a s depth hs).bind (Nat.zero_add n).le fun out _ => ?_
      cases out <;> exact (Nests.quiet rfl fun _ => rfl).bind (Nat.zero_add n).le fun _ _ => .pure
    rw [matchAlternatives]
    refine ha.bind (Nat.zero_add n).le fun out _ => ?_
    cases out with
    | none => exact ih (i + 1)
    | some t => exact .pure

end Nests

lemma matchRule_nests {name : String} {s : ScanState} {depth : Nat} {parent : Option Frame}
    (hn : (Frame.enter parent s.offset).stalled < limit → 0 < n)
    (h : ∀ r t s', (Frame.enter parent s.offset).stalled < limit → sc.next s = .ok (t, s') → ¬ t.isEnd →
      Nests (matchAlternatives sc call r (.enter parent s.offset) s depth 0 r.alternatives) [] (n - 1)) :
    Nests (matchRule g limit sc call name s depth parent) [] n := by
  unfold matchRule
  dsimp only
  split
  · exact .fail (Nat.zero_le n)
  · next hlt =>
    have hpos := hn (not_le.mp hlt)
    have hone : [name].length + (n - 1) ≤ n := by
      rw [List.length_singleton]
      omega
    refine .enter ?_
    split
    · exact .fail hpos
    · next r _ =>
      refine (scanToken_nests sc s).bind hone fun out hr => ?_
      obtain ⟨t, s'⟩ := out
      by_cases ht : t.isEnd
      · simp only [if_pos ht]
        exact (Nests.quiet rfl fun _ => rfl).bind hone fun _ _ => .leave hpos
      · simp only [if_neg ht]
        refine (Nests.quiet rfl fun _ => rfl).bind hone fun _ _ => ?_
        exact (h r t s' (not_le.mp hlt) (scanToken_eq_ok hr) ht).bind hone fun _ _ => .leave hpos

namespace Scanner

inductive Ahead (sc : Scanner) : ScanState → List Token → Prop
  | stop {s} : (∀ t s', sc.next s = .ok (t, s') → t.isEnd) → Ahead sc s []
  | cons {s s' t ts} : sc.next s = .ok (t, s') → ¬ t.isEnd → Ahead sc s' ts → Ahead sc s (t :: ts)

inductive Onward (sc : Scanner) (start : ScanState) (k : Nat) : ScanState → Prop
  | here : Onward sc start k start
  | later {s ts} : Ahead sc s ts → ts.length < k → Onward sc start k s

variable {source : SourceFile} {s m m' : ScanState} {t : Token} {ts us : List Token}

lemma exists_ahead (source : SourceFile) (s : ScanState) : ∃ ts, (Scanner.glow source).Ahead s ts := by
  induction hk : Text.size source.text - s.offset using Nat.strong_induction_on generalizing s with
  | _ k ih =>
    cases hn : (Scanner.glow source).next s with
    | error e => exact ⟨[], .stop fun t s' h => by cases hn.symm.trans h⟩
    | ok out =>
      obtain ⟨t, s'⟩ := out
      by_cases ht : t.isEnd
      · refine ⟨[], .stop fun u m h => ?_⟩
        cases hn.symm.trans h
        exact ht
      · have hadvances := next_advances hn ht
        have hsize : s'.offset ≤ Text.size source.text := (next_bounds hn).2
        obtain ⟨ts, hts⟩ := ih (Text.size source.text - s'.offset) (by omega) s' rfl
        exact ⟨t :: ts, .cons hn ht hts⟩

lemma Ahead.pos {s' : ScanState} (h : sc.Ahead s ts) (hn : sc.next s = .ok (t, s')) (ht : ¬ t.isEnd) :
    0 < ts.length := by
  cases h with
  | stop hend => exact absurd (hend t s' hn) ht
  | cons _ _ _ => exact Nat.succ_pos _

namespace Onward

variable {k : Nat} (hs : (Scanner.glow source).Ahead s ts) (hpos : 0 < ts.length)
include hs hpos

lemma next (h : (Scanner.glow source).Onward s ts.length m) (hn : (Scanner.glow source).next m = .ok (t, m')) :
    (Scanner.glow source).Onward s ts.length m' := by
  have hlater : ∀ us, (Scanner.glow source).Ahead m us → us.length ≤ ts.length →
      (Scanner.glow source).Onward s ts.length m' := by
    intro us hus hle
    cases hus with
    | stop hend =>
      -- Behind the end of file there is the end of file again.
      refine .later (.stop fun u m'' hu => ?_) hpos
      rw [next_again hn (hend t m' hn)] at hu
      cases hu
      exact hend t m' hn
    | cons hn' _ hrest =>
      rw [hn] at hn'
      cases hn'
      exact .later hrest hle
  cases h with
  | here => exact hlater ts hs (le_refl _)
  | later hus hlt => exact hlater _ hus hlt.le

lemma yields (h : (Scanner.glow source).Onward s ts.length m) (hy : (Scanner.glow source).Yields m us m') :
    (Scanner.glow source).Onward s ts.length m' := by
  induction hy with
  | nil => exact h
  | cons hn _ ih => exact ih (h.next hs hpos hn)

end Onward

end Scanner

def Frame.capacity (limit k : Nat) (f : Frame) : Nat := limit * k + (limit - f.stalled)

lemma Scanner.Onward.capacity {s m : ScanState} {ts : List Token} (hs : sc.Ahead s ts)
    (h : sc.Onward s ts.length m) (hoffset : frame.offset = s.offset) (hlt : frame.stalled < limit) :
    ∃ us, sc.Ahead m us ∧
      (Frame.enter (some frame) m.offset).capacity limit us.length < frame.capacity limit ts.length := by
  cases h with
  | here =>
    refine ⟨ts, hs, ?_⟩
    simp only [Frame.capacity, Frame.enter, hoffset, if_pos]
    omega
  | @later _ us hus hfewer =>
    refine ⟨us, hus, ?_⟩
    have hmul : limit * us.length + limit ≤ limit * ts.length := by
      rw [← Nat.mul_succ]
      exact Nat.mul_le_mul_left limit hfewer
    simp only [Frame.capacity]
    omega

section Attempt

variable {source : SourceFile} {ts : List Token}

lemma onward_of_matched {n : Nat} {name : String} {s m : ScanState} {depth : Nat} {parent : Option Frame} {t : Tree}
    (hs : (Scanner.glow source).Ahead s ts) (hpos : 0 < ts.length)
    (h : (Scanner.glow source).Onward s ts.length m)
    (ht : (matchNested g limit (.glow source) n name m depth parent).result = .ok (some t)) :
    (Scanner.glow source).Onward s ts.length t.stop := by
  obtain ⟨-, ha⟩ := (matchNested_extent n name m depth parent).result _ ht
  exact h.yields hs hpos ha.yields

-- By induction on `n`: what is nested in an attempt has a smaller capacity than the attempt.
lemma matchNested_nests (n : Nat) (name : String) (s : ScanState) (depth : Nat) (parent : Option Frame)
    (hs : (Scanner.glow source).Ahead s ts) :
    Nests (matchNested g limit (.glow source) n name s depth parent) []
      ((Frame.enter parent s.offset).capacity limit ts.length) := by
  induction n generalizing name s depth parent ts with
  | zero => exact .fail (Nat.zero_le _)
  | succ n ih =>
    rw [matchNested]
    refine matchRule_nests (fun hlt => ?_) fun r t s' hlt hnext ht => ?_
    · simp only [Frame.capacity]
      omega
    · have hpos := hs.pos hnext ht
      refine matchAlternatives_nests (P := (Scanner.glow source).Onward s ts.length) ?_ ?_ ?_ r s depth 0
        r.alternatives .here
      · exact fun m u m' hm hu => hm.next hs hpos hu
      · exact fun name m depth t hm ht => onward_of_matched hs hpos hm ht
      · intro name m depth hm
        obtain ⟨us, hus, hless⟩ := hm.capacity hs (Frame.enter_offset parent s.offset) hlt
        exact (ih name m depth _ hus).mono (by omega)

lemma iterate_matchRule (n : Nat) (name : String) (s : ScanState) (depth : Nat) (parent : Option Frame)
    (hs : (Scanner.glow source).Ahead s ts) (call : Attempt)
    (hn : (Frame.enter parent s.offset).capacity limit ts.length ≤ n) :
    (matchRule g limit (.glow source))^[n + 1] call name s depth parent =
      matchNested g limit (.glow source) (n + 1) name s depth parent := by
  induction n generalizing name s depth parent ts with
  | zero =>
    have hle : limit ≤ (Frame.enter parent s.offset).stalled := by
      rw [Frame.capacity] at hn
      omega
    exact matchRule_congr fun r t s' hlt => absurd hlt (not_lt.mpr hle)
  | succ n ih =>
    rw [Function.iterate_succ_apply', matchNested]
    refine (matchRule_congr fun r t s' hlt hnext ht => ?_).symm
    have hpos := hs.pos hnext ht
    refine matchAlternatives_congr (P := (Scanner.glow source).Onward s ts.length) ?_ ?_ ?_ r s depth 0
      r.alternatives .here
    · exact fun m u m' hm hu => hm.next hs hpos hu
    · exact fun name m depth t hm ht => onward_of_matched hs hpos hm ht
    · intro name m depth hm
      obtain ⟨us, hus, hless⟩ := hm.capacity hs (Frame.enter_offset parent s.offset) hlt
      exact (ih name m depth _ hus (by omega)).symm

lemma iterate_matchNested (m n : Nat) :
    (matchRule g limit sc)^[m] (matchNested g limit sc n) = matchNested g limit sc (n + m) := by
  induction m with
  | zero => rfl
  | succ m ih => rw [Function.iterate_succ_apply', ih, ← Nat.add_assoc, matchNested]

end Attempt

/-- An attempt of a rule comes to an end. At every moment the attempts in progress are at most as many as the limit
allows at each token ahead and at their end, and whatever stood for attempts nested deeper than that, it would make
no difference. -/
theorem attempts_bounded (g : Grammar) (limit : Nat) (source : SourceFile) (name : String) (s : ScanState)
    (depth : Nat) :
    ∃ ts, (Scanner.glow source).Ahead s ts ∧
      (attemptRule g limit (.glow source) name s depth).result ≠ .error (.scan .endless) ∧
      (∀ moment, moment <+: (attemptRule g limit (.glow source) name s depth).log →
        (inProgress moment).length ≤ limit * (ts.length + 1)) ∧
      ∀ call n, limit * (ts.length + 1) < n →
        (matchRule g limit (.glow source))^[n] call name s depth none =
          attemptRule g limit (.glow source) name s depth := by
  obtain ⟨ts, hs⟩ := Scanner.exists_ahead source s
  have hcapacity : (Frame.enter none s.offset).capacity limit ts.length = limit * (ts.length + 1) := rfl
  refine ⟨ts, hs, ?_, ?_, ?_⟩
  · intro hr
    obtain ⟨us, m, -, hm⟩ := (attemptRule_extent name s depth).error _ hr
    exact Scanner.next_ne_endless (fun _ _ => Scanner.glow_not_stalls) hm
  · intro moment hm
    have h := (matchNested_nests _ name s depth none hs).height [] moment hm
    rwa [hcapacity, List.length_nil, Nat.zero_add] at h
  · intro call n hn
    obtain ⟨n, rfl⟩ := Nat.exists_eq_add_one_of_ne_zero (Nat.ne_zero_of_lt hn)
    have hdeep : ∀ call, (matchRule g limit (.glow source))^[n + 1] call name s depth none =
        matchNested g limit (.glow source) (n + 1) name s depth none := fun call =>
      iterate_matchRule n name s depth none hs call (hcapacity.trans_le (Nat.lt_succ_iff.mp hn))
    calc (matchRule g limit (.glow source))^[n + 1] call name s depth none
      _ = (matchRule g limit (.glow source))^[n + 1]
            (matchNested g limit (.glow source) (nesting limit (.glow source))) name s depth none := by
        rw [hdeep, hdeep]
      _ = matchNested g limit (.glow source) (nesting limit (.glow source) + (n + 1)) name s depth none := by
        rw [iterate_matchNested]
      _ = attemptRule g limit (.glow source) name s depth :=
        (attemptRule_nested (Nat.le_add_right _ _) name s depth).symm

example :
    let g : Grammar := .ofRules [⟨"a", [[.rule "a", .token .plus]]⟩]
    inProgress (attemptRule g 3 (.glow (.ofText "sum" "+")) "a" .start 0).log = ["a", "a", "a"] := by
  decide +kernel

end GlowSyntax
