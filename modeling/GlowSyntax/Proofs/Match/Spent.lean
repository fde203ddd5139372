import GlowSyntax.Proofs.Match.Misses

/-!
How many rule attempts the matcher makes past the check for the end of the text. All of them count, also those
in alternatives that fail later on: nothing is remembered from them, so what they matched is matched again.
-/

namespace GlowSyntax

def Event.isAttempt : Event → Bool
  | attempt .. => true
  | _ => false

def attemptsOf (log : List Event) : Nat := log.countP Event.isAttempt

namespace Run

variable {α β : Type} {x : Run α} {n m : Nat}

def Spends (x : Run α) (n : Nat) : Prop := ∀ a, x.result = .ok a → attemptsOf x.log ≤ n

namespace Spends

lemma pure {a : α} : Spends (Pure.pure a) 0 := fun _ _ => le_rfl

lemma fail {e : MatchError} : Spends (Run.fail e : Run α) n := by
  intro a h
  cases h

lemma note {e : Event} (h : e.isAttempt = false) : Spends (Run.note e) 0 := by
  intro a _
  simp [attemptsOf, h]

lemma attempt {name : String} {pos : Position} {depth : Nat} : Spends (Run.note (.attempt name pos depth)) 1 :=
  fun _ _ => le_rfl

lemma mono (h : Spends x n) (hle : n ≤ m) : Spends x m := fun a ha => (h a ha).trans hle

lemma bind {f : α → Run β} (hx : Spends x n) (hf : ∀ a, x.result = .ok a → Spends (f a) m) :
    Spends (x >>= f) (n + m) := by
  intro b hb
  obtain ⟨a, ha, hrest, hlog⟩ := ok_of_bind hb
  rw [hlog, attemptsOf, List.countP_append]
  exact Nat.add_le_add (hx a ha) (hf a ha b hrest)

lemma after {f : α → Run β} (hx : Spends x 0) (hf : ∀ a, x.result = .ok a → Spends (f a) n) :
    Spends (x >>= f) n :=
  (hx.bind hf).mono (Nat.zero_add n).le

lemma before {f : α → Run β} (hx : Spends x n) (hf : ∀ a, x.result = .ok a → Spends (f a) 0) :
    Spends (x >>= f) n :=
  hx.bind hf

end Spends

end Run

open Run

section Attempts

variable {g : Grammar} {limit n : Nat} {sc : Scanner} {call : Attempt} {s : ScanState} {depth : Nat}

lemma scanToken_spends : Spends (scanToken sc s) 0 := fun _ _ => le_rfl

lemma matchAlternative_spends {r : Rule} {frame : Frame} {a : Alternative}
    (h : Spends (matchItems sc call r.name frame a s depth) n) (i : Nat) :
    Spends (matchAlternative sc call r frame s depth i a) n := by
  rw [matchAlternative]
  refine h.before fun out _ => ?_
  cases out with
  | none => exact (Spends.note rfl).after fun _ _ => .pure
  | some out => exact (Spends.note rfl).after fun _ _ => .pure

lemma matchRule_spends {name : String} {parent : Option Frame}
    (h : ∀ r t s', g.find? name = some r → sc.next s = .ok (t, s') → ¬ t.isEnd →
      ∃ m < n, Spends (matchAlternatives sc call r (.enter parent s.offset) s depth 0 r.alternatives) m) :
    Spends (matchRule g limit sc call name s depth parent) n := by
  unfold matchRule
  dsimp only
  by_cases hlimit : limit ≤ (Frame.enter parent s.offset).stalled
  · rw [if_pos hlimit]
    exact .fail
  · rw [if_neg hlimit]
    refine (Spends.note rfl).after fun _ _ => ?_
    split
    · exact .fail
    · next r hf =>
      refine scanToken_spends.after ?_
      rintro ⟨t, s'⟩ hr
      by_cases ht : t.isEnd
      · simp only [if_pos ht]
        refine Spends.mono (n := 0) ?_ (Nat.zero_le n)
        exact (Spends.note rfl).after fun _ _ => (Spends.note rfl).after fun _ _ => .pure
      · simp only [if_neg ht]
        obtain ⟨m, hm, hspends⟩ := h r t s' hf (scanToken_eq_ok hr) ht
        refine Spends.mono (n := 1 + m) ?_ (by omega)
        refine Spends.attempt.bind fun _ _ => hspends.before fun out _ => ?_
        exact (Spends.note rfl).after fun _ _ => .pure

end Attempts

section

variable (g : Grammar) (tokens : Nat → Option Token)

def SpendsItems (items : List Item) (i n : Nat) : Prop :=
  ∀ sc us s limit m rule frame depth, sc.Lists tokens → us.length = i → sc.Yields .start us s →
    Spends (matchItems sc (matchNested g limit sc m) rule frame items s depth) n

def SpendsChoice (as : List Alternative) (i n : Nat) : Prop :=
  ∀ sc us s limit m r frame depth k, sc.Lists tokens → us.length = i → sc.Yields .start us s →
    Spends (matchAlternatives sc (matchNested g limit sc m) r frame s depth k as) n

def SpendsRule (name : String) (i n : Nat) : Prop :=
  ∀ sc us s limit m depth parent, sc.Lists tokens → us.length = i → sc.Yields .start us s →
    Spends (matchNested g limit sc m name s depth parent) n

structure Costs (items : List Item) (i j n : Nat) : Prop where
  takes : Takes g tokens items i j
  spends : SpendsItems g tokens items i n

structure CostsRule (name : String) (i j n : Nat) : Prop where
  takes : Takes g tokens [.rule name] i j
  spends : SpendsRule g tokens name i n

end

variable {g : Grammar} {tokens : Nat → Option Token} {items : List Item} {as : List Alternative} {a : Alternative}
  {name : String} {label : Option String} {k : Kind} {i j n m : Nat}

namespace SpendsItems

lemma nil : SpendsItems g tokens [] i 0 := by
  intro sc us s limit d rule frame depth _ _ _
  rw [matchItems]
  exact .pure

lemma token (hk : kindAt tokens i = some k) (h : SpendsItems g tokens items (i + 1) n) :
    SpendsItems g tokens (⟨.token k, label⟩ :: items) i n := by
  rintro sc us s limit d rule frame depth hl rfl hy
  rw [matchItems]
  refine scanToken_spends.after ?_
  rintro ⟨t, s'⟩ hr
  have hn := scanToken_eq_ok hr
  simp only [if_pos (kind_of_next hl hy hn hk)]
  have hrest := h sc (us ++ [t]) s' limit d rule frame (depth + 1) hl List.length_append (hy.snoc hn)
  exact hrest.before fun _ _ => .pure

lemma barred (hk : kindAt tokens i = some k) (hb : a.bars k = true) : SpendsItems g tokens a i 0 := by
  rintro sc us s limit d rule frame depth hl rfl hy
  match a, hb with
  | ⟨.token l, label⟩ :: items, hb =>
    rw [matchItems]
    refine scanToken_spends.after ?_
    rintro ⟨t, s'⟩ hr
    have hne : t.kind ≠ l := by
      rw [kind_of_next hl hy (scanToken_eq_ok hr) hk]
      rintro rfl
      simp [Alternative.bars] at hb
    simp only [if_neg hne]
    exact (Spends.note rfl).after fun _ _ => .pure

lemma rule (ht : Takes g tokens [.rule name] i j) (hr : SpendsRule g tokens name i n)
    (h : SpendsItems g tokens items j m) : SpendsItems g tokens (⟨.rule name, label⟩ :: items) i (n + m) := by
  rintro sc us s limit d rule frame depth hl rfl hy
  rw [matchItems]
  refine (hr sc us s limit d depth (some frame) hl rfl hy).bind fun found hfound => ?_
  obtain ⟨sub, rfl, hlen, ha⟩ := (matchNested_takes hl hy ht d depth (some frame)).result found hfound
  have hstop : (us ++ sub.parts.tokens).length = j := List.length_append.trans hlen
  exact (h sc _ sub.stop limit d rule frame sub.depth hl hstop (hy.append ha.yields)).before fun _ _ => .pure

lemma refused (hn : Reads g tokens [.rule name] i none) (hr : SpendsRule g tokens name i n) :
    SpendsItems g tokens (⟨.rule name, label⟩ :: items) i n := by
  rintro sc us s limit d rule frame depth hl rfl hy
  rw [matchItems]
  refine (hr sc us s limit d depth (some frame) hl rfl hy).before fun found hfound => ?_
  have hreads := ((matchNested_outcome hl d name s depth (some frame)).result found hfound).1 us hy
  cases found with
  | none => exact .pure
  | some sub => cases hreads.unique hn

end SpendsItems

namespace SpendsChoice

lemma nil : SpendsChoice g tokens [] i 0 := by
  intro sc us s limit d r frame depth l _ _ _
  rw [matchAlternatives]
  exact .pure

lemma skip (h : SpendsItems g tokens a i n) (has : SpendsChoice g tokens as i m) :
    SpendsChoice g tokens (a :: as) i (n + m) := by
  intro sc us s limit d r frame depth l hl hi hy
  rw [matchAlternatives]
  refine (matchAlternative_spends (h sc us s limit d r.name frame depth hl hi hy) l).bind fun out _ => ?_
  cases out with
  | none => exact has sc us s limit d r frame depth (l + 1) hl hi hy
  | some t => exact Spends.pure.mono (Nat.zero_le m)

lemma skip_barred {before : List Alternative} (hk : kindAt tokens i = some k)
    (hb : before.all (Alternative.bars k) = true) (h : SpendsChoice g tokens as i n) :
    SpendsChoice g tokens (before ++ as) i n := by
  induction before with
  | nil => exact h
  | cons b before ih =>
    rw [List.all_cons, Bool.and_eq_true] at hb
    have hskip := skip (.barred hk hb.1) (ih hb.2)
    rwa [Nat.zero_add] at hskip

lemma take (h : Costs g tokens a i j n) : SpendsChoice g tokens (a :: as) i n := by
  rintro sc us s limit d r frame depth l hl rfl hy
  obtain ⟨parts, ht⟩ := h.takes
  have hsome : Ensures (matchAlternative sc (matchNested g limit sc d) r frame s depth l a) (fun _ => True)
      (fun _ => True) fun out => ∃ t, out = some t := by
    refine matchAlternative_ensures (matchItems_reads hl (matchNested_outcome hl d) a s depth) ?_
      fun _ _ _ _ => ⟨_, rfl⟩
    intro hnone
    cases (hnone us hy).unique ht
  rw [matchAlternatives]
  have hitems := h.spends sc us s limit d r.name frame depth hl rfl hy
  refine (matchAlternative_spends hitems l).before fun out hout => ?_
  obtain ⟨t, rfl⟩ := hsome.result out hout
  exact .pure

end SpendsChoice

namespace SpendsRule

lemma ended (hk : kindAt tokens i = some .endOfFile) : SpendsRule g tokens name i 0 := by
  rintro sc us s limit d depth parent hl rfl hy
  cases d with
  | zero => exact .fail
  | succ d =>
    refine matchRule_spends fun r t s' _ hn ht => ?_
    exact absurd (by simp [Token.isEnd, kind_of_next hl hy hn hk]) ht

lemma choose {r : Rule} (hf : g.find? name = some r) (h : SpendsChoice g tokens r.alternatives i n) :
    SpendsRule g tokens name i (n + 1) := by
  intro sc us s limit d depth parent hl hi hy
  cases d with
  | zero => exact .fail
  | succ d =>
    refine matchRule_spends fun r' t s' hf' _ _ => ⟨n, Nat.lt_succ_self n, ?_⟩
    obtain rfl := Option.some.inj (hf.symm.trans hf')
    exact h sc us s limit d r _ depth 0 hl hi hy

end SpendsRule

namespace Costs

lemma nil : Costs g tokens [] i i 0 := ⟨.nil, .nil⟩

lemma token (hk : kindAt tokens i = some k) (h : Costs g tokens items (i + 1) j n) :
    Costs g tokens (⟨.token k, label⟩ :: items) i j n :=
  ⟨.token hk h.takes, .token hk h.spends⟩

lemma rule {l : Nat} (h : CostsRule g tokens name i l n) (h' : Costs g tokens items l j m) :
    Costs g tokens (⟨.rule name, label⟩ :: items) i j (n + m) :=
  ⟨.rule h.takes h'.takes, .rule h.takes h.spends h'.spends⟩

lemma last (h : CostsRule g tokens name i j n) : Costs g tokens [⟨.rule name, label⟩] i j n := rule h nil

end Costs

namespace CostsRule

lemma mono (h : CostsRule g tokens name i j n) (hle : n ≤ m) : CostsRule g tokens name i j m :=
  ⟨h.takes, fun sc us s limit d depth parent hl hi hy => (h.spends sc us s limit d depth parent hl hi hy).mono hle⟩

lemma choose {r : Rule} {after : List Alternative} (before : List Alternative) (hf : g.find? name = some r)
    (hk : kindAt tokens i = some k) (he : k ≠ .endOfFile) (has : r.alternatives = before ++ a :: after)
    (hb : before.all (Alternative.bars k) = true) (h : Costs g tokens a i j n) :
    CostsRule g tokens name i j (n + 1) where
  takes := .choose before hf hk he has (fun b hmem => reads_none_of_bars hk (List.all_eq_true.mp hb b hmem)) h.takes
  spends := .choose hf (has ▸ .skip_barred hk hb (.take h))

end CostsRule

end GlowSyntax
