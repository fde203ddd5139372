import GlowSyntax.Proofs.Match.TokenList

namespace GlowSyntax

/-- Items read from the first place on come to the second and miss the kind they expect there. A rule is
tried nowhere at the end of file, so nothing is missed inside one there. -/
inductive Misses (g : Grammar) (tokens : Nat → Option Token) : List Item → Nat → Nat → Prop
  | here {k l label items i} : kindAt tokens i = some l → l ≠ k → Misses g tokens (⟨.token k, label⟩ :: items) i i
  | token {k label items i n} : kindAt tokens i = some k → Misses g tokens items (i + 1) n →
      Misses g tokens (⟨.token k, label⟩ :: items) i n
  | inside {name label items i n r l a after} (before : List Alternative) : g.find? name = some r →
      kindAt tokens i = some l → l ≠ .endOfFile → r.alternatives = before ++ a :: after →
      (∀ b ∈ before, Reads g tokens b i none) → Misses g tokens a i n →
      Misses g tokens (⟨.rule name, label⟩ :: items) i n
  | behind {name label items i j n} : Takes g tokens [.rule name] i j → Misses g tokens items j n →
      Misses g tokens (⟨.rule name, label⟩ :: items) i n

namespace Misses

variable {g : Grammar} {tokens : Nat → Option Token} {items items' : List Item} {i n : Nat}

lemma exists_of_symbols {x : Symbol} {xs : List Symbol} (h : x :: xs <+: items'.map Item.symbol) :
    ∃ label rest, items' = ⟨x, label⟩ :: rest ∧ xs <+: rest.map Item.symbol := by
  cases items' with
  | nil => simp at h
  | cons item rest =>
    obtain ⟨rfl, hrest⟩ := List.cons_prefix_cons.mp h
    exact ⟨item.label, rest, rfl, hrest⟩

lemma extend (h : Misses g tokens items i n) (hs : items.map Item.symbol <+: items'.map Item.symbol) :
    Misses g tokens items' i n := by
  induction h generalizing items' with
  | here hk hne =>
    obtain ⟨label, rest, rfl, -⟩ := exists_of_symbols hs
    exact .here hk hne
  | token hk _ ih =>
    obtain ⟨label, rest, rfl, hrest⟩ := exists_of_symbols hs
    exact .token hk (ih hrest)
  | inside before hf hk hne has hn h _ =>
    obtain ⟨label, rest, rfl, -⟩ := exists_of_symbols hs
    exact .inside before hf hk hne has hn h
  | behind ht _ ih =>
    obtain ⟨label, rest, rfl, hrest⟩ := exists_of_symbols hs
    exact .behind ht (ih hrest)

lemma kindAt_ne_end {name : String} {label : Option String}
    (h : Misses g tokens (⟨.rule name, label⟩ :: items) i n) : ∃ k, kindAt tokens i = some k ∧ k ≠ .endOfFile := by
  cases h with
  | inside _ _ hk hne _ _ _ => exact ⟨_, hk, hne⟩
  | behind ht _ => exact ht.kindAt_ne_end

end Misses

namespace Run

variable {α β : Type} {F G : Failure → Prop} {R : MatchError → Prop} {Q : α → Prop}

lemma ok_of_bind {x : Run α} {f : α → Run β} {b : β} (h : (x >>= f).result = .ok b) :
    ∃ a, x.result = .ok a ∧ (f a).result = .ok b ∧ (x >>= f).log = x.log ++ (f a).log := by
  change (x.bind f).result = .ok b at h
  cases hr : x.result with
  | error e =>
    rw [result_bind_error hr] at h
    cases h
  | ok a =>
    rw [result_bind_ok hr] at h
    exact ⟨a, rfl, h, log_bind_ok hr f⟩

def Meets (x : Run α) (F : Failure → Prop) : Prop := ∀ a, x.result = .ok a → ∃ f ∈ failuresOf x.log, F f

namespace Meets

lemma fail {e : MatchError} : Meets (Run.fail e : Run α) F := by
  intro a h
  cases h

lemma note {f : Failure} (h : F f) : Meets (Run.note (.failure f)) F :=
  fun _ _ => ⟨f, List.mem_singleton_self f, h⟩

lemma mono {x : Run α} (h : Meets x F) (hF : ∀ f, F f → G f) : Meets x G := by
  intro a ha
  obtain ⟨f, hf, h⟩ := h a ha
  exact ⟨f, hf, hF f h⟩

lemma bind {x : Run α} (h : Meets x F) (f : α → Run β) : Meets (x >>= f) F := by
  intro b hb
  obtain ⟨a, ha, -, hlog⟩ := ok_of_bind hb
  obtain ⟨f', hf, hF⟩ := h a ha
  refine ⟨f', ?_, hF⟩
  rw [hlog, failuresOf, List.filterMap_append]
  exact List.mem_append_left _ hf

lemma after {x : Run α} {f : α → Run β} (hx : Ensures x G R Q) (h : ∀ a, Q a → Meets (f a) F) :
    Meets (x >>= f) F := by
  intro b hb
  obtain ⟨a, ha, hrest, hlog⟩ := ok_of_bind hb
  obtain ⟨f', hf, hF⟩ := h a (hx.result a ha) b hrest
  refine ⟨f', ?_, hF⟩
  rw [hlog, failuresOf, List.filterMap_append]
  exact List.mem_append_right _ hf

end Meets

end Run

open Run

variable {g : Grammar} {limit : Nat} {sc : Scanner} {tokens : Nat → Option Token} {call : Attempt}
  {frame : Frame} {s : ScanState} {depth : Nat} {F : Failure → Prop}

lemma scanToken_meets {α : Type} {f : Token × ScanState → Run α}
    (h : ∀ t s', sc.next s = .ok (t, s') → Meets (f (t, s')) F) : Meets (scanToken sc s >>= f) F := by
  refine .after (scanToken_ensures (F := fun _ => True) (R := fun _ => True) fun _ _ => trivial) ?_
  rintro ⟨t, s'⟩ hn
  exact h t s' hn

lemma matchAlternatives_meets {r : Rule} {before after : List Alternative} {a : Alternative} {i : Nat}
    (hbefore : ∀ j, ∀ b ∈ before, Ensures (matchAlternative sc call r frame s depth j b) (fun _ => True)
      (fun _ => True) (· = none))
    (h : ∀ j, Meets (matchAlternative sc call r frame s depth j a) F) :
    Meets (matchAlternatives sc call r frame s depth i (before ++ a :: after)) F := by
  induction before generalizing i with
  | nil => exact (h i).bind _
  | cons b before ih =>
    rw [List.cons_append, matchAlternatives]
    refine .after (hbefore i b List.mem_cons_self) ?_
    rintro _ rfl
    exact ih fun j c hc => hbefore j c (List.mem_cons_of_mem b hc)

lemma matchRule_meets {name : String} {parent : Option Frame} {r : Rule} (hf : g.find? name = some r)
    (hend : ∀ t s', sc.next s = .ok (t, s') → ¬ t.isEnd)
    (h : ∀ frame, Meets (matchAlternatives sc call r frame s depth 0 r.alternatives) F) :
    Meets (matchRule g limit sc call name s depth parent) F := by
  have hquiet : ∀ e : Event, Ensures (Run.note e) (fun _ => True) (fun _ => True) fun _ => True :=
    fun e => .note (fun _ _ => trivial) trivial
  unfold matchRule
  dsimp only
  by_cases hl : limit ≤ (Frame.enter parent s.offset).stalled
  · rw [if_pos hl]
    exact .fail
  · rw [if_neg hl]
    refine .after (hquiet _) fun _ _ => ?_
    simp only [hf]
    refine scanToken_meets fun t s' hn => ?_
    simp only [if_neg (hend t s' hn)]
    exact .after (hquiet _) fun _ _ => (h _).bind _

section

variable {us : List Token} (hl : sc.Lists tokens)
include hl

lemma kind_of_next {t : Token} {s' : ScanState} {k : Kind} (hy : sc.Yields .start us s)
    (hn : sc.next s = .ok (t, s')) (hk : kindAt tokens us.length = some k) : t.kind = k :=
  Option.some.inj ((hl.kindAt_eq hy hn).symm.trans hk)

lemma matchAlternative_none {m : Nat} {r : Rule} {a : Alternative} (hy : sc.Yields .start us s)
    (h : Reads g tokens a us.length none) (j : Nat) :
    Ensures (matchAlternative sc (matchNested g limit sc m) r frame s depth j a) (fun _ => True)
      (fun _ => True) (· = none) := by
  refine matchAlternative_ensures (matchItems_reads hl (matchNested_outcome hl m) a s depth) (fun _ => rfl) ?_
  intro parts stop d hr
  cases h.unique (hr us hy)

lemma matchNested_meets {name : String} {r : Rule} {k : Kind} {before after : List Alternative} {a : Alternative}
    {m : Nat} {parent : Option Frame} (hy : sc.Yields .start us s) (hf : g.find? name = some r)
    (hk : kindAt tokens us.length = some k) (hne : k ≠ .endOfFile) (has : r.alternatives = before ++ a :: after)
    (hbefore : ∀ b ∈ before, Reads g tokens b us.length none)
    (h : ∀ m rule frame, Meets (matchItems sc (matchNested g limit sc m) rule frame a s depth) F) :
    Meets (matchNested g limit sc m name s depth parent) F := by
  cases m with
  | zero => exact .fail
  | succ m =>
    refine matchRule_meets hf ?_ fun f => ?_
    · intro t s' hn
      exact not_isEnd (kind_of_next hl hy hn hk) hne
    · rw [has]
      refine matchAlternatives_meets ?_ fun j => ?_
      · intro j b hb
        exact matchAlternative_none hl hy (hbefore b hb) j
      · exact (h m _ _).bind _

lemma matchItems_meets {items : List Item} {i n m : Nat} {rule : String} (h : Misses g tokens items i n)
    (hi : us.length = i) (hy : sc.Yields .start us s) :
    Meets (matchItems sc (matchNested g limit sc m) rule frame items s depth) fun f => f.depth + i = depth + n := by
  induction h generalizing us s depth m rule frame with
  | here hk hne =>
    subst hi
    rw [matchItems]
    refine scanToken_meets fun t s' hn => ?_
    simp only [if_neg (kind_of_next hl hy hn hk ▸ hne)]
    refine Meets.bind ?_ _
    exact .note rfl
  | @token k label items i n hk _ ih =>
    subst hi
    rw [matchItems]
    refine scanToken_meets fun t s' hn => ?_
    simp only [if_pos (kind_of_next hl hy hn hk)]
    have hrest : Meets (matchItems sc (matchNested g limit sc m) rule frame items s' (depth + 1))
        fun f => f.depth + (us.length + 1) = depth + 1 + n := ih List.length_append (hy.snoc hn)
    exact (hrest.mono fun f hf => by omega).bind _
  | @inside name label items i n r l a after before hf hk hne has hbefore _ ih =>
    subst hi
    rw [matchItems]
    refine Meets.bind ?_ _
    exact matchNested_meets hl hy hf hk hne has hbefore fun _ _ _ => ih rfl hy
  | @behind name label items i j n ht _ ih =>
    subst hi
    rw [matchItems]
    refine .after (matchNested_takes hl hy ht m depth (some frame)) ?_
    rintro _ ⟨sub, rfl, hj, ha⟩
    have hrest : Meets (matchItems sc (matchNested g limit sc m) rule frame items sub.stop sub.depth)
        fun f => f.depth + j = sub.depth + n := ih (List.length_append.trans hj) (hy.append ha.yields)
    refine (hrest.mono fun f hf => ?_).bind _
    have hd := ha.depth_eq
    omega

lemma attemptRule_meets {name : String} {n : Nat} (h : Misses g tokens [.rule name] us.length n)
    (hy : sc.Yields .start us s) :
    Meets (attemptRule g limit sc name s depth) fun f => f.depth + us.length = depth + n := by
  cases h with
  | inside _ hf hk hne has hbefore h =>
    exact matchNested_meets hl hy hf hk hne has hbefore fun _ _ _ => matchItems_meets hl h rfl hy
  | behind _ h => cases h

end

end GlowSyntax
