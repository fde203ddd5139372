import GlowSyntax.Proofs.Match.Extent

/-!
Ordered choice on a list of tokens, without states, frames and depths, and the attempts of the matcher as
its outcomes. A source that tokenizes is matched as the list of its tokens, the last one repeated.
-/

namespace GlowSyntax

inductive Reading
  | nil
  | token (label : Option String) (t : Token) (rest : Reading)
  | tree (label : Option String) (rule : Rule) (alternative : Nat) (parts rest : Reading)

inductive Reading.Capture
  | token (t : Token)
  | tree (rule : Rule) (alternative : Nat) (parts : Reading)

def Reading.captures : Reading → List (String × Reading.Capture)
  | nil => []
  | token none _ rest => rest.captures
  | token (some l) t rest => insertMissing l (.token t) rest.captures
  | tree none _ _ _ rest => rest.captures
  | tree (some l) r k parts rest => insertMissing l (.tree r k parts) rest.captures

def Forest.reading : Forest → Reading
  | nil => .nil
  | token label t rest => .token label t rest.reading
  | tree label node parts rest => .tree label node.rule node.alternative parts.reading rest.reading

def Capture.reading : Capture → Reading.Capture
  | token t => .token t
  | tree t => .tree t.node.rule t.node.alternative t.parts.reading

lemma map_insertMissing {β γ : Type} (f : β → γ) (l : String) (b : β) (es : List (String × β)) :
    (insertMissing l b es).map (Prod.map id f) = insertMissing l (f b) (es.map (Prod.map id f)) := by
  induction es with
  | nil => rfl
  | cons e es ih =>
    obtain ⟨m, c⟩ := e
    simp only [insertMissing, List.map_cons, Prod.map_apply, id]
    by_cases hlt : l < m
    · simp [hlt]
    · by_cases heq : l = m
      · simp [heq]
      · simp [hlt, heq, ih]

lemma Forest.captures_reading (f : Forest) :
    f.captures.map (Prod.map id Capture.reading) = f.reading.captures := by
  induction f with
  | nil => rfl
  | token label t rest ih =>
    cases label with
    | none => exact ih
    | some l =>
      simp only [captures, collect, reading, Reading.captures, map_insertMissing]
      exact congrArg _ ih
  | tree label node parts rest _ ih =>
    cases label with
    | none => exact ih
    | some l =>
      simp only [captures, collect, reading, Reading.captures, map_insertMissing]
      exact congrArg _ ih

/-- What items read from a place in a list of tokens: nothing, or parts and the place behind them. No rule
reads at the end of file; at any other token its first alternative that reads is taken. -/
inductive Reads (g : Grammar) (tokens : Nat → Option Token) :
    List Item → Nat → Option (Reading × Nat) → Prop
  | nil {i} : Reads g tokens [] i (some (.nil, i))
  | token {k label items i t out} : tokens i = some t → t.kind = k → Reads g tokens items (i + 1) out →
      Reads g tokens (⟨.token k, label⟩ :: items) i (out.map fun q => (.token label t q.1, q.2))
  | other {k label items i} : (∀ t, tokens i = some t → t.kind ≠ k) →
      Reads g tokens (⟨.token k, label⟩ :: items) i none
  | ended {name label items i r t} : g.find? name = some r → tokens i = some t → t.isEnd →
      Reads g tokens (⟨.rule name, label⟩ :: items) i none
  | refused {name label items i r t} : g.find? name = some r → tokens i = some t → ¬ t.isEnd →
      (∀ a ∈ r.alternatives, Reads g tokens a i none) →
      Reads g tokens (⟨.rule name, label⟩ :: items) i none
  | chosen {name label items i r t before a after parts j out} : g.find? name = some r →
      tokens i = some t → ¬ t.isEnd → r.alternatives = before ++ a :: after →
      (∀ b ∈ before, Reads g tokens b i none) → Reads g tokens a i (some (parts, j)) →
      Reads g tokens items j out →
      Reads g tokens (⟨.rule name, label⟩ :: items) i
        (out.map fun q => (.tree label r before.length parts q.1, q.2))

namespace Reads

variable {g : Grammar} {tokens : Nat → Option Token} {i : Nat} {out : Option (Reading × Nat)}
  {label : Option String} {items : List Item}

lemma nil_inv (h : Reads g tokens [] i out) : out = some (.nil, i) := by
  cases h
  rfl

lemma token_inv {k : Kind} (h : Reads g tokens (⟨.token k, label⟩ :: items) i out) :
    (∃ t o, tokens i = some t ∧ t.kind = k ∧ Reads g tokens items (i + 1) o ∧
      out = o.map fun q => (.token label t q.1, q.2)) ∨
    ((∀ t, tokens i = some t → t.kind ≠ k) ∧ out = none) := by
  cases h with
  | token ht hk hr => exact Or.inl ⟨_, _, ht, hk, hr, rfl⟩
  | other hk => exact Or.inr ⟨hk, rfl⟩

inductive Choice (g : Grammar) (tokens : Nat → Option Token) (r : Rule) (i : Nat) :
    Option (Nat × Reading × Nat) → Prop
  | refused : (∀ a ∈ r.alternatives, Reads g tokens a i none) → Choice g tokens r i none
  | chosen {before a after parts j} : r.alternatives = before ++ a :: after →
      (∀ b ∈ before, Reads g tokens b i none) → Reads g tokens a i (some (parts, j)) →
      Choice g tokens r i (some (before.length, parts, j))

lemma rule_inv {name : String} (h : Reads g tokens (⟨.rule name, label⟩ :: items) i out) :
    ∃ r t, g.find? name = some r ∧ tokens i = some t ∧
      ((t.isEnd ∧ out = none) ∨
      (¬ t.isEnd ∧ Choice g tokens r i none ∧ out = none) ∨
      (¬ t.isEnd ∧ ∃ k parts j o, Choice g tokens r i (some (k, parts, j)) ∧ Reads g tokens items j o ∧
        out = o.map fun q => (.tree label r k parts q.1, q.2))) := by
  cases h with
  | ended hf ht he => exact ⟨_, _, hf, ht, Or.inl ⟨he, rfl⟩⟩
  | refused hf ht he hn => exact ⟨_, _, hf, ht, Or.inr (Or.inl ⟨he, .refused hn, rfl⟩)⟩
  | chosen hf ht he has hn ha hr =>
    exact ⟨_, _, hf, ht, Or.inr (Or.inr ⟨he, _, _, _, _, .chosen has hn ha, hr, rfl⟩)⟩

lemma first_unique {N S : Alternative → Prop} {as before before' after after' : List Alternative}
    {a a' : Alternative} (h : as = before ++ a :: after) (h' : as = before' ++ a' :: after')
    (hn : ∀ b ∈ before', N b) (ha : ¬ N a) (hs : ∀ b ∈ before, ¬ S b) (ha' : S a') :
    before = before' ∧ a = a' := by
  rcases List.append_eq_append_iff.mp (h.symm.trans h') with ⟨x, rfl, hx⟩ | ⟨x, rfl, hx⟩
  · cases x with
    | nil =>
      obtain ⟨rfl, -⟩ := List.cons.inj hx
      exact ⟨(List.append_nil _).symm, rfl⟩
    | cons y ys =>
      obtain ⟨rfl, -⟩ := List.cons.inj hx
      exact absurd (hn a (by simp)) ha
  · cases x with
    | nil =>
      obtain ⟨rfl, -⟩ := List.cons.inj hx
      exact ⟨List.append_nil _, rfl⟩
    | cons y ys =>
      obtain ⟨rfl, -⟩ := List.cons.inj hx
      exact absurd ha' (hs a' (by simp))

lemma unique {out' : Option (Reading × Nat)} (h : Reads g tokens items i out)
    (h' : Reads g tokens items i out') : out = out' := by
  -- By the first derivation: the second can only have taken the same steps.
  induction h generalizing out' with
  | nil => exact h'.nil_inv.symm
  | token ht hk _ ih =>
    rcases h'.token_inv with ⟨t', o, ht', _, hr', rfl⟩ | ⟨hn, -⟩
    · obtain rfl := Option.some.inj (ht.symm.trans ht')
      rw [ih hr']
    · exact absurd hk (hn _ ht)
  | other hn =>
    rcases h'.token_inv with ⟨t', o, ht', hk', _, rfl⟩ | ⟨_, rfl⟩
    · exact absurd hk' (hn _ ht')
    · rfl
  | ended _ ht he =>
    obtain ⟨_, t', _, ht', ⟨_, rfl⟩ | ⟨hne, _⟩ | ⟨hne, _⟩⟩ := h'.rule_inv
    · rfl
    all_goals
      obtain rfl := Option.some.inj (ht.symm.trans ht')
      exact absurd he hne
  | refused hf ht he _ ih =>
    obtain ⟨r', t', hf', ht', ⟨he', _⟩ | ⟨_, _, rfl⟩ | ⟨_, k, parts, j, o, hc, _⟩⟩ := h'.rule_inv
    · obtain rfl := Option.some.inj (ht.symm.trans ht')
      exact absurd he' he
    · rfl
    · obtain rfl := Option.some.inj (hf.symm.trans hf')
      cases hc with
      | chosen has _ ha =>
        have hmem := ih _ (has ▸ by simp) ha
        cases hmem
  | @chosen name label items i r t before a after parts j out hf ht he has hn ha hr ihn iha ih =>
    obtain ⟨r', t', hf', ht', ⟨he', _⟩ | ⟨_, hc, _⟩ | ⟨_, k, parts', j', o, hc, hr', rfl⟩⟩ := h'.rule_inv
    · obtain rfl := Option.some.inj (ht.symm.trans ht')
      exact absurd he' he
    · obtain rfl := Option.some.inj (hf.symm.trans hf')
      cases hc with
      | refused hn' =>
        have hnone := iha (hn' a (has ▸ by simp))
        cases hnone
    · obtain rfl := Option.some.inj (hf.symm.trans hf')
      cases hc with
      | chosen has' hn' ha' =>
        obtain ⟨rfl, rfl⟩ := first_unique (N := fun b => Reads g tokens b i none)
          (S := fun b => Reads g tokens b i (some (parts', j'))) has has' hn'
          (fun hnone => by cases iha hnone) (fun b hb hsome => by cases ihn b hb hsome) ha'
        cases iha ha'
        rw [ih hr']

lemma cons_none {name : String} (h : Reads g tokens [⟨.rule name, none⟩] i none) :
    Reads g tokens (⟨.rule name, label⟩ :: items) i none := by
  obtain ⟨r, t, hf, ht, ⟨he, _⟩ | ⟨he, hc, _⟩ | ⟨_, k, parts, j, o, _, hr, ho⟩⟩ := h.rule_inv
  · exact .ended hf ht he
  · cases hc with
    | refused hn => exact .refused hf ht he hn
  · rw [hr.nil_inv] at ho
    cases ho

lemma cons_some {name : String} {r : Rule} {k j : Nat} {parts : Reading}
    (h : Reads g tokens [⟨.rule name, none⟩] i (some (.tree none r k parts .nil, j)))
    (hr : Reads g tokens items j out) :
    Reads g tokens (⟨.rule name, label⟩ :: items) i (out.map fun q => (.tree label r k parts q.1, q.2)) := by
  obtain ⟨r', t, hf, ht, ⟨_, ho⟩ | ⟨_, _, ho⟩ | ⟨he, k', parts', j', o, hc, hr', ho⟩⟩ := h.rule_inv
  · cases ho
  · cases ho
  · rw [hr'.nil_inv] at ho
    cases ho
    cases hc with
    | chosen has hn ha => exact .chosen hf ht he has hn ha hr

end Reads

def kindAt (tokens : Nat → Option Token) (i : Nat) : Option Kind := (tokens i).map Token.kind

def Takes (g : Grammar) (tokens : Nat → Option Token) (items : List Item) (i j : Nat) : Prop :=
  ∃ parts, Reads g tokens items i (some (parts, j))

def Alternative.bars (k : Kind) (a : Alternative) : Bool :=
  match a with
  | ⟨.token l, _⟩ :: _ => l != k
  | _ => false

section

variable {g : Grammar} {tokens : Nat → Option Token} {i j m : Nat} {k : Kind} {label : Option String}
  {items : List Item} {name : String} {r : Rule} {a : Alternative} {after : List Alternative}

lemma kindAt_eq_some : kindAt tokens i = some k ↔ ∃ t, tokens i = some t ∧ t.kind = k := Option.map_eq_some_iff

lemma not_isEnd {t : Token} (hk : t.kind = k) (he : k ≠ .endOfFile) : ¬ t.isEnd := by
  simpa [Token.isEnd, hk] using he

lemma reads_none_of_bars (hk : kindAt tokens i = some k) (hb : a.bars k = true) : Reads g tokens a i none := by
  obtain ⟨t, ht, rfl⟩ := kindAt_eq_some.mp hk
  match a, hb with
  | ⟨.token l, label⟩ :: items, hb =>
    refine .other fun t' ht' heq => ?_
    obtain rfl := Option.some.inj (ht.symm.trans ht')
    simp [Alternative.bars, heq] at hb

lemma reads_none_of_end (hf : g.find? name = some r) (hk : kindAt tokens i = some .endOfFile) :
    Reads g tokens (⟨.rule name, label⟩ :: items) i none := by
  obtain ⟨t, ht, hk⟩ := kindAt_eq_some.mp hk
  exact .ended hf ht (by simp [Token.isEnd, hk])

lemma reads_none_of_refused (hf : g.find? name = some r) (hk : kindAt tokens i = some k) (he : k ≠ .endOfFile)
    (hn : ∀ a ∈ r.alternatives, Reads g tokens a i none) :
    Reads g tokens (⟨.rule name, label⟩ :: items) i none := by
  obtain ⟨t, ht, hk⟩ := kindAt_eq_some.mp hk
  exact .refused hf ht (not_isEnd hk he) hn

namespace Takes

lemma nil : Takes g tokens [] i i := ⟨_, .nil⟩

lemma token (hk : kindAt tokens i = some k) (h : Takes g tokens items (i + 1) j) :
    Takes g tokens (⟨.token k, label⟩ :: items) i j := by
  obtain ⟨t, ht, hk⟩ := kindAt_eq_some.mp hk
  obtain ⟨parts, h⟩ := h
  exact ⟨_, .token ht hk h⟩

lemma tree (h : Takes g tokens [.rule name] i j) :
    ∃ r k parts, Reads g tokens [⟨.rule name, none⟩] i (some (.tree none r k parts .nil, j)) := by
  obtain ⟨parts, h⟩ := h
  obtain ⟨r, t, hf, ht, ⟨_, ho⟩ | ⟨_, _, ho⟩ | ⟨he, k, parts', j', o, hc, hr, ho⟩⟩ := h.rule_inv
  · cases ho
  · cases ho
  · rw [hr.nil_inv] at ho
    cases ho
    exact ⟨r, k, parts', h⟩

lemma rule (h : Takes g tokens [.rule name] i m) (h' : Takes g tokens items m j) :
    Takes g tokens (⟨.rule name, label⟩ :: items) i j := by
  obtain ⟨r, k, parts, h⟩ := h.tree
  obtain ⟨rest, h'⟩ := h'
  exact ⟨_, h.cons_some h'⟩

lemma rule_none (h : Takes g tokens [.rule name] i m) (h' : Reads g tokens items m none) :
    Reads g tokens (⟨.rule name, label⟩ :: items) i none := by
  obtain ⟨r, k, parts, h⟩ := h.tree
  exact h.cons_some h'

lemma kindAt_ne_end (h : Takes g tokens [.rule name] i j) :
    ∃ k, kindAt tokens i = some k ∧ k ≠ .endOfFile := by
  obtain ⟨parts, h⟩ := h
  obtain ⟨r, t, hf, ht, ⟨_, ho⟩ | ⟨_, _, ho⟩ | ⟨he, _⟩⟩ := h.rule_inv
  · cases ho
  · cases ho
  · exact ⟨t.kind, kindAt_eq_some.mpr ⟨t, ht, rfl⟩, by simpa [Token.isEnd] using he⟩

lemma choose (before : List Alternative) (hf : g.find? name = some r) (hk : kindAt tokens i = some k)
    (he : k ≠ .endOfFile) (has : r.alternatives = before ++ a :: after)
    (hn : ∀ b ∈ before, Reads g tokens b i none) (h : Takes g tokens a i j) : Takes g tokens [.rule name] i j := by
  obtain ⟨t, ht, hk⟩ := kindAt_eq_some.mp hk
  obtain ⟨parts, h⟩ := h
  exact ⟨_, .chosen hf ht (not_isEnd hk he) has hn h .nil⟩

end Takes

end

end GlowSyntax
