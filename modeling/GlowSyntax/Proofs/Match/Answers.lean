import GlowSyntax.Proofs.Match.Tokenless

/-!
The answers of the matcher: what items match from a state on, or that they match nothing there. The depth is only
counted along, and frames and limits, which can end an attempt, make no difference to an attempt that comes to its
end.
-/

namespace GlowSyntax

/-- What items answer in a state: nothing, or parts with the state and the depth behind them. No rule matches at
the end of file; at any other token its first alternative that matches is taken. -/
inductive Answers (g : Grammar) (sc : Scanner) :
    List Item → ScanState → Nat → Option (Forest × ScanState × Nat) → Prop
  | nil {s d} : Answers g sc [] s d (some (.nil, s, d))
  | token {k label items s d t s' out} : sc.next s = .ok (t, s') → t.kind = k → Answers g sc items s' (d + 1) out →
      Answers g sc (⟨.token k, label⟩ :: items) s d (out.map fun r => (.token label t r.1, r.2))
  | other {k label items s d t s'} : sc.next s = .ok (t, s') → t.kind ≠ k →
      Answers g sc (⟨.token k, label⟩ :: items) s d none
  | ended {name label items s d t s'} : sc.next s = .ok (t, s') → t.isEnd →
      Answers g sc (⟨.rule name, label⟩ :: items) s d none
  | refused {name label items s d r} : g.find? name = some r → (∀ a ∈ r.alternatives, Answers g sc a s d none) →
      Answers g sc (⟨.rule name, label⟩ :: items) s d none
  | chosen {name label items s d r t s' i a parts stop d' out} : g.find? name = some r →
      sc.next s = .ok (t, s') → ¬ t.isEnd → r.alternatives[i]? = some a →
      (∀ j < i, ∀ b, r.alternatives[j]? = some b → Answers g sc b s d none) →
      Answers g sc a s d (some (parts, stop, d')) → Answers g sc items stop d' out →
      Answers g sc (⟨.rule name, label⟩ :: items) s d
        (out.map fun r' => (.tree label ⟨r, i, stop, d'⟩ parts r'.1, r'.2))

namespace Answers

variable {g : Grammar} {sc : Scanner} {items : List Item} {s : ScanState} {d : Nat}
  {out : Option (Forest × ScanState × Nat)} {label : Option String} {name : String} {k : Kind} {forest : Forest}
  {stop : ScanState} {e : Nat}

lemma nil_inv (h : Answers g sc [] s d out) : out = some (.nil, s, d) := by
  cases h
  rfl

lemma token_inv (h : Answers g sc (⟨.token k, label⟩ :: items) s d out) :
    ∃ t s', sc.next s = .ok (t, s') ∧ ((t.kind ≠ k ∧ out = none) ∨
      t.kind = k ∧ ∃ o, Answers g sc items s' (d + 1) o ∧ out = o.map fun r => (.token label t r.1, r.2)) := by
  cases h with
  | token hn hk ho => exact ⟨_, _, hn, Or.inr ⟨hk, _, ho, rfl⟩⟩
  | other hn hk => exact ⟨_, _, hn, Or.inl ⟨hk, rfl⟩⟩

lemma token_some (h : Answers g sc (⟨.token k, label⟩ :: items) s d (some (forest, stop, e))) :
    ∃ t s' rest, sc.next s = .ok (t, s') ∧ t.kind = k ∧ Answers g sc items s' (d + 1) (some (rest, stop, e)) ∧
      forest = .token label t rest := by
  obtain ⟨t, s', hn, ⟨-, hnone⟩ | ⟨hk, o, ho, heq⟩⟩ := h.token_inv
  · cases hnone
  · obtain ⟨⟨rest, last⟩, rfl, hrest⟩ := Option.map_eq_some_iff.mp heq.symm
    cases hrest
    exact ⟨t, s', rest, hn, hk, ho, rfl⟩

lemma token_none {t : Token} {s' : ScanState} (h : Answers g sc (⟨.token k, label⟩ :: items) s d none)
    (hn : sc.next s = .ok (t, s')) (hk : t.kind = k) : Answers g sc items s' (d + 1) none := by
  obtain ⟨u, m, hm, ⟨hu, -⟩ | ⟨-, o, ho, heq⟩⟩ := h.token_inv
  all_goals
    rw [hn] at hm
    cases hm
  · exact absurd hk hu
  · obtain rfl := Option.map_eq_none_iff.mp heq.symm
    exact ho

structure Choice (g : Grammar) (sc : Scanner) (name : String) (s : ScanState) (d : Nat) (node : Node) (parts : Forest)
    (a : Alternative) : Prop where
  rule_eq : g.find? name = some node.rule
  alternative_eq : node.rule.alternatives[node.alternative]? = some a
  earlier : ∀ j < node.alternative, ∀ b, node.rule.alternatives[j]? = some b → Answers g sc b s d none
  answers : Answers g sc a s d (some (parts, node.stop, node.depth))
  found : ∃ t s', sc.next s = .ok (t, s') ∧ ¬ t.isEnd

lemma Choice.not_end {node : Node} {parts : Forest} {a : Alternative} (h : Choice g sc name s d node parts a)
    {t : Token} {s' : ScanState} (hn : sc.next s = .ok (t, s')) : ¬ t.isEnd := by
  obtain ⟨u, m, hm, hu⟩ := h.found
  rw [hn] at hm
  cases hm
  exact hu

lemma rule_inv (h : Answers g sc (⟨.rule name, label⟩ :: items) s d out) :
    (out = none ∧ ((∃ t s', sc.next s = .ok (t, s') ∧ t.isEnd) ∨
      ∃ r, g.find? name = some r ∧ ∀ a ∈ r.alternatives, Answers g sc a s d none)) ∨
    ∃ node parts a o, Choice g sc name s d node parts a ∧ Answers g sc items node.stop node.depth o ∧
      out = o.map fun r => (.tree label node parts r.1, r.2) := by
  cases h with
  | ended hn ht => exact Or.inl ⟨rfl, Or.inl ⟨_, _, hn, ht⟩⟩
  | refused hf hnone => exact Or.inl ⟨rfl, Or.inr ⟨_, hf, hnone⟩⟩
  | @chosen _ _ _ _ _ r t s' i a parts stop d' out hf hn ht ha hearlier hanswer ho =>
    exact Or.inr ⟨⟨r, i, stop, d'⟩, parts, a, out, ⟨hf, ha, hearlier, hanswer, t, s', hn, ht⟩, ho, rfl⟩

lemma rule_some (h : Answers g sc (⟨.rule name, label⟩ :: items) s d (some (forest, stop, e))) :
    ∃ node parts a rest, Choice g sc name s d node parts a ∧
      Answers g sc items node.stop node.depth (some (rest, stop, e)) ∧ forest = .tree label node parts rest := by
  obtain ⟨hnone, -⟩ | ⟨node, parts, a, o, hchoice, ho, heq⟩ := h.rule_inv
  · cases hnone
  · obtain ⟨⟨rest, last⟩, rfl, hrest⟩ := Option.map_eq_some_iff.mp heq.symm
    cases hrest
    exact ⟨node, parts, a, rest, hchoice, ho, rfl⟩

lemma rule_last (h : Answers g sc [⟨.rule name, label⟩] s d (some (forest, stop, e))) :
    ∃ node parts a, Choice g sc name s d node parts a ∧ stop = node.stop ∧ forest = .tree label node parts .nil := by
  obtain ⟨node, parts, a, rest, hchoice, hrest, rfl⟩ := h.rule_some
  cases hrest.nil_inv
  exact ⟨node, parts, a, hchoice, rfl, rfl⟩

lemma stop_unique {out' : Option (Forest × ScanState × Nat)} (h : Answers g sc items s d out)
    (h' : Answers g sc items s e out') : out.map (·.2.1) = out'.map (·.2.1) := by
  -- By the first derivation: the second can only have taken the same steps.
  induction h generalizing e out' with
  | nil => rw [h'.nil_inv]; rfl
  | token hn hk _ ih =>
    obtain ⟨t', m, hn', ⟨hk', -⟩ | ⟨-, o, ho, rfl⟩⟩ := h'.token_inv
    all_goals
      rw [hn] at hn'
      cases hn'
    · exact absurd hk hk'
    · rw [Option.map_map, Option.map_map]
      exact ih ho
  | other hn hk =>
    obtain ⟨t', m, hn', ⟨-, rfl⟩ | ⟨hk', -⟩⟩ := h'.token_inv
    · rfl
    · rw [hn] at hn'
      cases hn'
      exact absurd hk' hk
  | ended hn ht =>
    obtain ⟨rfl, -⟩ | ⟨_, _, _, _, hchoice, -⟩ := h'.rule_inv
    · rfl
    · exact absurd ht (hchoice.not_end hn)
  | refused hf _ ih =>
    obtain ⟨rfl, -⟩ | ⟨_, _, a, _, hchoice, -⟩ := h'.rule_inv
    · rfl
    · obtain rfl := Option.some.inj (hf.symm.trans hchoice.rule_eq)
      cases ih a (List.mem_of_getElem? hchoice.alternative_eq) hchoice.answers
  | @chosen name label items s d r t s' i a parts stop d' out hf hn ht ha _ _ _ ihearlier iha ih =>
    obtain ⟨rfl, ⟨t', m, hn', ht'⟩ | ⟨r', hf', hnone⟩⟩ | ⟨node, parts', a', o, hchoice, ho, rfl⟩ := h'.rule_inv
    · rw [hn] at hn'
      cases hn'
      exact absurd ht' ht
    · obtain rfl := Option.some.inj (hf.symm.trans hf')
      cases iha (hnone a (List.mem_of_getElem? ha))
    · obtain rfl := Option.some.inj (hf.symm.trans hchoice.rule_eq)
      have hindex : i = node.alternative := by
        rcases Nat.lt_trichotomy i node.alternative with hlt | heq | hlt
        · cases iha (hchoice.earlier i hlt a ha)
        · exact heq
        · cases ihearlier node.alternative hlt a' hchoice.alternative_eq hchoice.answers
      subst hindex
      obtain rfl := Option.some.inj (ha.symm.trans hchoice.alternative_eq)
      have hstop : stop = node.stop := Option.some.inj (iha hchoice.answers)
      subst hstop
      rw [Option.map_map, Option.map_map]
      exact ih ho

lemma trees (h : Answers g sc items s d out) : ∀ p, out = some p → ∀ t ∈ p.1.trees,
    ∃ name s d a, Choice g sc name s d t.node t.parts a := by
  induction h with
  | nil =>
    rintro p ⟨⟩ t ht
    cases ht
  | token _ _ _ ih =>
    intro p hp t ht
    obtain ⟨q, rfl, rfl⟩ := Option.map_eq_some_iff.mp hp
    exact ih q rfl t ht
  | other | ended | refused =>
    intro p hp
    cases hp
  | @chosen name label items s d r u s' i a parts stop d' out hf hn hu ha hearlier hanswer _ _ ihparts ih =>
    intro p hp t ht
    obtain ⟨q, rfl, rfl⟩ := Option.map_eq_some_iff.mp hp
    rcases List.mem_cons.mp ht with rfl | ht
    · exact ⟨name, s, d, a, hf, ha, hearlier, hanswer, u, s', hn, hu⟩
    · rcases List.mem_append.mp ht with ht | ht
      · exact ihparts _ rfl t ht
      · exact ih q rfl t ht

lemma fits (h : Answers g sc items s d out) : ∀ p, out = some p → Forest.Fits g items p.1 := by
  induction h with
  | nil =>
    rintro p ⟨⟩
    exact .nil
  | token _ hk _ ih =>
    intro p hp
    obtain ⟨q, rfl, rfl⟩ := Option.map_eq_some_iff.mp hp
    exact .token hk (ih q rfl)
  | other | ended | refused =>
    intro p hp
    cases hp
  | chosen hf _ _ ha _ _ _ _ ihparts ih =>
    intro p hp
    obtain ⟨q, rfl, rfl⟩ := Option.map_eq_some_iff.mp hp
    exact .tree hf ha (ihparts _ rfl) (ih q rfl)

lemma Choice.fits {node : Node} {parts : Forest} {a : Alternative} (h : Choice g sc name s d node parts a) :
    Forest.Fits g [⟨.rule name, label⟩] (.tree label node parts .nil) :=
  .tree h.rule_eq h.alternative_eq (h.answers.fits _ rfl) .nil

lemma cons_none (h : Answers g sc [.rule name] s d none) : Answers g sc (⟨.rule name, label⟩ :: items) s d none := by
  obtain ⟨-, ⟨t, s', hn, ht⟩ | ⟨r, hf, hnone⟩⟩ | ⟨_, _, _, o, _, ho, heq⟩ := h.rule_inv
  · exact .ended hn ht
  · exact .refused hf hnone
  · rw [ho.nil_inv] at heq
    cases heq

lemma Choice.cons {node : Node} {parts : Forest} {a : Alternative} (h : Choice g sc name s d node parts a)
    (ho : Answers g sc items node.stop node.depth out) :
    Answers g sc (⟨.rule name, label⟩ :: items) s d (out.map fun r => (.tree label node parts r.1, r.2)) := by
  obtain ⟨t, s', hn, ht⟩ := h.found
  exact .chosen h.rule_eq hn ht h.alternative_eq h.earlier h.answers ho

namespace Choice

variable {node node' : Node} {parts parts' : Forest} {a a' : Alternative} (h : Choice g sc name s d node parts a)
include h

lemma single : Answers g sc [⟨.rule name, label⟩] s d (some (.tree label node parts .nil, node.stop, node.depth)) :=
  h.cons .nil

lemma not_none (h' : Answers g sc [⟨.rule name, label⟩] s e none) : False := by
  cases h.single.stop_unique h'

lemma stop_eq (h' : Choice g sc name s e node' parts' a') : node.stop = node'.stop := by
  have hleft : Answers g sc [.rule name] s d _ := h.single
  exact Option.some.inj (hleft.stop_unique h'.single)

lemma made : ∀ t ∈ (⟨node, parts⟩ : Tree).forest.trees, ∃ name s d a, Choice g sc name s d t.node t.parts a :=
  h.single.trees _ rfl

end Choice

end Answers

section Runs

open Run

variable {g : Grammar} {limit : Nat} {sc : Scanner} {call : Attempt} {rule : String} {frame : Frame}

def AnswersRule (g : Grammar) (sc : Scanner) (name : String) (s : ScanState) (d : Nat) : Option Tree → Prop
  | none => Answers g sc [.rule name] s d none
  | some t => ∃ a, Answers.Choice g sc name s d t.node t.parts a

lemma matchItems_answers (hcall : ∀ name s d parent,
      Ensures (call name s d parent) (fun _ => True) (fun _ => True) (AnswersRule g sc name s d))
    (items : List Item) (s : ScanState) (d : Nat) :
    Ensures (matchItems sc call rule frame items s d) (fun _ => True) (fun _ => True) (Answers g sc items s d) := by
  induction items generalizing s d with
  | nil => exact matchItems_nil_ensures .nil
  | cons item items ih =>
    obtain ⟨symbol, label⟩ := item
    cases symbol with
    | token k =>
      refine matchItems_token_ensures (fun _ _ => trivial) ?_ ?_
      · intro t s' hn hk
        exact ⟨trivial, .other hn hk⟩
      · intro t s' hn hk
        exact (ih s' (d + 1)).imp fun out ho => .token hn hk ho
    | rule name =>
      refine matchItems_rule_ensures (hcall name s d (some frame)) (fun h => h.cons_none) ?_
      rintro sub ⟨a, hchoice⟩
      exact (ih sub.stop sub.depth).imp fun out ho => hchoice.cons ho

lemma matchNested_answers (n : Nat) (name : String) (s : ScanState) (d : Nat) (parent : Option Frame) :
    Ensures (matchNested g limit sc n name s d parent) (fun _ => True) (fun _ => True) (AnswersRule g sc name s d) := by
  induction n generalizing name s d parent with
  | zero => exact .fail trivial
  | succ n ih =>
    refine matchRule_ensures (fun _ => trivial) (fun _ => trivial) (fun _ _ => trivial) ?_ ?_
    · intro r t s' _ hn ht
      exact .ended hn ht
    · intro r t s' _ hf hn ht
      refine matchAlternatives_ensures (N := fun a => Answers g sc a s d none)
        (T := fun i a t => t.node.rule = r ∧ t.node.alternative = i ∧ Answers g sc a s d (some (t.parts, t.stop, t.depth)))
        ?_ ?_ ?_
      · intro i a _
        exact matchAlternative_ensures (matchItems_answers ih a s d) (fun h => h) fun _ _ _ h => ⟨rfl, rfl, h⟩
      · intro hnone
        exact .refused hf hnone
      · rintro before a after found has hbefore ⟨hr, hi, hanswer⟩
        rw [Nat.zero_add] at hi
        refine ⟨a, hr ▸ hf, ?_, ?_, hanswer, t, s', hn, ht⟩
        · rw [hi, hr, has, List.getElem?_append_right (le_refl _), Nat.sub_self]
          rfl
        · intro j hj b hb
          rw [hi] at hj
          rw [hr, has, List.getElem?_append_left hj] at hb
          exact hbefore b (List.mem_of_getElem? hb)

lemma attemptRule_answers (name : String) (s : ScanState) (d : Nat) :
    Ensures (attemptRule g limit sc name s d) (fun _ => True) (fun _ => True) (AnswersRule g sc name s d) :=
  matchNested_answers _ name s d none

end Runs

end GlowSyntax
