import GlowSyntax.Match.Attempt
import Mathlib.Order.Nat

namespace GlowSyntax

namespace Run

variable {α β : Type} {F G : Failure → Prop} {R S : MatchError → Prop} {P Q : α → Prop}

structure Ensures (x : Run α) (F : Failure → Prop) (R : MatchError → Prop) (P : α → Prop) : Prop where
  failures : ∀ f ∈ failuresOf x.log, F f
  error : ∀ e, x.result = .error e → R e
  result : ∀ a, x.result = .ok a → P a

namespace Ensures

lemma pure {a : α} (h : P a) : Ensures (Pure.pure a) F R P where
  failures f hf := by cases hf
  error e he := by cases he
  result b hb := by
    cases hb
    exact h

lemma fail {e : MatchError} (h : R e) : Ensures (Run.fail e) F R P where
  failures f hf := by cases hf
  error e he := by
    cases he
    exact h
  result b hb := by cases hb

lemma note {e : Event} {P : Unit → Prop} (hf : ∀ f, e.failure? = some f → F f) (hp : P ()) :
    Ensures (Run.note e) F R P where
  failures f h := by
    obtain ⟨_, he, hf'⟩ := List.mem_filterMap.mp h
    rw [log_note, List.mem_singleton] at he
    exact hf f (he ▸ hf')
  error e he := by cases he
  result b hb := by
    cases hb
    exact hp

lemma bind {x : Run α} {f : α → Run β} {P : β → Prop} (hx : Ensures x F R Q)
    (hf : ∀ a, Q a → Ensures (f a) F R P) : Ensures (x >>= f) F R P := by
  change Ensures (x.bind f) F R P
  cases hr : x.result with
  | error e =>
    refine ⟨?_, ?_, ?_⟩
    · rw [log_bind_error hr]
      exact hx.failures
    · intro e' he
      rw [result_bind_error hr] at he
      cases he
      exact hx.error e hr
    · intro b hb
      rw [result_bind_error hr] at hb
      cases hb
  | ok a =>
    have hy := hf a (hx.result a hr)
    refine ⟨?_, ?_, ?_⟩
    · intro f hmem
      rw [log_bind_ok hr, failuresOf, List.filterMap_append, List.mem_append] at hmem
      exact hmem.elim (hx.failures f) (hy.failures f)
    · rw [result_bind_ok hr]
      exact hy.error
    · rw [result_bind_ok hr]
      exact hy.result

lemma mono {x : Run α} (h : Ensures x F R P) (hf : ∀ f, F f → G f) (he : ∀ e, R e → S e)
    (hp : ∀ a, P a → Q a) : Ensures x G S Q :=
  ⟨fun f hm => hf f (h.failures f hm), fun e hr => he e (h.error e hr), fun a hr => hp a (h.result a hr)⟩

lemma imp {x : Run α} (h : Ensures x F R P) (hp : ∀ a, P a → Q a) : Ensures x F R Q :=
  h.mono (fun _ => id) (fun _ => id) hp

lemma and_result {x : Run α} (h : Ensures x F R P) (h' : Ensures x G S Q) : Ensures x F R fun a => P a ∧ Q a :=
  ⟨h.failures, h.error, fun a hr => ⟨h.result a hr, h'.result a hr⟩⟩

end Ensures

end Run

open Run

variable {F : Failure → Prop} {R : MatchError → Prop} {sc : Scanner} {call : Attempt}

lemma scanToken_ensures {s : ScanState} (he : ∀ e, sc.next s = .error e → R (.scan e)) :
    Ensures (scanToken sc s) F R fun out => sc.next s = .ok out where
  failures f hf := by cases hf
  error e h := by
    simp only [scanToken] at h
    split at h
    · cases h
    · next e' hn =>
      cases h
      exact he e' hn
  result _ h := scanToken_eq_ok h

section Items

variable {rule : String} {frame : Frame} {s : ScanState} {depth : Nat}
  {P : Option (Forest × ScanState × Nat) → Prop} {label : Option String} {items : List Item}

lemma matchItems_nil_ensures (h : P (some (.nil, s, depth))) :
    Ensures (matchItems sc call rule frame [] s depth) F R P := by
  rw [matchItems]
  exact .pure h

lemma matchItems_token_ensures {k : Kind} (he : ∀ e, sc.next s = .error e → R (.scan e))
    (hother : ∀ t s', sc.next s = .ok (t, s') → t.kind ≠ k → F ⟨rule, t, k, depth⟩ ∧ P none)
    (hrest : ∀ t s', sc.next s = .ok (t, s') → t.kind = k →
      Ensures (matchItems sc call rule frame items s' (depth + 1)) F R
        fun out => P (out.map fun r => (.token label t r.1, r.2))) :
    Ensures (matchItems sc call rule frame (⟨.token k, label⟩ :: items) s depth) F R P := by
  rw [matchItems]
  refine (scanToken_ensures he).bind fun (t, s') hn => ?_
  by_cases hk : t.kind = k
  · simp only [if_pos hk]
    exact (hrest t s' hn hk).bind fun _ => .pure
  · simp only [if_neg hk]
    obtain ⟨hf, hp⟩ := hother t s' hn hk
    refine (Ensures.note (P := fun _ => True) ?_ trivial).bind fun _ _ => .pure hp
    rintro f ⟨⟩
    exact hf

lemma matchItems_rule_ensures {name : String} {Q : Option Tree → Prop}
    (hcall : Ensures (call name s depth (some frame)) F R Q) (hnone : Q none → P none)
    (hrest : ∀ sub, Q (some sub) → Ensures (matchItems sc call rule frame items sub.stop sub.depth) F R
      fun out => P (out.map fun r => (.tree label sub.node sub.parts r.1, r.2))) :
    Ensures (matchItems sc call rule frame (⟨.rule name, label⟩ :: items) s depth) F R P := by
  rw [matchItems]
  refine hcall.bind fun out hq => ?_
  cases out with
  | none => exact .pure (hnone hq)
  | some sub => exact (hrest sub hq).bind fun _ => .pure

end Items

section Rule

variable {r : Rule} {frame : Frame} {s : ScanState} {depth : Nat} {P : Option Tree → Prop}

lemma matchAlternative_ensures {i : Nat} {a : Alternative} {Q : Option (Forest × ScanState × Nat) → Prop}
    (h : Ensures (matchItems sc call r.name frame a s depth) F R Q) (hnone : Q none → P none)
    (hsome : ∀ parts stop d, Q (some (parts, stop, d)) → P (some ⟨⟨r, i, stop, d⟩, parts⟩)) :
    Ensures (matchAlternative sc call r frame s depth i a) F R P := by
  rw [matchAlternative]
  refine h.bind fun out hq => ?_
  cases out with
  | none =>
    refine (Ensures.note (P := fun _ => True) ?_ trivial).bind fun _ _ => .pure (hnone hq)
    simp [Event.failure?]
  | some out =>
    obtain ⟨parts, stop, d⟩ := out
    refine (Ensures.note (P := fun _ => True) ?_ trivial).bind fun _ _ => .pure (hsome parts stop d hq)
    simp [Event.failure?]

lemma matchAlternatives_ensures {N : Alternative → Prop} {T : Nat → Alternative → Tree → Prop} {i : Nat}
    {as : List Alternative}
    (h : ∀ j a, a ∈ as → Ensures (matchAlternative sc call r frame s depth j a) F R
      fun out => out.elim (N a) (T j a))
    (hnone : (∀ a ∈ as, N a) → P none)
    (hsome : ∀ before a after t, as = before ++ a :: after → (∀ b ∈ before, N b) →
      T (i + before.length) a t → P (some t)) :
    Ensures (matchAlternatives sc call r frame s depth i as) F R P := by
  induction as generalizing i with
  | nil =>
    rw [matchAlternatives]
    exact .pure (hnone (by simp))
  | cons a as ih =>
    rw [matchAlternatives]
    refine (h i a List.mem_cons_self).bind fun out hq => ?_
    cases out with
    | some t => exact .pure (hsome [] a as t rfl (by simp) hq)
    | none =>
      refine ih (fun j b hb => h j b (List.mem_cons_of_mem a hb)) ?_ ?_
      · intro hn
        exact hnone (List.forall_mem_cons.mpr ⟨hq, hn⟩)
      · rintro before b after t rfl hb ht
        refine hsome (a :: before) b after t rfl (List.forall_mem_cons.mpr ⟨hq, hb⟩) ?_
        rwa [List.length_cons, Nat.add_comm before.length, ← Nat.add_assoc]

variable {g : Grammar} {limit : Nat} {name : String} {parent : Option Frame}

lemma matchRule_ensures
    (hlimit : limit ≤ (Frame.enter parent s.offset).stalled → R (.recursionLimit name limit))
    (hunknown : g.find? name = none → R (.grammar (.unknownRule name)))
    (he : ∀ e, sc.next s = .error e → R (.scan e))
    (hend : ∀ r t s', g.find? name = some r → sc.next s = .ok (t, s') → t.isEnd → P none)
    (hmatch : ∀ r t s', (Frame.enter parent s.offset).stalled < limit → g.find? name = some r →
      sc.next s = .ok (t, s') → ¬ t.isEnd →
      Ensures (matchAlternatives sc call r (.enter parent s.offset) s depth 0 r.alternatives) F R P) :
    Ensures (matchRule g limit sc call name s depth parent) F R P := by
  have hquiet : ∀ e : Event, e.failure? = none → Ensures (Run.note e) F R fun _ => True :=
    fun e h => .note (by simp [h]) trivial
  unfold matchRule
  dsimp only
  by_cases hl : limit ≤ (Frame.enter parent s.offset).stalled
  · rw [if_pos hl]
    exact .fail (hlimit hl)
  · rw [if_neg hl]
    refine (hquiet _ rfl).bind fun _ _ => ?_
    split
    · next hf => exact .fail (hunknown hf)
    · next r hf =>
      refine (scanToken_ensures he).bind fun (t, s') hn => ?_
      by_cases ht : t.isEnd
      · simp only [if_pos ht]
        refine (hquiet _ rfl).bind fun _ _ => (hquiet _ rfl).bind fun _ _ => .pure ?_
        exact hend r t s' hf hn ht
      · simp only [if_neg ht]
        refine (hquiet _ rfl).bind fun _ _ => ?_
        refine (hmatch r t s' (not_le.mp hl) hf hn ht).bind fun out hp => ?_
        exact (hquiet _ rfl).bind fun _ _ => .pure hp

lemma matchRule_errors
    (hlimit : limit ≤ (Frame.enter parent s.offset).stalled → R (.recursionLimit name limit))
    (hunknown : g.find? name = none → R (.grammar (.unknownRule name)))
    (he : ∀ e, sc.next s = .error e → R (.scan e))
    (hitems : ∀ r t s' a, (Frame.enter parent s.offset).stalled < limit → g.find? name = some r →
      sc.next s = .ok (t, s') → ¬ t.isEnd → a ∈ r.alternatives →
      Ensures (matchItems sc call r.name (.enter parent s.offset) a s depth) (fun _ => True) R fun _ => True) :
    Ensures (matchRule g limit sc call name s depth parent) (fun _ => True) R fun _ => True := by
  refine matchRule_ensures hlimit hunknown he (fun _ _ _ _ _ _ => trivial) ?_
  intro r t s' hlt hf hn ht
  refine matchAlternatives_ensures (N := fun _ => True) (T := fun _ _ _ => True) ?_ (fun _ => trivial)
    (fun _ _ _ _ _ _ _ => trivial)
  intro i a ha
  exact matchAlternative_ensures (hitems r t s' a hlt hf hn ht ha) (fun _ => trivial) (fun _ _ _ _ => trivial)

end Rule

end GlowSyntax
