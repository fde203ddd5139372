import GlowSyntax.Automaton.Run
import Mathlib.Order.Nat

namespace GlowSyntax.Automaton

def Admits (a : Automaton) (c : Char) : Prop := ∃ s, State.take s ∈ a.states ∧ s.contains c = true

variable {a : Automaton} {r r' : Run} {staged : Bool} {p : Place} {c : Char} {cs past : List Char}
  {holds : Look → Bool}

lemma closure_nil : a.closure holds [] = [] := by
  have hfuel : ([] : List Nat).length + 2 * a.states.size + 1 = (0 + 2 * a.states.size) + 1 := rfl
  rw [closure, hfuel, visit]
  · rfl
  · exact Nat.succ_ne_zero _

lemma settle_nil : a.settle staged p [] = [] := by
  cases staged <;> simp [settle, closure_nil]

lemma ne_nil_of_settle {is : List Nat} (h : a.settle staged p is ≠ []) : is ≠ [] := by
  rintro rfl
  exact h settle_nil

lemma ne_nil_of_accepts {is : List Nat} (h : a.accepts is = true) : is ≠ [] := by
  rintro rfl
  cases h

lemma admits_of_advance {is : List Nat} (h : a.advance c is ≠ []) : a.Admits c := by
  induction is with
  | nil => exact absurd rfl h
  | cons i is ih =>
    rw [advance] at h
    split at h
    · exact absurd rfl h
    · next s hs =>
      by_cases hc : s.contains c = true
      · exact ⟨s, Array.mem_of_getElem? hs, hc⟩
      · rw [if_neg hc] at h
        exact ih h
    · exact ih h

lemma ne_nil_of_advance {is : List Nat} (h : a.advance c is ≠ []) : is ≠ [] := by
  rintro rfl
  exact h rfl

structure Run.Takes (a : Automaton) (r : Run) (past : List Char) : Prop where
  length_eq : r.length = past.length
  waiting : r.states ≠ [] → ∀ c ∈ past, a.Admits c
  best : ∀ n, r.best = some n → n ≤ past.length ∧ ∀ c ∈ past.take n, a.Admits c

namespace Run.Takes

lemma start : Run.start.Takes a [] where
  length_eq := rfl
  waiting _ c hc := by cases hc
  best n hn := by cases hn

lemma noting (h : r.Takes a past) {accepted : Bool} (ha : accepted = true → r.states ≠ []) :
    (r.noting accepted).Takes a past := by
  cases accepted with
  | false => exact h
  | true =>
    refine ⟨h.length_eq, h.waiting, ?_⟩
    rintro n ⟨⟩
    exact ⟨h.length_eq.le, fun c hc => h.waiting (ha rfl) c (List.mem_of_mem_take hc)⟩

lemma finish (h : r.Takes a past) : (a.finish staged r).Takes a past :=
  h.noting fun haccepts => ne_nil_of_settle (ne_nil_of_accepts haccepts)

lemma step (h : r.Takes a past) (c : Char) : (a.step staged r c).Takes a (past ++ [c]) := by
  have hnoted : (r.noting (a.accepts (a.settle staged ⟨r.before, some c⟩ r.states))).Takes a past :=
    h.noting fun haccepts => ne_nil_of_settle (ne_nil_of_accepts haccepts)
  refine ⟨?_, ?_, ?_⟩
  · rw [List.length_append, List.length_singleton, ← hnoted.length_eq]
    rfl
  · intro hstates
    have hpast := h.waiting (ne_nil_of_settle (ne_nil_of_advance hstates))
    exact List.forall_mem_append.mpr ⟨hpast, List.forall_mem_singleton.mpr (admits_of_advance hstates)⟩
  · intro n hn
    obtain ⟨hle, hall⟩ := hnoted.best n hn
    rw [List.length_append, List.take_append_of_le_length hle]
    exact ⟨Nat.le_add_right_of_le hle, hall⟩

lemma run (h : r.Takes a past) (hr : a.run? staged r cs = some r') :
    ∀ n, r'.best = some n → ∀ c ∈ (past ++ cs).take n, a.Admits c := by
  induction cs generalizing r past with
  | nil =>
    cases hr
    rw [List.append_nil]
    exact fun n hn => (h.finish.best n hn).2
  | cons c cs ih =>
    rw [run?] at hr
    split at hr
    · cases hr
      intro n hn
      obtain ⟨hle, hall⟩ := h.best n hn
      rwa [List.take_append_of_le_length hle]
    · split at hr
      · cases hr
      · rw [List.append_cons]
        exact ih (h.step c) hr

end Run.Takes

lemma admits_of_prefixOf? {text t : List Char} (h : a.prefixOf? text = some t) : ∀ c ∈ t, a.Admits c := by
  simp only [prefixOf?, Option.orElse_eq_orElse, Option.orElse_eq_or, Option.map_eq_some_iff,
    Option.bind_eq_some_iff] at h
  obtain ⟨n, ⟨r, hr, hbest⟩, rfl⟩ := h
  rcases Option.or_eq_some_iff.mp hr with hr | ⟨_, hr⟩
  · exact Run.Takes.start.run hr n hbest
  · exact Run.Takes.start.run hr n hbest

lemma noting_of_states_nil (hs : r.states = []) :
    r.noting (a.accepts (a.settle staged p r.states)) = r := by
  rw [hs, settle_nil]
  rfl

lemma step_of_states_nil (hs : r.states = []) (c : Char) :
    (a.step staged r c).states = [] ∧ (a.step staged r c).best = r.best := by
  constructor
  · rw [step, hs, settle_nil]
    rfl
  · show (r.noting (a.accepts (a.settle staged ⟨r.before, some c⟩ r.states))).best = r.best
    rw [noting_of_states_nil hs]

lemma run?_of_states_nil (he : a.hasEdge = false) (hs : r.states = []) :
    ∃ r', a.run? staged r cs = some r' ∧ r'.best = r.best := by
  induction cs generalizing r with
  | nil => exact ⟨_, rfl, congrArg Run.best (noting_of_states_nil hs)⟩
  | cons c cs ih =>
    by_cases hover : r.isOver = true
    · exact ⟨r, by rw [run?, if_pos hover], rfl⟩
    · obtain ⟨hstates, hbest⟩ := step_of_states_nil hs c
      obtain ⟨r', hr', hb⟩ := ih hstates
      refine ⟨r', ?_, hb.trans hbest⟩
      rw [run?, if_neg hover, if_neg (by simp [he])]
      exact hr'

end GlowSyntax.Automaton
