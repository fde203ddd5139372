import GlowSyntax.Proofs.Automaton.Taken
import Mathlib.Data.Nat.Bitwise

/-!
Automata whose runs wait in one state at a time: what they match is found by following the states one
after the other. It does not matter whether the run is staged; a staged run that gives up is taken up
again by one that is not.
-/

namespace GlowSyntax.Automaton

open State

/-- If a run comes to its end, this is the length of the match that counts. -/
def Finds (a : Automaton) (staged : Bool) (r : Run) (cs : List Char) (best : Option Nat) : Prop :=
  ∀ r', a.run? staged r cs = some r' → r'.best = best

variable {a : Automaton} {staged : Bool} {r : Run} {p : Place} {i j e n : Nat} {c : Char} {cs : List Char}
  {s : CharSet} {l : Look} {st : State} {holds : Look → Bool} {before : Option Char} {best : Option Nat}

lemma exists_run? : ∃ r', a.run? false r cs = some r' := by
  induction cs generalizing r with
  | nil => exact ⟨_, rfl⟩
  | cons c cs ih =>
    rw [run?]
    split
    · exact ⟨r, rfl⟩
    · exact ih

lemma prefixOf?_of_finds {text : List Char} (h : ∀ staged, a.Finds staged .start text best) :
    a.prefixOf? text = best.map text.take := by
  obtain ⟨r, hr⟩ : ∃ r, a.run? false .start text = some r := exists_run?
  cases hstaged : a.run? true .start text with
  | none => simp [prefixOf?, hstaged, hr, h false r hr]
  | some r' => simp [prefixOf?, hstaged, h true r' hstaged]

namespace Finds

lemma of_states_nil (hs : r.states = []) : a.Finds staged r cs r.best := by
  induction cs generalizing r with
  | nil =>
    rintro r' ⟨⟩
    exact congrArg Run.best (noting_of_states_nil hs)
  | cons c cs ih =>
    intro r' hr'
    rw [run?] at hr'
    split at hr'
    · cases hr'
      rfl
    · split at hr'
      · cases hr'
      · obtain ⟨hstates, hbest⟩ : (a.step staged r c).states = [] ∧ (a.step staged r c).best = r.best :=
          step_of_states_nil hs c
        rw [← hbest]
        exact ih hstates r' hr'

lemma nil (h : (a.finish staged r).best = best) : a.Finds staged r [] best := by
  rintro r' ⟨⟩
  exact h

lemma cons (hr : r.states ≠ []) (h : a.Finds staged (a.step staged r c) cs best) :
    a.Finds staged r (c :: cs) best := by
  intro r' hr'
  have hover : ¬ r.isOver = true := by simp [Run.isOver, hr]
  rw [run?, if_neg hover] at hr'
  split at hr'
  · cases hr'
  · exact h r' hr'

end Finds

section Settle

def State.Waits : State → Prop
  | take _ | accept => True
  | _ => False

lemma closure_waits (hi : a.states[i]? = some st) (hst : st.Waits) : a.closure holds [i] = [i] := by
  rw [closure, List.length_singleton, Nat.add_comm 1, visit]
  · cases st with
    | take s => simp [hi, visit]
    | accept => simp [hi, visit]
    | _ => exact hst.elim

lemma closure_look (hi : a.states[i]? = some (look l)) (hj : a.states[i + 1]? = some st) (hst : st.Waits) :
    a.closure holds [i] = if holds l then [i, i + 1] else [i] := by
  obtain ⟨m, hm⟩ : ∃ m, a.states.size = m + 1 :=
    Nat.exists_eq_add_one_of_ne_zero (Nat.ne_zero_of_lt (Array.getElem?_eq_some_iff.mp hi).1)
  have hfuel : [i].length + 2 * a.states.size + 1 = (2 * m + 1) + 1 + 1 + 1 := by
    rw [hm, List.length_singleton]
    omega
  have hfresh : (1 <<< i).testBit (i + 1) = false := by simp [Nat.shiftLeft_eq]
  rw [closure, hfuel, visit]
  · simp only [Nat.zero_testBit, Bool.false_eq_true, if_false, hi, Nat.zero_or]
    by_cases hl : holds l = true
    · rw [if_pos hl, if_pos hl, visit]
      · rw [hfresh]
        cases st with
        | take s => simp [hj, visit]
        | accept => simp [hj, visit]
        | _ => exact hst.elim
    · simp [hl, visit]

lemma settle_waits (hi : a.states[i]? = some st) (hst : st.Waits) : a.settle staged p [i] = [i] := by
  cases staged with
  | false => exact closure_waits hi hst
  | true =>
    have hopens : a.opens p i = false := by cases st <;> simp_all [opens, State.Waits]
    simp [settle, closure_waits hi hst, hopens]

lemma settle_look (hi : a.states[i]? = some (look l)) (hj : a.states[i + 1]? = some st) (hst : st.Waits) :
    a.settle staged p [i] = if l.holds p then [i, i + 1] else [i] := by
  cases staged with
  | false => exact closure_look hi hj hst
  | true =>
    have hopens : a.opens p (i + 1) = false := by cases st <;> simp_all [opens, State.Waits]
    have hlook : a.opens p i = (l != .atStart && l.holds p) := by simp [opens, hi]
    by_cases hl : l = .atStart
    · subst hl
      simp only [settle, closure_look hi hj hst]
      by_cases hp : Look.holds p .atStart = true <;> simp [hp, hopens, hlook]
    · have hfirst : (l == Look.atStart) = false := by simpa using hl
      simp only [settle, closure_look hi hj hst]
      by_cases hp : l.holds p = true
      · simp [hp, hlook, hfirst, bne, closure_look hi hj hst]
      · simp [hp, hlook, hfirst]

end Settle

section Start

variable (h₀ : a.states[0]? = some (look .atStart)) (h₁ : a.states[1]? = some (take s))
include h₀ h₁

lemma settle_start (hp : p.before = none) : a.settle staged p [0] = [0, 1] := by
  rw [settle_look h₀ h₁ trivial]
  simp [Look.holds, hp]

lemma accepts_start : a.accepts [0, 1] = false := by simp [accepts, h₀, h₁]

lemma advance_start (c : Char) : a.advance c [0, 1] = if s.contains c then [2] else [] := by
  simp [advance, h₀, h₁]

lemma step_start (c : Char) : a.step staged .start c = ⟨some c, 1, none, if s.contains c then [2] else []⟩ := by
  simp only [step, Run.start, settle_start h₀ h₁, accepts_start h₀ h₁, advance_start h₀ h₁]
  rfl

lemma finds_start_nil : a.Finds staged .start [] none := by
  apply Finds.nil
  rw [finish, Run.start, settle_start h₀ h₁ rfl, accepts_start h₀ h₁]
  rfl

lemma finds_start_cons (h : s.contains c = true → a.Finds staged ⟨some c, 1, none, [2]⟩ cs best) :
    a.Finds staged .start (c :: cs) (if s.contains c then best else none) := by
  refine Finds.cons (by simp [Run.start]) ?_
  rw [step_start h₀ h₁]
  split
  · next hc => exact h hc
  · exact Finds.of_states_nil rfl

lemma opens_of_prefixOf? {text t : List Char} (h : a.prefixOf? text = some t) :
    ∃ c cs, text = c :: cs ∧ s.contains c = true := by
  cases text with
  | nil =>
    rw [prefixOf?_of_finds fun _ => finds_start_nil h₀ h₁] at h
    cases h
  | cons c cs =>
    refine ⟨c, cs, rfl, ?_⟩
    by_contra hc
    have hfinds (staged : Bool) : a.Finds staged .start (c :: cs) (if s.contains c then none else none) :=
      finds_start_cons h₀ h₁ fun h => absurd h hc
    rw [prefixOf?_of_finds hfinds, if_neg hc] at h
    cases h

end Start

lemma finds_loop {is : List Nat} (hsettle : ∀ i ∈ is, ∀ p, a.settle staged p [i] = [j, e])
    (hj : a.states[j]? = some (take s)) (he : a.states[e]? = some accept) (hmore : j + 1 ∈ is) (hi : i ∈ is) :
    a.Finds staged ⟨before, n, best, [i]⟩ cs (some (n + (cs.takeWhile s.contains).length)) := by
  have haccepts : a.accepts [j, e] = true := by simp [accepts, he]
  -- Before each character the match so far can end, and each member of the set brings the run back to where it was.
  induction cs generalizing before n best i with
  | nil =>
    apply Finds.nil
    rw [finish, hsettle i hi, haccepts]
    rfl
  | cons c cs ih =>
    refine Finds.cons (by simp) ?_
    have hstep : a.step staged ⟨before, n, best, [i]⟩ c =
        ⟨some c, n + 1, some n, if s.contains c then [j + 1] else []⟩ := by
      have hadvance : a.advance c [j, e] = if s.contains c then [j + 1] else [] := by
        simp [advance, hj, he]
      simp only [step, hsettle i hi, haccepts, hadvance]
      rfl
    rw [hstep]
    by_cases hc : s.contains c = true
    · have hlength : n + ((cs.takeWhile s.contains).length + 1) = n + 1 + (cs.takeWhile s.contains).length := by
        omega
      rw [if_pos hc, List.takeWhile_cons_of_pos hc, List.length_cons, hlength]
      exact ih hmore
    · rw [if_neg hc, List.takeWhile_cons_of_neg hc]
      exact Finds.of_states_nil rfl

lemma loop_prefixOf? {s' : CharSet} {is : List Nat} (h₀ : a.states[0]? = some (look .atStart))
    (h₁ : a.states[1]? = some (take s)) (hsettle : ∀ staged, ∀ i ∈ is, ∀ p, a.settle staged p [i] = [j, e])
    (hj : a.states[j]? = some (take s')) (he : a.states[e]? = some accept) (hmore : j + 1 ∈ is) (hi : 2 ∈ is)
    (hsub : ∀ c, s.contains c = true → s'.contains c = true) :
    a.prefixOf? (c :: cs) = if s.contains c then some ((c :: cs).takeWhile s'.contains) else none := by
  have htake : (c :: cs).take (1 + (cs.takeWhile s'.contains).length) = c :: cs.takeWhile s'.contains := by
    rw [Nat.add_comm 1, List.take_succ_cons, ← List.prefix_iff_eq_take.mp (List.takeWhile_prefix _)]
  rw [prefixOf?_of_finds fun staged =>
    finds_start_cons h₀ h₁ fun _ => finds_loop (hsettle staged) hj he hmore hi]
  split
  · next hc => rw [List.takeWhile_cons_of_pos (hsub c hc), ← htake, Option.map_some]
  · rfl

lemma finds_accept (hi : a.states[i]? = some accept) : a.Finds staged ⟨before, n, best, [i]⟩ cs (some n) := by
  have hsettle (p : Place) : a.settle staged p [i] = [i] := settle_waits hi trivial
  have haccepts : a.accepts [i] = true := by simp [accepts, hi]
  cases cs with
  | nil =>
    apply Finds.nil
    rw [finish, hsettle, haccepts]
    rfl
  | cons c cs =>
    refine Finds.cons (by simp) ?_
    have hstep : a.step staged ⟨before, n, best, [i]⟩ c = ⟨some c, n + 1, some n, []⟩ := by
      have hadvance : a.advance c [i] = [] := by simp [advance, hi]
      simp only [step, hsettle, haccepts, hadvance]
      rfl
    rw [hstep]
    exact Finds.of_states_nil rfl

lemma single_prefixOf? (h₀ : a.states[0]? = some (look .atStart)) (h₁ : a.states[1]? = some (take s))
    (h₂ : a.states[2]? = some accept) : a.prefixOf? (c :: cs) = if s.contains c then some [c] else none := by
  rw [prefixOf?_of_finds fun _ => finds_start_cons h₀ h₁ fun _ => finds_accept h₂]
  split <;> rfl

section Edge

lemma edge_holds {o : Option Char} (hb : before.any Unicode.isWord = true) :
    Look.holds ⟨before, o⟩ .atEdge = !o.any Unicode.isWord := by
  simp [Look.holds, hb]

variable (hi : a.states[i]? = some (look .atEdge)) (he : a.states[i + 1]? = some accept)
include hi he

lemma advance_edge : a.advance c (a.settle staged p [i]) = [] := by
  rw [settle_look hi he trivial]
  split <;> simp [advance, hi, he]

variable (hb : before.any Unicode.isWord = true)
include hb

lemma accepts_edge (o : Option Char) :
    a.accepts (a.settle staged ⟨before, o⟩ [i]) = !o.any Unicode.isWord := by
  rw [settle_look hi he trivial, edge_holds hb]
  cases o.any Unicode.isWord <;> simp [accepts, hi, he]

lemma finds_edge :
    a.Finds staged ⟨before, n, none, [i]⟩ cs (if cs.head?.any Unicode.isWord then none else some n) := by
  cases cs with
  | nil =>
    apply Finds.nil
    rw [finish, accepts_edge hi he hb]
    rfl
  | cons c cs =>
    refine Finds.cons (by simp) ?_
    have hstep : a.step staged ⟨before, n, none, [i]⟩ c =
        ⟨some c, n + 1, if Unicode.isWord c then none else some n, []⟩ := by
      simp only [step, advance_edge hi he, accepts_edge hi he hb]
      cases hc : Unicode.isWord c <;> simp [hc, Run.noting]
    rw [hstep]
    exact Finds.of_states_nil rfl

end Edge

section Word

lemma contains_single {d : Char} : (CharSet.single d).contains c = true ↔ c = d := by
  simp only [CharSet.contains, CharSet.single, CharSet.range, Unicode.Table.contains, List.any_cons, List.any_nil,
    Bool.or_false, Bool.and_eq_true, decide_eq_true_eq]
  rw [← Char.toNat_inj]
  omega

def ofWord (w : List Char) : Automaton :=
  ⟨(look .atStart :: (w.map (take <| .single ·) ++ [look .atEdge, accept])).toArray⟩

def standsAlone : List Char → List Char → Bool
  | [], text => !text.head?.any Unicode.isWord
  | _ :: _, [] => false
  | d :: w, c :: text => decide (c = d) && standsAlone w text

lemma standsAlone_iff {w text : List Char} :
    standsAlone w text = true ↔ ∃ after, text = w ++ after ∧ after.head?.any Unicode.isWord = false := by
  induction w generalizing text with
  | nil => simp [standsAlone]
  | cons d w ih =>
    cases text with
    | nil => simp [standsAlone]
    | cons c text => simp [standsAlone, ih, and_assoc]

lemma finds_word {w : List Char} (hw : ∀ c ∈ w, Unicode.isWord c = true)
    (hstates : a.states.toList.drop i = w.map (take <| .single ·) ++ [look .atEdge, accept])
    (hb : w = [] → before.any Unicode.isWord = true) :
    a.Finds staged ⟨before, n, none, [i]⟩ cs (if standsAlone w cs then some (n + w.length) else none) := by
  induction w generalizing i n before cs with
  | nil =>
    have hget (k : Nat) : a.states[i + k]? = [look .atEdge, accept][k]? := by
      rw [← Array.getElem?_toList, ← List.getElem?_drop, hstates]
      rfl
    have hedge : a.Finds staged ⟨before, n, none, [i]⟩ cs _ := finds_edge (hget 0) (hget 1) (hb rfl)
    cases hc : cs.head?.any Unicode.isWord <;> simpa [standsAlone, hc] using hedge
  | cons d w ih =>
    obtain ⟨hd, hrest⟩ := List.forall_mem_cons.mp hw
    have hi : a.states[i]? = some (take (.single d)) := by
      rw [← Array.getElem?_toList, ← Nat.add_zero i, ← List.getElem?_drop, hstates]
      rfl
    have htail : a.states.toList.drop (i + 1) = w.map (take <| .single ·) ++ [look .atEdge, accept] := by
      rw [← List.drop_drop, hstates]
      rfl
    have hsettle (p : Place) : a.settle staged p [i] = [i] := settle_waits hi trivial
    have haccepts : a.accepts [i] = false := by simp [accepts, hi]
    cases cs with
    | nil =>
      apply Finds.nil
      rw [finish, hsettle, haccepts]
      rfl
    | cons c cs =>
      refine Finds.cons (by simp) ?_
      have hstep : a.step staged ⟨before, n, none, [i]⟩ c =
          ⟨some c, n + 1, none, if c = d then [i + 1] else []⟩ := by
        have hadvance : a.advance c [i] = if c = d then [i + 1] else [] := by
          simp [advance, hi, contains_single]
        simp only [step, hsettle, haccepts, hadvance]
        rfl
      have hlength : n + (d :: w).length = n + 1 + w.length := by
        rw [List.length_cons]
        omega
      rw [hstep, hlength]
      by_cases hc : c = d
      · subst hc
        have hword : a.Finds staged ⟨some c, n + 1, none, [i + 1]⟩ cs _ := ih hrest htail fun _ => hd
        simpa [standsAlone] using hword
      · simpa [standsAlone, hc] using Finds.of_states_nil rfl

lemma ofWord_prefixOf? {d : Char} {w text : List Char} (hw : ∀ c ∈ d :: w, Unicode.isWord c = true) :
    (ofWord (d :: w)).prefixOf? text = if standsAlone (d :: w) text then some (d :: w) else none := by
  have h₀ : (ofWord (d :: w)).states[0]? = some (look .atStart) := rfl
  have h₁ : (ofWord (d :: w)).states[1]? = some (take (.single d)) := rfl
  obtain ⟨hd, hrest⟩ := List.forall_mem_cons.mp hw
  cases text with
  | nil =>
    rw [prefixOf?_of_finds fun _ => finds_start_nil h₀ h₁]
    rfl
  | cons c cs =>
    have hfinds (staged : Bool) : (ofWord (d :: w)).Finds staged .start (c :: cs)
        (if (CharSet.single d).contains c then if standsAlone w cs then some (1 + w.length) else none else none) := by
      apply finds_start_cons h₀ h₁
      intro hc
      obtain rfl := contains_single.mp hc
      exact finds_word hrest rfl fun _ => hd
    rw [prefixOf?_of_finds hfinds]
    by_cases hc : c = d
    · subst hc
      rw [if_pos (contains_single.mpr rfl)]
      by_cases hw : standsAlone w cs = true
      · obtain ⟨after, rfl, _⟩ := standsAlone_iff.mp hw
        simp [standsAlone, hw, Nat.add_comm 1]
      · simp [standsAlone, hw]
    · simp [standsAlone, hc, contains_single]

end Word

end GlowSyntax.Automaton
