import GlowSyntax.Proofs.Grammar.LeftRecursion
import GlowSyntax.Proofs.Grammar.Nullable
import GlowSyntax.Proofs.Match.Extent
import GlowSyntax.Proofs.Parse.Outcome

/-!
A grammar that passes its check never reaches a recursion limit that is not below the number of its rules.
Attempts that are nested at one offset follow the edges which the check found to have no cycle: what is
matched between them takes no token, since any token before the end of file moves the offset.
-/

namespace GlowSyntax

open Run

def MatchError.Within : MatchError → Prop
  | .recursionLimit _ _ => False
  | _ => True

/-- How many attempts can be nested from a frame on, itself included. -/
def Frame.room (limit size : Nat) (f : Frame) : Nat := limit * (size - f.offset) + (limit - f.stalled)

structure Admitted (g : Grammar) (limit size n : Nat) (name : String) (f : Frame) : Prop where
  nested : ∃ chain : List String, (name :: chain).IsChain (fun x y => x ∈ g.leads y) ∧ chain.length = f.stalled
  room : f.room limit size ≤ n

inductive Stage (g : Grammar) (sc : Scanner) (r : Rule) (frame : Frame) (items : List Item)
    (s : ScanState) : Prop
  | still : s.offset = frame.offset → (∀ t s', sc.next s = .ok (t, s') → ¬ t.isEnd) →
      Alternative.leading g.nullable items ⊆ g.leads r.name → Stage g sc r frame items s
  | moved : frame.offset < s.offset → s.offset ≤ Text.size sc.source.text → Stage g sc r frame items s

variable {g : Grammar} {limit size n : Nat} {name : String} {f : Frame}

lemma Frame.room_enter_same (h : f.stalled < limit) :
    (enter (some f) f.offset).room limit size < f.room limit size := by
  simp only [enter, room, if_pos]
  omega

lemma Frame.room_enter_later {offset : Nat} (h : f.stalled < limit) (hlt : f.offset < offset)
    (hsize : offset ≤ size) : (enter (some f) offset).room limit size < f.room limit size := by
  have hmul : limit * (size - offset) + limit ≤ limit * (size - f.offset) := by
    rw [← Nat.mul_succ]
    exact Nat.mul_le_mul_left limit (by omega)
  simp only [enter, room, if_neg hlt.ne]
  omega

lemma Admitted.stalled_lt (h : Admitted g limit size n name f) (hv : g.validate = .ok ()) (hpos : 1 ≤ limit)
    (hsize : g.size ≤ limit) : f.stalled < limit := by
  obtain ⟨chain, hchain, hlen⟩ := h.nested
  cases chain with
  | nil => exact hlen ▸ hpos
  | cons y chain =>
    have hle := Grammar.length_le_of_isChain hv hchain
    simp only [List.length_cons] at hlen hle
    omega

namespace Stage

variable {source : SourceFile} {r : Rule} {items : List Item} {s s' : ScanState} {label : Option String}

lemma advance {ts : List Token} (h : Stage g (.glow source) r f items s)
    (hy : (Scanner.glow source).Yields s ts s') (hts : ts ≠ []) :
    f.offset < s'.offset ∧ s'.offset ≤ Text.size source.text := by
  cases hy with
  | nil => exact absurd rfl hts
  | cons hn hy =>
    have hlater : f.offset < s'.offset := by
      cases h with
      | still hs hend _ => exact hs ▸ (Scanner.next_advances hn (hend _ _ hn)).trans_le hy.offset_le
      | moved hs _ => exact hs.trans_le ((Scanner.next_bounds hn).1.trans hy.offset_le)
    exact ⟨hlater, hy.offset_le_size (Scanner.next_bounds hn).2⟩

lemma token {k : Kind} {t : Token} (h : Stage g (.glow source) r f (⟨.token k, label⟩ :: items) s)
    (hn : (Scanner.glow source).next s = .ok (t, s')) : Stage g (.glow source) r f items s' := by
  obtain ⟨hlt, hle⟩ := h.advance (.single hn) (by simp)
  exact .moved hlt hle

lemma rule {sub : Tree} (h : Stage g (.glow source) r f (⟨.rule name, label⟩ :: items) s)
    (hfit : Forest.Fits g [.rule name] sub.forest) (hy : (Scanner.glow source).Yields s sub.parts.tokens s') :
    Stage g (.glow source) r f items s' := by
  by_cases hts : sub.parts.tokens = []
  · -- A rule that matched no token is nullable, so what stands behind it leads as well.
    have hnull : (Alternative.isNullable g.nullable [.rule name]) = true := by
      refine hfit.derives.isNullable ?_
      simp [Tree.forest, Forest.tokens, hts]
    obtain ⟨⟨_, hmem, hname⟩, -⟩ := Alternative.isNullable_cons.mp hnull
    cases hname
    rw [hts] at hy
    cases hy
    cases h with
    | still hs hend hlead =>
      refine .still hs hend fun x hx => hlead ?_
      simp [Alternative.leading, hmem, hx]
    | moved hlt hle => exact .moved hlt hle
  · obtain ⟨hlt, hle⟩ := h.advance hy hts
    exact .moved hlt hle

lemma admitted (h : Stage g (.glow source) r f (⟨.rule name, label⟩ :: items) s)
    (hr : Admitted g limit (Text.size source.text) (n + 1) r.name f) (hlt : f.stalled < limit) :
    Admitted g limit (Text.size source.text) n name (.enter (some f) s.offset) := by
  cases h with
  | still hs _ hlead =>
    obtain ⟨chain, hchain, hlen⟩ := hr.nested
    refine ⟨⟨r.name :: chain, ?_, ?_⟩, ?_⟩
    · exact List.isChain_cons_cons.mpr ⟨hlead (by simp [Alternative.leading]), hchain⟩
    · simp [Frame.enter, hs, hlen]
    · have hroom := (Frame.room_enter_same hlt).trans_le hr.room
      rw [hs]
      exact Nat.lt_succ_iff.mp hroom
  | moved hs hle =>
    refine ⟨⟨[], .singleton _, ?_⟩, ?_⟩
    · simp [Frame.enter, hs.ne]
    · have hroom := (Frame.room_enter_later hlt hs hle).trans_le hr.room
      exact Nat.lt_succ_iff.mp hroom

end Stage

variable {source : SourceFile}

lemma matchItems_within {call : Attempt} {r : Rule} {items : List Item} {s : ScanState} {depth : Nat}
    (hcall : ∀ name s depth, Admitted g limit (Text.size source.text) n name (.enter (some f) s.offset) →
      Ensures (call name s depth (some f)) (fun _ => True) MatchError.Within
        fun found => True ∧ MatchesRule g (.glow source) name s depth found)
    (hr : Admitted g limit (Text.size source.text) (n + 1) r.name f) (hlt : f.stalled < limit)
    (hs : Stage g (.glow source) r f items s) :
    Ensures (matchItems (.glow source) call r.name f items s depth) (fun _ => True) MatchError.Within
      fun _ => True := by
  induction items generalizing s depth with
  | nil => exact matchItems_nil_ensures trivial
  | cons item items ih =>
    obtain ⟨symbol, label⟩ := item
    cases symbol with
    | token k =>
      refine matchItems_token_ensures (fun _ _ => trivial) (fun _ _ _ _ => ⟨trivial, trivial⟩) ?_
      intro t s' hn _
      exact ih (hs.token hn)
    | rule name =>
      refine matchItems_rule_ensures (hcall name s depth (hs.admitted hr hlt)) (fun _ => trivial) ?_
      rintro sub ⟨-, hfit, ha⟩
      exact ih (hs.rule hfit ha.yields)

lemma matchNested_within (hv : g.validate = .ok ()) (hpos : 1 ≤ limit) (hsize : g.size ≤ limit) (n : Nat)
    (name : String) (s : ScanState) (depth : Nat) (parent : Option Frame)
    (h : Admitted g limit (Text.size source.text) n name (.enter parent s.offset)) :
    Ensures (matchNested g limit (.glow source) n name s depth parent) (fun _ => True) MatchError.Within
      fun _ => True := by
  have hlt := h.stalled_lt hv hpos hsize
  induction n generalizing name s depth parent with
  | zero =>
    have hroom := h.room
    rw [Frame.room] at hroom
    omega
  | succ n ih =>
    refine matchRule_errors (fun hle => absurd hlt (not_lt.mpr hle)) (fun _ => trivial) (fun _ _ => trivial) ?_
    intro r t s' a _ hf hn ht ha
    obtain ⟨hr, rfl⟩ := Grammar.find?_eq_some hf
    refine matchItems_within ?_ h hlt ?_
    · intro name s' depth hadm
      have hwithin := ih name s' depth _ hadm (hadm.stalled_lt hv hpos hsize)
      exact hwithin.and_result (matchNested_extent n name s' depth _)
    · refine .still (Frame.enter_offset parent s.offset).symm ?_ ?_
      · intro t' s' hn'
        rw [hn] at hn'
        cases hn'
        exact ht
      · intro x hx
        rw [Grammar.leads, hf]
        exact List.mem_flatMap.mpr ⟨a, ha, hx⟩

lemma admitted_nesting {s : ScanState} : Admitted g limit (Text.size source.text)
    (nesting limit (.glow source)) name (.enter none s.offset) := by
  refine ⟨⟨[], .singleton _, rfl⟩, ?_⟩
  have hmul : limit * (Text.size source.text - s.offset) ≤ limit * Text.size source.text :=
    Nat.mul_le_mul_left limit (Nat.sub_le ..)
  simp only [Frame.room, Frame.enter, nesting, Scanner.glow, Nat.mul_succ]
  omega

lemma attemptRule_within (hv : g.validate = .ok ()) (hpos : 1 ≤ limit) (hsize : g.size ≤ limit) (name : String)
    (s : ScanState) (depth : Nat) :
    Ensures (attemptRule g limit (.glow source) name s depth) (fun _ => True) MatchError.Within fun _ => True :=
  matchNested_within hv hpos hsize _ name s depth none admitted_nesting

theorem recursionLimit_unreached {p : Parser} (hpos : 1 ≤ p.options.maxRecursion)
    (hsize : p.grammar.size ≤ p.options.maxRecursion) (source : SourceFile) (start : String) (s : ScanState)
    (depth : Nat) :
    (∀ r n, (attemptRule p.grammar p.options.maxRecursion (.glow source) start s depth).result ≠
      .error (.recursionLimit r n)) ∧
    ∀ r n, (p.parseFrom (.glow source) s start).result ≠ .error (.recursionLimit r n) := by
  constructor
  · intro r n hr
    exact (attemptRule_within p.valid hpos hsize start s depth).error _ hr
  · intro r n hr
    have ho := p.outcome_parseFrom (.glow source) s start
    generalize (p.parseFrom (.glow source) s start).result = out at ho hr
    cases ho with
    | @ended e he =>
      cases e with
      | recursionLimit r' n' => exact (attemptRule_within p.valid hpos hsize start s 0).error _ he
      | scan _ => cases hr
      | grammar _ => cases hr
    | _ => cases hr

def nestedRules : Grammar := .ofRules [⟨"a", [[.rule "b"]]⟩, ⟨"b", [[.rule "c"]]⟩, ⟨"c", [[.token .identifier]]⟩]

def nestedParser : Parser := ⟨nestedRules, ⟨3, true⟩, rfl⟩

def nestedSource : SourceFile := .ofText "nested" " x"

theorem recursionLimit_unreached_nested :
    (nestedParser.parse nestedSource "a").result.toOption.isSome = true ∧
    (∀ r n, (nestedParser.parse nestedSource "a").result ≠ .error (.recursionLimit r n)) ∧
    ((nestedParser.withOptions ⟨2, true⟩).parse nestedSource "a").result.toOption.isNone = true :=
  ⟨by decide +kernel, (recursionLimit_unreached (by decide) (by decide) nestedSource "a" .start 0).2,
    by decide +kernel⟩

end GlowSyntax
