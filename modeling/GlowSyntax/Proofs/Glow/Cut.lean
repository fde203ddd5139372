import GlowSyntax.Proofs.Glow.Language

namespace GlowSyntax

instance (k : Kind) : Decidable k.IsOperator := inferInstanceAs (Decidable (_ ∨ _ ∨ _ ∨ _))

def Kind.openAfter (k : Kind) (n : Nat) : Nat :=
  match k with
  | .parenOpen => n + 1
  | .parenClose => n - 1
  | _ => n

/-- The tokens in front of the first operator outside parentheses, and each such operator with the tokens from it to
the next one; `n` parentheses are open to begin with. -/
def cutAtOperators : Nat → List Token → List Token × List (Token × List Token)
  | _, [] => ([], [])
  | n, t :: ts =>
    if n = 0 ∧ t.kind.IsOperator then ([], (t, (cutAtOperators 0 ts).1) :: (cutAtOperators 0 ts).2)
    else (t :: (cutAtOperators (t.kind.openAfter n) ts).1, (cutAtOperators (t.kind.openAfter n) ts).2)

def joined (ops : List (Token × List Token)) : List Token := ops.flatMap fun p => p.1 :: p.2

@[simp] lemma joined_nil : joined [] = [] := rfl

@[simp] lemma joined_cons (o : Token) (ts : List Token) (ops : List (Token × List Token)) :
    joined ((o, ts) :: ops) = o :: (ts ++ joined ops) := rfl

def openBehind : Nat → List Kind → Option Nat
  | n, [] => some n
  | n, k :: w => if n = 0 ∧ k.IsOperator then none else openBehind (k.openAfter n) w

lemma openBehind_append (n : Nat) (u v : List Kind) :
    openBehind n (u ++ v) = (openBehind n u).bind fun m => openBehind m v := by
  induction u generalizing n with
  | nil => rfl
  | cons k u ih =>
    simp only [List.cons_append, openBehind]
    split
    · rfl
    · exact ih _

lemma openBehind_cons {n : Nat} {k : Kind} (h : n ≠ 0 ∨ ¬ k.IsOperator) (w : List Kind) :
    openBehind n (k :: w) = openBehind (k.openAfter n) w := by
  rw [openBehind, if_neg]
  rintro ⟨hn, hk⟩
  exact h.elim (· hn) (· hk)

lemma Sentence.openBehind_eq {p : Phrase} {w : List Kind} (h : Sentence p w) :
    ∀ n, n ≠ 0 ∨ p = .chars ∨ p = .factor → openBehind n w = some n := by
  induction h with
  | noChars | noOperations => exact fun _ _ => rfl
  | moreChars hk _ ih =>
    intro n _
    rcases hk with rfl | rfl
    all_goals
      rw [openBehind_cons (Or.inr (by decide))]
      exact ih n (Or.inr (Or.inl rfl))
  | name | integer =>
    intro n _
    rw [openBehind_cons (Or.inr (by decide))]
    rfl
  | string _ ih =>
    intro n _
    have hquote : Kind.quote.openAfter n = n := rfl
    rw [List.cons_append, openBehind_cons (Or.inr (by decide)), hquote, openBehind_append,
      ih n (Or.inr (Or.inl rfl)), Option.bind_some, openBehind_cons (Or.inr (by decide))]
    rfl
  | paren _ ih =>
    intro n _
    have hopen : Kind.parenOpen.openAfter n = n + 1 := rfl
    rw [List.cons_append, openBehind_cons (Or.inr (by decide)), hopen, openBehind_append,
      ih (n + 1) (Or.inl (Nat.succ_ne_zero n)), Option.bind_some, openBehind_cons (Or.inr (by decide))]
    rfl
  | @moreOperations k u v hk _ _ ihu ihv =>
    intro n hn
    have hn : n ≠ 0 := by simpa using hn
    have hopen : k.openAfter n = n := by rcases hk with rfl | rfl | rfl | rfl <;> rfl
    rw [List.cons_append, openBehind_cons (Or.inl hn), hopen, openBehind_append, ihu n (Or.inl hn),
      Option.bind_some, ihv n (Or.inl hn)]
  | expr _ _ ihu ihv =>
    intro n hn
    have hn : n ≠ 0 := by simpa using hn
    rw [openBehind_append, ihu n (Or.inl hn), Option.bind_some, ihv n (Or.inl hn)]
  | declaration hk _ ih =>
    intro n hn
    have hn : n ≠ 0 := by simpa using hn
    rcases hk with rfl | rfl
    all_goals
      simp only [List.cons_append, openBehind_cons (Or.inl hn), Kind.openAfter]
      rw [openBehind_append, ih n (Or.inl hn), Option.bind_some, openBehind_cons (Or.inl hn)]
      rfl
  | lastDeclaration _ ih =>
    intro n hn
    exact ih n (Or.inl (by simpa using hn))
  | moreDeclarations _ _ ihu ihv =>
    intro n hn
    have hn : n ≠ 0 := by simpa using hn
    rw [openBehind_append, ihu n (Or.inl hn), Option.bind_some, ihv n (Or.inl hn)]

lemma cutAtOperators_append {n m : Nat} {ts : List Token} (h : openBehind n (ts.map Token.kind) = some m)
    (rest : List Token) : cutAtOperators n (ts ++ rest) =
      (ts ++ (cutAtOperators m rest).1, (cutAtOperators m rest).2) := by
  induction ts generalizing n with
  | nil =>
    cases h
    rfl
  | cons t ts ih =>
    rw [List.map_cons, openBehind] at h
    split at h
    · cases h
    · next hno =>
      rw [List.cons_append, cutAtOperators, if_neg hno, ih h]
      rfl

def IsFactor (ts : List Token) : Prop := Sentence .factor (ts.map Token.kind)

lemma IsFactor.cut_append {ts : List Token} (h : IsFactor ts) (rest : List Token) :
    cutAtOperators 0 (ts ++ rest) = (ts ++ (cutAtOperators 0 rest).1, (cutAtOperators 0 rest).2) :=
  cutAtOperators_append (h.openBehind_eq 0 (Or.inr (Or.inr rfl))) rest

def Operations (ops : List (Token × List Token)) : Prop := ∀ p ∈ ops, p.1.kind.IsOperator ∧ IsFactor p.2

lemma Operations.cons {o : Token} {ts : List Token} {ops : List (Token × List Token)} (ho : o.kind.IsOperator)
    (hts : IsFactor ts) (h : Operations ops) : Operations ((o, ts) :: ops) :=
  List.forall_mem_cons.mpr ⟨⟨ho, hts⟩, h⟩

lemma Operations.cut_joined {ops : List (Token × List Token)} (h : Operations ops) :
    cutAtOperators 0 (joined ops) = ([], ops) := by
  induction ops with
  | nil => rfl
  | cons p ops ih =>
    obtain ⟨o, ts⟩ := p
    obtain ⟨⟨ho, hts⟩, hops⟩ := List.forall_mem_cons.mp h
    rw [joined_cons, cutAtOperators, if_pos ⟨rfl, ho⟩, hts.cut_append, ih hops, List.append_nil]

lemma cut_expression {ts : List Token} {ops : List (Token × List Token)} (hts : IsFactor ts) (h : Operations ops) :
    cutAtOperators 0 (ts ++ joined ops) = (ts, ops) := by
  rw [hts.cut_append, h.cut_joined, List.append_nil]

end GlowSyntax
