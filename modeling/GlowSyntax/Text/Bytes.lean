namespace GlowSyntax.Text

def size : List Char → Nat
  | [] => 0
  | c :: cs => c.utf8Size + size cs

def dropBytes : List Char → Nat → Option (List Char)
  | cs, 0 => some cs
  | [], _ + 1 => none
  | c :: cs, n + 1 => if c.utf8Size ≤ n + 1 then dropBytes cs (n + 1 - c.utf8Size) else none

def rests : List Char → List (Option (List Char))
  | [] => [some []]
  | c :: cs => some (c :: cs) :: (List.replicate (c.utf8Size - 1) none ++ rests cs)

@[simp] theorem size_nil : size [] = 0 := rfl

@[simp] theorem size_cons (c : Char) (cs : List Char) : size (c :: cs) = c.utf8Size + size cs := rfl

@[simp] theorem size_append (xs ys : List Char) : size (xs ++ ys) = size xs + size ys := by
  induction xs with
  | nil => simp
  | cons c cs ih => simp [ih, Nat.add_assoc]

@[simp] theorem dropBytes_zero (cs : List Char) : dropBytes cs 0 = some cs := by
  cases cs <;> rfl

theorem dropBytes_eq_some_iff {cs rest : List Char} {n : Nat} :
    dropBytes cs n = some rest ↔ ∃ taken, cs = taken ++ rest ∧ size taken = n := by
  induction cs generalizing n with
  | nil =>
    cases n with
    | zero => constructor
              · intro h; exact ⟨[], by simpa using h, rfl⟩
              · rintro ⟨taken, h, _⟩; simp_all
    | succ n =>
      refine ⟨fun h => by simp [dropBytes] at h, ?_⟩
      rintro ⟨taken, h, hs⟩
      obtain ⟨rfl, rfl⟩ := List.append_eq_nil_iff.1 h.symm
      simp at hs
  | cons c cs ih =>
    have hc := c.utf8Size_pos
    cases n with
    | zero =>
      constructor
      · intro h; exact ⟨[], by simpa using h, rfl⟩
      · rintro ⟨taken, h, hs⟩
        cases taken with
        | nil => simp_all
        | cons d ds => have := d.utf8Size_pos; simp at hs; omega
    | succ n =>
      simp only [dropBytes]
      split
      · rename_i hle
        rw [ih]
        constructor
        · rintro ⟨taken, rfl, hs⟩
          exact ⟨c :: taken, rfl, by simp [hs]; omega⟩
        · rintro ⟨taken, h, hs⟩
          cases taken with
          | nil => simp at hs
          | cons d ds =>
            obtain ⟨rfl, rfl⟩ := List.cons.inj h
            exact ⟨ds, rfl, by simp at hs; omega⟩
      · rename_i hlt
        refine ⟨fun h => by simp at h, ?_⟩
        rintro ⟨taken, h, hs⟩
        cases taken with
        | nil => simp at hs
        | cons d ds =>
          obtain ⟨rfl, rfl⟩ := List.cons.inj h
          simp at hs; omega

theorem length_rests (cs : List Char) : (rests cs).length = size cs + 1 := by
  induction cs with
  | nil => rfl
  | cons c cs ih =>
    have := c.utf8Size_pos
    simp [rests, ih]
    omega

theorem join_getElem?_rests (cs : List Char) (n : Nat) : (rests cs)[n]?.join = dropBytes cs n := by
  induction cs generalizing n with
  | nil => cases n <;> simp [rests, dropBytes]
  | cons c cs ih =>
    cases n with
    | zero => simp [rests]
    | succ n =>
      have := c.utf8Size_pos
      simp only [rests, List.getElem?_cons_succ, dropBytes]
      by_cases h : c.utf8Size ≤ n + 1
      · rw [List.getElem?_append_right (by simp; omega), ih, if_pos h]
        congr 1
        simp
        omega
      · rw [List.getElem?_append_left (by simp; omega), if_neg h]
        rw [List.getElem?_replicate]
        split <;> rfl

end GlowSyntax.Text
