import MediaPlane.Number.Decimal

/-
  Whole numbers of 64 bits without a minus sign, read from text: decimal digits after an optional
  plus. What does not fit is refused.
-/

namespace MediaPlane

def maxWord : Nat := UInt64.size - 1

/-- The digits of a number after its optional plus. -/
def afterPlus : List Char → List Char
  | '+' :: rest => rest
  | cs => cs

theorem afterPlus_of_digits {ds : List Char} (h : ∀ c ∈ ds, c.isDigit = true) :
    afterPlus ds = ds := by
  unfold afterPlus
  split
  · have hplus := h '+' List.mem_cons_self
    simp at hplus
  · rfl

/-- Reads a whole number that fits 64 bits. -/
def readWord? (cs : List Char) : Option Nat :=
  let ds := afterPlus cs
  if ds.isEmpty || !ds.all Char.isDigit then none
  else if maxWord < digitsValue ds then none
  else some (digitsValue ds)

theorem readWord?_eq_some_iff {cs : List Char} {n : Nat} :
    readWord? cs = some n ↔
      afterPlus cs ≠ [] ∧ (∀ c ∈ afterPlus cs, c.isDigit = true) ∧
        digitsValue (afterPlus cs) = n ∧ n ≤ maxWord := by
  simp only [readWord?]
  split
  · next h =>
    simp only [Bool.or_eq_true, List.isEmpty_iff, Bool.not_eq_true', List.all_eq_false] at h
    constructor
    · intro h'; cases h'
    · rintro ⟨h1, h2, -⟩
      rcases h with h | ⟨c, hc, hd⟩
      · exact absurd h h1
      · exact absurd (h2 c hc) hd
  · next h =>
    simp only [Bool.or_eq_true, List.isEmpty_iff, Bool.not_eq_true', List.all_eq_false, not_or,
      not_exists, not_and] at h
    split
    · next hm =>
      constructor
      · intro h'; cases h'
      · rintro ⟨-, -, rfl, hn⟩; omega
    · next hm =>
      simp only [Option.some.injEq]
      constructor
      · rintro rfl
        exact ⟨h.1, fun c hc => by simpa using h.2 c hc, rfl, by omega⟩
      · rintro ⟨-, -, h3, -⟩; exact h3

end MediaPlane
