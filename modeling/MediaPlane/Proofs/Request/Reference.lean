import MediaPlane.Proofs.Request.Substitution

/-
  References to numbers of any size. A text refers to a number if it consists of `newref:` and the
  decimal digits of it (`Slots.Refers`). Where the number fits 64 bits the text is read as a
  reference, and so it is replaced by an id or it dangles; a larger one is no reference to the
  reader (`Refers.fill_of_maxWord_lt`), and stays in the parameters as it is.
-/

namespace MediaPlane

namespace Value

variable (f : String → String)

mutual

/-- The texts of a value whose texts are changed in their places. -/
theorem texts_mapTexts (v : Value) : (v.mapTexts f).texts = v.texts.map f := by
  cases v with
  | null | bool | int | double | str => rfl
  | arr items => exact textsOfItems_mapTexts items
  | obj ms => exact textsOfMembers_mapTexts ms

theorem textsOfItems_mapTexts (items : List Value) :
    textsOfItems (mapTextsOfItems f items) = (textsOfItems items).map f := by
  cases items with
  | nil => rfl
  | cons v vs =>
    unfold mapTextsOfItems textsOfItems
    rw [texts_mapTexts, textsOfItems_mapTexts, List.map_append]

theorem textsOfMembers_mapTexts (ms : Members) :
    textsOfMembers (mapTextsOfMembers f ms) = (textsOfMembers ms).map f := by
  cases ms with
  | nil => rfl
  | cons m ms =>
    obtain ⟨k, v⟩ := m
    unfold mapTextsOfMembers textsOfMembers
    rw [texts_mapTexts, textsOfMembers_mapTexts, List.map_append]

end

end Value

namespace Slots

variable {slots : Slots} {s : String} {n : Nat}

/-- The text consists of `newref:` and of digits that denote the number. -/
def Refers (s : String) (n : Nat) : Prop :=
  ∃ ds : List Char, s.toList = "newref:".toList ++ ds ∧ ds ≠ [] ∧
    (∀ c ∈ ds, c.isDigit = true) ∧ digitsValue ds = n

/-- A reference is read as far as its number fits. -/
theorem Refers.placeholder?_iff (h : Refers s n) (k : Nat) :
    placeholder? s = some k ↔ n = k ∧ k ≤ maxWord := by
  obtain ⟨ds, hs, hne, hdigits, hvalue⟩ := h
  have hread : placeholder? s = readWord? ds := by
    unfold placeholder?
    rw [hs, if_pos (List.isPrefixOf_iff_prefix.mpr (List.prefix_append _ _))]
    rfl
  rw [hread, readWord?_eq_some_iff, afterPlus_of_digits hdigits, hvalue]
  exact ⟨fun hk => hk.2.2, fun hk => ⟨hne, hdigits, hk⟩⟩

theorem Refers.placeholder?_eq (h : Refers s n) (hn : n ≤ maxWord) : placeholder? s = some n :=
  (h.placeholder?_iff n).mpr ⟨rfl, hn⟩

/-- A number that does not fit is not read, and its text is left as it is. -/
theorem Refers.fill_of_maxWord_lt (h : Refers s n) (hn : maxWord < n) :
    slots.dangling s = false ∧ slots.fill s = s := by
  have hnone : placeholder? s = none := by
    rw [Option.eq_none_iff_forall_ne_some]
    intro k hk
    obtain ⟨rfl, hle⟩ := (h.placeholder?_iff k).mp hk
    omega
  refine ⟨dangling_eq_false_iff.mpr fun k hk => ?_, fill_of_literal hnone⟩
  rw [hnone] at hk
  cases hk

theorem Refers.dangling_eq (h : Refers s n) (hn : n ≤ maxWord) :
    slots.dangling s = (slots.resolve? n).isNone := by
  unfold dangling
  rw [h.placeholder?_eq hn, Option.any_some]

/-- A reference that does not dangle is replaced by an id. -/
theorem Refers.fill_eq (h : Refers s n) (hn : n ≤ maxWord) (hd : slots.dangling s = false) :
    ∃ id, slots.resolve? n = some id ∧ slots.fill s = id.text := by
  have hp := h.placeholder?_eq hn
  obtain ⟨id, hid⟩ := dangling_eq_false_iff.mp hd n hp
  exact ⟨id, resolve?_eq_some_iff.mpr hid, fill_of_reference hp hid⟩

end Slots

end MediaPlane
