import MediaPlane.Request.Placeholder

/-
  What the replacement of forward references does to a value as a whole. `Value.texts` lists the
  string values of a value in order, and `Value.mapTexts` changes each of them in its place. With
  these, a replacement fails at the first text that refers to a slot without an object, and
  otherwise puts the object's id for every reference and leaves all else alone
  (`Slots.substitute_eq`).
-/

namespace MediaPlane

namespace Value

mutual

/-- The string values in a value, in order. Keys are not among them. -/
def texts : Value → List String
  | .str s => [s]
  | .arr items => textsOfItems items
  | .obj ms => textsOfMembers ms
  | _ => []

def textsOfItems : List Value → List String
  | [] => []
  | v :: vs => texts v ++ textsOfItems vs

def textsOfMembers : Members → List String
  | [] => []
  | (_, v) :: ms => texts v ++ textsOfMembers ms

end

mutual

/-- Every string value changed in its place. -/
def mapTexts (f : String → String) : Value → Value
  | .str s => .str (f s)
  | .arr items => .arr (mapTextsOfItems f items)
  | .obj ms => .obj (mapTextsOfMembers f ms)
  | v => v

def mapTextsOfItems (f : String → String) : List Value → List Value
  | [] => []
  | v :: vs => mapTexts f v :: mapTextsOfItems f vs

def mapTextsOfMembers (f : String → String) : Members → Members
  | [] => []
  | (k, v) :: ms => (k, mapTexts f v) :: mapTextsOfMembers f ms

end

end Value

namespace Slots

/-- A text refers to a slot without an object. -/
def dangling (slots : Slots) (s : String) : Bool :=
  (placeholder? s).any fun index => (slots.resolve? index).isNone

/-- What stands for a text: the object's id for a reference, and else the text itself. -/
def fill (slots : Slots) (s : String) : String :=
  (((placeholder? s).bind slots.resolve?).map (·.text)).getD s

variable {slots : Slots} {s : String} {n : Nat} {id : ObjectId}

theorem resolve?_eq_some_iff : slots.resolve? n = some id ↔ slots[n]? = some (some id) :=
  Option.join_eq_some_iff

/-- A text does not dangle if its slot, if it refers to one, holds an object. -/
theorem dangling_eq_false_iff :
    slots.dangling s = false ↔
      ∀ n, placeholder? s = some n → ∃ id, slots[n]? = some (some id) := by
  unfold dangling
  cases placeholder? s with
  | none => exact iff_of_true rfl nofun
  | some index =>
    simp only [Option.any_some, Option.isNone_eq_false_iff, Option.isSome_iff_exists,
      resolve?_eq_some_iff, Option.some.injEq, forall_eq']

/-- A text dangles if it refers to a slot without an object. -/
theorem dangling_eq_true_iff :
    slots.dangling s = true ↔
      ∃ n, placeholder? s = some n ∧ ∀ id, slots[n]? ≠ some (some id) := by
  unfold dangling
  cases placeholder? s with
  | none => exact iff_of_false nofun nofun
  | some index =>
    simp only [Option.any_some, Option.isNone_iff_eq_none, Option.eq_none_iff_forall_ne_some, ne_eq,
      resolve?_eq_some_iff, Option.some.injEq, exists_eq_left']

theorem fill_of_literal (h : placeholder? s = none) : slots.fill s = s := by
  unfold fill
  rw [h]
  rfl

theorem fill_of_reference (h : placeholder? s = some n) (hid : slots[n]? = some (some id)) :
    slots.fill s = id.text := by
  unfold fill
  rw [h, Option.bind_some, resolve?_eq_some_iff.mpr hid]
  rfl

/-- A replacement among texts, given the first of them that cannot be replaced. -/
def replaced {α : Type} (dangles : Option String) (v : α) : Except Failure α :=
  match dangles with
  | some t => .error (.unresolvedReference t)
  | none => .ok v

theorem substituteText_eq (slots : Slots) (s : String) :
    slots.substituteText s = replaced ([s].find? slots.dangling) (slots.fill s) := by
  unfold substituteText
  cases hp : placeholder? s with
  | none => simp [dangling, fill, replaced, hp]
  | some index => cases hr : slots.resolve? index <;> simp [dangling, fill, replaced, hp, hr]

mutual

/-- A replacement fails at the first text that refers to a slot without an object. If there is none,
every reference is replaced. -/
theorem substitute_eq (slots : Slots) (v : Value) :
    slots.substitute v = replaced (v.texts.find? slots.dangling) (v.mapTexts slots.fill) := by
  cases v with
  | null | bool | int | double => rfl
  | str s =>
    unfold substitute Value.texts Value.mapTexts
    rw [substituteText_eq]
    cases [s].find? slots.dangling <;> rfl
  | arr items =>
    unfold substitute Value.texts Value.mapTexts
    rw [substituteItems_eq]
    cases (Value.textsOfItems items).find? slots.dangling <;> rfl
  | obj ms =>
    unfold substitute Value.texts Value.mapTexts
    rw [substituteMembers_eq]
    cases (Value.textsOfMembers ms).find? slots.dangling <;> rfl

theorem substituteItems_eq (slots : Slots) (items : List Value) :
    slots.substituteItems items =
      replaced ((Value.textsOfItems items).find? slots.dangling)
        (Value.mapTextsOfItems slots.fill items) := by
  cases items with
  | nil => rfl
  | cons v vs =>
    unfold substituteItems Value.textsOfItems Value.mapTextsOfItems
    rw [substitute_eq, substituteItems_eq, List.find?_append]
    cases v.texts.find? slots.dangling with
    | some t => rfl
    | none => cases (Value.textsOfItems vs).find? slots.dangling <;> rfl

theorem substituteMembers_eq (slots : Slots) (ms : Members) :
    slots.substituteMembers ms =
      replaced ((Value.textsOfMembers ms).find? slots.dangling)
        (Value.mapTextsOfMembers slots.fill ms) := by
  cases ms with
  | nil => rfl
  | cons m ms =>
    obtain ⟨k, v⟩ := m
    unfold substituteMembers Value.textsOfMembers Value.mapTextsOfMembers
    rw [substitute_eq, substituteMembers_eq, List.find?_append]
    cases v.texts.find? slots.dangling with
    | some t => rfl
    | none => cases (Value.textsOfMembers ms).find? slots.dangling <;> rfl

end

end Slots

end MediaPlane
