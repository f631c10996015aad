import MediaPlane.Proofs.Request.Reference

/-
  The replacement of forward references, place by place. `Value.at?` looks into a value at any
  depth, so what is said of every place says all of a value. A replacement goes through if every
  reference in the value has an object. Each place then holds what stood there, but for references,
  which give way to ids; no other value does (`Slots.substitute_of_becomes`). Else a reference is
  named that has no object. What has been replaced stays, whatever is replaced in it later, and more
  creates make no difference to it (`Slots.substitution_exact`).
-/

namespace MediaPlane

namespace Value

variable {f g : String → String} {s : String} {v : Value}

/-! ## Looking into a value -/

/-- What stands at a place. The way there leads from an array to the item of a number, and from an
object to the member of a number. -/
def at? : List Nat → Value → Option Value
  | [], v => some v
  | i :: path, .arr items => items[i]?.bind (at? path)
  | i :: path, .obj ms => ms[i]?.bind fun m => at? path m.2
  | _ :: _, _ => none

theorem at?_arr (items : List Value) (i : Nat) (path : List Nat) :
    (arr items).at? (i :: path) = items[i]?.bind (at? path) := rfl

theorem at?_obj (ms : Members) (i : Nat) (path : List Nat) :
    (obj ms).at? (i :: path) = ms[i]?.bind fun m => m.2.at? path := rfl

mutual

/-- The texts of a value are those that stand somewhere in it. -/
theorem mem_texts_iff (v : Value) : s ∈ v.texts ↔ ∃ path, v.at? path = some (.str s) := by
  cases v with
  | null | bool | int | double =>
    refine iff_of_false nofun ?_
    rintro ⟨_ | ⟨i, path⟩, h⟩ <;> cases h
  | str t =>
    refine List.mem_singleton.trans ⟨fun h => ⟨[], h ▸ rfl⟩, ?_⟩
    rintro ⟨_ | ⟨i, path⟩, h⟩
    · cases h
      rfl
    · cases h
  | arr items =>
    refine (mem_textsOfItems_iff items).trans ⟨?_, ?_⟩
    · rintro ⟨i, w, path, hw, h⟩
      exact ⟨i :: path, by rw [at?_arr, hw, Option.bind_some, h]⟩
    · rintro ⟨_ | ⟨i, path⟩, h⟩
      · cases h
      · obtain ⟨w, hw, h⟩ := Option.bind_eq_some_iff.mp (at?_arr items i path ▸ h)
        exact ⟨i, w, path, hw, h⟩
  | obj ms =>
    refine (mem_textsOfMembers_iff ms).trans ⟨?_, ?_⟩
    · rintro ⟨i, m, path, hm, h⟩
      exact ⟨i :: path, by rw [at?_obj, hm, Option.bind_some, h]⟩
    · rintro ⟨_ | ⟨i, path⟩, h⟩
      · cases h
      · obtain ⟨m, hm, h⟩ := Option.bind_eq_some_iff.mp (at?_obj ms i path ▸ h)
        exact ⟨i, m, path, hm, h⟩

theorem mem_textsOfItems_iff (vs : List Value) :
    s ∈ textsOfItems vs ↔ ∃ (i : Nat) (w : Value) (path : List Nat),
      vs[i]? = some w ∧ w.at? path = some (.str s) := by
  cases vs with
  | nil => simp [textsOfItems]
  | cons v vs =>
    unfold textsOfItems
    rw [List.mem_append, mem_texts_iff v, mem_textsOfItems_iff vs]
    constructor
    · rintro (⟨path, h⟩ | ⟨i, w, path, hw, h⟩)
      · exact ⟨0, v, path, rfl, h⟩
      · exact ⟨i + 1, w, path, hw, h⟩
    · rintro ⟨_ | i, w, path, hw, h⟩
      · cases hw
        exact Or.inl ⟨path, h⟩
      · exact Or.inr ⟨i, w, path, hw, h⟩

theorem mem_textsOfMembers_iff (ms : Members) :
    s ∈ textsOfMembers ms ↔ ∃ (i : Nat) (m : String × Value) (path : List Nat),
      ms[i]? = some m ∧ m.2.at? path = some (.str s) := by
  cases ms with
  | nil => simp [textsOfMembers]
  | cons m ms =>
    obtain ⟨k, v⟩ := m
    unfold textsOfMembers
    rw [List.mem_append, mem_texts_iff v, mem_textsOfMembers_iff ms]
    constructor
    · rintro (⟨path, h⟩ | ⟨i, m, path, hm, h⟩)
      · exact ⟨0, (k, v), path, rfl, h⟩
      · exact ⟨i + 1, m, path, hm, h⟩
    · rintro ⟨_ | i, m, path, hm, h⟩
      · cases hm
        exact Or.inl ⟨path, h⟩
      · exact Or.inr ⟨i, m, path, hm, h⟩

end

/-! ## Changing texts in their places -/

theorem mapTextsOfItems_eq_map (f : String → String) (vs : List Value) :
    mapTextsOfItems f vs = vs.map (mapTexts f) := by
  induction vs with
  | nil => rfl
  | cons v vs ih =>
    unfold mapTextsOfItems
    rw [ih, List.map_cons]

theorem mapTextsOfMembers_eq_map (f : String → String) (ms : Members) :
    mapTextsOfMembers f ms = ms.map fun m => (m.1, m.2.mapTexts f) := by
  induction ms with
  | nil => rfl
  | cons m ms ih =>
    unfold mapTextsOfMembers
    rw [ih, List.map_cons]

/-- Changing the texts keeps everything in its place. -/
theorem at?_mapTexts (f : String → String) (path : List Nat) (v : Value) :
    (v.mapTexts f).at? path = (v.at? path).map (mapTexts f) := by
  induction path generalizing v with
  | nil => rfl
  | cons i path ih =>
    cases v with
    | null | bool | int | double | str => rfl
    | arr items =>
      unfold mapTexts
      rw [mapTextsOfItems_eq_map, at?_arr, at?_arr, List.getElem?_map]
      cases items[i]? with
      | none => rfl
      | some w => exact ih w
    | obj ms =>
      unfold mapTexts
      rw [mapTextsOfMembers_eq_map, at?_obj, at?_obj, List.getElem?_map]
      cases ms[i]? with
      | none => rfl
      | some m => exact ih m.2

mutual

/-- Changes that agree on the texts of a value do the same to it. -/
theorem mapTexts_congr (v : Value) (h : ∀ s ∈ v.texts, f s = g s) :
    v.mapTexts f = v.mapTexts g := by
  cases v with
  | null | bool | int | double => rfl
  | str s => exact congrArg str (h s (List.mem_singleton_self s))
  | arr items => exact congrArg arr (mapTextsOfItems_congr items h)
  | obj ms => exact congrArg obj (mapTextsOfMembers_congr ms h)

theorem mapTextsOfItems_congr (vs : List Value) (h : ∀ s ∈ textsOfItems vs, f s = g s) :
    mapTextsOfItems f vs = mapTextsOfItems g vs := by
  cases vs with
  | nil => rfl
  | cons v vs =>
    unfold textsOfItems at h
    unfold mapTextsOfItems
    rw [mapTexts_congr v fun s hs => h s (List.mem_append_left _ hs),
      mapTextsOfItems_congr vs fun s hs => h s (List.mem_append_right _ hs)]

theorem mapTextsOfMembers_congr (ms : Members) (h : ∀ s ∈ textsOfMembers ms, f s = g s) :
    mapTextsOfMembers f ms = mapTextsOfMembers g ms := by
  cases ms with
  | nil => rfl
  | cons m ms =>
    obtain ⟨k, v⟩ := m
    unfold textsOfMembers at h
    unfold mapTextsOfMembers
    rw [mapTexts_congr v fun s hs => h s (List.mem_append_left _ hs),
      mapTextsOfMembers_congr ms fun s hs => h s (List.mem_append_right _ hs)]

end

mutual

theorem mapTexts_id (v : Value) : v.mapTexts id = v := by
  cases v with
  | null | bool | int | double | str => rfl
  | arr items => exact congrArg arr (mapTextsOfItems_id items)
  | obj ms => exact congrArg obj (mapTextsOfMembers_id ms)

theorem mapTextsOfItems_id (vs : List Value) : mapTextsOfItems id vs = vs := by
  cases vs with
  | nil => rfl
  | cons v vs =>
    unfold mapTextsOfItems
    rw [mapTexts_id v, mapTextsOfItems_id vs]

theorem mapTextsOfMembers_id (ms : Members) : mapTextsOfMembers id ms = ms := by
  cases ms with
  | nil => rfl
  | cons m ms =>
    obtain ⟨k, v⟩ := m
    unfold mapTextsOfMembers
    rw [mapTexts_id v, mapTextsOfMembers_id ms]

end

/-- Where the texts are left alone, so is the value. -/
theorem mapTexts_eq_self (h : ∀ s ∈ v.texts, f s = s) : v.mapTexts f = v :=
  (mapTexts_congr v h).trans (mapTexts_id v)

end Value

namespace Slots

variable {slots later : Slots} {s : String} {n : Nat} {id : ObjectId} {v w : Value} {e : Failure}

/-! ## One text -/

/-- What stands for a text that does not dangle: itself, if it is no reference, or an id. -/
theorem fill_cases (h : slots.dangling s = false) :
    (placeholder? s = none ∧ slots.fill s = s) ∨
      ∃ n id, placeholder? s = some n ∧ slots[n]? = some (some id) ∧ slots.fill s = id.text := by
  cases hp : placeholder? s with
  | none => exact Or.inl ⟨rfl, fill_of_literal hp⟩
  | some n =>
    obtain ⟨id, hid⟩ := dangling_eq_false_iff.mp h n hp
    exact Or.inr ⟨n, id, rfl, hid, fill_of_reference hp hid⟩

/-- Slots that hold an object keep it while more come. -/
theorem getElem?_append_of_some (hid : slots[n]? = some (some id)) (later : Slots) :
    (slots ++ later)[n]? = some (some id) := by
  obtain ⟨hn, -⟩ := List.getElem?_eq_some_iff.mp hid
  rw [List.getElem?_append_left hn, hid]

theorem dangling_append (h : slots.dangling s = false) : (slots ++ later).dangling s = false := by
  refine dangling_eq_false_iff.mpr fun n hp => ?_
  obtain ⟨id, hid⟩ := dangling_eq_false_iff.mp h n hp
  exact ⟨id, getElem?_append_of_some hid later⟩

theorem fill_append (h : slots.dangling s = false) : (slots ++ later).fill s = slots.fill s := by
  rcases fill_cases h with ⟨hp, heq⟩ | ⟨n, id, hp, hid, heq⟩
  · rw [heq, fill_of_literal hp]
  · rw [heq, fill_of_reference hp (getElem?_append_of_some hid later)]

/-! ## A whole value -/

theorem substitute_eq_ok_iff :
    slots.substitute v = .ok w ↔
      (∀ s ∈ v.texts, slots.dangling s = false) ∧ w = v.mapTexts slots.fill := by
  rw [substitute_eq]
  cases hfind : v.texts.find? slots.dangling with
  | none =>
    have hresolved : ∀ s ∈ v.texts, slots.dangling s = false := fun s hs =>
      Bool.eq_false_iff.mpr (List.find?_eq_none.mp hfind s hs)
    exact ⟨fun h => ⟨hresolved, (Except.ok.inj h).symm⟩, fun h => congrArg Except.ok h.2.symm⟩
  | some t =>
    refine ⟨nofun, fun h => ?_⟩
    have hdangles := List.find?_some hfind
    rw [h.1 t (List.mem_of_find?_eq_some hfind)] at hdangles
    cases hdangles

theorem exists_of_substitute_error (h : slots.substitute v = .error e) :
    ∃ t ∈ v.texts, slots.dangling t = true ∧ e = .unresolvedReference t := by
  rw [substitute_eq] at h
  cases hfind : v.texts.find? slots.dangling with
  | none =>
    rw [hfind] at h
    cases h
  | some t =>
    rw [hfind] at h
    exact ⟨t, List.mem_of_find?_eq_some hfind, List.find?_some hfind, (Except.error.inj h).symm⟩

/-- Where no id reads as a reference, none is left after a replacement. -/
theorem placeholder?_of_mem_texts (hids : ∀ id, some id ∈ slots → placeholder? id.text = none)
    (h : slots.substitute v = .ok w) : ∀ t ∈ w.texts, placeholder? t = none := by
  obtain ⟨hresolved, rfl⟩ := substitute_eq_ok_iff.mp h
  rw [Value.texts_mapTexts]
  intro t ht
  obtain ⟨s, hs, rfl⟩ := List.mem_map.mp ht
  rcases fill_cases (hresolved s hs) with ⟨hp, heq⟩ | ⟨n, id, -, hid, heq⟩
  · rw [heq, hp]
  · rw [heq, hids id (List.mem_of_getElem? hid)]

/-- A value without references is replaced by itself. -/
theorem substitute_eq_self (h : ∀ t ∈ v.texts, placeholder? t = none) :
    slots.substitute v = .ok v := by
  refine substitute_eq_ok_iff.mpr ⟨fun s hs => dangling_eq_false_iff.mpr fun n hp => ?_, ?_⟩
  · rw [h s hs] at hp
    cases hp
  · exact (Value.mapTexts_eq_self fun s hs => fill_of_literal (h s hs)).symm

theorem substitute_append (h : slots.substitute v = .ok w) (later : Slots) :
    (slots ++ later).substitute v = .ok w := by
  obtain ⟨hresolved, rfl⟩ := substitute_eq_ok_iff.mp h
  refine substitute_eq_ok_iff.mpr ⟨fun s hs => dangling_append (hresolved s hs), ?_⟩
  exact Value.mapTexts_congr v fun s hs => (fill_append (hresolved s hs)).symm

/-! ## Place by place -/

/-- What stands at a place before a replacement, and after it. -/
inductive Becomes (slots : Slots) : Option Value → Option Value → Prop where
  | nothing : Becomes slots none none
  | null : Becomes slots (some .null) (some .null)
  | bool (b : Bool) : Becomes slots (some (.bool b)) (some (.bool b))
  | int (n : Int) : Becomes slots (some (.int n)) (some (.int n))
  | double (d : Binary64) : Becomes slots (some (.double d)) (some (.double d))
  | literal {s : String} (h : placeholder? s = none) : Becomes slots (some (.str s)) (some (.str s))
  | reference {s : String} {n : Nat} {id : ObjectId} (h : placeholder? s = some n)
      (hid : slots[n]? = some (some id)) : Becomes slots (some (.str s)) (some (.str id.text))
  | arr {vs ws : List Value} (h : ws.length = vs.length) :
      Becomes slots (some (.arr vs)) (some (.arr ws))
  | obj {ms ns : Members} (h : ns.map Prod.fst = ms.map Prod.fst) :
      Becomes slots (some (.obj ms)) (some (.obj ns))

theorem becomes_mapTexts (v : Value) (h : ∀ s, v = .str s → slots.dangling s = false) :
    slots.Becomes (some v) (some (v.mapTexts slots.fill)) := by
  cases v with
  | null => exact .null
  | bool b => exact .bool b
  | int n => exact .int n
  | double d => exact .double d
  | str s =>
    unfold Value.mapTexts
    rcases fill_cases (h s rfl) with ⟨hp, heq⟩ | ⟨n, id, hp, hid, heq⟩
    · rw [heq]
      exact .literal hp
    · rw [heq]
      exact .reference hp hid
  | arr items =>
    unfold Value.mapTexts
    rw [Value.mapTextsOfItems_eq_map]
    exact .arr (List.length_map _)
  | obj ms =>
    unfold Value.mapTexts
    rw [Value.mapTextsOfMembers_eq_map]
    exact .obj (List.map_map ..)

mutual

/-- What stands where it should is what a replacement makes. -/
theorem substitute_of_becomes (v w : Value)
    (h : ∀ path, slots.Becomes (v.at? path) (w.at? path)) : slots.substitute v = .ok w := by
  have hhere : slots.Becomes (some v) (some w) := h []
  cases v with
  | null | bool | int | double =>
    cases hhere
    rfl
  | str s =>
    unfold substitute substituteText
    cases hhere with
    | literal hp => rw [hp]
    | reference hp hid =>
      rw [hp]
      simp only [resolve?_eq_some_iff.mpr hid]
  | arr vs =>
    cases hhere with
    | @arr _ ws hlength =>
      unfold substitute
      rw [substituteItems_of_becomes vs ws hlength fun i path => h (i :: path)]
  | obj ms =>
    cases hhere with
    | @obj _ ns hkeys =>
      unfold substitute
      rw [substituteMembers_of_becomes ms ns hkeys fun i path => h (i :: path)]

theorem substituteItems_of_becomes (vs ws : List Value) (hlength : ws.length = vs.length)
    (h : ∀ i path,
      slots.Becomes ((Value.arr vs).at? (i :: path)) ((Value.arr ws).at? (i :: path))) :
    slots.substituteItems vs = .ok ws := by
  cases vs with
  | nil =>
    rw [List.eq_nil_of_length_eq_zero hlength]
    rfl
  | cons v vs =>
    obtain ⟨w, ws, rfl⟩ := List.exists_cons_of_length_eq_add_one hlength
    unfold substituteItems
    rw [substitute_of_becomes v w fun path => h 0 path,
      substituteItems_of_becomes vs ws (Nat.succ.inj hlength) fun i path => h (i + 1) path]

theorem substituteMembers_of_becomes (ms ns : Members)
    (hkeys : ns.map Prod.fst = ms.map Prod.fst)
    (h : ∀ i path,
      slots.Becomes ((Value.obj ms).at? (i :: path)) ((Value.obj ns).at? (i :: path))) :
    slots.substituteMembers ms = .ok ns := by
  cases ms with
  | nil =>
    rw [List.map_eq_nil_iff.mp hkeys]
    rfl
  | cons m ms =>
    obtain ⟨n, ns, rfl, hkey, hrest⟩ := List.map_eq_cons_iff.mp hkeys
    obtain ⟨k, v⟩ := m
    obtain ⟨l, w⟩ := n
    unfold substituteMembers
    rw [substitute_of_becomes v w fun path => h 0 path,
      substituteMembers_of_becomes ms ns hrest fun i path => h (i + 1) path]
    exact congrArg (fun l => Except.ok ((l, w) :: ns)) hkey.symm

end

theorem becomes_of_substitute (h : slots.substitute v = .ok w) (path : List Nat) :
    slots.Becomes (v.at? path) (w.at? path) := by
  obtain ⟨hresolved, rfl⟩ := substitute_eq_ok_iff.mp h
  rw [Value.at?_mapTexts]
  cases hpath : v.at? path with
  | none => exact .nothing
  | some u =>
    refine becomes_mapTexts u fun s hs => hresolved s (v.mem_texts_iff.mpr ⟨path, ?_⟩)
    rw [hpath, hs]

/-! ## All of it -/

/-- All that a replacement of the references in a value does. -/
structure ReplacesExactly (slots : Slots) (v : Value) : Prop where
  /-- It goes through if every reference, at any depth, has an object in its slot. -/
  succeeds_iff : (∃ w, slots.substitute v = .ok w) ↔
    ∀ path s n, v.at? path = some (.str s) → placeholder? s = some n →
      ∃ id, slots[n]? = some (some id)
  /-- References give way to ids, and everything else is where it was. -/
  result_iff : ∀ w, slots.substitute v = .ok w ↔ ∀ path, slots.Becomes (v.at? path) (w.at? path)
  /-- A failure names a reference in the value that has no object. -/
  fails : ∀ e, slots.substitute v = .error e → ∃ path s n, v.at? path = some (.str s) ∧
    placeholder? s = some n ∧ (∀ id, slots[n]? ≠ some (some id)) ∧ e = .unresolvedReference s
  /-- What was replaced stays, unless an id reads as a reference itself. -/
  again : (∀ id, some id ∈ slots → placeholder? id.text = none) →
    ∀ w, slots.substitute v = .ok w → ∀ others : Slots, others.substitute w = .ok w
  /-- More creates make no difference to what went through without them. -/
  more : ∀ w, slots.substitute v = .ok w → ∀ later : Slots, (slots ++ later).substitute v = .ok w

/-- Forward references are replaced exactly, in every value and for all creates. -/
theorem substitution_exact (slots : Slots) (v : Value) : slots.ReplacesExactly v where
  succeeds_iff := by
    have hplaces : (∀ s ∈ v.texts, slots.dangling s = false) ↔
        ∀ path s n, v.at? path = some (.str s) → placeholder? s = some n →
          ∃ id, slots[n]? = some (some id) := by
      constructor
      · intro h path s n hs hp
        exact dangling_eq_false_iff.mp (h s (v.mem_texts_iff.mpr ⟨path, hs⟩)) n hp
      · intro h s hs
        obtain ⟨path, hpath⟩ := v.mem_texts_iff.mp hs
        exact dangling_eq_false_iff.mpr fun n hp => h path s n hpath hp
    rw [← hplaces]
    simp only [substitute_eq_ok_iff, exists_and_left, exists_eq, and_true]
  result_iff w := ⟨becomes_of_substitute, substitute_of_becomes v w⟩
  fails := by
    intro e h
    obtain ⟨t, ht, hdangles, rfl⟩ := exists_of_substitute_error h
    obtain ⟨path, hpath⟩ := v.mem_texts_iff.mp ht
    obtain ⟨n, hp, hempty⟩ := dangling_eq_true_iff.mp hdangles
    exact ⟨path, t, n, hpath, hp, hempty, rfl⟩
  again := fun hids _ h _ => substitute_eq_self (placeholder?_of_mem_texts hids h)
  more := fun _ h later => substitute_append h later

namespace Sample

/-- Two creates that worked, and one between them that failed. -/
def creates : Slots := [some ⟨"pipe"⟩, none, some ⟨"pipe/ep"⟩]

/-- References in an array in an object, among other values. -/
def connection : Value :=
  .obj [("object", .str "newref:2"),
    ("params", .obj [("n", .int 3), ("sinks", .arr [.str "newref:0", .str "literal"])])]

def connected : Value :=
  .obj [("object", .str "pipe/ep"),
    ("params", .obj [("n", .int 3), ("sinks", .arr [.str "pipe", .str "literal"])])]

end Sample

/-- Once the ids are there, no other creates can change them. -/
theorem substitution_exact_nested :
    (∀ id, some id ∈ Sample.creates → placeholder? id.text = none) ∧
      Sample.creates.substitute Sample.connection = .ok Sample.connected ∧
      ∀ others : Slots, others.substitute Sample.connected = .ok Sample.connected := by
  have hids : ∀ id, some id ∈ Sample.creates → placeholder? id.text = none := by
    intro id hid
    simp only [Sample.creates, List.mem_cons, Option.some.injEq, reduceCtorEq, false_or,
      List.not_mem_nil, or_false] at hid
    rcases hid with rfl | rfl <;> decide +kernel
  have hconnected : Sample.creates.substitute Sample.connection = .ok Sample.connected := by
    rfl
  exact ⟨hids, hconnected,
    (substitution_exact Sample.creates Sample.connection).again hids _ hconnected⟩

/-- A reference to the create that failed is named. -/
example :
    substitute [some ⟨"pipe"⟩, none] (.arr [.str "newref:0", .str "newref:1", .str "newref:2"]) =
      .error (.unresolvedReference "newref:1") := rfl

end Slots

end MediaPlane
