import Mathlib.Data.List.Induction
import MediaPlane.Value.Embedded

/-
  Which values stay as they are when they are taken over: the plain ones, and no others
  (`unpack_eq_self_iff`). An embedded value could only stay if it stood for itself, and no text says
  an object whose only member is an embedded one (`read_ne_embedding`).
-/

namespace MediaPlane

namespace Members

theorem ofPairs_concat (pairs : List (String × Value)) (key : String) (value : Value) :
    ofPairs (pairs ++ [(key, value)]) = insert key value (ofPairs pairs) := by
  unfold ofPairs
  rw [List.foldl_append]
  rfl

theorem isSome_get?_ofPairs {pairs : List (String × Value)} {key : String}
    (h : key ∈ pairs.map Prod.fst) : (get? (ofPairs pairs) key).isSome = true := by
  induction pairs using List.reverseRecOn with
  | nil => cases h
  | append_singleton pairs p ih =>
    obtain ⟨k, v⟩ := p
    rw [ofPairs_concat, get?_insert]
    split
    · rfl
    · next hne =>
      rw [List.map_append, List.mem_append] at h
      exact ih (h.resolve_right fun hk => hne (List.mem_singleton.mp hk))

end Members

namespace Value

variable {v w : Value} {cs rest : List Char} {fuel depth : Nat}

/-- An object whose only member is that of an embedded value. -/
def embedding (w : Value) : Value := .obj [(embeddedKey, w)]

/-- It is no object. -/
def isFlat : Value → Bool
  | .obj _ => false
  | _ => true

theorem ne_embedding_of_isFlat (h : v.isFlat = true) : v ≠ embedding w := by
  rintro rfl
  cases h

/-! ## What a text says -/

theorem readWord_eq {letters : List Char} (h : readWord w letters cs = .ok (v, rest)) : v = w := by
  induction letters generalizing cs with
  | nil =>
    cases h
    rfl
  | cons l ls ih =>
    cases cs with
    | nil => cases h
    | cons c cs =>
      unfold readWord at h
      split at h
      · exact ih h
      · cases h

theorem isFlat_of_scaled {negative : Bool} {digits : Nat} {exponent : Int}
    (h : scaled negative digits exponent cs = .ok (v, rest)) : v.isFlat = true := by
  unfold scaled at h
  split at h
  · cases h
    rfl
  · cases h

theorem isFlat_of_readScale {negative : Bool} {digits : Nat} {exponent : Int}
    (h : readScale negative digits exponent cs = .ok (v, rest)) : v.isFlat = true := by
  unfold readScale at h
  simp only at h
  split at h
  · cases h
  · split at h
    · exact isFlat_of_scaled h
    · split at h
      · cases h
        rfl
      · cases h

theorem isFlat_of_readTail {negative : Bool} {digits : Nat} {exponent : Int}
    (h : readTail negative digits exponent cs = .ok (v, rest)) : v.isFlat = true := by
  unfold readTail at h
  split at h
  · exact isFlat_of_readScale h
  · exact isFlat_of_readScale h
  · exact isFlat_of_scaled h

theorem isFlat_wholeNumber (negative : Bool) (n : Nat) :
    (wholeNumber negative n).isFlat = true := by
  unfold wholeNumber
  split
  · rfl
  · split <;> rfl

theorem isFlat_of_readUnsignedNumber {negative : Bool}
    (h : readUnsignedNumber negative cs = .ok (v, rest)) : v.isFlat = true := by
  unfold readUnsignedNumber at h
  simp only at h
  split at h
  · cases h
  · split at h
    · cases h
    · split at h
      · split at h
        · cases h
        · exact isFlat_of_readTail h
      · exact isFlat_of_readScale h
      · exact isFlat_of_readScale h
      · split at h
        · cases h
          exact isFlat_wholeNumber _ _
        · exact isFlat_of_readTail h

theorem isFlat_of_readNumber (h : readNumber cs = .ok (v, rest)) : v.isFlat = true := by
  unfold readNumber at h
  split at h
  · exact isFlat_of_readUnsignedNumber h
  · exact isFlat_of_readUnsignedNumber h

theorem isFlat_of_readItems {embedded : Bool} {seen : List Value}
    (h : readItems embedded fuel depth seen cs = .ok (v, rest)) : v.isFlat = true := by
  induction fuel generalizing seen cs with
  | zero => cases h
  | succ fuel ih =>
    unfold readItems at h
    split at h
    · cases h
    · split at h
      · cases h
      · cases h
        rfl
      · exact ih h

/-- All keys that were read are there. -/
theorem isSome_get?_of_readMembers {embedded : Bool} {seen : Members} {key : String}
    (h : readMembers embedded fuel depth seen key cs = .ok (v, rest)) :
    ∀ k ∈ key :: seen.map Prod.fst, (v.get? k).isSome = true := by
  induction fuel generalizing seen key cs with
  | zero => cases h
  | succ fuel ih =>
    unfold readMembers at h
    split at h
    · cases h
    · split at h
      · cases h
      · split at h
        · cases h
        · cases h
          intro k hk
          refine Members.isSome_get?_ofPairs ?_
          rw [List.map_reverse, List.mem_reverse, List.map_cons]
          exact hk
        · split at h
          · cases h
          · exact fun k hk => ih h k (List.mem_cons_of_mem _ hk)

theorem eq_of_readOnlyMember (h : readOnlyMember w cs = .ok (v, rest)) : v = w := by
  unfold readOnlyMember at h
  split at h
  · cases h
  · cases h
    rfl
  · cases h
  · cases h

theorem of_readWhole {text : String} {r : Scan Value} (h : readWhole text r = .ok v) :
    ∃ rest, r = .ok (v, rest) := by
  unfold readWhole at h
  split at h
  · cases h
  · split at h
    · cases h
      exact ⟨_, rfl⟩
    · cases h

/-- What an embedded text stands for was read from it. -/
theorem of_readEmbedded (h : readEmbedded fuel cs = .ok (v, rest)) :
    ∃ less, less < fuel ∧ ∃ cs rest, readValue true less maxDepth cs = .ok (v, rest) := by
  cases fuel with
  | zero => cases h
  | succ fuel =>
    unfold readEmbedded at h
    split at h
    · cases h
    · split at h
      · split at h
        · cases h
        · split at h
          · cases h
          · next hwhole =>
            obtain ⟨rest, hread⟩ := of_readWhole hwhole
            rw [eq_of_readOnlyMember h]
            exact ⟨fuel, Nat.lt_succ_self fuel, _, rest, hread⟩
      · cases h

/-- The first key of an object tells that it is no embedded value, unless that stands for something
else. -/
theorem readValue_ne_embedding (h : readValue true fuel depth cs = .ok (v, rest)) (w : Value) :
    v ≠ embedding w := by
  induction fuel using Nat.strongRecOn generalizing depth cs rest with
  | _ fuel ih =>
    cases fuel with
    | zero => cases h
    | succ fuel =>
      unfold readValue at h
      split at h
      · cases h
      · exact ne_embedding_of_isFlat (by rw [readWord_eq h]; rfl)
      · exact ne_embedding_of_isFlat (by rw [readWord_eq h]; rfl)
      · exact ne_embedding_of_isFlat (by rw [readWord_eq h]; rfl)
      · split at h
        · cases h
        · cases h
          exact nofun
      · split at h
        · cases h
        · split at h
          · cases h
          · cases h
            exact nofun
          · exact ne_embedding_of_isFlat (isFlat_of_readItems h)
      · split at h
        · cases h
        · split at h
          · cases h
          · cases h
            exact nofun
          · split at h
            · cases h
            · next key _ _ =>
              split at h
              · obtain ⟨less, hless, cs, rest, hread⟩ := of_readEmbedded h
                exact ih less (Nat.lt_succ_of_lt hless) hread
              · next hkey =>
                rintro rfl
                have hget := isSome_get?_of_readMembers h key List.mem_cons_self
                rw [embedding, get?_obj, Members.get?_cons] at hget
                split at hget
                · next heq => exact hkey (by rw [heq]; rfl)
                · cases hget
          · cases h
      · split at h
        · exact ne_embedding_of_isFlat (isFlat_of_readNumber h)
        · cases h

theorem read_ne_embedding {text : String} (h : read text = .ok v) (w : Value) :
    v ≠ embedding w := by
  obtain ⟨rest, hread⟩ := of_readWhole h
  exact readValue_ne_embedding hread w

/-! ## What stays as it is -/

/-- An embedded value does not stand for itself. -/
theorem unpackEmbedded_ne_self {ms : Members} (hms : isEmbedded ms = true) :
    unpackEmbedded ms ≠ .ok (.obj ms) := by
  obtain _ | ⟨⟨k, v⟩, rest⟩ := ms
  · cases hms
  · have hk : k = embeddedKey := of_decide_eq_true hms
    subst hk
    intro h
    unfold unpackEmbedded at h
    split at h
    · next heq => cases heq
    · next heq =>
      cases heq
      split at h
      · cases h
      · next hread =>
        split at h
        · next hrest =>
          rw [List.isEmpty_iff.mp hrest] at h
          cases h
          exact read_ne_embedding hread _ rfl
        · cases h
    · cases h

mutual

theorem isPlain_of_unpack : (v : Value) → v.unpack = .ok v → v.isPlain = true
  | .arr items, h => by
    unfold unpack at h
    split at h
    · cases h
    · next vs hvs =>
      cases h
      unfold isPlain
      exact isPlainItems_of_unpack items hvs
  | .obj ms, h => by
    unfold unpack at h
    split at h
    · next hms => exact absurd h (unpackEmbedded_ne_self hms)
    · next hms =>
      split at h
      · cases h
      · next ns hns =>
        cases h
        unfold isPlain
        rw [isPlainMembers_of_unpack ms hns, Bool.eq_false_iff.mpr hms]
        rfl
  | .null, _ | .bool _, _ | .int _, _ | .double _, _ | .str _, _ => by simp [isPlain]

theorem isPlainItems_of_unpack :
    (vs : List Value) → unpackItems vs = .ok vs → isPlainItems vs = true
  | [], _ => by simp [isPlainItems]
  | v :: vs, h => by
    unfold unpackItems at h
    split at h
    · cases h
    · next w hw =>
      split at h
      · cases h
      · next ws hws =>
        cases h
        unfold isPlainItems
        rw [isPlain_of_unpack v hw, isPlainItems_of_unpack vs hws]
        rfl

theorem isPlainMembers_of_unpack :
    (ms : Members) → unpackMembers ms = .ok ms → isPlainMembers ms = true
  | [], _ => by simp [isPlainMembers]
  | (k, v) :: ms, h => by
    unfold unpackMembers at h
    split at h
    · cases h
    · next w hw =>
      split at h
      · cases h
      · next ns hns =>
        cases h
        unfold isPlainMembers
        rw [isPlain_of_unpack v hw, isPlainMembers_of_unpack ms hns]
        rfl

end

theorem unpack_eq_self_iff (v : Value) : v.unpack = .ok v ↔ v.isPlain = true :=
  ⟨isPlain_of_unpack v, unpack_of_isPlain v⟩

theorem unpackItems_eq_self_iff (vs : List Value) :
    unpackItems vs = .ok vs ↔ isPlainItems vs = true :=
  ⟨isPlainItems_of_unpack vs, unpackItems_of_isPlain vs⟩

end Value

end MediaPlane
