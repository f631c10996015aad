import Mathlib.Data.List.Nodup
import MediaPlane.Identity

/-
  What tells the names of objects apart. A name is spelled as the path from the root: one segment
  for each object on it, made of a unique text of fixed length and of the qualified type. Types are
  free texts, so a name does not show where its segments end, and one may begin like another or look
  like it inside. But read from the left, two equal names have the unique text of the same object
  first, and so the same segment, and what is left after it is spelled alike (`eq_of_spelled`). In a
  lineage, where parents are born before their children, no two objects have the same name
  (`Lineal.nodup_id`).
-/

namespace MediaPlane

/-- The name of an object below a parent, by one of some unique texts. -/
def ObjectId.ChildOf (x parent : ObjectId) (uniques : List String) : Prop :=
  ∃ unique ∈ uniques, ∃ qualifiedType, x = .child parent unique qualifiedType

/-- An object as it was named. -/
structure Birth where
  parent : Option ObjectId
  unique : String
  qualifiedType : String

namespace Birth

def id (b : Birth) : ObjectId := .below b.parent b.unique b.qualifiedType

/-- What an object adds to the name of its parent; a root begins as if it were below something. -/
def segment (b : Birth) : List Char :=
  '/' :: (b.unique.toList ++ '_' :: b.qualifiedType.toList)

end Birth

/-- A name with the slash of its first segment. -/
def ObjectId.spelled (x : ObjectId) : List Char := '/' :: x.text.toList

variable {births path path' : List Birth} {b b' : Birth} {n : Nat}

theorem Birth.spelled_root (h : b.parent = none) : b.id.spelled = b.segment := by
  unfold id ObjectId.below ObjectId.spelled segment
  rw [h]
  simp [ObjectId.root]

theorem Birth.spelled_child {p : ObjectId} (h : b.parent = some p) :
    b.id.spelled = p.spelled ++ b.segment := by
  unfold id ObjectId.below ObjectId.spelled segment
  rw [h]
  simp [ObjectId.child]

/-! ## Reading a name -/

/-- The unique text comes first in a segment, so it is read whatever follows. -/
theorem Birth.unique_of_segment {rest rest' : List Char}
    (hlength : b.unique.length = b'.unique.length)
    (h : b.segment ++ rest = b'.segment ++ rest') : b.unique = b'.unique := by
  have hafter : b.unique.toList ++ ('_' :: b.qualifiedType.toList ++ rest) =
      b'.unique.toList ++ ('_' :: b'.qualifiedType.toList ++ rest') := by
    simpa [segment] using h
  have hsame : b.unique.toList = b'.unique.toList :=
    (List.append_inj hafter (by rw [String.length_toList, String.length_toList, hlength])).1
  exact String.toList_inj.mp hsame

/-- Where unique texts of one length tell births apart, paths that are spelled alike are equal. -/
theorem eq_of_spelled (hinj : ∀ a ∈ births, ∀ a' ∈ births, a.unique = a'.unique → a = a')
    (hlength : ∀ a ∈ births, a.unique.length = n) (hp : path ⊆ births) (hp' : path' ⊆ births)
    (h : path.flatMap Birth.segment = path'.flatMap Birth.segment) : path = path' := by
  induction path generalizing path' with
  | nil =>
    cases path' with
    | nil => rfl
    | cons b' path' => cases h
  | cons b path ih =>
    cases path' with
    | nil => cases h
    | cons b' path' =>
      obtain ⟨hb, hrest⟩ := List.cons_subset.mp hp
      obtain ⟨hb', hrest'⟩ := List.cons_subset.mp hp'
      rw [List.flatMap_cons, List.flatMap_cons] at h
      have hunique := Birth.unique_of_segment ((hlength b hb).trans (hlength b' hb').symm) h
      obtain rfl := hinj b hb b' hb' hunique
      rw [ih hrest hrest' (List.append_cancel_left h)]

/-! ## Lineages -/

theorem concat_subset (hp : path ⊆ births) (hb : b ∈ births) : path ++ [b] ⊆ births :=
  List.append_subset.mpr ⟨hp, List.cons_subset.mpr ⟨hb, List.nil_subset births⟩⟩

/-- Births in an order in which a parent comes before its children. -/
inductive Lineal : List Birth → Prop where
  | nil : Lineal []
  | born {births : List Birth} (h : Lineal births) (b : Birth)
      (hp : ∀ p ∈ b.parent, p ∈ births.map Birth.id) : Lineal (births ++ [b])

namespace Lineal

/-- Every name is spelled by the births from a root down to its own. -/
theorem spelled (h : Lineal births) : ∀ b ∈ births, ∃ ancestors ⊆ births,
    b.id.spelled = (ancestors ++ [b]).flatMap Birth.segment := by
  induction h with
  | nil => exact fun b hb => by cases hb
  | @born births h b hp ih =>
    intro a ha
    rcases List.mem_append.mp ha with ha | ha
    · obtain ⟨ancestors, hsub, hspelled⟩ := ih a ha
      exact ⟨ancestors, List.subset_append_of_subset_left _ hsub, hspelled⟩
    · obtain rfl := List.mem_singleton.mp ha
      cases hparent : a.parent with
      | none =>
        refine ⟨[], List.nil_subset _, ?_⟩
        rw [List.nil_append, List.flatMap_singleton]
        exact Birth.spelled_root hparent
      | some p =>
        obtain ⟨parent, hmem, rfl⟩ := List.mem_map.mp (hp p hparent)
        obtain ⟨ancestors, hsub, hspelled⟩ := ih parent hmem
        refine ⟨ancestors ++ [parent], ?_, ?_⟩
        · exact List.subset_append_of_subset_left _ (concat_subset hsub hmem)
        · rw [List.flatMap_append, List.flatMap_singleton, ← hspelled]
          exact Birth.spelled_child hparent

/-- No two objects of a lineage have the same name. -/
theorem nodup_id (h : Lineal births) (hunique : (births.map Birth.unique).Nodup)
    (hlength : ∀ b ∈ births, b.unique.length = n) : (births.map Birth.id).Nodup := by
  have hinj : ∀ a ∈ births, ∀ a' ∈ births, a.unique = a'.unique → a = a' :=
    fun a ha a' ha' => List.inj_on_of_nodup_map hunique ha ha'
  refine hunique.of_map.map_on fun b hb b' hb' heq => ?_
  obtain ⟨ancestors, hsub, hspelled⟩ := h.spelled b hb
  obtain ⟨ancestors', hsub', hspelled'⟩ := h.spelled b' hb'
  rw [heq, hspelled'] at hspelled
  have hpath :=
    eq_of_spelled hinj hlength (concat_subset hsub' hb') (concat_subset hsub hb) hspelled
  exact (List.singleton_inj.mp (List.append_inj_right' hpath rfl)).symm

end Lineal

end MediaPlane
