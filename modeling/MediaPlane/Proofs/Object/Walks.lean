import MediaPlane.Proofs.Object.Forest

/-
  The walks through the forest, without their bounds. Going up from parent to parent and going down
  from generation to generation are loops that stop where nothing is ahead of them; in a forest they
  always stop, and what they have met then are the ancestors (`Forest.ends_climb`) and the
  descendants (`Forest.ends_descend`). The way up is a chain of parents to a root
  (`Forest.ascent`), and the way down meets each parent before its children
  (`Forest.parent_precedes`).
-/

namespace MediaPlane

/-- Repeating a step leads from `s` to `t`, where there is no step to be made. -/
inductive Ends {σ : Type} (step : σ → Option σ) : σ → σ → Prop where
  | stop {s : σ} (h : step s = none) : Ends step s s
  | next {s mid t : σ} (h : step s = some mid) (ht : Ends step mid t) : Ends step s t

/-- In a list that goes by `R`, one of two members comes before the other if that may not come
before it. -/
theorem sublist_of_pairwise {α : Type} {R : α → α → Prop} {l : List α} {a b : α}
    (hl : l.Pairwise R) (ha : a ∈ l) (hb : b ∈ l) (hne : a ≠ b) (hba : ¬ R b a) :
    [a, b].Sublist l := by
  induction l with
  | nil => cases ha
  | cons x l ih =>
    obtain ⟨hx, hl⟩ := List.pairwise_cons.mp hl
    rcases List.mem_cons.mp ha with rfl | ha'
    · have hb' := (List.mem_cons.mp hb).resolve_left hne.symm
      exact (List.singleton_sublist.mpr hb').cons_cons a
    · rcases List.mem_cons.mp hb with rfl | hb'
      · exact absurd (hx a ha') hba
      · exact (ih hl ha' hb').cons x

namespace Registry

variable {r : Registry} {a c p x : ObjectId}

/-! ## The way up -/

/-- An object and what stands above it, up to the root. -/
def path (r : Registry) (x : ObjectId) : List ObjectId := x :: r.ancestors x

/-- A way from an object to a root: from each object to its parent, nowhere twice, over live objects
only, and it ends where there is no parent. -/
structure Ascent (r : Registry) (x : ObjectId) (way : List ObjectId) : Prop where
  starts : way.head? = some x
  climbs : way.IsChain fun c p => r.parentOf c = some p
  nodup : way.Nodup
  live : ∀ a ∈ way, r.contains a = true
  ends : ∃ root, way.getLast? = some root ∧ r.parentOf root = none ∧ r.rootOf x = .ok root

theorem Forest.isChain_path (h : r.Forest) (x : ObjectId) :
    (r.path x).IsChain fun c p => r.parentOf c = some p := by
  induction x using h.root_induction with
  | root x hp =>
    rw [path, h.ancestors_eq, hp]
    exact List.IsChain.singleton x
  | below x p hp ih =>
    rw [path, h.ancestors_eq, hp]
    exact List.IsChain.cons_cons hp ih

/-- The way up stops only where there is no parent. -/
theorem Forest.parentOf_getLast (h : r.Forest) (x : ObjectId) :
    ∃ root, (r.path x).getLast? = some root ∧ r.parentOf root = none := by
  induction x using h.root_induction with
  | root x hp =>
    refine ⟨x, ?_, hp⟩
    rw [path, h.ancestors_eq, hp]
    rfl
  | below x p hp ih =>
    obtain ⟨root, hlast, hroot⟩ := ih
    refine ⟨root, ?_, hroot⟩
    rw [path, h.ancestors_eq, hp]
    exact hlast

theorem rootOf_eq (hx : r.contains x = true) {root : ObjectId}
    (hlast : (r.path x).getLast? = some root) : r.rootOf x = .ok root := by
  rw [path, List.getLast?_cons] at hlast
  rw [rootOf, if_pos hx, Option.some.inj hlast]

theorem Forest.ascent (h : r.Forest) (hx : r.contains x = true) : r.Ascent x (r.path x) where
  starts := rfl
  climbs := h.isChain_path x
  nodup := h.nodup_walk r.objects.size x
  live := fun _ ha => h.live_of_mem_walk r.objects.size hx ha
  ends := by
    obtain ⟨root, hlast, hroot⟩ := h.parentOf_getLast x
    exact ⟨root, hlast, hroot, rootOf_eq hx hlast⟩

/-! ## The loops -/

/-- A walk under way: what it has met, and what is ahead of it. -/
structure Walk (α : Type) where
  met : List ObjectId
  ahead : α

/-- A round of the walk up meets the parent that is ahead, and goes on to the parent of that. -/
def climb? (r : Registry) : Walk (Option ObjectId) → Option (Walk (Option ObjectId))
  | ⟨_, none⟩ => none
  | ⟨met, some p⟩ => some ⟨met ++ [p], r.parentOf p⟩

/-- A round of the walk down meets the generation that is ahead, and goes on to the children of its
objects. -/
def descend? (r : Registry) : Walk (List ObjectId) → Option (Walk (List ObjectId))
  | ⟨_, []⟩ => none
  | ⟨met, x :: xs⟩ => some ⟨met ++ x :: xs, (x :: xs).flatMap r.childrenOf⟩

/-- The walk up ends, whatever it has met before. -/
theorem Forest.ends_climb_from (h : r.Forest) (x : ObjectId) (met : List ObjectId) :
    Ends r.climb? ⟨met, r.parentOf x⟩ ⟨met ++ r.ancestors x, none⟩ := by
  induction x using h.root_induction generalizing met with
  | root x hp =>
    rw [h.ancestors_eq, hp, List.append_nil]
    exact .stop rfl
  | below x p hp ih =>
    have hrest := ih (met ++ [p])
    rw [List.append_assoc, List.singleton_append] at hrest
    rw [h.ancestors_eq, hp]
    exact .next rfl hrest

theorem Forest.ends_climb (h : r.Forest) (x : ObjectId) :
    Ends r.climb? ⟨[], r.parentOf x⟩ ⟨r.ancestors x, none⟩ := h.ends_climb_from x []

theorem Forest.depth_lt (h : r.Forest) (hx : r.contains x = true) : r.depth x < r.objects.size :=
  h.length_walk_lt r.objects.size hx

/-- Generations get deeper and no object is deeper than there are objects, so a walk down that may
make as many rounds as are left until then runs out of objects first. -/
theorem Forest.ends_descend_from (h : r.Forest) (n d : Nat) (met fs : List ObjectId)
    (hd : ∀ f ∈ fs, r.contains f = true ∧ r.depth f = d) (hn : r.objects.size ≤ n + d) :
    Ends r.descend? ⟨met, fs⟩ ⟨met ++ r.generations n fs, []⟩ := by
  induction n generalizing d met fs with
  | zero =>
    cases fs with
    | nil =>
      rw [generations, List.append_nil]
      exact .stop rfl
    | cons f fs =>
      -- No rounds are left, so `f` would be deeper than there are objects.
      obtain ⟨hlive, hdepth⟩ := hd f List.mem_cons_self
      have hlt := h.depth_lt hlive
      omega
  | succ n ih =>
    cases fs with
    | nil =>
      rw [generations, List.append_nil]
      exact .stop rfl
    | cons f fs =>
      have hdeep : ∀ c ∈ (f :: fs).flatMap r.childrenOf,
          r.contains c = true ∧ r.depth c = d + 1 := by
        intro c hc
        obtain ⟨p, -, hcp⟩ := List.mem_flatMap.mp hc
        exact ⟨contains_of_parentOf (h.mem_children.mp hcp),
          h.depth_of_mem_next (fun f hf => (hd f hf).2) hc⟩
      have hrest := ih (d + 1) (met ++ f :: fs) _ hdeep (by omega)
      rw [List.append_assoc] at hrest
      rw [generations_cons]
      exact .next rfl hrest

theorem Forest.ends_descend (h : r.Forest) (x : ObjectId) :
    Ends r.descend? ⟨[], r.childrenOf x⟩ ⟨r.descendants x, []⟩ := by
  refine h.ends_descend_from r.objects.size (r.depth x + 1) [] _ (fun c hc => ?_) (by omega)
  have hparent := h.mem_children.mp hc
  exact ⟨contains_of_parentOf hparent, h.depth_of_parentOf hparent⟩

/-- Nothing is above or below an object that is not there. -/
theorem Forest.walks_of_dead (h : r.Forest) (hx : r.contains x = false) :
    r.ancestors x = [] ∧ r.descendants x = [] := by
  constructor
  · refine List.eq_nil_iff_forall_not_mem.mpr fun a ha => ?_
    obtain ⟨p, hp, -⟩ := h.mem_ancestors.mp ha
    rw [contains_of_parentOf hp] at hx
    cases hx
  · refine List.eq_nil_iff_forall_not_mem.mpr fun d hd => ?_
    obtain ⟨p, hp, hw⟩ := h.mem_ancestors.mp (h.mem_descendants.mp hd)
    rw [h.contains_of_within (h.parent_live hp) hw] at hx
    cases hx

/-! ## The order of the way down -/

/-- Generation after generation, the objects get no shallower. -/
theorem Forest.pairwise_generations (h : r.Forest) (n d : Nat) (fs : List ObjectId)
    (hd : ∀ f ∈ fs, r.depth f = d) :
    (r.generations n fs).Pairwise fun a b => r.depth a ≤ r.depth b := by
  induction n generalizing d fs with
  | zero => exact List.Pairwise.nil
  | succ n ih =>
    cases fs with
    | nil => exact List.Pairwise.nil
    | cons f fs =>
      rw [generations_cons]
      have hdeep : ∀ c ∈ (f :: fs).flatMap r.childrenOf, r.depth c = d + 1 :=
        fun _ => h.depth_of_mem_next hd
      have hsame : (f :: fs).Pairwise fun a b => r.depth a ≤ r.depth b := by
        refine List.pairwise_of_forall_mem_list fun a ha b hb => ?_
        exact Nat.le_of_eq ((hd a ha).trans (hd b hb).symm)
      refine List.pairwise_append.mpr ⟨hsame, ih (d + 1) _ hdeep, fun a ha b hb => ?_⟩
      rw [hd a ha]
      exact Nat.le_of_succ_le (h.le_depth_of_mem_generations hdeep hb)

theorem Forest.pairwise_descendants (h : r.Forest) (a : ObjectId) :
    (r.descendants a).Pairwise fun x y => r.depth x ≤ r.depth y :=
  h.pairwise_generations r.objects.size (r.depth a + 1) (r.childrenOf a)
    fun _ hc => h.depth_of_parentOf (h.mem_children.mp hc)

/-- On the way down, every object but those of the first generation comes after its parent. -/
theorem Forest.parent_precedes (h : r.Forest) (hc : c ∈ r.descendants a)
    (hp : r.parentOf c = some p) : p = a ∨ [p, c].Sublist (r.descendants a) := by
  have habove : a ∈ r.ancestors c := h.mem_descendants.mp hc
  rw [h.ancestors_eq, hp] at habove
  -- Below `a`, but not in its first generation: then the parent is below `a` too.
  refine (List.mem_cons.mp habove).imp Eq.symm fun ha => ?_
  have hdepth := h.depth_of_parentOf hp
  refine sublist_of_pairwise (h.pairwise_descendants a) (h.mem_descendants.mpr ha) hc ?_ (by omega)
  rintro rfl
  omega

end Registry

end MediaPlane
