import MediaPlane.Proofs.Object.Forest

/-
  How the registry changes. Adding and changing one object keeps the forest (`forest_put`,
  `forest_update`). `Cut r gone s` says that `s` is `r` with exactly the objects `gone` taken out,
  each once; cuts compose, and above what survives a cut nothing changes. A removal is a cut of one
  tree (`Forest.cut_remove`, `Forest.mem_remove`), and what it leaves is a forest
  (`Forest.forest_remove`).
-/

namespace MediaPlane

namespace Registry

variable {r s : Registry} {a c p x id : ObjectId} {o : MediaObject}

/-! ## Adding and changing one object -/

/-- A successful `put` adds a new object below a live parent, if it has a parent. -/
theorem put_ok (h : r.put o = .ok s) :
    r.contains o.id = false ∧ (∀ p, o.parent = some p → r.contains p = true) ∧
      (s.children = match o.parent with
        | none => r.children
        | some p => addChild r.children p o.id) ∧
      s.live = s.objects.size := by
  unfold put at h
  split at h
  · cases h
  · next hnew =>
    have hnew : r.contains o.id = false := by simpa using hnew
    cases hp : o.parent with
    | none =>
      simp only [hp] at h
      cases h
      exact ⟨hnew, fun p hp => by (cases hp), rfl, rfl⟩
    | some p =>
      simp only [hp] at h
      split at h
      · next hlive =>
        cases h
        exact ⟨hnew, fun q hq => by (cases hq; exact hlive), rfl, rfl⟩
      · cases h

theorem parentOf_put (h : r.put o = .ok s) (k : ObjectId) :
    s.parentOf k = if o.id = k then o.parent else r.parentOf k := by
  unfold parentOf
  rw [find?_put h]
  split <;> rfl

theorem contains_put (h : r.put o = .ok s) (k : ObjectId) :
    s.contains k = true ↔ o.id = k ∨ r.contains k = true := by
  rw [contains_eq, contains_eq, find?_put h]
  split
  · next hk => simp [hk]
  · next hk => simp [hk]

theorem listed_put (h : r.put o = .ok s) :
    Listed s.children p c ↔ (o.parent = some p ∧ c = o.id) ∨ Listed r.children p c := by
  obtain ⟨-, -, hch, -⟩ := put_ok h
  rw [hch]
  cases hp : o.parent with
  | none => simp
  | some q => simp [listed_addChild, eq_comm]

/-- The index lists the new object below its parent, and everything else where it was. -/
theorem mem_childrenOf_put (hf : r.Forest) (h : r.put o = .ok s) :
    c ∈ s.childrenOf p ↔ s.parentOf c = some p ∧ s.contains p = true := by
  obtain ⟨hnew, hparent, -, -⟩ := put_ok h
  have hroot : r.parentOf o.id = none := by
    cases hp : r.parentOf o.id with
    | none => rfl
    | some p =>
      rw [contains_of_parentOf hp] at hnew
      cases hnew
  rw [mem_childrenOf_iff, listed_put h, ← mem_childrenOf_iff, hf.mem_children, parentOf_put h,
    contains_put h]
  by_cases hc : o.id = c
  · subst hc
    simp only [hroot, if_true]
    constructor
    · rintro (⟨hp, -⟩ | hp)
      · exact ⟨hp, Or.inr (hparent p hp)⟩
      · cases hp
    · rintro ⟨hp, -⟩
      exact Or.inl ⟨hp, trivial⟩
  · simp only [if_neg hc]
    constructor
    · rintro (⟨-, hid⟩ | hp)
      · exact absurd hid.symm hc
      · exact ⟨hp, Or.inr (hf.parent_live hp)⟩
    · rintro ⟨hp, -⟩
      exact Or.inr hp

/-- The new object is above nothing, so it may come right after its parent. -/
theorem ranked_put (hf : r.Forest) (h : r.put o = .ok s) :
    ∃ rank : ObjectId → Nat, ∀ {c p}, s.parentOf c = some p → rank p < rank c := by
  obtain ⟨hnew, hparent, -, -⟩ := put_ok h
  obtain ⟨rank, hr⟩ := hf.ranked
  refine ⟨fun k => if k = o.id then (o.parent.map fun p => rank p + 1).getD 0 else rank k, ?_⟩
  intro c p hp
  rw [parentOf_put h] at hp
  have hne : p ≠ o.id := by
    rintro rfl
    have hlive : r.contains o.id = true := by
      split at hp
      · exact hparent _ hp
      · exact hf.parent_live hp
    rw [hlive] at hnew
    cases hnew
  split at hp
  · next hc => simp [← hc, hp, hne]
  · next hc =>
    simp only [if_neg hne, if_neg (Ne.symm hc)]
    exact hr hp

theorem forest_put (hf : r.Forest) (h : r.put o = .ok s) : s.Forest := by
  obtain ⟨-, hparent, hch, hlive⟩ := put_ok h
  refine { id_eq := ?_, mem_childrenOf := mem_childrenOf_put hf h, none_empty := ?_,
           ranked := ranked_put hf h, parent_live := ?_, live_eq := hlive }
  · intro id o' ho
    rw [find?_put h] at ho
    split at ho
    · next hid =>
      cases ho
      exact hid
    · exact hf.id_eq ho
  · rw [hch]
    cases o.parent with
    | none => exact hf.none_empty
    | some p => exact noneEmpty_addChild hf.none_empty p o.id
  · intro c p hp
    rw [parentOf_put h] at hp
    rw [contains_put h]
    split at hp
    · exact Or.inr (hparent p hp)
    · exact Or.inr (hf.parent_live hp)

theorem contains_update (r : Registry) (id k : ObjectId) (f : MediaObject → MediaObject) :
    (r.update id f).contains k = r.contains k := by
  rw [contains_eq, contains_eq, find?_update]
  split
  · next hk =>
    subst hk
    cases r.find? id <;> rfl
  · rfl

theorem children_update (r : Registry) (id : ObjectId) (f : MediaObject → MediaObject) :
    (r.update id f).children = r.children := by
  unfold update
  cases r.find? id <;> rfl

theorem forest_update (hf : r.Forest) (id : ObjectId) (f : MediaObject → MediaObject) :
    (r.update id f).Forest := by
  refine { id_eq := ?_, mem_childrenOf := ?_, none_empty := ?_, ranked := ?_, parent_live := ?_,
           live_eq := ?_ }
  · intro k o ho
    rw [find?_update] at ho
    split at ho
    · next hk =>
      obtain ⟨o', ho', heq⟩ := Option.map_eq_some_iff.mp ho
      rw [← heq, ← hk]
      show o'.id = id
      exact hf.id_eq ho'
    · exact hf.id_eq ho
  · intro c p
    rw [mem_childrenOf_iff, children_update, ← mem_childrenOf_iff, hf.mem_childrenOf,
      parentOf_update, contains_update]
  · rw [children_update]
    exact hf.none_empty
  · obtain ⟨rank, hr⟩ := hf.ranked
    refine ⟨rank, fun hp => ?_⟩
    rw [parentOf_update] at hp
    exact hr hp
  · intro c p hp
    rw [parentOf_update] at hp
    rw [contains_update]
    exact hf.parent_live hp
  · unfold update
    cases ho : r.find? id with
    | none => exact hf.live_eq
    | some o =>
      have hin : r.objects.contains id = true := contains_iff.mpr ⟨o, ho⟩
      simp only
      rw [hf.live_eq, Std.ExtTreeMap.size_insert, if_pos hin]

/-! ## Taking objects out -/

theorem contains_unlink (r : Registry) (id k : ObjectId) :
    (r.unlink id).contains k = true ↔ k ≠ id ∧ r.contains k = true := by
  rw [contains_eq, contains_eq, find?_unlink]
  by_cases hk : id = k
  · simp [hk]
  · simp [hk, Ne.symm hk]

theorem parentOf_unlink (r : Registry) (id k : ObjectId) :
    (r.unlink id).parentOf k = if id = k then none else r.parentOf k := by
  unfold parentOf
  rw [find?_unlink]
  split <;> rfl

theorem listed_unlink (r : Registry) (id : ObjectId) :
    Listed (r.unlink id).children p c ↔
      p ≠ id ∧ ¬ (r.parentOf id = some p ∧ c = id) ∧ Listed r.children p c := by
  unfold unlink parentOf
  cases ho : r.find? id with
  | none => simp [listed_erase]
  | some o =>
    cases hp : o.parent with
    | none => simp [hp, listed_erase]
    | some q =>
      simp only [hp, Option.bind_some, Option.some.injEq]
      rw [listed_dropChild, listed_erase]
      constructor
      · rintro ⟨hne, hpid, hl⟩
        exact ⟨hpid, fun ⟨hq, hc⟩ => hne ⟨hq.symm, hc⟩, hl⟩
      · rintro ⟨hpid, hne, hl⟩
        exact ⟨fun ⟨hq, hc⟩ => hne ⟨hq.symm, hc⟩, hpid, hl⟩

theorem noneEmpty_unlink (h : NoneEmpty r.children) (id : ObjectId) :
    NoneEmpty (r.unlink id).children := by
  unfold unlink
  cases r.find? id with
  | none => exact noneEmpty_erase h id
  | some o =>
    cases hp : o.parent with
    | none =>
      simp only [hp]
      exact noneEmpty_erase h id
    | some q =>
      simp only [hp]
      exact noneEmpty_dropChild (noneEmpty_erase h id) q id

theorem indexed_unlink (h : r.Indexed) (id : ObjectId) : (r.unlink id).Indexed := by
  refine { id_eq := ?_, mem_childrenOf := ?_, none_empty := noneEmpty_unlink h.none_empty id,
           ranked := ?_ }
  · intro k o ho
    rw [find?_unlink] at ho
    split at ho
    · cases ho
    · exact h.id_eq ho
  · intro c p
    rw [mem_childrenOf_iff, listed_unlink, ← mem_childrenOf_iff, h.mem_childrenOf, contains_unlink,
      parentOf_unlink]
    by_cases hc : id = c
    · subst hc
      simp only [and_true, if_true]
      constructor
      · rintro ⟨-, hne, hp, -⟩
        exact absurd hp hne
      · rintro ⟨hp, -⟩
        cases hp
    · simp only [if_neg hc]
      constructor
      · rintro ⟨hpid, -, hp, hl⟩
        exact ⟨hp, hpid, hl⟩
      · rintro ⟨hp, hpid, hl⟩
        exact ⟨hpid, fun hcid => hc hcid.2.symm, hp, hl⟩
  · obtain ⟨rank, hr⟩ := h.ranked
    refine ⟨rank, fun hp => ?_⟩
    rw [parentOf_unlink] at hp
    split at hp
    · cases hp
    · exact hr hp

theorem unlinkAll_cons (r : Registry) (id : ObjectId) (ids : List ObjectId) :
    r.unlinkAll (id :: ids) =
      ((r.find? id).toList ++ ((r.unlink id).unlinkAll ids).1, ((r.unlink id).unlinkAll ids).2) :=
  rfl

theorem find?_unlinkAll (r : Registry) (ids : List ObjectId) (k : ObjectId) :
    (r.unlinkAll ids).2.find? k = if k ∈ ids then none else r.find? k := by
  induction ids generalizing r with
  | nil => simp [unlinkAll]
  | cons id ids ih =>
    rw [unlinkAll_cons, ih, find?_unlink]
    by_cases hk : id = k
    · simp [hk]
    · simp [Ne.symm hk, hk]

theorem indexed_unlinkAll (h : r.Indexed) (ids : List ObjectId) :
    (r.unlinkAll ids).2.Indexed := by
  induction ids generalizing r with
  | nil => exact h
  | cons id ids ih =>
    rw [unlinkAll_cons]
    exact ih (indexed_unlink h id)

theorem fst_unlinkAll (r : Registry) (ids : List ObjectId) (hn : ids.Nodup) :
    (r.unlinkAll ids).1 = ids.filterMap r.find? := by
  induction ids generalizing r with
  | nil => rfl
  | cons id ids ih =>
    obtain ⟨hid, hn⟩ := List.nodup_cons.mp hn
    have hsame : ids.filterMap (r.unlink id).find? = ids.filterMap r.find? := by
      refine List.filterMap_congr fun k hk => ?_
      rw [find?_unlink, if_neg]
      rintro rfl
      exact hid hk
    rw [unlinkAll_cons, ih _ hn, hsame]
    cases ho : r.find? id <;> simp [ho]

/-- `s` is `r` with exactly the objects `gone` taken out, each once. -/
structure Cut (r : Registry) (gone : List MediaObject) (s : Registry) : Prop where
  find?_eq : ∀ x, s.find? x = if x ∈ gone.map (·.id) then none else r.find? x
  taken : ∀ o ∈ gone, r.find? o.id = some o
  nodup : (gone.map (·.id)).Nodup

namespace Cut

variable {t : Registry} {gone more : List MediaObject}

theorem refl (r : Registry) : Cut r [] r :=
  ⟨fun _ => rfl, fun _ h => by (cases h), List.nodup_nil⟩

theorem trans (h : Cut r gone s) (h' : Cut s more t) : Cut r (gone ++ more) t := by
  refine ⟨?_, ?_, ?_⟩
  · intro x
    rw [h'.find?_eq, h.find?_eq]
    by_cases h1 : x ∈ gone.map (·.id) <;> by_cases h2 : x ∈ more.map (·.id) <;>
      simp only [List.map_append, List.mem_append, h1, h2, or_true, or_false, or_self, if_true,
        if_false]
  · intro o ho
    rcases List.mem_append.mp ho with ho | ho
    · exact h.taken o ho
    · have hs := h'.taken o ho
      rw [h.find?_eq] at hs
      split at hs
      · cases hs
      · exact hs
  · rw [List.map_append]
    refine List.nodup_append.mpr ⟨h.nodup, h'.nodup, ?_⟩
    rintro x hx y hy rfl
    obtain ⟨o, ho, rfl⟩ := List.mem_map.mp hy
    have hs := h'.taken o ho
    rw [h.find?_eq, if_pos hx] at hs
    cases hs

theorem contains_iff (h : Cut r gone s) :
    s.contains x = true ↔ r.contains x = true ∧ x ∉ gone.map (·.id) := by
  rw [contains_eq, contains_eq, h.find?_eq]
  split
  · next hx => simp [hx]
  · next hx => simp only [hx, not_false_eq_true, and_true]

theorem parentOf_eq (h : Cut r gone s) (x : ObjectId) :
    s.parentOf x = if x ∈ gone.map (·.id) then none else r.parentOf x := by
  unfold parentOf
  rw [h.find?_eq]
  split <;> rfl

theorem parentOf_of (h : Cut r gone s) (hp : s.parentOf c = some p) : r.parentOf c = some p := by
  rw [h.parentOf_eq] at hp
  split at hp
  · cases hp
  · exact hp

theorem within_of (h : Cut r gone s) (hw : s.Within x a) : r.Within x a :=
  hw.congr fun _ _ _ _ hp => h.parentOf_of hp

/-- What was live before is taken out or still there. -/
theorem live_of_mem (h : Cut r gone s) (hx : x ∈ gone.map (·.id)) : r.contains x = true := by
  obtain ⟨o, ho, rfl⟩ := List.mem_map.mp hx
  exact Registry.contains_iff.mpr ⟨o, h.taken o ho⟩

/-- What is left tells what was taken out. -/
theorem perm {s' : Registry} {gone' : List MediaObject} (h : Cut r gone s) (h' : Cut r gone' s')
    (hlive : ∀ x, s.contains x = true ↔ s'.contains x = true) :
    (gone.map (·.id)).Perm (gone'.map (·.id)) := by
  refine (List.perm_ext_iff_of_nodup h.nodup h'.nodup).mpr fun x => ?_
  have hx := hlive x
  rw [h.contains_iff, h'.contains_iff] at hx
  constructor
  · intro hin
    by_contra hout
    exact (hx.mpr ⟨h.live_of_mem hin, hout⟩).2 hin
  · intro hin
    by_contra hout
    exact (hx.mp ⟨h'.live_of_mem hin, hout⟩).2 hin

/-- What was taken out is known by its ids. -/
theorem perm_objects {s' : Registry} {gone' : List MediaObject} (h : Cut r gone s)
    (h' : Cut r gone' s') (hperm : (gone.map (·.id)).Perm (gone'.map (·.id))) :
    gone.Perm gone' := by
  have hfound : ∀ {objects : List MediaObject}, (∀ o ∈ objects, r.find? o.id = some o) →
      (objects.map (·.id)).filterMap r.find? = objects := by
    intro objects htaken
    induction objects with
    | nil => rfl
    | cons o objects ih =>
      rw [List.map_cons, List.filterMap_cons_some (htaken o List.mem_cons_self),
        ih fun p hp => htaken p (List.mem_cons_of_mem o hp)]
  rw [← hfound h.taken, ← hfound h'.taken]
  exact hperm.filterMap r.find?

/-- Above a surviving object nothing changes, provided that what is left is a forest. -/
theorem within_iff (h : Cut r gone s) (hs : s.Forest) (hx : s.contains x = true) :
    s.Within x a ↔ r.Within x a := by
  refine ⟨h.within_of, fun hw => ?_⟩
  induction hw using Relation.ReflTransGen.head_induction_on with
  | refl => exact Within.refl s a
  | @head c p hp _ ih =>
    have hout := (h.contains_iff.mp hx).2
    have hp' : s.parentOf c = some p := by
      rw [h.parentOf_eq, if_neg hout]
      exact hp
    exact within_iff_head.mpr (Or.inr ⟨p, hp', ih (hs.parent_live hp')⟩)

end Cut

/-- A part closed under children may go: what is left is a forest. -/
theorem Cut.forest {gone : List MediaObject} (h : Cut r gone s) (hf : r.Forest) (hi : s.Indexed)
    (hlive : s.live = s.objects.size)
    (hdown : ∀ {c p}, p ∈ gone.map (·.id) → r.parentOf c = some p → c ∈ gone.map (·.id)) :
    s.Forest := by
  refine { toIndexed := hi, parent_live := ?_, live_eq := hlive }
  intro c p hp
  rw [h.parentOf_eq] at hp
  split at hp
  · cases hp
  · next hc => exact h.contains_iff.mpr ⟨hf.parent_live hp, fun hin => hc (hdown hin hp)⟩

theorem pairwise_childrenOf (r : Registry) (p : ObjectId) :
    (r.childrenOf p).Pairwise fun a b => compare a b = .lt := by
  unfold childrenOf
  cases r.children[p]? with
  | none => exact List.Pairwise.nil
  | some cs => exact Std.ExtTreeSet.ordered_toList

/-- An object keeps its children in their order, but for those that are taken out. -/
theorem Cut.childrenOf_eq {gone : List MediaObject} (h : Cut r gone s) (hr : r.Forest)
    (hs : s.Forest) (p : ObjectId) :
    s.childrenOf p = (r.childrenOf p).filter fun c => c ∉ gone.map (·.id) := by
  have hmem : ∀ c, c ∈ s.childrenOf p ↔
      c ∈ (r.childrenOf p).filter fun c => c ∉ gone.map (·.id) := by
    intro c
    rw [hs.mem_children, h.parentOf_eq, List.mem_filter, hr.mem_children, decide_eq_true_eq]
    split
    · next hc => simp only [hc, not_true_eq_false, and_false, reduceCtorEq]
    · next hc => simp only [hc, not_false_eq_true, and_true]
  have hperm := (List.perm_ext_iff_of_nodup (nodup_childrenOf s p)
    ((nodup_childrenOf r p).filter _)).mpr hmem
  refine List.Perm.eq_of_pairwise ?_ (pairwise_childrenOf s p)
    ((pairwise_childrenOf r p).filter _) hperm
  intro a b _ _ hab hba
  exact absurd hba (Std.OrientedCmp.not_lt_of_lt hab)

theorem remove_of_dead (h : r.contains id = false) : r.remove id = ([], r) := by
  simp [remove, h]

theorem remove_of_live (h : r.contains id = true) :
    r.remove id =
      ((r.unlinkAll ((r.descendants id).reverse ++ [id])).1,
        { (r.unlinkAll ((r.descendants id).reverse ++ [id])).2 with
          live := (r.unlinkAll ((r.descendants id).reverse ++ [id])).2.objects.size }) := by
  simp [remove, h]

/-- What a removal takes out, in its order: what is below the object, and then itself. -/
theorem Forest.mem_removal (h : r.Forest) :
    x ∈ (r.descendants id).reverse ++ [id] ↔ r.Within x id := by
  rw [List.mem_append, List.mem_reverse, List.mem_singleton, h.mem_descendants,
    h.within_iff_mem_ancestors, or_comm]

theorem Forest.nodup_removal (h : r.Forest) (id : ObjectId) :
    ((r.descendants id).reverse ++ [id]).Nodup := by
  refine List.nodup_append.mpr ⟨List.nodup_reverse.mpr (h.nodup_descendants id), by simp, ?_⟩
  rintro x hx y hy rfl
  rw [List.mem_reverse, h.mem_descendants, h.mem_ancestors] at hx
  rw [List.mem_singleton] at hy
  subst hy
  obtain ⟨p, hp, hw⟩ := hx
  exact h.not_within_of_parentOf hp hw

theorem Forest.map_id_filterMap (h : r.Forest) (ids : List ObjectId)
    (hl : ∀ x ∈ ids, r.contains x = true) : (ids.filterMap r.find?).map (·.id) = ids := by
  induction ids with
  | nil => rfl
  | cons x ids ih =>
    obtain ⟨o, ho⟩ := contains_iff.mp (hl x List.mem_cons_self)
    rw [List.filterMap_cons_some ho, List.map_cons, h.id_eq ho,
      ih fun y hy => hl y (List.mem_cons_of_mem _ hy)]

theorem Forest.map_id_remove (h : r.Forest) (hl : r.contains id = true) :
    (r.remove id).1.map (·.id) = (r.descendants id).reverse ++ [id] := by
  rw [remove_of_live hl]
  simp only
  rw [fst_unlinkAll r _ (h.nodup_removal id)]
  refine h.map_id_filterMap _ fun x hx => ?_
  exact contains_of_within_live hl (h.mem_removal.mp hx)

/-- A removal takes out the tree of a live object. -/
theorem Forest.mem_remove (h : r.Forest) :
    x ∈ (r.remove id).1.map (·.id) ↔ r.contains id = true ∧ r.Within x id := by
  cases hl : r.contains id with
  | false => simp [remove_of_dead hl]
  | true => rw [h.map_id_remove hl, h.mem_removal, eq_self, true_and]

theorem Forest.cut_remove (h : r.Forest) (id : ObjectId) :
    Cut r (r.remove id).1 (r.remove id).2 := by
  cases hl : r.contains id with
  | false =>
    rw [remove_of_dead hl]
    exact Cut.refl r
  | true =>
    refine ⟨?_, ?_, ?_⟩
    · intro x
      rw [h.map_id_remove hl, remove_of_live hl]
      exact find?_unlinkAll r _ x
    · intro o ho
      rw [remove_of_live hl] at ho
      simp only at ho
      rw [fst_unlinkAll r _ (h.nodup_removal id)] at ho
      obtain ⟨x, -, hx⟩ := List.mem_filterMap.mp ho
      rw [h.id_eq hx]
      exact hx
    · rw [h.map_id_remove hl]
      exact h.nodup_removal id

theorem Forest.forest_remove (h : r.Forest) (id : ObjectId) : (r.remove id).2.Forest := by
  cases hl : r.contains id with
  | false =>
    rw [remove_of_dead hl]
    exact h
  | true =>
    have hi : (r.remove id).2.Indexed := by
      have hall := indexed_unlinkAll h.toIndexed ((r.descendants id).reverse ++ [id])
      rw [remove_of_live hl]
      exact ⟨hall.id_eq, hall.mem_childrenOf, hall.none_empty, hall.ranked⟩
    have hlive : (r.remove id).2.live = (r.remove id).2.objects.size := by
      rw [remove_of_live hl]
    refine (h.cut_remove id).forest h hi hlive fun hp hc => ?_
    rw [h.mem_remove] at hp ⊢
    exact ⟨hl, within_iff_head.mpr (Or.inr ⟨_, hc, hp.2⟩)⟩

theorem forest_empty : empty.Forest := by
  refine { id_eq := ?_, mem_childrenOf := ?_, none_empty := ?_, ranked := ⟨fun _ => 0, ?_⟩,
           parent_live := ?_, live_eq := rfl }
  · intro id o ho
    simp [empty, find?] at ho
  · intro c p
    simp [empty, childrenOf, parentOf, find?]
  · intro p cs hp
    simp [empty] at hp
  · intro c p hp
    simp [empty, parentOf, find?] at hp
  · intro c p hp
    simp [empty, parentOf, find?] at hp

/-- A forest without objects is the empty one. -/
theorem Forest.eq_empty (h : r.Forest) (hnone : ∀ x, r.contains x = false) : r = empty := by
  refine h.eq_of_find? forest_empty fun x => ?_
  have hx := hnone x
  rw [contains_eq, Option.isSome_eq_false_iff, Option.isNone_iff_eq_none] at hx
  rw [hx]
  simp [empty, find?]

end Registry

end MediaPlane
