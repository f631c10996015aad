import MediaPlane.Proofs.Object.Walks
import MediaPlane.Proofs.Session.Settling

/-
  The order in which objects go. A removal takes a tree from its leaves up, and every route by which
  objects leave the registry is made of removals: a collection, the destruction of owned trees, a
  close, and the drain at the end. So whatever goes with its parent goes before it
  (`childrenFirst_collect`, `childrenFirst_close`, `childrenFirst_drain`), and nothing stays behind
  whose parent went (`Registry.Cut.down`).
-/

namespace MediaPlane

open Holdings (ChildrenFirst)

namespace Registry

variable {r s : Registry} {gone more : List MediaObject} {c p id : ObjectId}

/-! ## Cuts -/

/-- Where a forest is left, what stood below something that went has gone too. -/
theorem Cut.down (h : Cut r gone s) (hs : s.Forest) (hp : r.parentOf c = some p)
    (hgone : p ∈ gone.map (·.id)) : c ∈ gone.map (·.id) := by
  by_contra hc
  have hstill : s.parentOf c = some p := by rw [h.parentOf_eq, if_neg hc, hp]
  exact (h.contains_iff.mp (hs.parent_live hstill)).2 hgone

/-- Two cuts after each other keep the order, since the first leaves no child of what it takes. -/
theorem Cut.childrenFirst_append (h : Cut r gone s) (hs : s.Forest)
    (hmore : ∀ o ∈ more, s.contains o.id = true) (ho : ChildrenFirst r (gone.map (·.id)))
    (ho' : ChildrenFirst s (more.map (·.id))) :
    ChildrenFirst r ((gone ++ more).map (·.id)) := by
  have hstill : ∀ b ∈ more.map (·.id), ∀ a, r.parentOf b = some a → s.parentOf b = some a := by
    intro b hb a hp
    obtain ⟨o, ho, rfl⟩ := List.mem_map.mp hb
    rw [h.parentOf_eq, if_neg (h.contains_iff.mp (hmore o ho)).2, hp]
  rw [List.map_append]
  refine List.pairwise_append.mpr ⟨ho, ?_, ?_⟩
  · exact ho'.imp_of_mem fun {a b} _ hb hne hp => hne (hstill b hb a hp)
  · intro a ha b hb hp
    exact (h.contains_iff.mp (hs.parent_live (hstill b hb a hp))).2 ha

/-! ## One tree -/

/-- A removal takes out the deepest generation first, and the object itself last. -/
theorem Forest.childrenFirst_remove (h : r.Forest) (id : ObjectId) :
    ChildrenFirst r ((r.remove id).1.map (·.id)) := by
  cases hl : r.contains id with
  | false =>
    rw [remove_of_dead hl]
    exact List.Pairwise.nil
  | true =>
    rw [h.map_id_remove hl]
    refine List.pairwise_append.mpr ⟨?_, List.pairwise_singleton _ _, ?_⟩
    · refine List.pairwise_reverse.mpr ((h.pairwise_descendants id).imp fun {a b} hab hp => ?_)
      have hdepth := h.depth_of_parentOf hp
      omega
    · intro a ha b hb hp
      rw [List.mem_singleton] at hb
      subst hb
      refine h.not_within_of_parentOf hp ?_
      exact h.mem_removal.mp (List.mem_append_left _ ha)

/-! ## Tree after tree -/

theorem Forest.childrenFirst_removeAll (h : r.Forest) (ids : List ObjectId) :
    ChildrenFirst r ((r.removeAll ids).1.map (·.id)) := by
  induction ids generalizing r with
  | nil => exact List.Pairwise.nil
  | cons id ids ih =>
    have hf := h.forest_remove id
    exact (h.cut_remove id).childrenFirst_append hf
      (fun o ho => (hf.removeAll ids).1.live_of_mem (List.mem_map_of_mem ho))
      (h.childrenFirst_remove id) (ih hf)

theorem Forest.childrenFirst_drain (h : r.Forest) : ChildrenFirst r (r.drain.1.map (·.id)) :=
  h.childrenFirst_removeAll r.roots

end Registry

namespace Holdings

variable {h next : Holdings} {s : SessionId}

/-! ## Collections -/

theorem Consistent.childrenFirst_collectInOrder (hw : h.Consistent) (ids : List ObjectId) :
    ChildrenFirst h.registry ((h.collectInOrder ids).1.map (·.id)) := by
  induction ids generalizing h with
  | nil => exact List.Pairwise.nil
  | cons id ids ih =>
    by_cases hg : h.isGarbage id = true
    · have hnext := hw.consistent_remove id
      rw [collectInOrder_of_garbage hg]
      exact (hw.taken_remove id).cut.childrenFirst_append hnext.forest
        (fun o ho => (hnext.collectInOrder ids).1.cut.live_of_mem (List.mem_map_of_mem ho))
        (hw.forest.childrenFirst_remove id) (ih hnext)
    · rw [collectInOrder_of_not_garbage hg]
      exact ih hw

theorem Consistent.childrenFirst_collect (hw : h.Consistent) (cs : List ObjectId) :
    ChildrenFirst h.registry ((h.collect cs).1.map (·.id)) := hw.childrenFirst_collectInOrder _

/-! ## Closes -/

theorem WellFormed.childrenFirst_destroyOwned (hw : h.WellFormed) (ids : List ObjectId) :
    ChildrenFirst h.registry ((h.destroyOwned ids).1.map (·.id)) := by
  induction ids generalizing h with
  | nil => exact List.Pairwise.nil
  | cons o ids ih =>
    by_cases hfree : h.registry.contains o = true ∧ ¬ h.Claimed o
    · have hnext := hw.wellFormed_remove o
      rw [destroyOwned_of_free hw hfree.1 hfree.2]
      exact (hw.taken_remove o).cut.childrenFirst_append hnext.forest
        (fun m hm => (hnext.destroyOwned ids).1.cut.live_of_mem (List.mem_map_of_mem hm))
        (hw.forest.childrenFirst_remove o) (ih hnext)
    · rw [destroyOwned_of_not_free hw hfree]
      exact ih hw

/-- What a close destroys goes before what it collects, and each part goes from its leaves. -/
theorem childrenFirst_close (hs : h.Settled) {kind : CloseKind} {closure : Closure}
    (hc : h.close s kind = .ok (some (closure, next))) :
    ChildrenFirst h.registry ((closure.forced ++ closure.collected).map (·.id)) := by
  obtain ⟨refs, t, hr, hforced, hcollected, -⟩ := close_ok hc
  have hw := hs.toWellFormed.removeSession? hr
  obtain ⟨htaken, hwell⟩ := hw.destroyOwned (destroyable kind h.registry refs)
  rw [hforced, hcollected]
  exact htaken.cut.childrenFirst_append hwell.forest
    (fun o ho => (hwell.collect _).1.cut.live_of_mem (List.mem_map_of_mem ho))
    (hw.childrenFirst_destroyOwned _) (hwell.consistent.childrenFirst_collect _)

/-- What a close takes out of the registry. -/
theorem cut_close (hs : h.Settled) {kind : CloseKind} {closure : Closure}
    (hc : h.close s kind = .ok (some (closure, next))) :
    Registry.Cut h.registry (closure.forced ++ closure.collected) next.registry := by
  obtain ⟨refs, t, hr, -⟩ := close_ok hc
  exact (taken_close hs hr hc).cut

end Holdings

end MediaPlane
