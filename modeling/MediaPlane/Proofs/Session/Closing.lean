import MediaPlane.Proofs.Session.Collection

/-
  References dropped and sessions closed. Either way some objects lose a holder, and a collection
  from them settles the holdings again (`settled_dropReferences`, `settled_close`). A forced close
  first destroys the trees of owned objects, one after the other, each decision being made in what
  the earlier ones left. `mem_destroyOwned`: the decisions do not get into each other's way, so
  what goes are the trees of those owned objects that nobody else claimed at the start.
-/

namespace MediaPlane

namespace Holdings

open Registry (Cut)

variable {h next : Holdings} {gone : List MediaObject} {ids cs : List ObjectId}
  {x y o : ObjectId} {s u : SessionId}

/-! ## What a collection has to look at -/

/-- Where settled holdings lost objects and references, the unneeded is covered by what was lost
alone, and by what stands where trees were taken out. -/
theorem Settled.covers (hs : h.Settled) (hcut : Cut h.registry gone next.registry)
    (hf : next.registry.Forest)
    (hlost : ∀ {y}, h.sessions.Held y → ¬ next.sessions.Held y → y ∉ gone.map (·.id) → y ∈ cs)
    (htaken : ∀ {x y}, next.registry.contains x = true → y ∈ gone.map (·.id) →
      h.registry.Within y x → ∃ p ∈ cs, next.registry.Within p x) :
    next.Covers cs := by
  intro x hx hunneeded
  obtain ⟨y, hy, hheld⟩ := hs.needed (hcut.contains_iff.mp hx).1
  by_cases hgone : y ∈ gone.map (·.id)
  · exact htaken hx hgone hy
  · have hlive := hcut.contains_iff.mpr ⟨hs.held_live hheld, hgone⟩
    have hwithin := (hcut.within_iff hf hlive).mpr hy
    exact ⟨y, hlost hheld (fun hh => hunneeded ⟨y, hwithin, hh⟩) hgone, hwithin⟩

/-- Fewer references of the same objects are well-formed as well. -/
theorem WellFormed.withSessions (hw : h.WellFormed) {t : SessionTable} (hm : t.Mirrored)
    (hle : ∀ {y}, t.Held y → h.sessions.Held y) : { h with sessions := t }.WellFormed :=
  ⟨hw.forest, hm, fun hy => hw.held_live (hle hy)⟩

/-! ## Dropped references -/

theorem mirrored_dropReferences {t : SessionTable} (hm : t.Mirrored) (s : SessionId)
    (ids : List ObjectId) : (ids.foldl (fun t o => t.dropReference s o) t).Mirrored := by
  induction ids generalizing t with
  | nil => exact hm
  | cons o ids ih => exact ih (SessionTable.mirrored_dropReference hm s o)

theorem reference?_dropReferences (t : SessionTable) (s u : SessionId) (ids : List ObjectId)
    (x : ObjectId) :
    (ids.foldl (fun t o => t.dropReference s o) t).reference? u x =
      if s = u ∧ x ∈ ids then none else t.reference? u x := by
  induction ids generalizing t with
  | nil => simp
  | cons o ids ih =>
    rw [List.foldl_cons, ih, SessionTable.reference?_dropReference]
    by_cases hs : s = u
    · by_cases ho : o = x
      · simp [hs, ho]
      · simp [hs, ho, Ne.symm ho]
    · simp [hs]

theorem find?_dropReferences (t : SessionTable) (ids : List ObjectId) (hu : u ≠ s) :
    (ids.foldl (fun t o => t.dropReference s o) t).find? u = t.find? u := by
  induction ids generalizing t with
  | nil => rfl
  | cons o ids ih => rw [List.foldl_cons, ih, SessionTable.find?_dropReference, if_neg hu.symm]

/-- The holdings once a session does not hold any of these objects. -/
def dropped (h : Holdings) (s : SessionId) (ids : List ObjectId) : Holdings :=
  { h with sessions := ids.foldl (fun t o => t.dropReference s o) h.sessions }

theorem held_of_dropped (hx : (h.dropped s ids).sessions.Held x) : h.sessions.Held x := by
  obtain ⟨u, k, hu⟩ := hx
  rw [dropped, reference?_dropReferences] at hu
  split at hu
  · cases hu
  · exact ⟨u, k, hu⟩

theorem WellFormed.dropped (hw : h.WellFormed) (s : SessionId) (ids : List ObjectId) :
    (h.dropped s ids).WellFormed :=
  hw.withSessions (mirrored_dropReferences hw.mirrored s ids) held_of_dropped

/-- A session drops references, and a collection from those objects settles the holdings. -/
theorem settled_dropReferences (hs : h.Settled) (s : SessionId) (ids : List ObjectId) :
    ((h.dropped s ids).collect ids).2.Settled := by
  have hw := hs.toWellFormed.dropped s ids
  refine settled_collect hw (hs.covers (Cut.refl h.registry) hw.forest ?_ ?_)
  · intro y hheld hlost _
    by_contra hy
    obtain ⟨u, k, hu⟩ := hheld
    refine hlost ⟨u, k, ?_⟩
    rw [Holdings.dropped, reference?_dropReferences, if_neg fun hc => hy hc.2]
    exact hu
  · intro x y _ hy
    simp at hy

/-! ## Claims -/

/-- Some session strongly holds the object or one below it. -/
def Claimed (h : Holdings) (o : ObjectId) : Prop :=
  ∃ y, h.registry.Within y o ∧ ∃ u, h.sessions.reference? u y = some .strong

theorem WellFormed.isClaimed_iff (hw : h.WellFormed) : h.isClaimed o = true ↔ h.Claimed o := by
  unfold isClaimed Claimed
  rw [Bool.or_eq_true, List.any_eq_true, hw.mirrored.hasStrongReference_iff]
  constructor
  · rintro (ho | ⟨y, hy, hstrong⟩)
    · exact ⟨o, Registry.Within.refl _ o, ho⟩
    · have hy' := hw.forest.mem_descendants.mp hy
      exact ⟨y, hw.forest.within_iff_mem_ancestors.mpr (Or.inr hy'),
        hw.mirrored.hasStrongReference_iff.mp hstrong⟩
  · rintro ⟨y, hy, hstrong⟩
    rcases hw.forest.within_iff_mem_ancestors.mp hy with rfl | hy'
    · exact Or.inl hstrong
    · exact Or.inr ⟨y, hw.forest.mem_descendants.mpr hy',
        hw.mirrored.hasStrongReference_iff.mpr hstrong⟩

/-- Taking out a tree that nobody claims leaves every object's claims as they are. -/
theorem WellFormed.claimed_remove (hw : h.WellFormed) (hfree : ¬ h.Claimed o) :
    (h.remove o).2.Claimed x ↔ h.Claimed x := by
  have ht := hw.taken_remove o
  constructor
  · rintro ⟨y, hy, u, hu⟩
    rw [ht.reference?_eq] at hu
    split at hu
    · cases hu
    · exact ⟨y, ht.cut.within_of hy, u, hu⟩
  · rintro ⟨y, hy, u, hu⟩
    have hout : y ∉ (h.remove o).1.map (·.id) := fun hin =>
      hfree ⟨y, (hw.mem_remove.mp hin).2, u, hu⟩
    have hlive : (h.remove o).2.registry.contains y = true :=
      ht.cut.contains_iff.mpr ⟨hw.held_live ⟨u, _, hu⟩, hout⟩
    refine ⟨y, (ht.cut.within_iff (hw.wellFormed_remove o).forest hlive).mpr hy, u, ?_⟩
    rw [ht.reference?_eq, if_neg hout]
    exact hu

/-! ## Owned trees -/

theorem destroyOwned_of_free (hw : h.WellFormed) (hlive : h.registry.contains o = true)
    (hfree : ¬ h.Claimed o) (ids : List ObjectId) :
    h.destroyOwned (o :: ids) =
      ((h.remove o).1 ++ ((h.remove o).2.destroyOwned ids).1,
        (h.registry.parentOf o).toList ++ ((h.remove o).2.destroyOwned ids).2.1,
        ((h.remove o).2.destroyOwned ids).2.2) := by
  have hclaimed : h.isClaimed o = false := by
    rw [← Bool.not_eq_true, hw.isClaimed_iff]
    exact hfree
  simp only [destroyOwned, hlive, hclaimed, Bool.not_false, Bool.and_self, if_true]

theorem destroyOwned_of_not_free (hw : h.WellFormed)
    (hkept : ¬ (h.registry.contains o = true ∧ ¬ h.Claimed o)) (ids : List ObjectId) :
    h.destroyOwned (o :: ids) = h.destroyOwned ids := by
  have htest : ¬ (h.registry.contains o && !h.isClaimed o) = true := by
    rw [Bool.and_eq_true, Bool.not_eq_true', ← Bool.not_eq_true, hw.isClaimed_iff]
    exact hkept
  rw [destroyOwned, if_neg htest]

theorem WellFormed.destroyOwned (hw : h.WellFormed) (ids : List ObjectId) :
    Taken h (h.destroyOwned ids).1 (h.destroyOwned ids).2.2 ∧
      (h.destroyOwned ids).2.2.WellFormed := by
  induction ids generalizing h with
  | nil => exact ⟨Taken.refl h, hw⟩
  | cons o ids ih =>
    by_cases hfree : h.registry.contains o = true ∧ ¬ h.Claimed o
    · obtain ⟨ht, hwell⟩ := ih (hw.wellFormed_remove o)
      rw [destroyOwned_of_free hw hfree.1 hfree.2]
      exact ⟨(hw.taken_remove o).trans ht, hwell⟩
    · rw [destroyOwned_of_not_free hw hfree]
      exact ih hw

/-- What goes are the trees of the objects that nobody claims, whatever their order. -/
theorem WellFormed.mem_destroyOwned (hw : h.WellFormed) :
    x ∈ (h.destroyOwned ids).1.map (·.id) ↔
      h.registry.contains x = true ∧ ∃ o ∈ ids, ¬ h.Claimed o ∧ h.registry.Within x o := by
  induction ids generalizing h with
  | nil => simp [Holdings.destroyOwned]
  | cons o ids ih =>
    simp only [List.mem_cons, exists_eq_or_imp]
    by_cases hfree : h.registry.contains o = true ∧ ¬ h.Claimed o
    · have hcut := (hw.taken_remove o).cut
      have hf := (hw.wellFormed_remove o).forest
      rw [destroyOwned_of_free hw hfree.1 hfree.2, List.map_append, List.mem_append,
        hw.mem_remove, ih (hw.wellFormed_remove o)]
      by_cases hx : x ∈ (h.remove o).1.map (·.id)
      · have hmem := hw.mem_remove.mp hx
        have hlive := hcut.live_of_mem hx
        simp only [hmem, hlive, hfree.2, not_false_eq_true, and_self, true_or]
      · -- Below a survivor's ancestors nothing was decided yet.
        have hout : ¬ (h.registry.contains o = true ∧ h.registry.Within x o) := fun hc =>
          hx (hw.mem_remove.mpr hc)
        have hnot : ¬ h.registry.Within x o := fun hc => hout ⟨hfree.1, hc⟩
        simp only [hnot, and_false, false_or, hw.claimed_remove hfree.2, hcut.contains_iff, hx,
          not_false_eq_true, and_true]
        refine and_congr_right fun hlive => ?_
        have hlive' := hcut.contains_iff.mpr ⟨hlive, hx⟩
        simp only [hcut.within_iff hf hlive']
    · rw [destroyOwned_of_not_free hw hfree, ih hw]
      refine and_congr_right fun hlive => ?_
      have hno : ¬ (¬ h.Claimed o ∧ h.registry.Within x o) := fun ⟨hclaim, hwithin⟩ =>
        hfree ⟨hw.forest.contains_of_within hlive hwithin, hclaim⟩
      rw [or_iff_right hno]

/-- Where a tree was taken out below a survivor, the parent of some such tree is looked at again,
and it survived. -/
theorem WellFormed.parents_destroyOwned (hw : h.WellFormed)
    (hx : (h.destroyOwned ids).2.2.registry.contains x = true)
    (hy : y ∈ (h.destroyOwned ids).1.map (·.id)) (hyx : h.registry.Within y x) :
    ∃ p ∈ (h.destroyOwned ids).2.1, (h.destroyOwned ids).2.2.registry.Within p x := by
  induction ids generalizing h y with
  | nil => simp [Holdings.destroyOwned] at hy
  | cons o ids ih =>
    by_cases hfree : h.registry.contains o = true ∧ ¬ h.Claimed o
    · have hwell := hw.wellFormed_remove o
      have hcut := (hw.taken_remove o).cut
      have hrest := hwell.destroyOwned ids
      rw [destroyOwned_of_free hw hfree.1 hfree.2] at hx hy ⊢
      simp only at hx hy ⊢
      have hx' := (hrest.1.cut.contains_iff.mp hx).1
      have hout := (hcut.contains_iff.mp hx').2
      rw [List.map_append, List.mem_append] at hy
      rcases hy with hy | hy
      · -- The tree of `o` hangs below the survivor; go on from the parent of `o`.
        have hyo := (hw.mem_remove.mp hy).2
        have hnot : ¬ h.registry.Within x o := fun hc => hout (hw.mem_remove.mpr ⟨hfree.1, hc⟩)
        have hox := (hyo.linear hyx).resolve_right hnot
        obtain rfl | ⟨p, hp, hpx⟩ := Registry.within_iff_head.mp hox
        · exact absurd (Registry.Within.refl _ o) hnot
        · have hpout : p ∉ (h.remove o).1.map (·.id) := fun hc =>
            hw.forest.not_within_of_parentOf hp (hw.mem_remove.mp hc).2
          have hplive : (h.remove o).2.registry.contains p = true :=
            hcut.contains_iff.mpr ⟨hw.forest.parent_live hp, hpout⟩
          have hpx' := (hcut.within_iff hwell.forest hplive).mpr hpx
          by_cases hgone : p ∈ ((h.remove o).2.destroyOwned ids).1.map (·.id)
          · obtain ⟨q, hq, hqx⟩ := ih hwell hx hgone hpx'
            exact ⟨q, List.mem_append_right _ hq, hqx⟩
          · have hsurvives := hrest.1.cut.contains_iff.mpr ⟨hplive, hgone⟩
            refine ⟨p, List.mem_append_left _ (by simp [hp]), ?_⟩
            exact (hrest.1.cut.within_iff hrest.2.forest hsurvives).mpr hpx'
      · have hylive := hrest.1.cut.live_of_mem hy
        have hyx' := (hcut.within_iff hwell.forest hylive).mpr hyx
        obtain ⟨q, hq, hqx⟩ := ih hwell hx hy hyx'
        exact ⟨q, List.mem_append_right _ hq, hqx⟩
    · rw [destroyOwned_of_not_free hw hfree] at hx hy ⊢
      exact ih hw hx hy hyx

theorem mem_owned {r : Registry} {refs : List (ObjectId × Strength)} :
    o ∈ owned r refs ↔ (o, .strong) ∈ refs := by
  simp [owned]

/-! ## Closing -/

/-- The objects that a close may destroy. -/
def destroyable (kind : CloseKind) (r : Registry) (refs : List (ObjectId × Strength)) :
    List ObjectId :=
  match kind with
  | .forced => owned r refs
  | _ => []

/-- The holdings after a session and what it alone owned are gone, before the collection. -/
def expelled (h : Holdings) (t : SessionTable) (ids : List ObjectId) : Holdings :=
  ({ h with sessions := t }.destroyOwned ids).2.2

/-- What goes with a session because it alone owned it. -/
def destroyed (h : Holdings) (t : SessionTable) (ids : List ObjectId) : List MediaObject :=
  ({ h with sessions := t }.destroyOwned ids).1

/-- What a close looks at: where trees were taken out, and what the session held. -/
def candidates (h : Holdings) (t : SessionTable) (ids : List ObjectId)
    (refs : List (ObjectId × Strength)) : List ObjectId :=
  ({ h with sessions := t }.destroyOwned ids).2.1 ++ refs.map (·.1)

theorem close_of_removeSession? {refs : List (ObjectId × Strength)} {t : SessionTable}
    {e : Session} {kind : CloseKind} (he : h.sessions.find? s = some e)
    (hr : h.sessions.removeSession? s = some (refs, t)) :
    h.close s kind =
      if closes kind e then
        let ids := destroyable kind h.registry refs
        let collection := (h.expelled t ids).collect (h.candidates t ids refs)
        .ok (some
          ({ forced := h.destroyed t ids, collected := collection.1 }, collection.2))
      else .ok none := by
  unfold close
  rw [he, hr]
  cases kind <;> rfl

/-- A close that goes through, step by step. -/
theorem close_ok {kind : CloseKind} {closure : Closure}
    (hc : h.close s kind = .ok (some (closure, next))) :
    ∃ refs t, h.sessions.removeSession? s = some (refs, t) ∧
      let ids := destroyable kind h.registry refs
      closure.forced = h.destroyed t ids ∧
        closure.collected = ((h.expelled t ids).collect (h.candidates t ids refs)).1 ∧
        next = ((h.expelled t ids).collect (h.candidates t ids refs)).2 := by
  cases hr : h.sessions.removeSession? s with
  | none =>
    unfold close at hc
    rw [hr] at hc
    split at hc
    · next heq => cases heq
    · cases hc
  | some rt =>
    obtain ⟨refs, t⟩ := rt
    obtain ⟨e, he, -⟩ := SessionTable.removeSession?_eq_some hr
    rw [close_of_removeSession? he hr] at hc
    split at hc
    · cases hc
      exact ⟨refs, t, rfl, rfl, rfl, rfl⟩
    · cases hc

variable {refs : List (ObjectId × Strength)} {t : SessionTable}

/-- With the session's entry out, an object is held if another session references it. -/
theorem held_iff_of_removeSession? (hr : h.sessions.removeSession? s = some (refs, t)) :
    t.Held x ↔ ∃ u, u ≠ s ∧ ∃ k, h.sessions.reference? u x = some k := by
  unfold SessionTable.Held
  simp only [SessionTable.reference?_removeSession? hr]
  constructor
  · rintro ⟨u, k, hk⟩
    split at hk
    · cases hk
    · next hne => exact ⟨u, Ne.symm hne, k, hk⟩
  · rintro ⟨u, hne, k, hk⟩
    exact ⟨u, k, by rw [if_neg hne.symm, hk]⟩

theorem held_of_removeSession? (hr : h.sessions.removeSession? s = some (refs, t))
    (hx : t.Held x) : h.sessions.Held x := by
  obtain ⟨u, -, k, hu⟩ := (held_iff_of_removeSession? hr).mp hx
  exact ⟨u, k, hu⟩

theorem WellFormed.removeSession? (hw : h.WellFormed)
    (hr : h.sessions.removeSession? s = some (refs, t)) : { h with sessions := t }.WellFormed :=
  hw.withSessions (SessionTable.mirrored_removeSession? hw.mirrored hr) (held_of_removeSession? hr)

theorem covers_expelled (hs : h.Settled) (hr : h.sessions.removeSession? s = some (refs, t))
    (ids : List ObjectId) : (h.expelled t ids).Covers (h.candidates t ids refs) := by
  have hw := hs.toWellFormed.removeSession? hr
  obtain ⟨ht, hwell⟩ := hw.destroyOwned ids
  refine hs.covers ht.cut hwell.forest ?_ ?_
  · intro y hheld hlost hout
    obtain ⟨u, k, hu⟩ := hheld
    refine List.mem_append_right _ ?_
    by_cases hsu : s = u
    · subst hsu
      exact List.mem_map.mpr ⟨(y, k), (SessionTable.mem_of_removeSession? hr).mpr hu, rfl⟩
    · -- Another session's reference would have stayed.
      refine absurd (ht.held_iff.mpr ⟨⟨u, k, ?_⟩, hout⟩) hlost
      rw [SessionTable.reference?_removeSession? hr, if_neg hsu]
      exact hu
  · intro x y hx hy hyx
    obtain ⟨p, hp, hpx⟩ := hw.parents_destroyOwned hx hy hyx
    exact ⟨p, List.mem_append_left _ hp, hpx⟩

/-- A closed session leaves settled holdings. -/
theorem settled_close (hs : h.Settled) {kind : CloseKind} {closure : Closure}
    (hc : h.close s kind = .ok (some (closure, next))) : next.Settled := by
  obtain ⟨refs, t, hr, -, -, rfl⟩ := close_ok hc
  have hw := (hs.toWellFormed.removeSession? hr).destroyOwned (destroyable kind h.registry refs)
  exact settled_collect hw.2 (covers_expelled hs hr _)

/-- What a close takes out, it takes out of every session that is left. -/
theorem taken_close (hs : h.Settled) {kind : CloseKind} {closure : Closure}
    (hr : h.sessions.removeSession? s = some (refs, t))
    (hc : h.close s kind = .ok (some (closure, next))) :
    Taken { h with sessions := t } (closure.forced ++ closure.collected) next := by
  obtain ⟨refs', t', hr', hforced, hcollected, rfl⟩ := close_ok hc
  rw [hr] at hr'
  cases hr'
  have hw := (hs.toWellFormed.removeSession? hr).destroyOwned (destroyable kind h.registry refs)
  rw [hforced, hcollected]
  exact hw.1.trans (hw.2.collect _).1

/-- Unless it is forced, a close destroys nothing before it collects. -/
theorem forced_close {kind : CloseKind} {closure : Closure}
    (hc : h.close s kind = .ok (some (closure, next))) (hkind : kind ≠ .forced) :
    closure.forced = [] := by
  obtain ⟨refs, t, -, hforced, -⟩ := close_ok hc
  rw [hforced]
  cases kind with
  | forced => exact absurd rfl hkind
  | soft | idle => rfl

/-- And it takes nothing from the sessions that are left. -/
theorem sessions_close (hs : h.Settled) {kind : CloseKind} {closure : Closure}
    (hr : h.sessions.removeSession? s = some (refs, t))
    (hc : h.close s kind = .ok (some (closure, next))) (hkind : kind ≠ .forced) :
    next.sessions = t := by
  obtain ⟨refs', t', hr', -, -, rfl⟩ := close_ok hc
  rw [hr] at hr'
  cases hr'
  have hw := (hs.toWellFormed.removeSession? hr).destroyOwned []
  cases kind with
  | forced => exact absurd rfl hkind
  | soft | idle => exact (hw.2.collect _).2.2

/-! ## What a forced close takes out -/

/-- The session strongly holds the object, and nobody else strongly holds it or anything below. -/
def OwnedAlone (h : Holdings) (s : SessionId) (o : ObjectId) : Prop :=
  h.sessions.reference? s o = some .strong ∧
    ∀ y u, u ≠ s → h.registry.Within y o → h.sessions.reference? u y ≠ some .strong

/-- The object stands in a tree that the session owns alone. -/
def Forfeited (h : Holdings) (s : SessionId) (x : ObjectId) : Prop :=
  ∃ o, h.OwnedAlone s o ∧ h.registry.Within x o

/-- The object is live and not forfeited, and nothing in its tree that is not forfeited either is
referenced by another session. -/
def Forsaken (h : Holdings) (s : SessionId) (x : ObjectId) : Prop :=
  h.registry.contains x = true ∧ ¬ h.Forfeited s x ∧
    ∀ y u, u ≠ s → h.registry.Within y x → ¬ h.Forfeited s y → h.sessions.reference? u y = none

theorem claimed_of_removeSession? (hr : h.sessions.removeSession? s = some (refs, t)) :
    { h with sessions := t }.Claimed o ↔
      ∃ y u, u ≠ s ∧ h.registry.Within y o ∧ h.sessions.reference? u y = some .strong := by
  unfold Claimed
  constructor
  · rintro ⟨y, hy, u, hu⟩
    rw [SessionTable.reference?_removeSession? hr] at hu
    split at hu
    · cases hu
    · next hne => exact ⟨y, u, Ne.symm hne, hy, hu⟩
  · rintro ⟨y, u, hne, hy, hu⟩
    refine ⟨y, hy, u, ?_⟩
    rw [SessionTable.reference?_removeSession? hr, if_neg hne.symm]
    exact hu

theorem WellFormed.mem_destroyed (hw : h.WellFormed)
    (hr : h.sessions.removeSession? s = some (refs, t)) :
    x ∈ (h.destroyed t (owned h.registry refs)).map (·.id) ↔ h.Forfeited s x := by
  unfold destroyed
  rw [(hw.removeSession? hr).mem_destroyOwned]
  simp only [mem_owned, SessionTable.mem_of_removeSession? hr, claimed_of_removeSession? hr]
  constructor
  · rintro ⟨-, o, ho, hfree, hx⟩
    refine ⟨o, ⟨ho, fun y u hne hy hu => hfree ⟨y, u, hne, hy, hu⟩⟩, hx⟩
  · rintro ⟨o, ⟨ho, hfree⟩, hx⟩
    have hlive : h.registry.contains o = true := hw.held_live ⟨s, _, ho⟩
    refine ⟨Registry.contains_of_within_live hlive hx, o, ho, ?_, hx⟩
    rintro ⟨y, u, hne, hy, hu⟩
    exact hfree y u hne hy hu

theorem contains_expelled (hw : h.WellFormed)
    (hr : h.sessions.removeSession? s = some (refs, t)) :
    (h.expelled t (owned h.registry refs)).registry.contains x = true ↔
      h.registry.contains x = true ∧ ¬ h.Forfeited s x := by
  rw [← hw.mem_destroyed hr]
  exact ((hw.removeSession? hr).destroyOwned _).1.cut.contains_iff

theorem held_expelled (hw : h.WellFormed)
    (hr : h.sessions.removeSession? s = some (refs, t)) :
    (h.expelled t (owned h.registry refs)).sessions.Held x ↔
      ¬ h.Forfeited s x ∧ ∃ u, u ≠ s ∧ ∃ k, h.sessions.reference? u x = some k := by
  rw [← hw.mem_destroyed hr, ← held_iff_of_removeSession? hr, and_comm]
  exact ((hw.removeSession? hr).destroyOwned _).1.held_iff

theorem mem_collected (hs : h.Settled) (hr : h.sessions.removeSession? s = some (refs, t)) :
    let ids := owned h.registry refs
    x ∈ ((h.expelled t ids).collect (h.candidates t ids refs)).1.map (·.id) ↔
      h.Forsaken s x := by
  intro ids
  obtain ⟨ht, hwell⟩ := (hs.toWellFormed.removeSession? hr).destroyOwned ids
  have hwell : (h.expelled t ids).WellFormed := hwell
  have hlive : (h.expelled t ids).registry.contains x = true ↔
      h.registry.contains x = true ∧ ¬ h.Forfeited s x := contains_expelled hs.toWellFormed hr
  have hheld : ∀ y, (h.expelled t ids).sessions.Held y ↔
      ¬ h.Forfeited s y ∧ ∃ u, u ≠ s ∧ ∃ k, h.sessions.reference? u y = some k :=
    fun y => held_expelled hs.toWellFormed hr
  rw [hwell.mem_collect_of_covers (covers_expelled hs hr ids), hlive, and_assoc]
  refine and_congr_right fun _ => and_congr_right fun _ => ?_
  constructor
  · intro hneeded y u hne hy hkept
    by_contra hsome
    obtain ⟨k, hk⟩ := Option.ne_none_iff_exists'.mp hsome
    have hh := (hheld y).mpr ⟨hkept, u, hne, k, hk⟩
    exact hneeded ⟨y, (ht.cut.within_iff hwell.forest (hwell.held_live hh)).mpr hy, hh⟩
  · rintro hnone ⟨y, hy, hh⟩
    obtain ⟨hkept, u, hne, k, hk⟩ := (hheld y).mp hh
    rw [hnone y u hne (ht.cut.within_of hy) hkept] at hk
    cases hk

end Holdings

end MediaPlane
