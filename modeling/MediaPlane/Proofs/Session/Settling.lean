import MediaPlane.Proofs.Session.Closing

/-
  The other changes of the tables, each of which leaves settled holdings settled: sessions come and
  restart their idle time, live objects are touched, annotated, or added by a session that holds
  them at once, and at the end everything goes.
-/

namespace MediaPlane

namespace Registry

variable {r : Registry} {x o : ObjectId} {ids : List ObjectId}

/-! ## Taking out trees, and all of them -/

theorem Forest.removeAll (h : r.Forest) (ids : List ObjectId) :
    Cut r (r.removeAll ids).1 (r.removeAll ids).2 ∧ (r.removeAll ids).2.Forest := by
  induction ids generalizing r with
  | nil => exact ⟨Cut.refl r, h⟩
  | cons id ids ih =>
    obtain ⟨hcut, hf⟩ := ih (h.forest_remove id)
    exact ⟨(h.cut_remove id).trans hcut, hf⟩

theorem Forest.mem_removeAll (h : r.Forest) :
    x ∈ (r.removeAll ids).1.map (·.id) ↔
      r.contains x = true ∧ ∃ o ∈ ids, r.Within x o := by
  induction ids generalizing r with
  | nil => simp [Registry.removeAll]
  | cons id ids ih =>
    have hcut := h.cut_remove id
    have hf := h.forest_remove id
    show x ∈ ((r.remove id).1 ++ ((r.remove id).2.removeAll ids).1).map (·.id) ↔ _
    rw [List.map_append, List.mem_append, ih hf]
    simp only [List.mem_cons, exists_eq_or_imp]
    by_cases hx : x ∈ (r.remove id).1.map (·.id)
    · have hmem := h.mem_remove.mp hx
      simp only [hx, hcut.live_of_mem hx, hmem.2, true_or, and_self]
    · have hout : r.contains x = true → ¬ r.Within x id := fun hlive hw =>
        hx (h.mem_remove.mpr ⟨h.contains_of_within hlive hw, hw⟩)
      rw [or_iff_right hx, hcut.contains_iff]
      simp only [hx, not_false_eq_true, and_true]
      refine and_congr_right fun hlive => ?_
      rw [or_iff_right (hout hlive)]
      simp only [hcut.within_iff hf (hcut.contains_iff.mpr ⟨hlive, hx⟩)]

theorem Indexed.mem_roots (h : r.Indexed) :
    o ∈ r.roots ↔ r.contains o = true ∧ r.parentOf o = none := by
  unfold roots all
  rw [List.mem_map]
  constructor
  · rintro ⟨m, hm, rfl⟩
    obtain ⟨hm, hroot⟩ := List.mem_filter.mp hm
    obtain ⟨p, hp, rfl⟩ := List.mem_map.mp hm
    have hfind : r.find? p.1 = some p.2 := Std.ExtTreeMap.mem_toList_iff_getElem?_eq_some.mp hp
    rw [h.id_eq hfind]
    refine ⟨contains_iff.mpr ⟨p.2, hfind⟩, ?_⟩
    rw [parentOf, hfind]
    exact Option.isNone_iff_eq_none.mp hroot
  · rintro ⟨hlive, hroot⟩
    obtain ⟨m, hm⟩ := contains_iff.mp hlive
    rw [parentOf, hm] at hroot
    refine ⟨m, List.mem_filter.mpr ⟨List.mem_map.mpr ⟨(o, m), ?_, rfl⟩, ?_⟩, h.id_eq hm⟩
    · exact Std.ExtTreeMap.mem_toList_iff_getElem?_eq_some.mpr hm
    · exact Option.isNone_iff_eq_none.mpr hroot

/-- Every live object stands in the tree of a root. -/
theorem Forest.exists_root (h : r.Forest) (hx : r.contains x = true) :
    ∃ o ∈ r.roots, r.Within x o := by
  induction x using h.root_induction with
  | root x hp => exact ⟨x, h.mem_roots.mpr ⟨hx, hp⟩, Within.refl r x⟩
  | below x p hp ih =>
    obtain ⟨o, ho, hpo⟩ := ih (h.parent_live hp)
    exact ⟨o, ho, (within_of_parentOf hp).trans hpo⟩

theorem Forest.mem_drain (h : r.Forest) :
    x ∈ r.drain.1.map (·.id) ↔ r.contains x = true := by
  unfold drain
  rw [h.mem_removeAll]
  exact ⟨And.left, fun hx => ⟨hx, h.exists_root hx⟩⟩

theorem Forest.contains_drain (h : r.Forest) (x : ObjectId) : r.drain.2.contains x = false := by
  rw [← Bool.not_eq_true]
  intro hx
  obtain ⟨hlive, hout⟩ := (h.removeAll r.roots).1.contains_iff.mp hx
  exact hout (h.mem_drain.mpr hlive)

end Registry

namespace SessionTable

variable {t : SessionTable}

theorem removeSessions_cons (t : SessionTable) (s : SessionId) (ss : List SessionId) :
    t.removeSessions (s :: ss) =
      (((t.removeSession? s).map (·.2)).getD t).removeSessions ss := rfl

theorem find?_removeSessions (t : SessionTable) (ss : List SessionId) (u : SessionId) :
    (t.removeSessions ss).find? u = if u ∈ ss then none else t.find? u := by
  induction ss generalizing t with
  | nil => simp [removeSessions]
  | cons s ss ih =>
    have hhead : (((t.removeSession? s).map (·.2)).getD t).find? u =
        if s = u then none else t.find? u := by
      cases hr : t.removeSession? s with
      | none =>
        have hnone : t.find? s = none := by
          rw [removeSession?_eq_none_iff, contains_eq] at hr
          exact Option.not_isSome_iff_eq_none.mp (by simp [hr])
        simp only [Option.map_none, Option.getD_none]
        split
        · next hu => rw [← hu, hnone]
        · rfl
      | some p => exact find?_removeSession? hr u
    rw [removeSessions_cons, ih, hhead]
    by_cases hu : s = u
    · simp [hu]
    · simp [hu, Ne.symm hu]

theorem mirrored_removeSessions (hm : t.Mirrored) (ss : List SessionId) :
    (t.removeSessions ss).Mirrored := by
  induction ss generalizing t with
  | nil => exact hm
  | cons s ss ih =>
    rw [removeSessions_cons]
    cases hr : t.removeSession? s with
    | none => exact ih hm
    | some p => exact ih (mirrored_removeSession? hm hr)

theorem find?_removeSessions_ids (t : SessionTable) (u : SessionId) :
    (t.removeSessions t.ids).find? u = none := by
  rw [find?_removeSessions]
  split
  · rfl
  · next hu =>
    refine Std.ExtTreeMap.getElem?_eq_none fun hm => hu ?_
    exact Std.ExtTreeMap.mem_keys.mpr hm

end SessionTable

namespace Holdings

variable {h : Holdings} {x : ObjectId} {s : SessionId}

theorem settled_empty : empty.Settled where
  forest := Registry.forest_empty
  mirrored := SessionTable.mirrored_empty
  held_live := by
    rintro x ⟨s, k, hk⟩
    simp [empty, SessionTable.reference?, SessionTable.find?] at hk
  needed := by
    intro x hx
    simp [empty, Registry.contains] at hx

/-- Where nothing is live and nothing is held there is nothing to settle. -/
theorem settled_of_void (hf : h.registry.Forest) (hm : h.sessions.Mirrored)
    (hdead : ∀ x, h.registry.contains x = false) (hnone : ∀ s, h.sessions.find? s = none) :
    h.Settled where
  forest := hf
  mirrored := hm
  held_live := by
    rintro x ⟨s, k, hk⟩
    rw [SessionTable.reference?_eq_none_of_find? (hnone s)] at hk
    cases hk
  needed := by
    intro x hx
    rw [hdead x] at hx
    cases hx

/-- Everything goes. -/
theorem settled_drained (hs : h.Settled) :
    Settled { registry := h.registry.drain.2,
              sessions := h.sessions.removeSessions h.sessions.ids } :=
  settled_of_void (hs.forest.removeAll _).2 (SessionTable.mirrored_removeSessions hs.mirrored _)
    hs.forest.contains_drain (SessionTable.find?_removeSessions_ids h.sessions)

/-- Sessions may come, and be busy or quiet, as long as the references stay. -/
theorem Settled.withSessions (hs : h.Settled) {t : SessionTable} (hm : t.Mirrored)
    (hr : ∀ u x, t.reference? u x = h.sessions.reference? u x) :
    { h with sessions := t }.Settled := by
  have hheld : ∀ x, t.Held x ↔ h.sessions.Held x := by
    intro x
    simp only [SessionTable.Held, hr]
  refine { toWellFormed := hs.toWellFormed.withSessions hm fun hx => (hheld _).mp hx, needed := ?_ }
  intro x hx
  obtain ⟨y, hy, hh⟩ := hs.needed hx
  exact ⟨y, hy, (hheld y).mpr hh⟩

theorem held_touch {t : SessionTable} (s : SessionId) (o x : ObjectId) (k : Strength) (now : Nat) :
    (t.touch s o k now).Held x ↔ o = x ∨ t.Held x := by
  simp only [SessionTable.Held, SessionTable.reference?_touch]
  constructor
  · rintro ⟨u, l, hl⟩
    split at hl
    · next hc => exact Or.inl hc.2
    · exact Or.inr ⟨u, l, hl⟩
  · rintro (rfl | ⟨u, l, hl⟩)
    · exact ⟨s, _, if_pos ⟨rfl, rfl⟩⟩
    · by_cases hc : s = u ∧ o = x
      · exact ⟨u, _, if_pos hc⟩
      · exact ⟨u, l, by rw [if_neg hc, hl]⟩

theorem settled_touch (hs : h.Settled) (hx : h.registry.contains x = true) (s : SessionId)
    (k : Strength) (now : Nat) : { h with sessions := h.sessions.touch s x k now }.Settled where
  forest := hs.forest
  mirrored := SessionTable.mirrored_touch hs.mirrored s x k now
  held_live := by
    intro y hy
    rcases (held_touch s x y k now).mp hy with rfl | hy
    · exact hx
    · exact hs.held_live hy
  needed := by
    intro y hy
    obtain ⟨z, hz, hheld⟩ := hs.needed hy
    exact ⟨z, hz, (held_touch s x z k now).mpr (Or.inr hheld)⟩

theorem settled_update (hs : h.Settled) (id : ObjectId) (f : MediaObject → MediaObject) :
    { h with registry := h.registry.update id f }.Settled := by
  have hwithin : ∀ {y x}, h.registry.Within y x → (h.registry.update id f).Within y x := by
    intro y x hy
    exact hy.congr fun _ _ _ _ hp => by rw [Registry.parentOf_update]; exact hp
  refine { forest := Registry.forest_update hs.forest id f, mirrored := hs.mirrored,
           held_live := ?_, needed := ?_ }
  · intro y hy
    show (h.registry.update id f).contains y = true
    rw [Registry.contains_update]
    exact hs.held_live hy
  · intro y hy
    have hy : (h.registry.update id f).contains y = true := hy
    rw [Registry.contains_update] at hy
    obtain ⟨z, hz, hheld⟩ := hs.needed hy
    exact ⟨z, hwithin hz, hheld⟩

/-- A new object is held by the session that asked for it. -/
theorem settled_put (hs : h.Settled) {o : MediaObject} {r : Registry}
    (hp : h.registry.put o = .ok r) (s : SessionId) (k : Strength) (now : Nat) :
    Settled { registry := r, sessions := h.sessions.touch s o.id k now } := by
  have hlive : r.contains o.id = true := by
    rw [Registry.contains_put hp]
    simp
  have hwithin : ∀ {y x}, h.registry.Within y x → r.Within y x := by
    intro y x hy
    refine hy.congr fun c p _ _ hc => ?_
    rw [Registry.parentOf_put hp, if_neg, hc]
    intro heq
    have hfresh := (Registry.put_ok hp).1
    rw [heq, Registry.contains_of_parentOf hc] at hfresh
    cases hfresh
  refine { forest := Registry.forest_put hs.forest hp,
           mirrored := SessionTable.mirrored_touch hs.mirrored s o.id k now,
           held_live := ?_, needed := ?_ }
  · intro y hy
    rcases (held_touch s o.id y k now).mp hy with rfl | hy
    · exact hlive
    · show r.contains y = true
      rw [Registry.contains_put hp, hs.held_live hy]
      simp
  · intro y hy
    have hy : r.contains y = true := hy
    rw [Registry.contains_put hp] at hy
    by_cases hc : o.id = y
    · subst hc
      exact ⟨o.id, Registry.Within.refl r o.id, (held_touch s o.id o.id k now).mpr (Or.inl rfl)⟩
    · have hold : h.registry.contains y = true := by simpa [hc] using hy
      obtain ⟨z, hz, hheld⟩ := hs.needed hold
      exact ⟨z, hwithin hz, (held_touch s o.id z k now).mpr (Or.inr hheld)⟩

end Holdings

end MediaPlane
