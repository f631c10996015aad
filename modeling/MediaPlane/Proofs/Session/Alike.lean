import MediaPlane.Proofs.Session.Activity

/-
  Tables that say the same of who holds what. They may differ in when their sessions were last
  active, and in how many requests they count there (`SessionTable.Alike`). References are made,
  dropped and collected without a look at that: what is collected from alike tables is the same, and
  leaves alike tables (`Holdings.Alike.collect`).
-/

namespace MediaPlane

namespace SessionTable

variable {t u v : SessionTable}

/-- The same sessions hold the same objects. -/
structure Alike (t u : SessionTable) : Prop where
  references_eq : ∀ s, (u.find? s).map (·.references) = (t.find? s).map (·.references)
  holders_eq : u.holders = t.holders

namespace Alike

theorem refl (t : SessionTable) : t.Alike t := ⟨fun _ => rfl, rfl⟩

theorem symm (h : t.Alike u) : u.Alike t :=
  ⟨fun s => (h.references_eq s).symm, h.holders_eq.symm⟩

theorem trans (h : t.Alike u) (h' : u.Alike v) : t.Alike v :=
  ⟨fun s => (h'.references_eq s).trans (h.references_eq s), h'.holders_eq.trans h.holders_eq⟩

theorem reference?_eq (h : t.Alike u) (s : SessionId) (o : ObjectId) :
    u.reference? s o = t.reference? s o := by
  have hbind : ∀ w : SessionTable,
      w.reference? s o = ((w.find? s).map (·.references)).bind (·[o]?) := by
    intro w
    unfold reference?
    cases w.find? s <;> rfl
  rw [hbind, hbind, h.references_eq]

theorem contains_eq (h : t.Alike u) (s : SessionId) : u.contains s = t.contains s := by
  have hsome := congrArg Option.isSome (h.references_eq s)
  simpa only [SessionTable.contains_eq, Option.isSome_map] using hsome

theorem hasReferences_eq (h : t.Alike u) (o : ObjectId) :
    u.hasReferences o = t.hasReferences o := by
  unfold hasReferences
  rw [h.holders_eq]

end Alike

/-! ## Activity does not count -/

/-- A change that leaves the references alone. -/
theorem alike_update {f : Session → Session} (hf : ∀ e, (f e).references = e.references)
    (t : SessionTable) (s : SessionId) : t.Alike (t.update s f) := by
  refine ⟨fun k => ?_, holders_update t s f⟩
  rw [find?_update]
  split
  · next hk =>
    subst hk
    cases t.find? s with
    | none => rfl
    | some e => exact congrArg some (hf e)
  · rfl

theorem Alike.ensure (h : t.Alike u) (s : SessionId) (now : Nat) :
    (t.ensure s now).2.Alike (u.ensure s now).2 := by
  refine ⟨fun k => ?_, ?_⟩
  · rw [find?_ensure, find?_ensure]
    split
    · next hk =>
      subst hk
      have hs := h.references_eq s
      cases ht : t.find? s <;> cases hu : u.find? s <;> simp_all
    · exact h.references_eq k
  · rw [holders_ensure, holders_ensure, h.holders_eq]

theorem alike_update_ensure (t : SessionTable) (s : SessionId) (now : Nat) :
    (t.ensure s now).2.Alike (t.enter s now).2 :=
  alike_update (f := fun e => { e with inFlight := e.inFlight + 1, lastActivity := now })
    (fun _ => rfl) _ s

theorem Alike.enter (h : t.Alike u) (s : SessionId) (now : Nat) :
    (t.enter s now).2.Alike (u.enter s now).2 :=
  ((alike_update_ensure t s now).symm.trans (h.ensure s now)).trans (alike_update_ensure u s now)

theorem alike_leave (t : SessionTable) (s : SessionId) (now : Nat) : t.Alike (t.leave s now) :=
  alike_update (f := fun e => { e with inFlight := e.inFlight - 1, lastActivity := now })
    (fun _ => rfl) t s

theorem Alike.leave (h : t.Alike u) (s : SessionId) (now : Nat) :
    (t.leave s now).Alike (u.leave s now) :=
  ((alike_leave t s now).symm.trans h).trans (alike_leave u s now)

/-! ## References -/

theorem holders_touch (t : SessionTable) (s : SessionId) (o : ObjectId) (k : Strength)
    (now : Nat) :
    (t.touch s o k now).holders =
      t.holders.insert o
        ((t.holders[o]?.getD ∅).insert s (((t.reference? s o).getD k).max k)) := by
  have h : (t.ensure s now).2.find? s = some ((t.find? s).getD { lastActivity := now }) := by
    rw [find?_ensure, if_pos rfl]
  simp only [touch, h, holders_ensure, reference?]
  cases t.find? s <;> simp

theorem Alike.touch (h : t.Alike u) (s : SessionId) (o : ObjectId) (k : Strength) (now : Nat) :
    (t.touch s o k now).Alike (u.touch s o k now) := by
  refine ⟨fun x => ?_, ?_⟩
  · rw [find?_touch, find?_touch]
    split
    · next hx =>
      subst hx
      have hs := h.references_eq s
      cases ht : t.find? s <;> cases hu : u.find? s <;> simp_all
    · exact h.references_eq x
  · rw [holders_touch, holders_touch, h.holders_eq, h.reference?_eq]

theorem holders_dropReference (t : SessionTable) (s : SessionId) (o : ObjectId) :
    (t.dropReference s o).holders =
      if (t.reference? s o).isSome then dropHolder t.holders o s else t.holders := by
  unfold dropReference reference?
  cases t.find? s with
  | none => rfl
  | some e =>
    simp only [Option.bind_some, ← Std.ExtTreeMap.contains_eq_isSome_getElem?]
    split <;> rfl

theorem Alike.references_without_eq (h : t.Alike u) (s : SessionId) (o : ObjectId) :
    ((u.find? s).map (·.without o)).map (·.references) =
      ((t.find? s).map (·.without o)).map (·.references) := by
  have hmap : ∀ e : Option Session,
      (e.map (·.without o)).map (·.references) = (e.map (·.references)).map (·.erase o) := by
    intro e
    cases e <;> rfl
  rw [hmap, hmap, h.references_eq]

theorem Alike.dropReference (h : t.Alike u) (s : SessionId) (o : ObjectId) :
    (t.dropReference s o).Alike (u.dropReference s o) := by
  refine ⟨fun x => ?_, ?_⟩
  · rw [find?_dropReference, find?_dropReference]
    split
    · exact h.references_without_eq s o
    · exact h.references_eq x
  · rw [holders_dropReference, holders_dropReference, h.holders_eq, h.reference?_eq]

theorem Alike.dropReferences (h : t.Alike u) (s : SessionId) (os : List ObjectId) :
    (os.foldl (fun t o => t.dropReference s o) t).Alike
      (os.foldl (fun t o => t.dropReference s o) u) := by
  induction os generalizing t u with
  | nil => exact h
  | cons o os ih => exact ih (h.dropReference s o)

theorem Alike.purge (h : t.Alike u) (o : ObjectId) : (t.purge o).Alike (u.purge o) := by
  unfold SessionTable.purge
  rw [h.holders_eq]
  cases t.holders[o]? with
  | none => exact h
  | some hs =>
    refine ⟨fun x => ?_, rfl⟩
    have hfind := fun w : SessionTable =>
      getElem?_eraseAll w.sessions o hs.keys Std.ExtTreeMap.nodup_keys x
    refine (congrArg (Option.map (·.references)) (hfind u)).trans
      (Eq.trans ?_ (congrArg (Option.map (·.references)) (hfind t)).symm)
    split
    · exact h.references_without_eq x o
    · exact h.references_eq x

theorem Alike.purgeAll (h : t.Alike u) (gone : List MediaObject) :
    (gone.foldl (fun t o => t.purge o.id) t).Alike (gone.foldl (fun t o => t.purge o.id) u) := by
  induction gone generalizing t u with
  | nil => exact h
  | cons o gone ih => exact ih (h.purge o.id)

end SessionTable

namespace Holdings

variable {h k : Holdings}

/-- The same objects are live, and the same sessions hold them. -/
structure Alike (h k : Holdings) : Prop where
  registry_eq : k.registry = h.registry
  sessions : h.sessions.Alike k.sessions

namespace Alike

theorem isGarbage_eq (ha : h.Alike k) (id : ObjectId) : k.isGarbage id = h.isGarbage id := by
  unfold isGarbage
  rw [ha.registry_eq, ha.sessions.hasReferences_eq]

theorem remove (ha : h.Alike k) (id : ObjectId) :
    (k.remove id).1 = (h.remove id).1 ∧ (h.remove id).2.Alike (k.remove id).2 := by
  unfold Holdings.remove
  rw [ha.registry_eq]
  exact ⟨rfl, rfl, ha.sessions.purgeAll _⟩

theorem collectInOrder (ha : h.Alike k) (ids : List ObjectId) :
    (k.collectInOrder ids).1 = (h.collectInOrder ids).1 ∧
      (h.collectInOrder ids).2.Alike (k.collectInOrder ids).2 := by
  induction ids generalizing h k with
  | nil => exact ⟨rfl, ha⟩
  | cons id ids ih =>
    unfold Holdings.collectInOrder
    rw [ha.isGarbage_eq]
    split
    · obtain ⟨hgone, hnext⟩ := ha.remove id
      obtain ⟨hmore, hrest⟩ := ih hnext
      exact ⟨congrArg₂ (· ++ ·) hgone hmore, hrest⟩
    · exact ih ha

theorem collect (ha : h.Alike k) (cs : List ObjectId) :
    (k.collect cs).1 = (h.collect cs).1 ∧ (h.collect cs).2.Alike (k.collect cs).2 := by
  unfold Holdings.collect
  rw [ha.registry_eq]
  exact ha.collectInOrder _

end Alike

end Holdings

end MediaPlane
