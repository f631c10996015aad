import MediaPlane.Proofs.ControlPlane.Subscriptions
import MediaPlane.Proofs.Session.LeavesFirst

/-
  Where elements are. An element that was constructed is under construction still, as far as its
  request waits, or stands behind a live object, or was released; `Custody` says that each is in
  exactly one of these places, and that a child was released before its parent. Elements move in
  three ways only: a construction begins (`Custody.begins`), it ends in the registry or in a release
  (`Custody.register`), or objects go and their elements are released (`Custody.releases`).
-/

namespace MediaPlane

namespace ControlPlane

variable {cp mid next : ControlPlane} {s u : SessionId} {P : Leeway}
  {gone building more : List ObjectId} {c p : ObjectId}

/-! ## Places -/

/-- A child is below its parent or was released, and its parent is not released before it. -/
structure ReleasedFirst (cp : ControlPlane) (c p : ObjectId) : Prop where
  child : cp.registry.parentOf c = some p ∨ c ∈ cp.journal.released
  first : p ∈ cp.journal.released → [c, p].Sublist cp.journal.released

/-- Every constructed element stands behind a live object, was released, or is still `building`. -/
structure Custody (cp : ControlPlane) (building : List ObjectId) : Prop where
  settled : cp.holdings.Settled
  accounted : cp.journal.constructed.Perm
    (cp.registry.objects.keys ++ (cp.journal.released ++ building))
  adopted : ∀ {c p}, cp.registry.parentOf c = some p → (c, p) ∈ cp.journal.adopted
  /-- As long as no id is used twice, children go first. -/
  ordered : cp.journal.constructed.Nodup → ∀ {c p}, (c, p) ∈ cp.journal.adopted →
    cp.ReleasedFirst c p

theorem Custody.congr (h : cp.Custody building) (hperm : building.Perm more) : cp.Custody more where
  settled := h.settled
  accounted := h.accounted.trans ((hperm.append_left _).append_left _)
  adopted := h.adopted
  ordered := h.ordered

theorem mem_live : c ∈ cp.registry.objects.keys ↔ cp.registry.contains c = true :=
  Std.ExtTreeMap.mem_keys

theorem nodup_live (r : Registry) : r.objects.keys.Nodup := Std.ExtTreeMap.nodup_keys

namespace Custody

/-- Without reuse of ids, no element is in two places. -/
theorem nodup_places (h : cp.Custody building) (hn : cp.journal.constructed.Nodup) :
    (cp.registry.objects.keys ++ (cp.journal.released ++ building)).Nodup :=
  h.accounted.nodup_iff.mp hn

theorem not_released_of_live (h : cp.Custody building) (hn : cp.journal.constructed.Nodup)
    (hc : cp.registry.contains c = true) : c ∉ cp.journal.released := fun hr =>
  (List.nodup_append.mp (h.nodup_places hn)).2.2 c (mem_live.mpr hc) c
    (List.mem_append_left _ hr) rfl

theorem not_live_of_building (h : cp.Custody building) (hn : cp.journal.constructed.Nodup)
    (hc : c ∈ building) : cp.registry.contains c = false := by
  rw [← Bool.not_eq_true]
  exact fun hl => (List.nodup_append.mp (h.nodup_places hn)).2.2 c (mem_live.mpr hl) c
    (List.mem_append_right _ hc) rfl

end Custody

/-! ## Objects go -/

/-- The objects `gone` go, what is below one of them before it, and their elements are released. No
other object comes or goes, and no element is built. -/
structure Releases (cp : ControlPlane) (gone : List ObjectId) (next : ControlPlane) : Prop where
  settled : next.holdings.Settled
  journal_eq : next.journal.constructed = cp.journal.constructed ∧
    next.journal.adopted = cp.journal.adopted ∧
    next.journal.released = cp.journal.released ++ gone
  nodup : gone.Nodup
  taken : ∀ {x}, x ∈ gone → cp.registry.contains x = true
  contains_iff : ∀ {x}, next.registry.contains x = true ↔
    cp.registry.contains x = true ∧ x ∉ gone
  parentOf_eq : ∀ x, next.registry.parentOf x = if x ∈ gone then none else cp.registry.parentOf x
  first : ∀ {c p}, cp.registry.parentOf c = some p → p ∈ gone → [c, p].Sublist gone

/-- What is cut out of the registry in an order that has children first, and released. -/
theorem releases_of_cut {objects : List MediaObject} (hs : cp.holdings.Settled)
    (hnext : next.holdings.Settled) (hcut : Registry.Cut cp.registry objects next.registry)
    (ho : Holdings.ChildrenFirst cp.registry (objects.map (·.id)))
    (hj : next.journal = cp.journal.afterRelease (objects.map (·.id))) :
    Releases cp (objects.map (·.id)) next where
  settled := hnext
  journal_eq := by
    rw [hj]
    exact ⟨rfl, rfl, rfl⟩
  nodup := hcut.nodup
  taken := hcut.live_of_mem
  contains_iff := hcut.contains_iff
  parentOf_eq := hcut.parentOf_eq
  first := by
    intro c p hp hgone
    have hne : c ≠ p := by
      rintro rfl
      exact hs.forest.not_within_of_parentOf hp (Registry.Within.refl _ c)
    exact sublist_of_pairwise ho (hcut.down hnext.forest hp hgone) hgone hne fun h => h hp

/-- Where objects keep their places and nothing is built or released, nothing goes. -/
theorem releases_nil (hs : next.holdings.Settled) (hj : next.journal.constructed =
      cp.journal.constructed ∧ next.journal.adopted = cp.journal.adopted ∧
        next.journal.released = cp.journal.released)
    (hlive : ∀ x, next.registry.contains x = cp.registry.contains x)
    (hparent : ∀ x, next.registry.parentOf x = cp.registry.parentOf x) :
    Releases cp [] next where
  settled := hs
  journal_eq := ⟨hj.1, hj.2.1, by rw [hj.2.2, List.append_nil]⟩
  nodup := List.nodup_nil
  taken := fun hx => by cases hx
  contains_iff := by
    intro x
    rw [hlive]
    simp
  parentOf_eq := hparent
  first := fun _ hp => by cases hp

/-- In particular if the registry stays as it is. -/
theorem releases_of_registry (hs : next.holdings.Settled) (hj : next.journal.constructed =
      cp.journal.constructed ∧ next.journal.adopted = cp.journal.adopted ∧
        next.journal.released = cp.journal.released) (hr : next.registry = cp.registry) :
    Releases cp [] next :=
  releases_nil hs hj (fun x => by rw [hr]) fun x => by rw [hr]

theorem Releases.perm_live (hr : Releases cp gone next) :
    cp.registry.objects.keys.Perm (gone ++ next.registry.objects.keys) := by
  have hdisjoint : (gone ++ next.registry.objects.keys).Nodup := by
    refine List.nodup_append.mpr ⟨hr.nodup, nodup_live _, ?_⟩
    rintro x hx y hy rfl
    exact (hr.contains_iff.mp (mem_live.mp hy)).2 hx
  refine (List.perm_ext_iff_of_nodup (nodup_live _) hdisjoint).mpr fun x => ?_
  rw [List.mem_append, mem_live, mem_live, hr.contains_iff]
  constructor
  · intro hx
    by_cases hg : x ∈ gone
    · exact Or.inl hg
    · exact Or.inr ⟨hx, hg⟩
  · rintro (hx | hx)
    · exact hr.taken hx
    · exact hx.1

theorem Custody.releases (h : cp.Custody building) (hr : Releases cp gone next) :
    next.Custody building := by
  obtain ⟨hconstructed, hadopted, hreleased⟩ := hr.journal_eq
  refine { settled := hr.settled, accounted := ?_, adopted := ?_, ordered := ?_ }
  · rw [hconstructed, hreleased]
    calc List.Perm cp.journal.constructed
          (cp.registry.objects.keys ++ (cp.journal.released ++ building)) := h.accounted
      List.Perm _ ((gone ++ next.registry.objects.keys) ++ (cp.journal.released ++ building)) :=
        hr.perm_live.append_right _
      List.Perm _ ((next.registry.objects.keys ++ gone) ++ (cp.journal.released ++ building)) :=
        List.perm_append_comm.append_right _
      List.Perm _ (next.registry.objects.keys ++ (cp.journal.released ++ gone ++ building)) := by
        rw [List.append_assoc, ← List.append_assoc gone]
        exact (List.perm_append_comm.append_right _).append_left _
  · intro c p hp
    rw [hr.parentOf_eq] at hp
    rw [hadopted]
    split at hp
    · cases hp
    · exact h.adopted hp
  · intro hn c p hcp
    rw [hconstructed] at hn
    rw [hadopted] at hcp
    obtain ⟨hchild, hfirst⟩ := h.ordered hn hcp
    refine ⟨?_, fun hp => ?_⟩
    · rw [hr.parentOf_eq, hreleased, List.mem_append]
      rcases hchild with hchild | hchild
      · split
        · next hc => exact Or.inr (Or.inr hc)
        · exact Or.inl hchild
      · exact Or.inr (Or.inl hchild)
    · rw [hreleased] at hp ⊢
      rcases List.mem_append.mp hp with hp | hp
      · exact (hfirst hp).trans (List.sublist_append_left _ _)
      · rcases hchild with hchild | hchild
        · exact (hr.first hchild hp).trans (List.sublist_append_right _ _)
        · exact (List.singleton_sublist.mpr hchild).append (List.singleton_sublist.mpr hp)

/-! ## Objects come -/

/-- A construction that begins adds an element to those under construction. -/
theorem Custody.begins {c : Construction} (h : cp.Custody building) (hb : cp.Begins c next) :
    next.Custody (c.id :: building) := by
  obtain ⟨mock, rfl⟩ := hb.eq
  refine { settled := h.settled, accounted := ?_, adopted := h.adopted, ordered := ?_ }
  · calc List.Perm (cp.journal.constructed ++ [c.id])
          (cp.registry.objects.keys ++ (cp.journal.released ++ building) ++ [c.id]) :=
        h.accounted.append_right _
      List.Perm _ (cp.registry.objects.keys ++ (cp.journal.released ++ c.id :: building)) := by
        rw [List.append_assoc, List.append_assoc]
        exact ((List.perm_append_singleton c.id building).append_left _).append_left _
  · intro hn c p hcp
    have hold := h.ordered (List.nodup_append.mp hn).1 hcp
    exact ⟨hold.child, hold.first⟩

/-- An element whose object does not come to be is released. -/
theorem Custody.refused {x : ObjectId} (h : cp.Custody (x :: building)) (element : Element) :
    (cp.releaseElement x element).Custody building := by
  have hreleased : (cp.releaseElement x element).journal.released =
    cp.journal.released ++ [x] := rfl
  refine { settled := h.settled, accounted := ?_, adopted := h.adopted, ordered := ?_ }
  · rw [hreleased, List.append_assoc]
    exact h.accounted
  · intro hn c p hcp
    obtain ⟨hchild, hfirst⟩ := h.ordered hn hcp
    refine ⟨hchild.imp_right (List.mem_append_left _), fun hgone => ?_⟩
    rw [hreleased] at hgone ⊢
    rcases List.mem_append.mp hgone with hgone | hgone
    · exact (hfirst hgone).trans (List.sublist_append_left _ _)
    · -- An element under construction is nobody's parent, so the child has gone before.
      refine (List.singleton_sublist.mpr ?_).append (List.singleton_sublist.mpr hgone)
      refine hchild.resolve_left fun hchild => ?_
      rw [List.mem_singleton.mp hgone] at hchild
      have hdead := h.not_live_of_building hn List.mem_cons_self
      rw [registry, h.settled.forest.parent_live hchild] at hdead
      cases hdead

theorem perm_live_put {r t : Registry} {o : MediaObject} (hp : r.put o = .ok t) :
    t.objects.keys.Perm (o.id :: r.objects.keys) := by
  have hnew := (Registry.put_ok hp).1
  have hnodup : (o.id :: r.objects.keys).Nodup := by
    refine List.nodup_cons.mpr ⟨fun ho => ?_, nodup_live r⟩
    rw [Registry.contains, Std.ExtTreeMap.contains_iff_mem.mpr (Std.ExtTreeMap.mem_keys.mp ho)]
      at hnew
    cases hnew
  refine (List.perm_ext_iff_of_nodup (nodup_live t) hnodup).mpr fun x => ?_
  rw [List.mem_cons, eq_comm, Std.ExtTreeMap.mem_keys, Std.ExtTreeMap.mem_keys]
  exact Registry.contains_put hp x

/-- An object comes to be, below its parent if it has one. -/
theorem Custody.placed {o : MediaObject} (h : cp.Custody (o.id :: building))
    (hp : cp.registry.put o = .ok next.registry) (hs : next.holdings.Settled)
    (hconstructed : next.journal.constructed = cp.journal.constructed)
    (hadopted : next.journal.adopted = cp.journal.adopted ++ o.parent.toList.map (o.id, ·))
    (hreleased : next.journal.released = cp.journal.released) : next.Custody building := by
  obtain ⟨hnew, hparent, -⟩ := Registry.put_ok hp
  refine { settled := hs, accounted := ?_, adopted := ?_, ordered := ?_ }
  · rw [hconstructed, hreleased]
    calc List.Perm cp.journal.constructed
          (cp.registry.objects.keys ++ (cp.journal.released ++ o.id :: building)) := h.accounted
      List.Perm _ ((o.id :: cp.registry.objects.keys) ++ (cp.journal.released ++ building)) := by
        rw [List.cons_append, ← List.append_assoc, ← List.append_assoc]
        exact List.perm_middle
      List.Perm _ (next.registry.objects.keys ++ (cp.journal.released ++ building)) :=
        (perm_live_put hp).symm.append_right _
  · intro c p hcp
    rw [hadopted, List.mem_append]
    rw [Registry.parentOf_put hp] at hcp
    split at hcp
    · next hc =>
      rw [hcp, hc]
      exact Or.inr (List.mem_singleton.mpr rfl)
    · exact Or.inl (h.adopted hcp)
  · intro hn c p hcp
    rw [hconstructed] at hn
    rw [hadopted, List.mem_append] at hcp
    rcases hcp with hcp | hcp
    · obtain ⟨hchild, hfirst⟩ := h.ordered hn hcp
      rw [← hreleased] at hchild hfirst
      refine ⟨hchild.imp_left fun hchild => ?_, hfirst⟩
      rw [Registry.parentOf_put hp, if_neg, hchild]
      intro heq
      rw [heq, Registry.contains_of_parentOf hchild] at hnew
      cases hnew
    · obtain ⟨q, hq, heq⟩ := List.mem_map.mp hcp
      cases heq
      have hq : o.parent = some p := Option.mem_toList.mp hq
      refine ⟨Or.inl ?_, fun hgone => ?_⟩
      · rw [Registry.parentOf_put hp, if_pos rfl, hq]
      · rw [hreleased] at hgone
        exact absurd hgone (h.not_released_of_live hn (hparent p hq))

/-- A construction that ends takes its element to the registry, or to the released ones. -/
theorem Custody.register {c : Construction} (h : cp.Custody (c.id :: building)) (s : SessionId) :
    (cp.register s c).2.Custody building := by
  have hs := settled_register h.settled s c
  unfold ControlPlane.register at hs ⊢
  split at hs
  · exact h.refused c.element
  · next r hp =>
    have h : cp.Custody
        ((MediaObject.new c.id c.type c.parent c.element cp.now).id :: building) := h
    exact h.placed hp hs rfl rfl rfl

/-! ## Every change -/

theorem releases_dropReferences (hs : cp.holdings.Settled) (s : SessionId) (ids : List ObjectId)
    (reason : RemovalReason) :
    Releases cp (((cp.holdings.dropped s ids).collect ids).1.map (·.id))
      (cp.dropReferences s ids reason) := by
  have hw := hs.toWellFormed.dropped s ids
  have hnext : (cp.dropReferences s ids reason).holdings.Settled := by
    rw [holdings_dropReferences]
    exact Holdings.settled_dropReferences hs s ids
  refine releases_of_cut hs hnext ?_ (hw.consistent.childrenFirst_collect ids)
    (journal_teardown _ reason _)
  rw [registry, registry, holdings_dropReferences]
  exact (hw.collect ids).1.cut

theorem releases_closedBy (hs : cp.holdings.Settled) {kind : CloseKind} {closure : Closure}
    {holdings : Holdings} (hc : cp.holdings.close s kind = .ok (some (closure, holdings))) :
    Releases cp ((closure.forced ++ closure.collected).map (·.id))
      (cp.closedBy s closure holdings) := by
  refine releases_of_cut hs ?_ ?_ (Holdings.childrenFirst_close hs hc)
    (journal_closedBy cp s closure holdings)
  · rw [holdings_closedBy]
    exact Holdings.settled_close hs hc
  · rw [registry, registry, holdings_closedBy]
    exact Holdings.cut_close hs hc

/-- Only the tables and the journal matter. -/
theorem Custody.of_eq (h : cp.Custody building) (hh : next.holdings = cp.holdings)
    (hj : next.journal = cp.journal) : next.Custody building := by
  have hs : next.holdings.Settled := hh ▸ h.settled
  exact h.releases (releases_of_registry hs (by rw [hj]; exact ⟨rfl, rfl, rfl⟩)
    (congrArg Holdings.registry hh))

theorem Change.custody (h : Change s P cp next) (hc : cp.Custody building) :
    next.Custody building := by
  have hs := h.holdings_settled hc.settled
  cases h with
  | metrics | mock | draw | touch | leave | raise | unsubscribe =>
    exact hc.releases (releases_of_registry hs ⟨rfl, rfl, rfl⟩ rfl)
  | built receiver =>
    cases receiver <;> exact hc.releases (releases_of_registry hs ⟨rfl, rfl, rfl⟩ rfl)
  | enter =>
    obtain ⟨metrics, heq⟩ := enter_eq cp s
    rw [heq] at hs ⊢
    exact hc.releases (releases_of_registry hs ⟨rfl, rfl, rfl⟩ rfl)
  | keepAlive h =>
    rw [keepAlive_ok h] at hs ⊢
    exact hc.releases (releases_of_registry hs ⟨rfl, rfl, rfl⟩ rfl)
  | connect =>
    obtain ⟨metrics, heq⟩ := connect_eq cp s
    rw [heq] at hs ⊢
    exact hc.releases (releases_of_registry hs ⟨rfl, rfl, rfl⟩ rfl)
  | annotate x f =>
    exact hc.releases (releases_nil hs ⟨rfl, rfl, rfl⟩
      (fun k => Registry.contains_update cp.registry x k f)
      fun k => Registry.parentOf_update cp.registry x k f)
  | create hb => exact (hc.begins hb).register s
  | dropReferences ids reason => exact hc.releases (releases_dropReferences hc.settled s ids reason)
  | subscribe key receiver =>
    exact hc.of_eq (holdings_subscribeUnder cp s key receiver)
      (journal_subscribeUnder cp s key receiver)
  | close _ h =>
    obtain ⟨closure, holdings, hclose, -, rfl⟩ := closeSession_ok h
    exact (hc.releases (releases_closedBy hc.settled hclose)).of_eq rfl rfl

theorem Changes.custody (h : Changes s P cp next) (hc : cp.Custody building) :
    next.Custody building := by
  induction h with
  | refl => exact hc
  | tail _ hch ih | aside _ _ hch ih => exact hch.custody ih

end ControlPlane

/-! ## Stages of a call -/

/-- The elements that a wait keeps under construction. -/
def Wait.building : Wait → List ObjectId
  | construction c _ => [c.id]
  | answer .. => []

def Pending.building : Pending → List ObjectId
  | duplicate .. => []
  | running _ wait _ => wait.building

def Progress.building : Progress → List ObjectId
  | finished _ => []
  | suspended pending => pending.building

namespace ControlPlane

variable {cp mid next : ControlPlane} {s : SessionId} {P : Leeway} {building : List ObjectId}

theorem Stretch.custody {w : Option Wait} (h : Stretch s P cp w next) (hc : cp.Custody building) :
    next.Custody (w.toList.flatMap Wait.building ++ building) := by
  cases h with
  | settled h | answer h => exact h.custody hc
  | construction h hb => exact (h.custody hc).begins hb

theorem Advances.custody {caller : Caller} {r : Progress × ControlPlane}
    (h : cp.Advances caller P r) (hc : cp.Custody building) :
    r.2.Custody (r.1.building ++ building) := by
  obtain ⟨w, mid, hst, hend⟩ := h
  have hmid := hst.custody hc
  cases hend with
  | answered result =>
    obtain ⟨metrics, cache, heq⟩ := respond_snd mid caller result
    rw [heq]
    exact hmid.of_eq rfl rfl
  | suspended wait batch =>
    have hwait : (some wait).toList.flatMap Wait.building = wait.building := List.append_nil _
    rw [hwait] at hmid
    exact hmid

end ControlPlane

end MediaPlane
