import MediaPlane.Proofs.Object.Removal
import MediaPlane.Proofs.Session.References
import MediaPlane.Session.Collector

/-
  The collector. Holdings are settled when every live object is needed: some session holds it or
  something below it. A collection looks at its candidates and all above them, deepest first, and
  takes out what is garbage by then. `mem_collect`: what it takes out are the objects below which
  everything was looked at and nothing is held. So if every object that is not needed stands above
  a candidate, the collection takes out exactly those objects and leaves settled holdings
  (`settled_collect`).
-/

namespace MediaPlane

/-- Some session references the object. -/
def SessionTable.Held (t : SessionTable) (x : ObjectId) : Prop := ∃ s k, t.reference? s x = some k

/-- The session once it does not hold any of these objects any more. -/
def Session.withoutAll (e : Session) (ids : List ObjectId) : Session := ids.foldl Session.without e

theorem Session.withoutAll_append (e : Session) (ids more : List ObjectId) :
    e.withoutAll (ids ++ more) = (e.withoutAll ids).withoutAll more := List.foldl_append

theorem Session.references_withoutAll (e : Session) (ids : List ObjectId) (x : ObjectId) :
    (e.withoutAll ids).references[x]? = if x ∈ ids then none else e.references[x]? := by
  induction ids generalizing e with
  | nil => rfl
  | cons id ids ih =>
    have hhead : (e.without id).references[x]? = if id = x then none else e.references[x]? :=
      getElem?_erase_lawful e.references id x
    show ((e.without id).withoutAll ids).references[x]? = _
    rw [ih, hhead]
    by_cases hx : id = x
    · simp [hx]
    · simp [Ne.symm hx, hx]

namespace Holdings

open Registry (Cut)

variable {h next last : Holdings} {gone more : List MediaObject} {ids : List ObjectId}
  {x y id : ObjectId}

/-- The registry is a forest, and both indexes of references agree. -/
structure Consistent (h : Holdings) : Prop where
  forest : h.registry.Forest
  mirrored : h.sessions.Mirrored

/-- The registry is a forest, both indexes of references agree, and only live objects are held. -/
structure WellFormed (h : Holdings) : Prop where
  forest : h.registry.Forest
  mirrored : h.sessions.Mirrored
  held_live : ∀ {x}, h.sessions.Held x → h.registry.contains x = true

theorem WellFormed.consistent (hw : h.WellFormed) : h.Consistent := ⟨hw.forest, hw.mirrored⟩

/-- Some session holds the object or one below it. -/
def Needed (h : Holdings) (x : ObjectId) : Prop := ∃ y, h.registry.Within y x ∧ h.sessions.Held y

/-- Every live object is needed. -/
structure Settled (h : Holdings) : Prop extends WellFormed h where
  needed : ∀ {x}, h.registry.contains x = true → h.Needed x

/-- In settled holdings the live objects are the held ones and everything above them. -/
theorem Settled.contains_iff (hs : h.Settled) :
    h.registry.contains x = true ↔ h.Needed x := by
  constructor
  · exact hs.needed
  · rintro ⟨y, hy, hheld⟩
    exact hs.forest.contains_of_within (hs.held_live hheld) hy

/-- Where objects went and the holdings are settled, those are left below which something is still
held, as they stood before. -/
theorem Settled.contains_iff_of_cut {r : Registry} (hs : next.Settled)
    (hcut : Cut r gone next.registry) :
    next.registry.contains x = true ↔ ∃ y, r.Within y x ∧ next.sessions.Held y := by
  rw [hs.contains_iff]
  exact exists_congr fun y => and_congr_left fun hy => hcut.within_iff hs.forest (hs.held_live hy)

/-- So the references that are left determine which objects went, and what the registry is. -/
theorem Settled.unique_of_cut {r : Registry} (hs : next.Settled) (hs' : last.Settled)
    (hcut : Cut r gone next.registry) (hcut' : Cut r more last.registry)
    (heq : ∀ u y, next.sessions.reference? u y = last.sessions.reference? u y) :
    (gone.map (·.id)).Perm (more.map (·.id)) ∧ next.registry = last.registry := by
  have hperm : (gone.map (·.id)).Perm (more.map (·.id)) := by
    refine hcut.perm hcut' fun x => ?_
    rw [hs.contains_iff_of_cut hcut, hs'.contains_iff_of_cut hcut']
    simp only [SessionTable.Held, heq]
  refine ⟨hperm, hs.forest.eq_of_find? hs'.forest fun x => ?_⟩
  rw [hcut.find?_eq, hcut'.find?_eq]
  simp only [hperm.mem_iff]

/-- What is left once objects are taken out of the registry and out of every session. -/
structure Taken (h : Holdings) (gone : List MediaObject) (next : Holdings) : Prop where
  cut : Cut h.registry gone next.registry
  find?_eq : ∀ u, next.sessions.find? u =
    (h.sessions.find? u).map (·.withoutAll (gone.map (·.id)))

namespace Taken

theorem refl (h : Holdings) : Taken h [] h := by
  refine ⟨Cut.refl h.registry, fun u => ?_⟩
  cases h.sessions.find? u <;> rfl

theorem trans (ht : Taken h gone next) (ht' : Taken next more last) :
    Taken h (gone ++ more) last := by
  refine ⟨ht.cut.trans ht'.cut, fun u => ?_⟩
  rw [ht'.find?_eq, ht.find?_eq, List.map_append]
  cases h.sessions.find? u with
  | none => rfl
  | some e =>
    simp only [Option.map_some]
    rw [Session.withoutAll_append]

theorem reference?_eq (ht : Taken h gone next) (u : SessionId) (x : ObjectId) :
    next.sessions.reference? u x =
      if x ∈ gone.map (·.id) then none else h.sessions.reference? u x := by
  unfold SessionTable.reference?
  rw [ht.find?_eq]
  cases h.sessions.find? u with
  | none => simp
  | some e => simp [Session.references_withoutAll]

theorem held_iff (ht : Taken h gone next) :
    next.sessions.Held x ↔ h.sessions.Held x ∧ x ∉ gone.map (·.id) := by
  unfold SessionTable.Held
  simp only [ht.reference?_eq]
  by_cases hx : x ∈ gone.map (·.id) <;> simp [hx]

theorem wellFormed (ht : Taken h gone next) (hw : h.WellFormed) (hf : next.registry.Forest)
    (hm : next.sessions.Mirrored) : next.WellFormed := by
  refine ⟨hf, hm, fun hheld => ?_⟩
  obtain ⟨hold, hout⟩ := ht.held_iff.mp hheld
  exact ht.cut.contains_iff.mpr ⟨hw.held_live hold, hout⟩

end Taken

/-! ## Removing a tree -/

theorem find?_purgeAll {t : SessionTable} (hm : t.Mirrored) (gone : List MediaObject)
    (u : SessionId) :
    (gone.foldl (fun t o => t.purge o.id) t).find? u =
      (t.find? u).map (·.withoutAll (gone.map (·.id))) := by
  induction gone generalizing t with
  | nil =>
    rw [List.foldl_nil]
    cases t.find? u <;> rfl
  | cons o gone ih =>
    rw [List.foldl_cons, ih (SessionTable.mirrored_purge hm o.id), SessionTable.find?_purge hm]
    cases t.find? u <;> rfl

theorem mirrored_purgeAll {t : SessionTable} (hm : t.Mirrored) (gone : List MediaObject) :
    (gone.foldl (fun t o => t.purge o.id) t).Mirrored := by
  induction gone generalizing t with
  | nil => exact hm
  | cons o gone ih => exact ih (SessionTable.mirrored_purge hm o.id)

theorem Consistent.taken_remove (hw : h.Consistent) (id : ObjectId) :
    Taken h (h.remove id).1 (h.remove id).2 :=
  ⟨hw.forest.cut_remove id, find?_purgeAll hw.mirrored _⟩

theorem Consistent.consistent_remove (hw : h.Consistent) (id : ObjectId) :
    (h.remove id).2.Consistent :=
  ⟨hw.forest.forest_remove id, mirrored_purgeAll hw.mirrored _⟩

theorem Consistent.mem_remove (hw : h.Consistent) :
    x ∈ (h.remove id).1.map (·.id) ↔ h.registry.contains id = true ∧ h.registry.Within x id :=
  hw.forest.mem_remove

theorem WellFormed.taken_remove (hw : h.WellFormed) (id : ObjectId) :
    Taken h (h.remove id).1 (h.remove id).2 := hw.consistent.taken_remove id

theorem WellFormed.mem_remove (hw : h.WellFormed) :
    x ∈ (h.remove id).1.map (·.id) ↔ h.registry.contains id = true ∧ h.registry.Within x id :=
  hw.consistent.mem_remove

theorem WellFormed.wellFormed_remove (hw : h.WellFormed) (id : ObjectId) :
    (h.remove id).2.WellFormed :=
  have hc := hw.consistent.consistent_remove id
  (hw.taken_remove id).wellFormed hw hc.forest hc.mirrored

/-! ## Garbage -/

theorem hasChildren_eq (r : Registry) (x : ObjectId) :
    r.hasChildren x = !(r.childrenOf x).isEmpty := by
  unfold Registry.hasChildren Registry.childrenOf
  cases r.children[x]? with
  | none => rfl
  | some cs => exact congrArg (!·) Std.ExtTreeSet.isEmpty_toList.symm

theorem hasChildren_eq_true_iff {r : Registry} (hf : r.Forest) :
    r.hasChildren x = true ↔ ∃ c, r.parentOf c = some x := by
  rw [hasChildren_eq, Bool.not_eq_true', List.isEmpty_eq_false_iff_exists_mem]
  exact exists_congr fun c => hf.mem_children

theorem Consistent.isGarbage_iff (hw : h.Consistent) :
    h.isGarbage x = true ↔
      h.registry.contains x = true ∧ ¬ h.sessions.Held x ∧ ∀ c, h.registry.parentOf c ≠ some x := by
  have hheld : h.sessions.hasReferences x = true ↔ h.sessions.Held x :=
    hw.mirrored.hasReferences_iff
  have hchildren := hasChildren_eq_true_iff (x := x) hw.forest
  unfold isGarbage
  rw [Bool.and_eq_true, Bool.and_eq_true, Bool.not_eq_true', Bool.not_eq_true',
    ← Bool.not_eq_true, ← Bool.not_eq_true, hheld, hchildren, and_assoc]
  simp only [not_exists, ne_eq]

/-- Garbage goes alone, and no session notices. -/
theorem Consistent.remove_garbage (hw : h.Consistent) (hg : h.isGarbage x = true) :
    (h.remove x).1.map (·.id) = [x] ∧ (h.remove x).2.sessions = h.sessions := by
  obtain ⟨hlive, hheld, hleaf⟩ := hw.isGarbage_iff.mp hg
  have hmem : ∀ y, y ∈ (h.remove x).1.map (·.id) ↔ y = x := by
    intro y
    rw [hw.mem_remove, Registry.within_iff_tail]
    constructor
    · rintro ⟨-, rfl | ⟨c, -, hc⟩⟩
      · rfl
      · exact absurd hc (hleaf c)
    · rintro rfl
      exact ⟨hlive, Or.inl rfl⟩
  have hone : (h.remove x).1.map (·.id) = [x] := by
    have hperm : ((h.remove x).1.map (·.id)).Perm [x] :=
      (List.perm_ext_iff_of_nodup (hw.taken_remove x).cut.nodup (List.nodup_singleton x)).mpr
        fun y => by rw [hmem, List.mem_singleton]
    exact List.perm_singleton.mp hperm
  refine ⟨hone, ?_⟩
  obtain ⟨o, ho, hid⟩ := List.map_eq_singleton_iff.mp hone
  show (h.remove x).1.foldl (fun t o => t.purge o.id) h.sessions = h.sessions
  rw [ho, List.foldl_cons, List.foldl_nil, hid]
  refine SessionTable.purge_of_not_held hw.mirrored ?_
  rw [← Bool.not_eq_true, hw.mirrored.hasReferences_iff]
  exact hheld

/-! ## One object after the other -/

theorem collectInOrder_of_garbage (hg : h.isGarbage id = true) (ids : List ObjectId) :
    h.collectInOrder (id :: ids) =
      ((h.remove id).1 ++ ((h.remove id).2.collectInOrder ids).1,
        ((h.remove id).2.collectInOrder ids).2) := by
  simp only [collectInOrder, hg, if_true]

theorem collectInOrder_of_not_garbage (hg : ¬ h.isGarbage id = true) (ids : List ObjectId) :
    h.collectInOrder (id :: ids) = h.collectInOrder ids := by
  simp only [collectInOrder, hg, Bool.false_eq_true, if_false]

theorem Consistent.collectInOrder (hw : h.Consistent) (ids : List ObjectId) :
    Taken h (h.collectInOrder ids).1 (h.collectInOrder ids).2 ∧
      (h.collectInOrder ids).2.Consistent ∧
      (h.collectInOrder ids).2.sessions = h.sessions := by
  induction ids generalizing h with
  | nil => exact ⟨Taken.refl h, hw, rfl⟩
  | cons id ids ih =>
    by_cases hg : h.isGarbage id = true
    · obtain ⟨ht, hconsistent, hsessions⟩ := ih (hw.consistent_remove id)
      rw [collectInOrder_of_garbage hg]
      refine ⟨(hw.taken_remove id).trans ht, hconsistent, ?_⟩
      exact hsessions.trans (hw.remove_garbage hg).2
    · rw [collectInOrder_of_not_garbage hg]
      exact ih hw

/-- Children come before their parents. -/
def ChildrenFirst (r : Registry) (ids : List ObjectId) : Prop :=
  ids.Pairwise fun a b => r.parentOf b ≠ some a

/-- In an order that has children before parents, an object goes if it is garbage but for children
that go. -/
theorem Consistent.mem_collectInOrder (hw : h.Consistent) (hn : ids.Nodup)
    (ho : ChildrenFirst h.registry ids) :
    x ∈ (h.collectInOrder ids).1.map (·.id) ↔
      x ∈ ids ∧ h.registry.contains x = true ∧ ¬ h.sessions.Held x ∧
        ∀ c, h.registry.parentOf c = some x → c ∈ (h.collectInOrder ids).1.map (·.id) := by
  induction ids generalizing h x with
  | nil => simp [Holdings.collectInOrder]
  | cons id ids ih =>
    obtain ⟨hid, hrest⟩ := List.nodup_cons.mp hn
    obtain ⟨hfirst, horder⟩ := List.pairwise_cons.mp ho
    by_cases hg : h.isGarbage id = true
    · -- The head goes, and was nobody's parent; its own parent has one child less.
      obtain ⟨hlive, hheld, hleaf⟩ := hw.isGarbage_iff.mp hg
      obtain ⟨hone, hsessions⟩ := hw.remove_garbage hg
      have hcut := (hw.taken_remove id).cut
      have hnext : ChildrenFirst (h.remove id).2.registry ids :=
        horder.imp fun hab hp => hab (hcut.parentOf_of hp)
      have hih := ih (x := x) (hw.consistent_remove id) hrest hnext
      have hparent : ∀ c p, (h.remove id).2.registry.parentOf c = some p ↔
          c ≠ id ∧ h.registry.parentOf c = some p := by
        intro c p
        rw [hcut.parentOf_eq, hone]
        by_cases hc : c = id <;> simp [hc]
      rw [collectInOrder_of_garbage hg]
      simp only [List.map_append, List.mem_append, hone, List.mem_singleton]
      rw [hih, hsessions, hcut.contains_iff, hone, List.mem_singleton, List.mem_cons]
      simp only [hparent]
      by_cases hx : x = id
      · subst hx
        simp only [true_or, true_iff, true_and]
        exact ⟨hlive, hheld, fun c hc => absurd hc (hleaf c)⟩
      · simp only [hx, false_or, not_false_eq_true, and_true]
        refine and_congr_right fun _ => and_congr_right fun _ => and_congr_right fun _ => ?_
        refine forall_congr' fun c => ?_
        by_cases hc : c = id <;> simp [hc]
    · rw [collectInOrder_of_not_garbage hg, ih hw hrest horder, List.mem_cons]
      by_cases hx : x = id
      · subst hx
        simp only [hid, false_and, true_or, true_and, false_iff, not_and]
        intro hlive hheld hgone
        refine hg (hw.isGarbage_iff.mpr ⟨hlive, hheld, fun c hc => ?_⟩)
        have hc' := hgone c hc
        rw [ih hw hrest horder] at hc'
        exact hfirst c hc'.1 hc
      · simp only [hx, false_or]

/-- So an object goes if everything below it was looked at and nobody holds any of it. -/
theorem Consistent.mem_collectInOrder_iff (hw : h.Consistent) (hn : ids.Nodup)
    (ho : ChildrenFirst h.registry ids) :
    x ∈ (h.collectInOrder ids).1.map (·.id) ↔
      h.registry.contains x = true ∧
        ∀ y, h.registry.Within y x → y ∈ ids ∧ ¬ h.sessions.Held y := by
  constructor
  · intro hx
    have hlive := (hw.mem_collectInOrder hn ho).mp hx
    refine ⟨hlive.2.1, fun y hy => ?_⟩
    induction hy with
    | refl => exact ⟨hlive.1, hlive.2.2.1⟩
    | tail _ hp ih =>
      have hc := hlive.2.2.2 _ hp
      exact ih hc ((hw.mem_collectInOrder hn ho).mp hc)
  · rintro ⟨hlive, hall⟩
    induction x using hw.forest.leaf_induction with
    | step x ih =>
      have hself := hall x (Registry.Within.refl _ x)
      refine (hw.mem_collectInOrder hn ho).mpr ⟨hself.1, hlive, hself.2, fun c hc => ?_⟩
      exact ih c hc (Registry.contains_of_parentOf hc) fun y hy => hall y (hy.up hc)

/-! ## The order of a collection -/

/-- Every recorded depth is that of the object. -/
def Depths (r : Registry) (m : Std.ExtTreeMap ObjectId Nat) : Prop :=
  ∀ {x d}, m[x]? = some d → d = r.depth x

theorem depths_insert {r : Registry} {m : Std.ExtTreeMap ObjectId Nat} (hm : Depths r m)
    (id : ObjectId) : Depths r (m.insert id (r.depth id)) := by
  intro x d hd
  rw [getElem?_insert_lawful] at hd
  split at hd
  · next hx =>
    cases hd
    rw [hx]
  · exact hm hd

/-- The ancestors of an object, each with the depth that its place among them shows. -/
theorem zipIdx_ancestors {r : Registry} (hf : r.Forest) (x : ObjectId) :
    (r.ancestors x).zipIdx.map (fun a => (a.1, (r.ancestors x).length - (a.2 + 1))) =
      (r.ancestors x).map fun a => (a, r.depth a) := by
  have hwalk : ∀ k, ((r.ancestors x).zipIdx k).map (fun a => (a.1, r.depth x + k - (a.2 + 1))) =
      (r.ancestors x).map fun a => (a, r.depth a) := by
    induction x using hf.root_induction with
    | root x hp =>
      intro k
      rw [hf.ancestors_eq x, hp]
      rfl
    | below x p hp ih =>
      intro k
      have hdepth := hf.depth_of_parentOf hp
      have htail := ih (k + 1)
      have hsum : r.depth p + (k + 1) = r.depth x + k := by omega
      rw [hsum] at htail
      rw [hf.ancestors_eq x, hp]
      simp only [List.zipIdx_cons, List.map_cons]
      rw [htail]
      congr 2
      omega
  have hall := hwalk 0
  simpa [Registry.depth] using hall

/-- Records objects with their depths. -/
def recordAll (m : Std.ExtTreeMap ObjectId Nat) (ps : List (ObjectId × Nat)) :
    Std.ExtTreeMap ObjectId Nat :=
  ps.foldl (fun m p => m.insert p.1 p.2) m

theorem depths_recordAll {r : Registry} {m : Std.ExtTreeMap ObjectId Nat} (hm : Depths r m)
    (ids : List ObjectId) : Depths r (recordAll m (ids.map fun a => (a, r.depth a))) := by
  induction ids generalizing m with
  | nil => exact hm
  | cons id ids ih => exact ih (depths_insert hm id)

theorem mem_recordAll (m : Std.ExtTreeMap ObjectId Nat) (ps : List (ObjectId × Nat))
    (x : ObjectId) : x ∈ recordAll m ps ↔ x ∈ ps.map (·.1) ∨ x ∈ m := by
  induction ps generalizing m with
  | nil => simp [recordAll]
  | cons p ps ih =>
    show x ∈ recordAll (m.insert p.1 p.2) ps ↔ _
    rw [ih, Std.ExtTreeMap.mem_insert, Std.LawfulEqOrd.compare_eq_iff_eq, List.map_cons,
      List.mem_cons, eq_comm (a := p.1), or_left_comm, or_assoc]

/-- One candidate records itself and everything above it. -/
theorem depths_step {r : Registry} (hf : r.Forest) (m : Std.ExtTreeMap ObjectId Nat)
    (c : ObjectId) :
    ((r.ancestors c).zipIdx.foldl
        (fun m a => m.insert a.1 ((r.ancestors c).length - (a.2 + 1))) m).insert c
        (r.ancestors c).length =
      (recordAll m ((r.ancestors c).map fun a => (a, r.depth a))).insert c (r.depth c) := by
  rw [← zipIdx_ancestors hf, recordAll, List.foldl_map]
  rfl

theorem depths_foldl {r : Registry} (hf : r.Forest) (cs : List ObjectId)
    (m : Std.ExtTreeMap ObjectId Nat) (hm : Depths r m) :
    let m' := cs.foldl
      (fun m c =>
        (recordAll m ((r.ancestors c).map fun a => (a, r.depth a))).insert c (r.depth c)) m
    Depths r m' ∧ ∀ x, x ∈ m' ↔ x ∈ m ∨ ∃ c ∈ cs, r.Within c x := by
  induction cs generalizing m with
  | nil => exact ⟨hm, fun x => by simp⟩
  | cons c cs ih =>
    obtain ⟨hd, hmem⟩ := ih _ (depths_insert (depths_recordAll hm (r.ancestors c)) c)
    refine ⟨hd, fun x => ?_⟩
    have hids : ((r.ancestors c).map fun a => (a, r.depth a)).map (·.1) = r.ancestors c := by
      rw [List.map_map]
      exact List.map_id _
    rw [List.foldl_cons, hmem, Std.ExtTreeMap.mem_insert, Std.LawfulEqOrd.compare_eq_iff_eq,
      mem_recordAll, hids]
    simp only [List.mem_cons, exists_eq_or_imp]
    rw [hf.within_iff_mem_ancestors (x := c)]
    tauto

theorem depths_spec {r : Registry} (hf : r.Forest) (cs : List ObjectId) :
    Depths r (depths r cs) ∧ ∀ x, x ∈ depths r cs ↔ ∃ c ∈ cs, r.Within c x := by
  obtain ⟨hd, hmem⟩ := depths_foldl hf cs ∅ (fun h => by simp at h)
  unfold depths
  simp only [depths_step hf]
  refine ⟨hd, fun x => ?_⟩
  rw [hmem]
  simp

/-- A collection looks at its candidates and at everything above them. -/
theorem mem_collectionOrder {r : Registry} (hf : r.Forest) (cs : List ObjectId) :
    x ∈ collectionOrder r cs ↔ ∃ c ∈ cs, r.Within c x := by
  have hperm := (List.mergeSort_perm (depths r cs).toList deeperFirst).map (·.1)
  unfold collectionOrder
  rw [hperm.mem_iff, Std.ExtTreeMap.map_fst_toList_eq_keys, Std.ExtTreeMap.mem_keys,
    (depths_spec hf cs).2]

theorem nodup_collectionOrder (r : Registry) (cs : List ObjectId) :
    (collectionOrder r cs).Nodup := by
  have hperm := (List.mergeSort_perm (depths r cs).toList deeperFirst).map (·.1)
  unfold collectionOrder
  rw [hperm.nodup_iff, Std.ExtTreeMap.map_fst_toList_eq_keys]
  exact Std.ExtTreeMap.nodup_keys

theorem childrenFirst_collectionOrder {r : Registry} (hf : r.Forest) (cs : List ObjectId) :
    ChildrenFirst r (collectionOrder r cs) := by
  have hsorted : ((depths r cs).toList.mergeSort deeperFirst).Pairwise
      fun a b => deeperFirst a b = true := by
    refine List.pairwise_mergeSort ?_ ?_ _
    · intro a b c hab hbc
      simp only [deeperFirst, decide_eq_true_eq] at hab hbc ⊢
      omega
    · intro a b
      simp only [deeperFirst, Bool.or_eq_true, decide_eq_true_eq]
      omega
  have hdepth : ∀ p ∈ (depths r cs).toList.mergeSort deeperFirst, p.2 = r.depth p.1 := by
    intro p hp
    rw [List.mem_mergeSort] at hp
    exact (depths_spec hf cs).1 (Std.ExtTreeMap.mem_toList_iff_getElem?_eq_some.mp hp)
  refine List.pairwise_map.mpr (hsorted.imp_of_mem fun {a b} ha hb hab hp => ?_)
  simp only [deeperFirst, decide_eq_true_eq, hdepth a ha, hdepth b hb] at hab
  have hchild := hf.depth_of_parentOf hp
  omega

/-! ## Collecting -/

theorem Consistent.collect (hw : h.Consistent) (cs : List ObjectId) :
    Taken h (h.collect cs).1 (h.collect cs).2 ∧ (h.collect cs).2.Consistent ∧
      (h.collect cs).2.sessions = h.sessions :=
  hw.collectInOrder _

theorem WellFormed.collect (hw : h.WellFormed) (cs : List ObjectId) :
    Taken h (h.collect cs).1 (h.collect cs).2 ∧ (h.collect cs).2.WellFormed ∧
      (h.collect cs).2.sessions = h.sessions := by
  obtain ⟨ht, hc, hsessions⟩ := hw.consistent.collect cs
  exact ⟨ht, ht.wellFormed hw hc.forest hc.mirrored, hsessions⟩

/-- A collection takes out the objects below which everything stands above a candidate and nobody
holds anything. -/
theorem Consistent.mem_collect (hw : h.Consistent) (cs : List ObjectId) :
    x ∈ (h.collect cs).1.map (·.id) ↔
      h.registry.contains x = true ∧ ¬ h.Needed x ∧
        ∀ y, h.registry.Within y x → ∃ c ∈ cs, h.registry.Within c y := by
  have hmem := hw.mem_collectInOrder_iff (x := x) (nodup_collectionOrder h.registry cs)
    (childrenFirst_collectionOrder hw.forest cs)
  refine hmem.trans (and_congr_right fun _ => ?_)
  simp only [mem_collectionOrder hw.forest]
  constructor
  · intro hall
    exact ⟨fun ⟨y, hy, hheld⟩ => (hall y hy).2 hheld, fun y hy => (hall y hy).1⟩
  · rintro ⟨hneeded, hcs⟩ y hy
    exact ⟨hcs y hy, fun hheld => hneeded ⟨y, hy, hheld⟩⟩

/-- Whatever is not needed any more stands above a candidate. -/
def Covers (h : Holdings) (cs : List ObjectId) : Prop :=
  ∀ x, h.registry.contains x = true → ¬ h.Needed x → ∃ c ∈ cs, h.registry.Within c x

/-- With such candidates a collection takes out exactly what is not needed. -/
theorem WellFormed.mem_collect_of_covers (hw : h.WellFormed) {cs : List ObjectId}
    (hc : h.Covers cs) :
    x ∈ (h.collect cs).1.map (·.id) ↔ h.registry.contains x = true ∧ ¬ h.Needed x := by
  rw [hw.consistent.mem_collect]
  constructor
  · exact fun hx => ⟨hx.1, hx.2.1⟩
  · rintro ⟨hlive, hneeded⟩
    refine ⟨hlive, hneeded, fun y hy => ?_⟩
    refine hc y (Registry.contains_of_within_live hlive hy) ?_
    rintro ⟨z, hz, hheld⟩
    exact hneeded ⟨z, hz.trans hy, hheld⟩

/-- Then every object that is left is needed. -/
theorem settled_collect (hw : h.WellFormed) {cs : List ObjectId} (hc : h.Covers cs) :
    (h.collect cs).2.Settled := by
  obtain ⟨ht, hwell, hsessions⟩ := hw.collect cs
  refine { toWellFormed := hwell, needed := ?_ }
  intro x hx
  obtain ⟨hlive, hout⟩ := ht.cut.contains_iff.mp hx
  rw [hw.mem_collect_of_covers hc] at hout
  have hneeded : h.Needed x := by
    by_contra hn
    exact hout ⟨hlive, hn⟩
  obtain ⟨y, hy, hheld⟩ := hneeded
  have hy' : (h.collect cs).2.registry.contains y = true := by
    refine ht.cut.contains_iff.mpr ⟨hw.held_live hheld, fun hgone => ?_⟩
    rw [hw.mem_collect_of_covers hc] at hgone
    exact hgone.2 ⟨y, Registry.Within.refl _ y, hheld⟩
  refine ⟨y, (ht.cut.within_iff hwell.forest hy').mpr hy, ?_⟩
  rw [hsessions]
  exact hheld

end Holdings

end MediaPlane
