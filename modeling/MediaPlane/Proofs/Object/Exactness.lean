import MediaPlane.Proofs.Object.Walks
import MediaPlane.Proofs.Session.LeavesFirst

/-
  The registry on its own, whoever uses it and in whatever order. In every registry that a sequence
  of actions makes of an empty one the walks up and down end with what stands above and below an
  object, and they are each other's converse; a removal takes out one tree and a drain everything,
  each object once and before its parent, and what is left is as it was but for what went
  (`walks_and_removals_exact`).
-/

namespace MediaPlane

/-- One change of a registry. -/
inductive RegistryAction where
  | put (o : MediaObject)
  | update (id : ObjectId) (f : MediaObject → MediaObject)
  | remove (id : ObjectId)
  | drain

namespace Registry

variable {r s : Registry} {gone : List MediaObject} {x : ObjectId}

/-- The registry after an action. An object that cannot be put leaves it as it was. -/
def act (r : Registry) : RegistryAction → Registry
  | .put o =>
    match r.put o with
    | .ok next => next
    | .error _ => r
  | .update id f => r.update id f
  | .remove id => (r.remove id).2
  | .drain => r.drain.2

/-- The registry after a sequence of actions, from an empty one. -/
def ofActions (actions : List RegistryAction) : Registry := actions.foldl act empty

theorem forest_act (h : r.Forest) (a : RegistryAction) : (r.act a).Forest := by
  cases a with
  | put o =>
    simp only [act]
    split
    · next hput => exact forest_put h hput
    · exact h
  | update id f => exact forest_update h id f
  | remove id => exact h.forest_remove id
  | drain => exact (h.removeAll r.roots).2

theorem forest_foldl_act (h : r.Forest) (actions : List RegistryAction) :
    (actions.foldl act r).Forest := by
  induction actions generalizing r with
  | nil => exact h
  | cons a actions ih => exact ih (forest_act h a)

theorem forest_ofActions (actions : List RegistryAction) : (ofActions actions).Forest :=
  forest_foldl_act forest_empty actions

/-! ## The walks -/

/-- The walks up and down find what they should, and end. -/
structure WalksExactly (r : Registry) : Prop where
  /-- The walk up stops, and has met the ancestors then. -/
  climbs : ∀ x, Ends r.climb? ⟨[], r.parentOf x⟩ ⟨r.ancestors x, none⟩
  /-- The walk down stops, and has met the descendants then. -/
  descends : ∀ x, Ends r.descend? ⟨[], r.childrenOf x⟩ ⟨r.descendants x, []⟩
  /-- From each object to its parent. -/
  chain : ∀ x, (x :: r.ancestors x).IsChain fun c p => r.parentOf c = some p
  converse : ∀ d a, d ∈ r.descendants a ↔ a ∈ r.ancestors d
  nodup : ∀ a, (r.descendants a).Nodup
  parent_precedes : ∀ a, ∀ c ∈ r.descendants a, ∀ p, r.parentOf c = some p →
    p = a ∨ [p, c].Sublist (r.descendants a)
  /-- The root is the last ancestor, or the object itself if it has none. -/
  root : ∀ x, r.contains x = true → ∃ root, r.rootOf x = .ok root ∧
    (x :: r.ancestors x).getLast? = some root ∧ r.parentOf root = none
  unknown : ∀ x, r.contains x = false →
    r.ancestors x = [] ∧ r.descendants x = [] ∧ r.rootOf x = .error (.objectNotFound x)

theorem Forest.walksExactly (h : r.Forest) : r.WalksExactly where
  climbs := h.ends_climb
  descends := h.ends_descend
  chain := h.isChain_path
  converse _ _ := h.mem_descendants
  nodup := h.nodup_descendants
  parent_precedes _ _ hc _ hp := h.parent_precedes hc hp
  root x hx := by
    obtain ⟨root, hlast, hroot⟩ := h.parentOf_getLast x
    exact ⟨root, rootOf_eq hx hlast, hlast, hroot⟩
  unknown x hx := by
    obtain ⟨habove, hbelow⟩ := h.walks_of_dead hx
    refine ⟨habove, hbelow, ?_⟩
    rw [rootOf, if_neg (Bool.not_eq_true _ ▸ hx)]

/-! ## What is taken out -/

/-- What was there went or is there still. -/
theorem Cut.size_eq (h : Cut r gone s) : r.objects.size = gone.length + s.objects.size := by
  have hnodup : (gone.map (·.id) ++ s.objects.keys).Nodup := by
    refine List.nodup_append.mpr ⟨h.nodup, Std.ExtTreeMap.nodup_keys, ?_⟩
    rintro x hx y hy rfl
    exact (h.contains_iff.mp (Std.ExtTreeMap.mem_keys.mp hy)).2 hx
  have hperm : (gone.map (·.id) ++ s.objects.keys).Perm r.objects.keys := by
    refine (List.perm_ext_iff_of_nodup hnodup Std.ExtTreeMap.nodup_keys).mpr fun x => ?_
    rw [List.mem_append, Std.ExtTreeMap.mem_keys, Std.ExtTreeMap.mem_keys]
    constructor
    · rintro (hx | hx)
      · exact h.live_of_mem hx
      · exact (h.contains_iff.mp hx).1
    · intro hx
      by_cases hout : x ∈ gone.map (·.id)
      · exact Or.inl hout
      · exact Or.inr (h.contains_iff.mpr ⟨hx, hout⟩)
  have hlength := hperm.length_eq
  rw [List.length_append, List.length_map, Std.ExtTreeMap.length_keys,
    Std.ExtTreeMap.length_keys] at hlength
  exact hlength.symm

/-- `s` is `r` without the objects `gone`, which are listed once each and before their parents. -/
structure TakenOut (r : Registry) (gone : List MediaObject) (s : Registry) : Prop
    extends Cut r gone s where
  precedes_parent : ∀ c ∈ gone.map (·.id), ∀ p ∈ gone.map (·.id), r.parentOf c = some p →
    [c, p].Sublist (gone.map (·.id))
  /-- Every object keeps its children in their order, but for those that went. -/
  childrenOf_eq : ∀ p, s.childrenOf p = (r.childrenOf p).filter fun c => c ∉ gone.map (·.id)
  none_empty : ∀ (p : ObjectId) (cs : Std.ExtTreeSet ObjectId),
    s.children[p]? = some cs → cs.isEmpty = false
  live_eq : s.live = s.objects.size
  fewer : r.live = gone.length + s.live

theorem Cut.takenOut (h : Cut r gone s) (hr : r.Forest) (hs : s.Forest)
    (ho : Holdings.ChildrenFirst r (gone.map (·.id))) : TakenOut r gone s where
  toCut := h
  precedes_parent c hc p hp hparent := by
    refine sublist_of_pairwise ho hc hp ?_ fun hnot => hnot hparent
    rintro rfl
    exact hr.not_within_of_parentOf hparent (Within.refl r c)
  childrenOf_eq := h.childrenOf_eq hr hs
  none_empty _ _ hp := hs.none_empty hp
  live_eq := hs.live_eq
  fewer := by rw [hr.live_eq, hs.live_eq, h.size_eq]

/-- A removal takes out a live object and its descendants, and nothing if there is no object. -/
structure RemovesExactly (r : Registry) (id : ObjectId) : Prop where
  taken : r.TakenOut (r.remove id).1 (r.remove id).2
  tree : ∀ x, x ∈ (r.remove id).1.map (·.id) ↔
    r.contains id = true ∧ (x = id ∨ x ∈ r.descendants id)
  unknown : r.contains id = false → r.remove id = ([], r)

theorem Forest.removesExactly (h : r.Forest) (id : ObjectId) : r.RemovesExactly id where
  taken := (h.cut_remove id).takenOut h (h.forest_remove id) (h.childrenFirst_remove id)
  tree x := by rw [h.mem_remove, h.within_iff_mem_ancestors, h.mem_descendants]
  unknown := remove_of_dead

/-- A drain takes out every object, and leaves the registry as it was made. -/
structure DrainsExactly (r : Registry) : Prop where
  taken : r.TakenOut r.drain.1 r.drain.2
  everything : ∀ x, x ∈ r.drain.1.map (·.id) ↔ r.contains x = true
  nothing_left : r.drain.2 = empty

theorem Forest.drainsExactly (h : r.Forest) : r.DrainsExactly where
  taken := (h.removeAll r.roots).1.takenOut h (h.removeAll r.roots).2 h.childrenFirst_drain
  everything _ := h.mem_drain
  nothing_left := (h.removeAll r.roots).2.eq_empty h.contains_drain

/-! ## Every sequence of actions -/

/-- After any sequence of actions the walks end and are exact, and so is what is removed next. -/
theorem walks_and_removals_exact (actions : List RegistryAction) :
    (ofActions actions).WalksExactly ∧
      (∀ id, (ofActions actions).RemovesExactly id) ∧
      (ofActions actions).DrainsExactly := by
  have hforest := forest_ofActions actions
  exact ⟨hforest.walksExactly, hforest.removesExactly, hforest.drainsExactly⟩

/-- A filter below an endpoint goes before it, and the pipeline above them stays. -/
example :
    let thing (id : String) (parent : Option ObjectId) : MediaObject :=
      .new ⟨id⟩ (.inModule "test" "Thing" .endpoint) parent .mock 0
    let r := ofActions [.put (thing "p" none), .put (thing "e" (some ⟨"p"⟩)),
      .put (thing "f" (some ⟨"e"⟩))]
    (r.remove ⟨"e"⟩).1.map (·.id) = [⟨"f"⟩, ⟨"e"⟩] ∧ (r.remove ⟨"e"⟩).2.live = 1 := by
  decide +kernel

end Registry

end MediaPlane
