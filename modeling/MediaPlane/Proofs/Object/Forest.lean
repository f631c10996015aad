import Mathlib.Logic.Relation
import Mathlib.Data.List.Nodup
import Mathlib.Data.List.Perm.Subperm
import MediaPlane.Object.Registry

/-
  The registry as a forest. `Within x a` says that `x` stands in the tree of `a`; it speaks of
  parents only, so it is independent of the index of children and of the bounded walks. `Forest` is
  what every registry satisfies that the control plane builds: parents are live, the index lists the
  children exactly, and nothing is above itself.

  The bounds of the walks never cut them short: the ancestors of an object are its parent and the
  ancestors of that (`Forest.ancestors_eq`), and the walk down finds exactly what walks up to the
  object (`Forest.mem_descendants`), each once (`Forest.nodup_descendants`).
-/

namespace MediaPlane

namespace Registry

variable {r s : Registry} {a b c p x y : ObjectId}

/-! ## Standing in a tree -/

/-- `x` stands in the tree of `a`: it is `a`, or somewhere below it. -/
def Within (r : Registry) (x a : ObjectId) : Prop :=
  Relation.ReflTransGen (fun c p => r.parentOf c = some p) x a

theorem Within.refl (r : Registry) (x : ObjectId) : r.Within x x := Relation.ReflTransGen.refl

theorem Within.trans (h : r.Within x y) (h' : r.Within y a) : r.Within x a :=
  Relation.ReflTransGen.trans h h'

theorem within_of_parentOf (h : r.parentOf c = some p) : r.Within c p :=
  Relation.ReflTransGen.single h

theorem Within.up (h : r.Within x c) (hp : r.parentOf c = some p) : r.Within x p :=
  Relation.ReflTransGen.tail h hp

/-- A tree seen from one of its objects: the walk to the top begins at the object's parent. -/
theorem within_iff_head : r.Within x a ↔ x = a ∨ ∃ p, r.parentOf x = some p ∧ r.Within p a :=
  Relation.ReflTransGen.cases_head_iff

/-- A tree seen from its top: what is not the top is in the tree of one of its children. -/
theorem within_iff_tail : r.Within x a ↔ a = x ∨ ∃ c, r.Within x c ∧ r.parentOf c = some a :=
  Relation.ReflTransGen.cases_tail_iff _ _ _

/-- Two trees that share an object are one inside the other. -/
theorem Within.linear (ha : r.Within x a) (hb : r.Within x b) : r.Within a b ∨ r.Within b a := by
  refine Relation.ReflTransGen.total_of_right_unique ?_ ha hb
  intro c p q hp hq
  exact Option.some.inj (hp.symm.trans hq)

/-- The walk to the top only depends on the parents met on the way. -/
theorem Within.congr (h : r.Within x a)
    (hp : ∀ c p, r.Within x c → r.Within c a → r.parentOf c = some p → s.parentOf c = some p) :
    s.Within x a := by
  induction h using Relation.ReflTransGen.head_induction_on with
  | refl => exact Within.refl s a
  | head hc h ih =>
    refine Relation.ReflTransGen.head (hp _ _ (Within.refl r _) ?_ hc) (ih ?_)
    · exact Relation.ReflTransGen.head hc h
    · intro c p hx hca
      exact hp c p (Relation.ReflTransGen.head hc hx) hca

/-! ## The index of children -/

/-- The children that are known, by parent. -/
abbrev ChildIndex := Std.ExtTreeMap ObjectId (Std.ExtTreeSet ObjectId)

/-- `c` is listed under `p`. -/
def Listed (m : ChildIndex) (p c : ObjectId) : Prop := ∃ cs, m[p]? = some cs ∧ c ∈ cs

/-- No object is listed with an empty set of children. -/
def NoneEmpty (m : ChildIndex) : Prop :=
  ∀ {p : ObjectId} {cs : Std.ExtTreeSet ObjectId}, m[p]? = some cs → cs.isEmpty = false

theorem mem_childrenOf_iff : c ∈ r.childrenOf p ↔ Listed r.children p c := by
  unfold childrenOf Listed
  cases r.children[p]? <;> simp

theorem listed_erase (m : ChildIndex) (q : ObjectId) :
    Listed (m.erase q) p c ↔ p ≠ q ∧ Listed m p c := by
  unfold Listed
  rw [getElem?_erase_lawful]
  by_cases hq : q = p
  · simp [hq]
  · simp [hq, Ne.symm hq]

theorem noneEmpty_erase {m : ChildIndex} (h : NoneEmpty m) (q : ObjectId) :
    NoneEmpty (m.erase q) := by
  intro p cs hp
  rw [getElem?_erase_lawful] at hp
  split at hp
  · cases hp
  · exact h hp

theorem listed_addChild (m : ChildIndex) (q d : ObjectId) :
    Listed (addChild m q d) p c ↔ (p = q ∧ c = d) ∨ Listed m p c := by
  unfold Listed addChild
  rw [getElem?_insert_lawful]
  have hd : compare d c = .eq ↔ c = d := by rw [Std.LawfulEqOrd.compare_eq_iff_eq, eq_comm]
  by_cases hq : q = p
  · subst hq
    cases h : m[q]? <;> simp [Std.ExtTreeSet.mem_insert, hd]
  · simp [hq, Ne.symm hq]

theorem noneEmpty_addChild {m : ChildIndex} (h : NoneEmpty m) (q d : ObjectId) :
    NoneEmpty (addChild m q d) := by
  intro p cs hp
  unfold addChild at hp
  rw [getElem?_insert_lawful] at hp
  split at hp
  · cases hp
    simp
  · exact h hp

theorem listed_dropChild (m : ChildIndex) (q d : ObjectId) :
    Listed (dropChild m q d) p c ↔ ¬ (p = q ∧ c = d) ∧ Listed m p c := by
  unfold Listed dropChild
  cases hq : m[q]? with
  | none =>
    by_cases hp : p = q
    · subst hp
      simp [hq]
    · simp [hp]
  | some cs =>
    simp only
    have hmem : ∀ x, x ∈ cs.erase d ↔ x ≠ d ∧ x ∈ cs := by
      intro x
      rw [Std.ExtTreeSet.mem_erase, Ne, Std.LawfulEqOrd.compare_eq_iff_eq, eq_comm]
    split
    · next he =>
      rw [getElem?_erase_lawful]
      by_cases hp : q = p
      · subst hp
        have hnone : ∀ x, x ∈ cs → x = d := by
          intro x hx
          by_contra hne
          have hin := (hmem x).mpr ⟨hne, hx⟩
          rw [Std.ExtTreeSet.isEmpty_iff.mp he] at hin
          exact Std.ExtTreeSet.not_mem_empty hin
        simp only [if_true, hq, Option.some.injEq, exists_eq_left', true_and]
        constructor
        · rintro ⟨_, h, _⟩
          cases h
        · rintro ⟨hne, hx⟩
          exact absurd (hnone c hx) hne
      · simp [hp, Ne.symm hp]
    · rw [getElem?_insert_lawful]
      by_cases hp : q = p
      · subst hp
        simp [hq, hmem]
      · simp [hp, Ne.symm hp]

theorem noneEmpty_dropChild {m : ChildIndex} (h : NoneEmpty m) (q d : ObjectId) :
    NoneEmpty (dropChild m q d) := by
  unfold dropChild
  cases hq : m[q]? with
  | none => exact h
  | some cs =>
    simp only
    split
    · exact noneEmpty_erase h q
    · next he =>
      intro p cs' hp
      rw [getElem?_insert_lawful] at hp
      split at hp
      · cases hp
        simpa using he
      · exact h hp

theorem exists_listed {m : ChildIndex} (h : NoneEmpty m) {cs : Std.ExtTreeSet ObjectId}
    (hp : m[p]? = some cs) : ∃ c, Listed m p c := by
  have hsome : cs.toList.isEmpty = false := Std.ExtTreeSet.isEmpty_toList.trans (h hp)
  obtain ⟨c, hc⟩ := List.isEmpty_eq_false_iff_exists_mem.mp hsome
  exact ⟨c, cs, hp, Std.ExtTreeSet.mem_toList.mp hc⟩

/-- Two indexes that list the same children are the same. -/
theorem childIndex_ext {m n : ChildIndex} (hm : NoneEmpty m) (hn : NoneEmpty n)
    (heq : ∀ p c, Listed m p c ↔ Listed n p c) : m = n := by
  refine Std.ExtTreeMap.ext_getElem? fun p => ?_
  cases hp : m[p]? with
  | none =>
    cases hq : n[p]? with
    | none => rfl
    | some cs =>
      obtain ⟨c, hc⟩ := exists_listed hn hq
      obtain ⟨cs', hcs', -⟩ := (heq p c).mpr hc
      rw [hp] at hcs'
      cases hcs'
  | some cs =>
    obtain ⟨c, hc⟩ := exists_listed hm hp
    obtain ⟨cs', hq, -⟩ := (heq p c).mp hc
    have hmem : ∀ c, c ∈ cs ↔ c ∈ cs' := by
      intro c
      have hlisted := heq p c
      unfold Listed at hlisted
      simpa [hp, hq] using hlisted
    rw [hq, Std.ExtTreeSet.ext_mem hmem]

/-! ## Forests -/

/-- The index of children goes with the parents of the live objects. Nothing is said of objects
whose parent is gone, so this holds also in the middle of a removal. -/
structure Indexed (r : Registry) : Prop where
  id_eq : ∀ {id : ObjectId} {o : MediaObject}, r.find? id = some o → o.id = id
  mem_childrenOf : ∀ {c p}, c ∈ r.childrenOf p ↔ r.parentOf c = some p ∧ r.contains p = true
  none_empty : NoneEmpty r.children
  /-- Parents come before their children in some order, so nothing is above itself. -/
  ranked : ∃ rank : ObjectId → Nat, ∀ {c p}, r.parentOf c = some p → rank p < rank c

/-- Every parent is live, and the live objects are counted. -/
structure Forest (r : Registry) : Prop extends Indexed r where
  parent_live : ∀ {c p}, r.parentOf c = some p → r.contains p = true
  live_eq : r.live = r.objects.size

theorem contains_of_parentOf (h : r.parentOf c = some p) : r.contains c = true := by
  rw [contains_eq]
  cases hc : r.find? c with
  | none =>
    simp [parentOf, hc] at h
  | some o => rfl

theorem contains_iff : r.contains x = true ↔ ∃ o, r.find? x = some o := by
  rw [contains_eq, Option.isSome_iff_exists]

theorem Forest.mem_children (h : r.Forest) : c ∈ r.childrenOf p ↔ r.parentOf c = some p := by
  rw [h.mem_childrenOf]
  exact ⟨And.left, fun hp => ⟨hp, h.parent_live hp⟩⟩

/-- The objects make a forest: the index of children and the count follow from them. -/
theorem Forest.eq_of_find? (hr : r.Forest) (hs : s.Forest) (h : ∀ x, r.find? x = s.find? x) :
    r = s := by
  have hobjects : r.objects = s.objects := Std.ExtTreeMap.ext_getElem? fun x => h x
  have hchildren : r.children = s.children := by
    refine childIndex_ext hr.none_empty hs.none_empty fun p c => ?_
    rw [← mem_childrenOf_iff, ← mem_childrenOf_iff, hr.mem_children, hs.mem_children]
    unfold parentOf
    rw [h]
  have hlive : r.live = s.live := by rw [hr.live_eq, hs.live_eq, hobjects]
  obtain ⟨objects, children, live⟩ := r
  cases hobjects
  cases hchildren
  cases hlive
  rfl

theorem Forest.contains_of_within (h : r.Forest) (hx : r.contains x = true)
    (ha : r.Within x a) : r.contains a = true := by
  induction ha with
  | refl => exact hx
  | tail _ hp _ => exact h.parent_live hp

/-- What is below something live is live. -/
theorem contains_of_within_live (ha : r.contains a = true) (h : r.Within x a) :
    r.contains x = true := by
  rcases within_iff_head.mp h with rfl | ⟨p, hp, -⟩
  · exact ha
  · exact contains_of_parentOf hp

theorem Within.rank_le {rank : ObjectId → Nat}
    (hr : ∀ {c p}, r.parentOf c = some p → rank p < rank c) (h : r.Within x a) :
    rank a ≤ rank x := by
  induction h with
  | refl => exact Nat.le_refl _
  | tail _ hp ih => exact Nat.le_trans (Nat.le_of_lt (hr hp)) ih

theorem Indexed.not_within_of_parentOf (h : r.Indexed) (hp : r.parentOf c = some p) :
    ¬ r.Within p c := by
  obtain ⟨rank, hr⟩ := h.ranked
  intro hw
  have hle := hw.rank_le hr
  have hlt := hr hp
  omega

/-! ## Walks -/

theorem ancestorsWithin_succ (r : Registry) (n : Nat) (x : ObjectId) :
    r.ancestorsWithin (n + 1) x =
      match r.parentOf x with
      | none => []
      | some p => p :: r.ancestorsWithin n p := rfl

/-- A walk that stopped before its bound does not go on under a higher one. -/
theorem ancestorsWithin_succ_of_lt (n : Nat) (x : ObjectId)
    (h : (r.ancestorsWithin n x).length < n) :
    r.ancestorsWithin (n + 1) x = r.ancestorsWithin n x := by
  induction n generalizing x with
  | zero => omega
  | succ n ih =>
    rw [ancestorsWithin_succ, ancestorsWithin_succ]
    rw [ancestorsWithin_succ] at h
    cases hp : r.parentOf x with
    | none => rfl
    | some p =>
      simp only [hp, List.length_cons] at h
      have hlt : (r.ancestorsWithin n p).length < n := by omega
      simp only [ih p hlt]

theorem within_of_mem_ancestorsWithin (n : Nat) (h : a ∈ r.ancestorsWithin n x) :
    ∃ p, r.parentOf x = some p ∧ r.Within p a := by
  induction n generalizing x with
  | zero => cases h
  | succ n ih =>
    rw [ancestorsWithin_succ] at h
    cases hp : r.parentOf x with
    | none => simp [hp] at h
    | some p =>
      simp only [hp, List.mem_cons] at h
      refine ⟨p, rfl, ?_⟩
      rcases h with rfl | h
      · exact Within.refl r _
      · obtain ⟨q, hq, hw⟩ := ih h
        exact within_iff_head.mpr (Or.inr ⟨q, hq, hw⟩)

theorem Indexed.nodup_walk (h : r.Indexed) (n : Nat) (x : ObjectId) :
    (x :: r.ancestorsWithin n x).Nodup := by
  induction n generalizing x with
  | zero => simp [ancestorsWithin]
  | succ n ih =>
    refine List.nodup_cons.mpr ⟨?_, ?_⟩
    · intro hx
      obtain ⟨p, hp, hw⟩ := within_of_mem_ancestorsWithin _ hx
      exact h.not_within_of_parentOf hp hw
    · rw [ancestorsWithin_succ]
      cases hp : r.parentOf x with
      | none => exact List.nodup_nil
      | some p => exact ih p

theorem Forest.live_of_mem_walk (h : r.Forest) (n : Nat) (hx : r.contains x = true)
    (ha : a ∈ x :: r.ancestorsWithin n x) : r.contains a = true := by
  rcases List.mem_cons.mp ha with rfl | ha
  · exact hx
  · obtain ⟨p, hp, hw⟩ := within_of_mem_ancestorsWithin _ ha
    exact h.contains_of_within (h.parent_live hp) hw

/-- No walk is longer than there are other live objects. -/
theorem Forest.length_walk_lt (h : r.Forest) (n : Nat) (hx : r.contains x = true) :
    (r.ancestorsWithin n x).length < r.objects.size := by
  have hsub : x :: r.ancestorsWithin n x ⊆ r.objects.keys := by
    intro a ha
    rw [Std.ExtTreeMap.mem_keys, Std.ExtTreeMap.mem_iff_contains]
    exact h.live_of_mem_walk n hx ha
  have hle := (List.Nodup.subperm (h.nodup_walk n x) hsub).length_le
  rw [Std.ExtTreeMap.length_keys, List.length_cons] at hle
  omega

/-- The bound of the walk up is never met: the ancestors are the parent and its ancestors. -/
theorem Forest.ancestors_eq (h : r.Forest) (x : ObjectId) :
    r.ancestors x =
      match r.parentOf x with
      | none => []
      | some p => p :: r.ancestors p := by
  unfold ancestors
  cases hp : r.parentOf x with
  | none =>
    cases r.objects.size with
    | zero => rfl
    | succ n => rw [ancestorsWithin_succ, hp]
  | some p =>
    have hx := h.length_walk_lt r.objects.size (contains_of_parentOf hp)
    have hlt := h.length_walk_lt (r.objects.size - 1) (contains_of_parentOf hp)
    cases hn : r.objects.size with
    | zero => omega
    | succ n =>
      rw [ancestorsWithin_succ, hp]
      simp only
      rw [ancestorsWithin_succ_of_lt]
      have hw := h.length_walk_lt (n + 1) (contains_of_parentOf hp)
      rw [ancestorsWithin_succ, hp, hn] at hw
      simp only [List.length_cons] at hw
      omega

theorem Forest.mem_ancestors (h : r.Forest) :
    a ∈ r.ancestors x ↔ ∃ p, r.parentOf x = some p ∧ r.Within p a := by
  constructor
  · exact within_of_mem_ancestorsWithin _
  · rintro ⟨p, hp, hw⟩
    induction hw using Relation.ReflTransGen.head_induction_on generalizing x with
    | refl =>
      rw [h.ancestors_eq, hp]
      exact List.mem_cons_self
    | head hq _ ih =>
      rw [h.ancestors_eq, hp]
      exact List.mem_cons_of_mem _ (ih hq)

/-- Standing in a tree, by the walk up. -/
theorem Forest.within_iff_mem_ancestors (h : r.Forest) :
    r.Within x a ↔ x = a ∨ a ∈ r.ancestors x := by
  rw [within_iff_head, h.mem_ancestors]

/-- One more step up: the parents of what a shorter walk meets. -/
theorem mem_ancestorsWithin_succ (n : Nat) :
    a ∈ r.ancestorsWithin (n + 1) x ↔
      ∃ c, c ∈ x :: r.ancestorsWithin n x ∧ r.parentOf c = some a := by
  induction n generalizing x with
  | zero =>
    rw [ancestorsWithin_succ]
    cases hp : r.parentOf x <;> simp [ancestorsWithin, hp, eq_comm]
  | succ n ih =>
    rw [ancestorsWithin_succ (r := r) (n := n + 1), ancestorsWithin_succ (r := r) (n := n)]
    cases hp : r.parentOf x with
    | none => simp [hp]
    | some p =>
      simp only [List.mem_cons (a := a), ih]
      constructor
      · rintro (rfl | ⟨c, hc, hca⟩)
        · exact ⟨x, List.mem_cons_self, hp⟩
        · exact ⟨c, List.mem_cons_of_mem _ hc, hca⟩
      · rintro ⟨c, hc, hca⟩
        rcases List.mem_cons.mp hc with rfl | hc
        · rw [hp] at hca
          exact Or.inl (Option.some.inj hca).symm
        · exact Or.inr ⟨c, hc, hca⟩

theorem generations_cons (r : Registry) (n : Nat) (f : ObjectId) (fs : List ObjectId) :
    r.generations (n + 1) (f :: fs) =
      (f :: fs) ++ r.generations n ((f :: fs).flatMap r.childrenOf) := rfl

/-- The generations below a frontier hold what a bounded walk up leads to the frontier. -/
theorem Forest.mem_generations (h : r.Forest) (n : Nat) (fs : List ObjectId) :
    x ∈ r.generations (n + 1) fs ↔ ∃ f ∈ fs, f ∈ x :: r.ancestorsWithin n x := by
  induction n generalizing fs with
  | zero => cases fs <;> simp [generations, ancestorsWithin]
  | succ n ih =>
    cases fs with
    | nil => simp [generations]
    | cons f fs =>
      rw [generations_cons, List.mem_append, ih]
      simp only [List.mem_flatMap, h.mem_children, List.mem_cons (a := _) (b := x),
        mem_ancestorsWithin_succ]
      constructor
      · rintro (hx | ⟨c, ⟨f', hf', hc⟩, hcx⟩)
        · exact ⟨x, hx, Or.inl rfl⟩
        · exact ⟨f', hf', Or.inr ⟨c, hcx, hc⟩⟩
      · rintro ⟨f', hf', rfl | ⟨c, hcx, hc⟩⟩
        · exact Or.inl hf'
        · exact Or.inr ⟨c, ⟨f', hf', hc⟩, hcx⟩

/-- The walk down finds exactly what walks up to the object. -/
theorem Forest.mem_descendants (h : r.Forest) : x ∈ r.descendants a ↔ a ∈ r.ancestors x := by
  unfold descendants ancestors
  cases r.objects.size with
  | zero => simp [generations, ancestorsWithin]
  | succ n =>
    rw [h.mem_generations, mem_ancestorsWithin_succ]
    constructor
    · rintro ⟨c, hc, hcx⟩
      exact ⟨c, hcx, h.mem_children.mp hc⟩
    · rintro ⟨c, hcx, hc⟩
      exact ⟨c, h.mem_children.mpr hc, hcx⟩

/-- How many objects stand above an object. -/
def depth (r : Registry) (x : ObjectId) : Nat := (r.ancestors x).length

theorem Forest.depth_of_parentOf (h : r.Forest) (hp : r.parentOf c = some p) :
    r.depth c = r.depth p + 1 := by
  unfold depth
  rw [h.ancestors_eq c, hp, List.length_cons]

/-- Induction from the roots: what holds of an object if it holds of its parent holds of all. -/
theorem Forest.root_induction (h : r.Forest) {P : ObjectId → Prop}
    (root : ∀ x, r.parentOf x = none → P x)
    (below : ∀ x p, r.parentOf x = some p → P p → P x) (x : ObjectId) : P x := by
  induction hn : r.depth x using Nat.strongRecOn generalizing x with
  | ind n ih =>
    cases hp : r.parentOf x with
    | none => exact root x hp
    | some p =>
      have hdepth := h.depth_of_parentOf hp
      exact below x p hp (ih (r.depth p) (by omega) p rfl)

/-- Where the live objects of one forest have the same parents in another one, they have the same
ancestors. -/
theorem Forest.ancestors_congr (hr : r.Forest) (hs : s.Forest)
    (h : ∀ x, s.contains x = true → r.parentOf x = s.parentOf x) (hx : s.contains x = true) :
    r.ancestors x = s.ancestors x := by
  induction x using hs.root_induction with
  | root x hp => rw [hr.ancestors_eq, hs.ancestors_eq, h x hx, hp]
  | below x p hp ih =>
    rw [hr.ancestors_eq, hs.ancestors_eq x, h x hx, hp]
    exact congrArg (p :: ·) (ih (hs.parent_live hp))

/-- So they have the same root. -/
theorem Forest.rootOf_congr (hr : r.Forest) (hs : s.Forest)
    (h : ∀ x, s.contains x = true → r.parentOf x = s.parentOf x) (hx : s.contains x = true)
    (hx' : r.contains x = true) : r.rootOf x = s.rootOf x := by
  rw [rootOf, rootOf, if_pos hx, if_pos hx', hr.ancestors_congr hs h hx]

/-- Induction from the leaves: what holds of an object if it holds of its children holds of all. -/
theorem Forest.leaf_induction (h : r.Forest) {P : ObjectId → Prop}
    (step : ∀ x, (∀ c, r.parentOf c = some x → P c) → P x) (x : ObjectId) : P x := by
  -- No object is deeper than there are objects, so what is left below shrinks.
  have hbound : ∀ n x, r.objects.size - r.depth x ≤ n → P x := by
    intro n
    induction n with
    | zero =>
      intro x hn
      refine step x fun c hc => ?_
      have hlt : r.depth c < r.objects.size :=
        h.length_walk_lt r.objects.size (contains_of_parentOf hc)
      have hdepth := h.depth_of_parentOf hc
      omega
    | succ n ih =>
      intro x hn
      refine step x fun c hc => ih c ?_
      have hdepth := h.depth_of_parentOf hc
      omega
  exact hbound _ x (Nat.le_refl _)

theorem nodup_childrenOf (r : Registry) (p : ObjectId) : (r.childrenOf p).Nodup := by
  unfold childrenOf
  cases r.children[p]? with
  | none => exact List.nodup_nil
  | some cs => exact cs.distinct_toList.imp fun hne heq => hne (by rw [heq, Std.compare_self])

/-- The children of a generation are one step deeper. -/
theorem Forest.depth_of_mem_next (h : r.Forest) {d : Nat} {fs : List ObjectId}
    (hd : ∀ f ∈ fs, r.depth f = d) (hc : c ∈ fs.flatMap r.childrenOf) : r.depth c = d + 1 := by
  obtain ⟨p, hp, hcp⟩ := List.mem_flatMap.mp hc
  rw [h.depth_of_parentOf (h.mem_children.mp hcp), hd p hp]

/-- Nothing in a generation or below it is shallower than the generation. -/
theorem Forest.le_depth_of_mem_generations (h : r.Forest) {n d : Nat} {fs : List ObjectId}
    (hd : ∀ f ∈ fs, r.depth f = d) (hx : x ∈ r.generations n fs) : d ≤ r.depth x := by
  induction n generalizing d fs with
  | zero => cases hx
  | succ n ih =>
    cases fs with
    | nil => cases hx
    | cons f fs =>
      rw [generations_cons] at hx
      rcases List.mem_append.mp hx with hx | hx
      · exact Nat.le_of_eq (hd x hx).symm
      · exact Nat.le_of_succ_le (ih (fun _ => h.depth_of_mem_next hd) hx)

/-- Generation after generation, nothing is listed twice. -/
theorem Forest.nodup_generations (h : r.Forest) (n d : Nat) (fs : List ObjectId)
    (hn : fs.Nodup) (hd : ∀ f ∈ fs, r.depth f = d) : (r.generations n fs).Nodup := by
  induction n generalizing d fs with
  | zero => exact List.nodup_nil
  | succ n ih =>
    cases fs with
    | nil => exact List.nodup_nil
    | cons f fs =>
      rw [generations_cons]
      have hnext : ((f :: fs).flatMap r.childrenOf).Nodup := by
        refine List.nodup_flatMap.mpr ⟨fun p _ => r.nodup_childrenOf p, ?_⟩
        refine hn.imp fun {p q} hpq c hcp hcq => hpq ?_
        have hp := h.mem_children.mp hcp
        rw [h.mem_children.mp hcq] at hp
        exact (Option.some.inj hp).symm
      have hdeep : ∀ c ∈ (f :: fs).flatMap r.childrenOf, r.depth c = d + 1 :=
        fun _ => h.depth_of_mem_next hd
      refine List.nodup_append.mpr ⟨hn, ih (d + 1) _ hnext hdeep, ?_⟩
      rintro x hx y hy rfl
      have hhere := hd x hx
      have hbelow := h.le_depth_of_mem_generations hdeep hy
      omega

theorem Forest.nodup_descendants (h : r.Forest) (a : ObjectId) : (r.descendants a).Nodup := by
  refine h.nodup_generations _ (r.depth a + 1) _ (r.nodup_childrenOf a) fun c hc => ?_
  exact h.depth_of_parentOf (h.mem_children.mp hc)

end Registry

end MediaPlane
