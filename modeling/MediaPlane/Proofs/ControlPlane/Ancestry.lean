import MediaPlane.Proofs.ControlPlane.Rearing
import MediaPlane.Proofs.Object.Lineage

/-
  Where ids come from. The elements that were ever constructed make a lineage: each has a text of
  its own from the source of names, and its parent was constructed before it (`Ancestry`). Objects
  that entered the registry and constructions under way take one constructed element each, so that
  an id under construction is not live if no text was drawn twice (`Ancestry.not_live`), and then it
  is not turned away for being there already (`Ancestry.not_twice`). Whatever enters the registry is
  noted, so that what has left it stays out unless it is noted twice (`Rears.stays_out`).
-/

namespace MediaPlane

/-! ## Unique texts -/

namespace NameSource

variable {n later : NameSource} {k : Nat}

/-- The texts that were drawn after the first `k`. -/
def since (n : NameSource) (k : Nat) : List String :=
  (List.range' (k + 1) (n.drawn - k)).map n.name

theorem since_draw (h : k ≤ n.drawn) : n.draw.2.since k = n.since k ++ [n.draw.1] := by
  unfold since
  have hcount : n.draw.2.drawn - k = (n.drawn - k) + 1 := by
    rw [draw_drawn]
    omega
  have hlast : k + 1 + (n.drawn - k) = n.drawn + 1 := by omega
  rw [hcount, List.range'_1_concat, List.map_append, List.map_singleton, draw_name, draw_fst, hlast]

theorem Onward.since_sublist (h : n.Onward later) (k : Nat) :
    (n.since k).Sublist (later.since k) := by
  unfold since
  rw [h.name_eq]
  exact (List.range'_sublist_right.mpr (Nat.sub_le_sub_right h.drawn_le k)).map n.name

theorem nodup_since (hinj : Function.Injective n.name) (k : Nat) : (n.since k).Nodup :=
  (List.nodup_range' ..).map hinj

/-- The texts that were drawn after the first `k` are unique identifiers: all different, and written
with 36 characters. -/
structure UniqueSince (n : NameSource) (k : Nat) : Prop where
  nodup : (n.since k).Nodup
  length_eq : ∀ text ∈ n.since k, text.length = 36

theorem UniqueSince.of_onward (hu : later.UniqueSince k) (h : n.Onward later) :
    n.UniqueSince k where
  nodup := hu.nodup.sublist (h.since_sublist k)
  length_eq := fun text ht => hu.length_eq text ((h.since_sublist k).subset ht)

end NameSource

theorem ObjectId.ChildOf.mono {x p : ObjectId} {uniques more : List String}
    (h : x.ChildOf p uniques) (hsub : uniques ⊆ more) : x.ChildOf p more := by
  obtain ⟨unique, hmem, qualifiedType, hx⟩ := h
  exact ⟨unique, hsub hmem, qualifiedType, hx⟩

/-- What is not live yet can only miss its parent. -/
theorem Registry.code_of_put {r : Registry} {o : MediaObject} {e : Failure}
    (hnew : r.contains o.id = false) (h : r.put o = .error e) : e.code ≠ .internalError := by
  unfold put at h
  rw [hnew] at h
  simp only [Bool.false_eq_true, if_false] at h
  split at h
  · cases h
  · split at h <;> cases h
    exact nofun

namespace ControlPlane

variable {cp next : ControlPlane} {k : Nat} {s : SessionId} {building after : List Construction}
  {c : Construction}

/-! ## The invariant -/

/-- Where the ids of a state come from, with the constructions under way in it. -/
structure Ancestry (k : Nat) (cp : ControlPlane) (building : List Construction) : Prop where
  drawn_le : k ≤ cp.names.drawn
  lineage : ∃ births, Lineal births ∧ cp.journal.constructed = births.map Birth.id ∧
    (births.map Birth.unique).Sublist (cp.names.since k)
  /-- No constructed element is registered twice, and none of those under construction is. -/
  accounted : (cp.journal.registered ++ building.map (·.id)).Subperm cp.journal.constructed
  live : ∀ {x}, cp.registry.contains x = true → x ∈ cp.journal.registered
  below : ∀ {x p}, cp.registry.parentOf x = some p → (x, p) ∈ cp.journal.adopted
  adopted : ∀ {x p}, (x, p) ∈ cp.journal.adopted → x.ChildOf p (cp.names.since k)
  conceived : ∀ {c}, c ∈ building → ∀ {p}, c.parent = some p → c.id.ChildOf p (cp.names.since k)

namespace Ancestry

theorem nodup_constructed (h : cp.Ancestry k building) (hu : cp.names.UniqueSince k) :
    cp.journal.constructed.Nodup := by
  obtain ⟨births, hlineal, hconstructed, hdrawn⟩ := h.lineage
  rw [hconstructed]
  refine hlineal.nodup_id (n := 36) (hu.nodup.sublist hdrawn) fun b hb => ?_
  exact hu.length_eq b.unique (hdrawn.subset (List.mem_map_of_mem hb))

theorem nodup_accounted (h : cp.Ancestry k building) (hu : cp.names.UniqueSince k) :
    (cp.journal.registered ++ building.map (·.id)).Nodup := by
  obtain ⟨taken, hperm, hsub⟩ := h.accounted
  exact hperm.nodup_iff.mp ((h.nodup_constructed hu).sublist hsub)

/-- An id under construction is not there yet. -/
theorem not_live (h : cp.Ancestry k building) (hu : cp.names.UniqueSince k) (hc : c ∈ building) :
    cp.registry.contains c.id = false := by
  rw [← Bool.not_eq_true]
  intro hlive
  exact (List.nodup_append.mp (h.nodup_accounted hu)).2.2 c.id (h.live hlive) c.id
    (List.mem_map_of_mem hc) rfl

/-- So the registry takes it, if its parent is still there. -/
theorem not_twice (h : cp.Ancestry k building) (hu : cp.names.UniqueSince k) (hc : c ∈ building)
    (s : SessionId) : ∀ e, (cp.register s c).1 = .error e → e.code ≠ .internalError := by
  have hnew := h.not_live hu hc
  intro e he
  unfold register at he
  split at he
  · next hput =>
    cases he
    exact Registry.code_of_put hnew hput
  · cases he

/-! ## Every step -/

theorem barren (h : cp.Ancestry k building) (hb : Barren cp next) : next.Ancestry k building where
  drawn_le := Nat.le_trans h.drawn_le hb.onward.drawn_le
  lineage := by
    obtain ⟨births, hlineal, hconstructed, hdrawn⟩ := h.lineage
    rw [hb.constructed_eq]
    exact ⟨births, hlineal, hconstructed, hdrawn.trans (hb.onward.since_sublist k)⟩
  accounted := by
    rw [hb.registered_eq, hb.constructed_eq]
    exact h.accounted
  live := by
    rw [hb.registered_eq]
    exact fun hx => h.live (hb.contains_of_contains hx)
  below := by
    rw [hb.adopted_eq]
    exact fun hp => h.below (hb.parentOf_of_parentOf hp)
  adopted := by
    rw [hb.adopted_eq]
    exact fun hx => (h.adopted hx).mono (hb.onward.since_sublist k).subset
  conceived := fun hc _ hp => (h.conceived hc hp).mono (hb.onward.since_sublist k).subset

/-- A construction that begins is born after its parent, with a text that was drawn for it. -/
theorem begins (h : cp.Ancestry k building) (hb : cp.Begins c next)
    (hp : ∀ p ∈ c.parent, cp.registry.contains p = true) :
    next.Ancestry k (c :: building) := by
  obtain ⟨births, hlineal, hconstructed, hdrawn⟩ := h.lineage
  have honward := hb.steady.onward.since_sublist k
  obtain ⟨mock, rfl⟩ := hb.eq
  obtain ⟨entry, params, hid, -, -⟩ := hb
  let b : Birth := ⟨c.parent, cp.drawName.1, entry.type.qualifiedName⟩
  have hsince : cp.drawName.2.names.since k = cp.names.since k ++ [cp.drawName.1] :=
    NameSource.since_draw h.drawn_le
  refine { drawn_le := Nat.le_trans h.drawn_le (Nat.le_succ _), lineage := ?_, accounted := ?_,
           live := h.live, below := h.below, adopted := ?_, conceived := ?_ }
  · refine ⟨births ++ [b], hlineal.born b fun p hparent => ?_, ?_, ?_⟩
    · rw [← hconstructed]
      exact h.accounted.subset (List.mem_append_left _ (h.live (hp p hparent)))
    · rw [List.map_append, ← hconstructed, List.map_singleton]
      exact congrArg (cp.journal.constructed ++ [·]) hid
    · show List.Sublist _ (cp.drawName.2.names.since k)
      rw [List.map_append, List.map_singleton, hsince]
      exact hdrawn.append_right _
  · show List.Subperm (cp.journal.registered ++ c.id :: building.map (·.id))
      (cp.journal.constructed ++ [c.id])
    have hlast := (List.subperm_append_right [c.id]).mpr h.accounted
    rw [List.append_assoc] at hlast
    exact ((List.perm_append_singleton c.id _).symm.append_left _).subperm.trans hlast
  · exact fun hx => (h.adopted hx).mono honward.subset
  · intro d hd p hparent
    rcases List.mem_cons.mp hd with rfl | hd
    · refine ⟨cp.drawName.1, ?_, entry.type.qualifiedName, ?_⟩
      · show _ ∈ cp.drawName.2.names.since k
        rw [hsince]
        exact List.mem_append_right _ (List.mem_singleton.mpr rfl)
      · rw [hid, hparent]
        rfl
    · exact (h.conceived hd hparent).mono honward.subset

theorem giveUp (h : cp.Ancestry k building) (hsub : after.Subperm building) :
    cp.Ancestry k after where
  drawn_le := h.drawn_le
  lineage := h.lineage
  accounted := by
    obtain ⟨kept, hperm, hsub⟩ := hsub
    have hids : (after.map (·.id)).Subperm (building.map (·.id)) :=
      ⟨kept.map (·.id), hperm.map _, hsub.map _⟩
    exact ((List.subperm_append_left _).mpr hids).trans h.accounted
  live := h.live
  below := h.below
  adopted := h.adopted
  conceived := fun hc => h.conceived (hsub.subset hc)

/-- A construction that ends takes its id to the registry, or gives it up. -/
theorem register (h : cp.Ancestry k (c :: building)) (s : SessionId) :
    (cp.register s c).2.Ancestry k building := by
  rcases register_enters cp s c with he | hb
  · refine { drawn_le := ?_, lineage := ?_, accounted := ?_, live := ?_, below := ?_,
             adopted := ?_, conceived := ?_ }
    · rw [he.names_eq]
      exact h.drawn_le
    · rw [he.constructed_eq, he.names_eq]
      exact h.lineage
    · rw [he.registered_eq, he.constructed_eq, List.append_assoc]
      exact h.accounted
    · intro x hx
      rw [he.registered_eq, List.mem_append, List.mem_singleton]
      rcases he.contains_iff.mp hx with heq | hx
      · exact Or.inr heq.symm
      · exact Or.inl (h.live hx)
    · intro x p hp
      rw [he.adopted_eq, List.mem_append]
      rw [he.parentOf_eq] at hp
      split at hp
      · next heq =>
        rw [hp, ← heq]
        exact Or.inr (List.mem_singleton.mpr rfl)
      · exact Or.inl (h.below hp)
    · intro x p hx
      rw [he.names_eq]
      rw [he.adopted_eq, List.mem_append] at hx
      rcases hx with hx | hx
      · exact h.adopted hx
      · obtain ⟨q, hq, heq⟩ := List.mem_map.mp hx
        cases heq
        exact h.conceived List.mem_cons_self (Option.mem_toList.mp hq)
    · rw [he.names_eq]
      exact fun hc => h.conceived (List.mem_cons_of_mem c hc)
  · exact (h.barren hb).giveUp (List.sublist_cons_self c building).subperm

end Ancestry

theorem Rears.ancestry (hr : Rears cp building next after) (h : cp.Ancestry k building) :
    next.Ancestry k after := by
  induction hr with
  | refl => exact h
  | barren _ hb ih => exact ih.barren hb
  | begins _ hb hp ih => exact ih.begins hb hp
  | register _ s ih => exact ih.register s
  | giveUp _ hsub ih => exact ih.giveUp hsub

/-! ## Entering the registry -/

/-- Whatever is live was live before, or has entered the registry since. -/
theorem Rears.entered (hr : Rears cp building next after) :
    ∃ entered, next.journal.registered = cp.journal.registered ++ entered ∧
      ∀ x, next.registry.contains x = true → cp.registry.contains x = true ∨ x ∈ entered := by
  induction hr with
  | refl => exact ⟨[], (List.append_nil _).symm, fun x hx => Or.inl hx⟩
  | barren _ hb ih =>
    obtain ⟨entered, hregistered, hlive⟩ := ih
    exact ⟨entered, hb.registered_eq.trans hregistered,
      fun x hx => hlive x (hb.contains_of_contains hx)⟩
  | begins _ hb _ ih =>
    obtain ⟨entered, hregistered, hlive⟩ := ih
    obtain ⟨mock, rfl⟩ := hb.eq
    exact ⟨entered, hregistered, hlive⟩
  | @register mid _ c _ s ih =>
    obtain ⟨entered, hregistered, hlive⟩ := ih
    rcases register_enters mid s c with he | hb
    · refine ⟨entered ++ [c.id], ?_, fun x hx => ?_⟩
      · rw [he.registered_eq, hregistered, List.append_assoc]
      · rw [List.mem_append, List.mem_singleton]
        rcases he.contains_iff.mp hx with heq | hx
        · exact Or.inr (Or.inr heq.symm)
        · exact (hlive x hx).imp_right Or.inl
    · exact ⟨entered, hb.registered_eq.trans hregistered,
        fun x hx => hlive x (hb.contains_of_contains hx)⟩
  | giveUp _ _ ih => exact ih

/-- So what has left the registry stays out, if the journal shows nothing twice. -/
theorem Rears.stays_out (hr : Rears cp building next after) (hn : next.journal.registered.Nodup)
    {x : ObjectId} (hx : x ∈ cp.journal.registered) (hgone : cp.registry.contains x = false) :
    next.registry.contains x = false := by
  obtain ⟨entered, hregistered, hlive⟩ := hr.entered
  rw [hregistered] at hn
  rw [← Bool.not_eq_true]
  intro hback
  rcases hlive x hback with hthere | hentered
  · rw [hgone] at hthere
    cases hthere
  · exact (List.nodup_append.mp hn).2.2 x hx x hentered rfl

/-! ## Creations -/

/-- A creation never finds its id taken, nor fails internally in another way. -/
theorem Ancestry.not_twice_of_create (h : cp.Ancestry k building) (hs : cp.holdings.Settled)
    {typeName : String} {params : Value} {e : Failure}
    (hu : (cp.create s typeName params).2.names.UniqueSince k)
    (he : (cp.create s typeName params).1 = .settled (.error e)) : e.code ≠ .internalError := by
  have hc := conceives hs s typeName params
  generalize cp.create s typeName params = r at hc hu he
  obtain ⟨outcome, next⟩ := r
  cases hc with
  | failed hcode =>
    cases he
    exact hcode
  | @built c mid hb hp =>
    have hmid : mid.names.UniqueSince k := hu.of_onward (steady_register mid s c).onward
    exact (h.begins hb hp).not_twice hmid List.mem_cons_self s e (Outcome.settled.inj he)
  | begun => cases he

end ControlPlane

end MediaPlane
