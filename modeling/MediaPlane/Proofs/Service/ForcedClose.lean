import MediaPlane.Proofs.Service.Reachability

/-
  Forced close: which objects it destroys, said without an order. The session forfeits the trees
  that it owns alone, that is, whose root it strongly holds while no other session strongly holds
  anything in them. Together with them go the objects that nobody references once the session and
  what it forfeited are gone (`closeSession_forced`). Everything else stays as it is.
-/

namespace MediaPlane

namespace ControlPlane

variable {cp next : ControlPlane} {s u : SessionId} {gone : List MediaObject}

/-! ## A forced close -/

/-- The state after a session was closed by force and the objects `gone` were destroyed with it. -/
structure ForcedClosed (cp : ControlPlane) (s : SessionId) (gone : List MediaObject)
    (next : ControlPlane) : Prop where
  /-- Destroyed is what the session forfeits, and what nobody references without that. -/
  mem_gone : ∀ x, x ∈ gone.map (·.id) ↔
    cp.holdings.Forfeited s x ∨ cp.holdings.Forsaken s x
  /-- Each of them was live and is destroyed once. -/
  taken : ∀ o ∈ gone, cp.registry.find? o.id = some o
  nodup : (gone.map (·.id)).Nodup
  released_eq : next.journal.released = cp.journal.released ++ gone.map (·.id)
  /-- Every other object is as it was, its parent included. -/
  find?_eq : ∀ x, next.registry.find? x =
    if x ∈ gone.map (·.id) then none else cp.registry.find? x
  childrenOf_eq : ∀ p, next.registry.childrenOf p =
    (cp.registry.childrenOf p).filter fun c => c ∉ gone.map (·.id)
  /-- The session is gone; the others are there, with their references to what is left. -/
  closed : next.sessions.contains s = false
  contains_eq : ∀ u, u ≠ s → next.sessions.contains u = cp.sessions.contains u
  reference?_eq : ∀ u x, u ≠ s → next.sessions.reference? u x =
    if x ∈ gone.map (·.id) then none else cp.sessions.reference? u x

theorem mem_append_ids {gone more : List MediaObject} {x : ObjectId} :
    x ∈ (gone ++ more).map (·.id) ↔ x ∈ gone.map (·.id) ∨ x ∈ more.map (·.id) := by
  rw [List.map_append, List.mem_append]

theorem forcedClosed (hs : cp.holdings.Settled) (hu : cp.sessions.contains s = true) :
    ∃ gone next, cp.closeSession s true = .ok (gone.length, next) ∧
      ForcedClosed cp s gone next := by
  rcases closeSession_cases cp s true with ⟨hnone, -⟩ | ⟨closure, holdings, hc, hok⟩
  · rw [hnone] at hu
    cases hu
  · have hnext := Holdings.settled_close hs hc
    obtain ⟨refs, t, hr, hforced, hcollected, -⟩ := Holdings.close_ok hc
    have ht := Holdings.taken_close hs hr hc
    have hkept : ((cp.closedBy s closure holdings).gaugeSessions.gaugeSubscriptions).holdings =
        holdings := holdings_closedBy cp s closure holdings
    refine ⟨closure.forced ++ closure.collected,
      (cp.closedBy s closure holdings).gaugeSessions.gaugeSubscriptions, ?_, ?_⟩
    · rw [hok, List.length_append]
      rfl
    · refine { mem_gone := ?_, taken := ht.cut.taken, nodup := ht.cut.nodup, released_eq := ?_,
               find?_eq := ?_, childrenOf_eq := ?_, closed := ?_, contains_eq := ?_,
               reference?_eq := ?_ }
      · intro x
        rw [mem_append_ids, hforced, hcollected]
        exact or_congr (hs.toWellFormed.mem_destroyed hr) (Holdings.mem_collected hs hr)
      · exact released_closedBy cp s closure holdings
      · intro x
        rw [registry, hkept]
        exact ht.cut.find?_eq x
      · intro p
        rw [registry, hkept]
        exact ht.cut.childrenOf_eq hs.forest hnext.forest p
      · rw [sessions, hkept, SessionTable.contains_eq, ht.find?_eq,
          SessionTable.find?_removeSession? hr, if_pos rfl]
        rfl
      · intro u hu
        rw [sessions, hkept, SessionTable.contains_eq, SessionTable.contains_eq, ht.find?_eq,
          SessionTable.find?_removeSession? hr, if_neg hu.symm, Option.isSome_map]
        rfl
      · intro u x hu
        rw [sessions, hkept, ht.reference?_eq, SessionTable.reference?_removeSession? hr,
          if_neg hu.symm]
        rfl

end ControlPlane

/-- In every reachable state a forced close of an existing session destroys exactly what the session
owns alone and what nobody references without that, and reports how many objects these were. -/
theorem closeSession_forced (c : Settings) (inputs : List Input) {s : SessionId}
    (hs : (c.run inputs).plane.sessions.contains s = true) :
    ∃ gone next, (c.run inputs).plane.closeSession s true = .ok (gone.length, next) ∧
      ControlPlane.ForcedClosed (c.run inputs).plane s gone next :=
  ControlPlane.forcedClosed (c.settled_run inputs) hs

theorem closeSession_forced_owner :
    (Sample.settings.run Sample.inputs).plane.sessions.contains Sample.owner = true ∧
      ∃ gone next, (Sample.settings.run Sample.inputs).plane.closeSession Sample.owner true =
          .ok (gone.length, next) ∧
        ControlPlane.ForcedClosed (Sample.settings.run Sample.inputs).plane Sample.owner gone
          next :=
  have hs : (Sample.settings.run Sample.inputs).plane.sessions.contains Sample.owner = true := by
    decide +kernel
  ⟨hs, closeSession_forced Sample.settings Sample.inputs hs⟩

end MediaPlane
