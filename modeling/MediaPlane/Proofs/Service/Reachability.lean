import MediaPlane.Proofs.ControlPlane.Settled
import MediaPlane.Proofs.Service.Run

/-
  Reachability: in every run, between any two steps, the live objects are exactly the ones that some
  session references and their ancestors (`live_iff_referenced`). No unreferenced leaf survives, no
  referenced object or ancestor of one is missing, and no session references an object that is gone.
  The invariant is that the holdings are settled; every input keeps it, whatever the factory of the
  transport calls back into.
-/

namespace MediaPlane

theorem Settings.settled_run (c : Settings) (inputs : List Input) :
    (c.run inputs).plane.holdings.Settled :=
  ControlPlane.lasting_settled.run Holdings.settled_empty inputs

/-- In every run the live objects are the ones that some session references, and their ancestors. -/
theorem live_iff_referenced (c : Settings) (inputs : List Input) (x : ObjectId) :
    (c.run inputs).plane.registry.contains x = true ↔
      ∃ s y k, (c.run inputs).plane.sessions.reference? s y = some k ∧
        (x = y ∨ x ∈ (c.run inputs).plane.registry.ancestors y) := by
  have hs := c.settled_run inputs
  have hneeded : (c.run inputs).plane.registry.contains x = true ↔
      (c.run inputs).plane.holdings.Needed x := hs.contains_iff
  rw [hneeded]
  have hwithin : ∀ y, (c.run inputs).plane.holdings.registry.Within y x ↔
      x = y ∨ x ∈ (c.run inputs).plane.registry.ancestors y := by
    intro y
    rw [hs.forest.within_iff_mem_ancestors, eq_comm]
    rfl
  constructor
  · rintro ⟨y, hy, s, k, hk⟩
    exact ⟨s, y, k, hk, (hwithin y).mp hy⟩
  · rintro ⟨s, y, k, hk, hy⟩
    exact ⟨y, (hwithin y).mpr hy, s, k, hk⟩

end MediaPlane
