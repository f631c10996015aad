import MediaPlane.Proofs.ControlPlane.Stage

/-
  Properties that hold between operations. Such a property may fail while an operation is under
  way, as long as it holds again when the operation is done (`Enduring`). Then it is kept by every
  stage of every call, also between the entries of a transaction.
-/

namespace MediaPlane

namespace ControlPlane

/-- A property that no operation takes away, taken as a whole. -/
structure Enduring (Q : ControlPlane → Prop) : Prop where
  execute : ∀ {cp} s op, Q cp → Q (cp.execute s op).2
  register : ∀ {cp} s c, Q cp → Q (cp.register s c).2
  enter : ∀ {cp} s, Q cp → Q (cp.enter s)
  leave : ∀ {cp} s, Q cp → Q (cp.leave s)
  connect : ∀ {cp} s, Q cp → Q (cp.connect s)
  keepAlive : ∀ {cp next s}, cp.keepAlive s = .ok next → Q cp → Q next
  close : ∀ {cp next s forced n}, cp.closeSession s forced = .ok (n, next) → Q cp → Q next
  draw : ∀ {cp}, Q cp → Q cp.drawName.2
  /-- It does not depend on what is counted and on the retry cache. -/
  record : ∀ {cp} metrics cache, Q cp → Q { cp with metrics, cache }

namespace Enduring

variable {Q : ControlPlane → Prop} {cp : ControlPlane}

theorem runEntries (hQ : Enduring Q) (hq : Q cp) (s : SessionId) (slots : Slots)
    (results entries : List Value) : Q (cp.runEntries s slots results entries).2 := by
  induction entries generalizing cp slots results with
  | nil => exact hq
  | cons entry rest ih =>
    unfold ControlPlane.runEntries
    split
    · exact ih hq slots _
    · next method params _ =>
      have he : Q (cp.executeEntry s slots method params).2 := by
        unfold executeEntry
        split
        · exact hq
        · exact hQ.execute s _ hq
      split
      · next heq =>
        rw [heq] at he
        exact he
      · next heq =>
        rw [heq] at he
        exact ih he _ _

theorem respond (hQ : Enduring Q) (hq : Q cp) (caller : Caller) (result : Except Failure Value) :
    Q (cp.respond caller result).2 := by
  obtain ⟨metrics, cache, heq⟩ := respond_snd cp caller result
  rw [heq]
  exact hQ.record metrics cache hq

theorem proceed (hQ : Enduring Q) (hq : Q cp) (caller : Caller) (outcome : Outcome) :
    Q (cp.proceed caller outcome).2 := by
  cases outcome with
  | settled result => exact hQ.respond (hQ.leave caller.session hq) caller result
  | waiting w => exact hq

theorem proceedBatch (hQ : Enduring Q) (hq : Q cp) (caller : Caller) (outcome : BatchOutcome) :
    Q (cp.proceedBatch caller outcome).2 := by
  cases outcome with
  | completed results => exact hQ.respond (hQ.leave caller.session hq) caller _
  | waiting w batch => exact hq

theorem perform (hQ : Enduring Q) (hq : Q cp) (caller : Caller) (op : Operation) :
    Q (cp.perform caller op).2 := by
  have henter := hQ.enter caller.session hq
  cases op with
  | ping => exact hQ.respond hq caller _
  | keepAlive =>
    unfold ControlPlane.perform
    simp only
    split
    · exact hQ.respond hq caller _
    · next heq => exact hQ.respond (hQ.keepAlive heq hq) caller _
  | connect => exact hQ.respond (hQ.connect caller.session hq) caller _
  | closeSession forced =>
    unfold ControlPlane.perform
    simp only
    split
    · exact hQ.respond hq caller _
    · next heq => exact hQ.respond (hQ.close heq hq) caller _
  | transaction entries =>
    exact hQ.proceedBatch (hQ.runEntries henter caller.session [] [] entries) caller _
  | create | invoke | ref | unref | release | describe | subscribe | unsubscribe =>
    rw [perform_of_inTransaction cp caller rfl]
    exact hQ.proceed (hQ.execute caller.session _ henter) caller _

theorem start (hQ : Enduring Q) (hq : Q cp) (r : Request) (guard : Option Guard) :
    Q (cp.start r guard).2 := by
  have hsession : Q (cp.sessionFor r.session).2 := by
    cases r.session with
    | some s => exact hq
    | none => exact hQ.draw hq
  unfold ControlPlane.start
  simp only
  split
  · exact hQ.respond hsession _ _
  · exact hQ.perform hsession _ _

theorem begin (hQ : Enduring Q) (hq : Q cp) (r : Request) : Q (cp.begin r).2 := by
  unfold ControlPlane.begin
  split
  · simp only
    split
    · exact hQ.start (hQ.record cp.metrics _ hq) r _
    · exact hQ.record _ cp.cache hq
    · exact hQ.record _ cp.cache hq
  · exact hQ.start hq r none

theorem finishWait (hQ : Enduring Q) (hq : Q cp) (s : SessionId) (w : Wait) :
    Q (cp.finishWait s w).2 := by
  cases w with
  | construction c ready => exact hQ.register s c hq
  | answer value ready => exact hq

theorem resume? (hQ : Enduring Q) (hq : Q cp) {tick : Nat} {p : Pending}
    {r : Progress × ControlPlane} (h : cp.resume? tick p = some r) : Q r.2 := by
  cases p with
  | duplicate key ticket =>
    obtain ⟨response, -, rfl⟩ := Option.map_eq_some_iff.mp h
    exact hq
  | running caller wait batch =>
    have hdone := hQ.finishWait hq caller.session wait
    unfold ControlPlane.resume? at h
    simp only at h
    split at h
    · cases h
    · cases batch with
      | none =>
        cases h
        exact hQ.proceed hdone caller _
      | some b =>
        cases h
        exact hQ.proceedBatch (hQ.runEntries hdone _ _ _ _) caller _

theorem cancel (hQ : Enduring Q) (hq : Q cp) (p : Pending) : Q (cp.cancel p) := by
  rcases cp.cancel_cases p with heq | ⟨s, cache, heq⟩ <;> rw [heq]
  · exact hq
  · exact hQ.record (cp.leave s).metrics cache (hQ.leave s hq)

end Enduring

end ControlPlane

end MediaPlane
