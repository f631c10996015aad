import MediaPlane.Proofs.ControlPlane.Footing
import MediaPlane.Proofs.ControlPlane.Sparing

/-
  Dropped references, whatever the order. `Relinquishes` says what it comes to that a session drops
  references and subscriptions: the references are gone, the holdings are settled, and what went
  with it are objects, each with its element and its subscriptions. Nothing is said of which
  objects these are, since settled holdings leave no choice: they are what no session holds any
  more (`Holdings.Settled.unique_of_cut`). So it does not matter in how many steps the references
  are dropped, and in which order (`Relinquishes.sameEnd`).
-/

namespace MediaPlane

namespace ControlPlane

open Registry (Cut)

variable {cp mid next last : ControlPlane} {s : SessionId} {p p' : ObjectId → Prop}
  {q q' : Subscription → Prop} {x : ObjectId}

/-- Two runs came to the same end. -/
structure SameEnd (cp cq : ControlPlane) : Prop where
  registry_eq : cp.registry = cq.registry
  contains_eq : ∀ u, cp.sessions.contains u = cq.sessions.contains u
  /-- The references, by session. -/
  reference?_eq : ∀ u x, cp.sessions.reference? u x = cq.sessions.reference? u x
  /-- The references, by object. -/
  holders_eq : cp.sessions.holders = cq.sessions.holders
  subscriptions_eq : cp.dispatcher.subscriptions = cq.dispatcher.subscriptions
  /-- The same elements were released, if in another order. -/
  released : cp.journal.released.Perm cq.journal.released

/-- The session drops its references to the objects that satisfy `p`, and its subscriptions that
satisfy `q`, with all that follows. -/
structure Relinquishes (s : SessionId) (p : ObjectId → Prop) (q : Subscription → Prop)
    (cp next : ControlPlane) : Prop where
  settled : next.holdings.Settled
  dropped : ∀ {x}, p x → next.sessions.reference? s x = none
  kept : ∀ {u x}, ¬ (u = s ∧ p x) →
    next.sessions.reference? u x = cp.sessions.reference? u x
  /-- No other session comes or goes. -/
  others : ∀ {u}, u ≠ s → next.sessions.contains u = cp.sessions.contains u
  /-- Objects go, each with its subscriptions and its element. -/
  gone : ∃ gone : List MediaObject, Cut cp.registry gone next.registry ∧
    Sheds cp (fun sub => q sub ∨ sub.object ∈ gone.map (·.id)) next ∧
    next.journal.released = cp.journal.released ++ gone.map (·.id)

namespace Relinquishes

/-- Nothing is dropped. -/
theorem of_eq (hs : next.holdings.Settled) (hr : next.registry = cp.registry)
    (hd : next.dispatcher = cp.dispatcher) (hj : next.journal = cp.journal)
    (ht : ∀ u x, next.sessions.reference? u x = cp.sessions.reference? u x)
    (ho : ∀ u, u ≠ s → next.sessions.contains u = cp.sessions.contains u) :
    Relinquishes s (fun _ => False) (fun _ => False) cp next where
  settled := hs
  dropped := False.elim
  kept := fun _ => ht _ _
  others := ho _
  gone := by
    refine ⟨[], ?_, ?_, ?_⟩
    · rw [hr]
      exact Cut.refl cp.registry
    · exact (sheds_of_eq (congrArg Dispatcher.subscriptions hd)).congr fun sub => by simp
    · rw [hj, List.map_nil, List.append_nil]

/-- A reference that was not there does not come. -/
theorem reference?_of_none (h : Relinquishes s p q cp next)
    (hx : cp.sessions.reference? s x = none) : next.sessions.reference? s x = none := by
  by_cases hp : p x
  · exact h.dropped hp
  · rw [h.kept fun hc => hp hc.2]
    exact hx

theorem trans (h : Relinquishes s p q cp mid) (h' : Relinquishes s p' q' mid next) :
    Relinquishes s (fun x => p x ∨ p' x) (fun sub => q sub ∨ q' sub) cp next where
  settled := h'.settled
  dropped := by
    rintro x (hp | hp)
    · exact h'.reference?_of_none (h.dropped hp)
    · exact h'.dropped hp
  kept := by
    intro u x hnot
    rw [h'.kept fun hc => hnot ⟨hc.1, Or.inr hc.2⟩, h.kept fun hc => hnot ⟨hc.1, Or.inl hc.2⟩]
  others := fun hu => (h'.others hu).trans (h.others hu)
  gone := by
    obtain ⟨gone, hcut, hsheds, hreleased⟩ := h.gone
    obtain ⟨more, hcut', hsheds', hreleased'⟩ := h'.gone
    refine ⟨gone ++ more, hcut.trans hcut', (hsheds.trans hsheds').congr fun sub => ?_, ?_⟩
    · rw [List.map_append, List.mem_append, or_or_or_comm]
    · rw [hreleased', hreleased, List.map_append, List.append_assoc]

/-- Only the references that there are matter. -/
theorem congr (h : Relinquishes s p q cp next)
    (hp : ∀ x k, cp.sessions.reference? s x = some k → (p x ↔ p' x))
    (hq : ∀ sub, q sub ↔ q' sub) : Relinquishes s p' q' cp next where
  settled := h.settled
  dropped := by
    intro x hx
    cases hk : cp.sessions.reference? s x with
    | none => exact h.reference?_of_none hk
    | some k => exact h.dropped ((hp x k hk).mpr hx)
  kept := by
    intro u x hnot
    by_cases hdropped : u = s ∧ p x
    · obtain ⟨rfl, hx⟩ := hdropped
      rw [h.dropped hx]
      cases hk : cp.sessions.reference? u x with
      | none => rfl
      | some k => exact absurd ⟨rfl, (hp x k hk).mp hx⟩ hnot
    · exact h.kept hdropped
  others := h.others
  gone := by
    obtain ⟨gone, hcut, hsheds, hreleased⟩ := h.gone
    exact ⟨gone, hcut, hsheds.congr fun sub => or_congr_left (hq sub), hreleased⟩

theorem reference?_unique (h : Relinquishes s p q cp next) (h' : Relinquishes s p q cp last)
    (u : SessionId) (x : ObjectId) :
    next.sessions.reference? u x = last.sessions.reference? u x := by
  by_cases hdropped : u = s ∧ p x
  · obtain ⟨rfl, hx⟩ := hdropped
    rw [h.dropped hx, h'.dropped hx]
  · rw [h.kept hdropped, h'.kept hdropped]

/-- Whatever way it is done, the end is the same, provided that the session itself is there after
both or neither. -/
theorem sameEnd (h : Relinquishes s p q cp next) (h' : Relinquishes s p q cp last)
    (hsame : next.sessions.contains s = last.sessions.contains s) : SameEnd next last := by
  obtain ⟨gone, hcut, hsheds, hreleased⟩ := h.gone
  obtain ⟨gone', hcut', hsheds', hreleased'⟩ := h'.gone
  obtain ⟨hperm, hregistry⟩ :=
    h.settled.unique_of_cut h'.settled hcut hcut' (h.reference?_unique h')
  have hsheds : Sheds cp (fun sub => q sub ∨ sub.object ∈ gone'.map (·.id)) next :=
    hsheds.congr fun sub => or_congr_right hperm.mem_iff
  refine { registry_eq := hregistry, contains_eq := ?_, reference?_eq := h.reference?_unique h',
           holders_eq := h.settled.mirrored.holders_eq h'.settled.mirrored (h.reference?_unique h'),
           subscriptions_eq := ?_, released := ?_ }
  · intro u
    by_cases hu : u = s
    · rw [hu]
      exact hsame
    · rw [h.others hu, h'.others hu]
  · refine Std.ExtTreeMap.ext_getElem? fun id => Option.ext fun sub => ?_
    exact (hsheds id sub).trans (hsheds' id sub).symm
  · rw [hreleased, hreleased']
    exact hperm.append_left cp.journal.released

end Relinquishes

/-! ## What drops references -/

theorem relinquishes_dropReferences (hs : cp.holdings.Settled) (s : SessionId)
    (ids : List ObjectId) (reason : RemovalReason) :
    Relinquishes s (· ∈ ids) (fun _ => False) cp (cp.dropReferences s ids reason) := by
  have htables := holdings_dropReferences cp s ids reason
  have hreference : ∀ u x, (cp.dropReferences s ids reason).sessions.reference? u x =
      if s = u ∧ x ∈ ids then none else cp.sessions.reference? u x := by
    intro u x
    unfold sessions
    rw [htables, ((hs.toWellFormed.dropped s ids).collect ids).2.2]
    exact Holdings.reference?_dropReferences cp.sessions s u ids x
  refine { settled := ?_, dropped := ?_, kept := ?_,
           others := fun _ => contains_dropReferences cp s _ ids reason,
           gone := ⟨_, cut_dropReferences hs s ids reason,
            (sheds_dropReferences cp s ids reason).congr fun sub => ?_, ?_⟩ }
  · rw [htables]
    exact Holdings.settled_dropReferences hs s ids
  · intro x hx
    rw [hreference, if_pos ⟨rfl, hx⟩]
  · intro u x hnot
    rw [hreference, if_neg fun hc => hnot ⟨hc.1.symm, hc.2⟩]
  · rw [false_or]
  · exact congrArg Journal.released (journal_teardown _ reason _)

/-- A soft close drops every reference and every subscription of its session. -/
theorem relinquishes_closeSession (hs : cp.holdings.Settled) {n : Nat}
    (h : cp.closeSession s false = .ok (n, next)) :
    Relinquishes s (fun _ => True) (fun sub => sub.session = s) cp next := by
  have hnext := settled_closeSession hs h
  obtain ⟨closure, holdings, hc, -, rfl⟩ := closeSession_ok h
  obtain ⟨refs, t, hr, -⟩ := Holdings.close_ok hc
  have hsessions : (cp.closedBy s closure holdings).sessions = t := by
    unfold sessions
    rw [holdings_closedBy]
    exact Holdings.sessions_close hs hr hc nofun
  have hreference : ∀ u x, (cp.closedBy s closure holdings).sessions.reference? u x =
      if s = u then none else cp.sessions.reference? u x := by
    intro u x
    rw [hsessions]
    exact SessionTable.reference?_removeSession? hr u x
  refine { settled := hnext, dropped := ?_, kept := ?_,
           others := fun hu => contains_closedBy hc hu.symm,
           gone := ⟨_, cut_closedBy hs hc, sheds_closedBy cp s closure holdings,
            released_closedBy cp s closure holdings⟩ }
  · intro x _
    exact (hreference s x).trans (if_pos rfl)
  · intro u x hnot
    exact (hreference u x).trans (if_neg fun hc => hnot ⟨hc.symm, trivial⟩)

theorem not_contains_closeSession {forced : Bool} {n : Nat}
    (h : cp.closeSession s forced = .ok (n, next)) : next.sessions.contains s = false := by
  obtain ⟨closure, holdings, hc, -, rfl⟩ := closeSession_ok h
  have hnone : (cp.closedBy s closure holdings).sessions.activity? s = none := by
    rw [sessions, holdings_closedBy, Holdings.activity?_close hc, if_pos rfl]
  have hgone : (cp.closedBy s closure holdings).sessions.find? s = none :=
    Option.map_eq_none_iff.mp hnone
  show (cp.closedBy s closure holdings).sessions.contains s = false
  rw [SessionTable.contains_eq, hgone]
  rfl

end ControlPlane

end MediaPlane
