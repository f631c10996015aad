import MediaPlane.Proofs.ControlPlane.Expiry
import MediaPlane.Proofs.Service.Reachability

/-
  The idle sweep (`idle_sweep_exact`). Between any two steps of a run, a sweep closes exactly the
  sessions that have been quiet for too long with no request running in them, and reports how many
  these were. What is left of the objects, the subscriptions and the other sessions is said from the
  state before the sweep alone. It is the same in whatever order the idle sessions are closed,
  although each close collects objects that only later ones let go of.
-/

namespace MediaPlane

namespace ControlPlane

open Registry (Cut)

variable {cp next : ControlPlane} {closed : List SessionId} {gone : List MediaObject}

/-- A sweep that looks at given sessions in their order; how many were closed. -/
def sweepOver (cp : ControlPlane) (ss : List SessionId) : Nat × ControlPlane :=
  let (closed, cp) := cp.expireAll ss
  (closed, if closed = 0 then cp else cp.gaugeSessions.gaugeSubscriptions)

theorem sweep_eq_sweepOver (cp : ControlPlane) :
    cp.sweep = cp.sweepOver (cp.sessions.idle cp.now cp.sessionTtl) := rfl

/-- The state after the idle sessions `closed` are gone. -/
structure Swept (cp : ControlPlane) (closed : List SessionId) (next : ControlPlane) : Prop where
  /-- These are the sessions without a running request whose last activity is too long ago. -/
  mem_closed : ∀ u, u ∈ closed ↔ ∃ e, cp.sessions.find? u = some e ∧
    e.inFlight = 0 ∧ e.lastActivity + cp.sessionTtl < cp.now
  nodup : closed.Nodup
  /-- The others are as they were, with their references and their times of activity. -/
  find?_eq : ∀ u, next.sessions.find? u = if u ∈ closed then none else cp.sessions.find? u
  /-- An object is left if one of the others references it, or something below it. -/
  contains_iff : ∀ x, next.registry.contains x = true ↔
    ∃ u y k, u ∉ closed ∧ cp.sessions.reference? u y = some k ∧
      (y = x ∨ x ∈ cp.registry.ancestors y)
  /-- It is as it was then, its parent included. -/
  registry_find?_eq : ∀ x, next.registry.contains x = true →
    next.registry.find? x = cp.registry.find? x
  /-- Only the subscriptions of closed sessions and those on objects that went are dropped. -/
  subscription?_iff : ∀ id sub, next.subscription? id = some sub ↔
    cp.subscription? id = some sub ∧ sub.session ∉ closed ∧
      ¬ (cp.registry.contains sub.object = true ∧ next.registry.contains sub.object = false)

theorem Expires.swept (h : Expires cp closed gone next)
    (hclosed : closed = cp.sessions.idle cp.now cp.sessionTtl) (hs : cp.holdings.Settled) :
    Swept cp closed next where
  mem_closed := by
    intro u
    rw [hclosed, SessionTable.mem_idle]
    simp only [Session.isIdle_iff]
  nodup := by
    rw [hclosed]
    exact SessionTable.nodup_idle _ _ _
  find?_eq := h.find?_eq
  contains_iff := by
    intro x
    have hleft : next.registry.contains x = true ↔
        ∃ y, cp.registry.Within y x ∧ next.sessions.Held y :=
      h.settled.contains_iff_of_cut h.cut
    have hheld : ∀ y, next.sessions.Held y ↔
        ∃ u k, u ∉ closed ∧ cp.sessions.reference? u y = some k := by
      intro y
      refine exists_congr fun u => exists_congr fun k => ?_
      unfold SessionTable.reference?
      rw [h.find?_eq]
      by_cases hu : u ∈ closed <;> simp [hu]
    have hforest : cp.registry.Forest := hs.forest
    rw [hleft]
    simp only [hheld, hforest.within_iff_mem_ancestors]
    constructor
    · rintro ⟨y, hy, u, k, hu, hk⟩
      exact ⟨u, y, k, hu, hk, hy⟩
    · rintro ⟨u, y, k, hu, hk, hy⟩
      exact ⟨y, hy, u, k, hu, hk⟩
  registry_find?_eq := by
    intro x hx
    rw [h.cut.find?_eq, if_neg (h.cut.contains_iff.mp hx).2]
  subscription?_iff := by
    intro id sub
    have hgone : sub.object ∈ gone.map (·.id) ↔
        cp.registry.contains sub.object = true ∧ next.registry.contains sub.object = false := by
      rw [← Bool.not_eq_true, h.cut.contains_iff]
      refine ⟨fun hin => ⟨h.cut.live_of_mem hin, fun hleft => hleft.2 hin⟩, fun hboth => ?_⟩
      by_contra hout
      exact hboth.2 ⟨hboth.1, hout⟩
    rw [h.sheds id sub, not_or, hgone]

/-- A sweep does what it does, and in every order. -/
structure ExactSweep (cp : ControlPlane) (closed : List SessionId) : Prop where
  count : cp.sweep.1 = closed.length
  swept : Swept cp closed cp.sweep.2
  /-- Closing the same sessions in another order comes to the same. -/
  anyOrder : ∀ ss, ss.Perm closed → (cp.sweepOver ss).1 = cp.sweep.1 ∧
    SameOutcome cp.sweep.2 (cp.sweepOver ss).2

theorem exactSweep (hs : cp.holdings.Settled) (hd : cp.dispatcher.Sound) :
    ExactSweep cp (cp.sessions.idle cp.now cp.sessionTtl) := by
  have hover : ∀ ss, ss.Perm (cp.sessions.idle cp.now cp.sessionTtl) →
      (cp.expireAll ss).1 = ss.length ∧ ∃ gone, Expires cp ss gone (cp.expireAll ss).2 := by
    intro ss hperm
    refine expires_expireAll hs hd (fun s hin => ?_) ?_
    · exact SessionTable.mem_idle.mp (hperm.mem_iff.mp hin)
    · exact hperm.nodup_iff.mpr (SessionTable.nodup_idle _ _ _)
  obtain ⟨hcount, gone, hexpires⟩ := hover _ (List.Perm.refl _)
  refine { count := hcount, swept := ?_, anyOrder := ?_ }
  · have hswept := hexpires.swept rfl hs
    rw [sweep_eq_sweepOver]
    unfold sweepOver
    simp only
    split
    · exact hswept
    · exact { hswept with }
  · intro ss hperm
    obtain ⟨hcount', more, hexpires'⟩ := hover ss hperm
    have hsame : (cp.expireAll ss).1 =
        (cp.expireAll (cp.sessions.idle cp.now cp.sessionTtl)).1 := by
      rw [hcount, hcount', hperm.length_eq]
    refine ⟨hsame, ?_⟩
    rw [sweep_eq_sweepOver]
    unfold sweepOver
    simp only [hsame]
    split
    · next hzero =>
      have hnone : cp.sessions.idle cp.now cp.sessionTtl = [] :=
        List.length_eq_zero_iff.mp (hcount.symm.trans hzero)
      rw [hnone] at hperm ⊢
      rw [hperm.eq_nil]
      exact SameOutcome.refl _
    · exact hexpires.sameOutcome hexpires' fun u => hperm.mem_iff.symm

end ControlPlane

theorem Settings.sound_run (c : Settings) (inputs : List Input) :
    (c.run inputs).plane.dispatcher.Sound :=
  ControlPlane.lasting_sound.run Dispatcher.sound_empty inputs

/-- In every reachable state the idle sweep is exact, and closes the idle sessions in any order. -/
theorem idle_sweep_exact (c : Settings) (inputs : List Input) :
    let cp := (c.run inputs).plane
    cp.ExactSweep (cp.sessions.idle cp.now cp.sessionTtl) :=
  ControlPlane.exactSweep (c.settled_run inputs) (c.sound_run inputs)

/-- The owner makes a pipeline that the guest uses too, and both stay away for too long. -/
def Sample.quietInputs : List Input :=
  inputs ++ [.command (.advance 60001)]

/-- The guest goes first in a sweep, but the owner may as well. -/
theorem idle_sweep_exact_reversed :
    let cp := (Sample.settings.run Sample.quietInputs).plane
    [Sample.owner, Sample.guest].Perm (cp.sessions.idle cp.now cp.sessionTtl) ∧
      (cp.sweepOver [Sample.owner, Sample.guest]).1 = 2 ∧
      cp.sweep.2.SameOutcome (cp.sweepOver [Sample.owner, Sample.guest]).2 := by
  intro cp
  have hexact := idle_sweep_exact Sample.settings Sample.quietInputs
  have hidle : [Sample.owner, Sample.guest].Perm (cp.sessions.idle cp.now cp.sessionTtl) := by
    decide +kernel
  obtain ⟨hcount, hsame⟩ := hexact.anyOrder _ hidle
  exact ⟨hidle, hcount.trans (hexact.count.trans hidle.length_eq.symm), hsame⟩

end MediaPlane
