import MediaPlane.Proofs.ControlPlane.Dropping
import MediaPlane.Proofs.ControlPlane.Footing
import MediaPlane.Proofs.Service.Reachability

/-
  Dropping references is confluent (`drops_confluent`). In every reachable state, a session that
  releases a tree comes to the same end as one that drops its reference to each object of the tree,
  in any order; and a soft close comes to the same end whatever the session has dropped before. The
  end is the same as far as objects, references, subscriptions and released elements go. The
  requests are sent one after the other, each as soon as the one before has its response.
-/

namespace MediaPlane

namespace ControlPlane

variable {cp mid next last : ControlPlane} {s : SessionId} {op : Operation} {value : Value}
  {p : ObjectId → Prop} {q : Subscription → Prop}

/-- The state after a request in a session, which succeeds without having to wait. -/
def succeed? (cp : ControlPlane) (s : SessionId) (op : Operation) : Option ControlPlane :=
  ((cp.process? (.inSession s op)).filter (·.1.succeeded)).map (·.2)

/-- The state after a session dropped its references to some objects one by one. Those that are not
there any more when it is their turn are skipped. -/
def unrefAll? (cp : ControlPlane) (s : SessionId) : List ObjectId → Option ControlPlane
  | [] => some cp
  | x :: xs =>
    if cp.registry.contains x then (cp.succeed? s (.unref x)).bind fun next => next.unrefAll? s xs
    else unrefAll? cp s xs

/-! ## Requests that succeed -/

theorem begin_inSession (hread : (Request.inSession s op).operation = .ok op) :
    cp.begin (.inSession s op) = cp.perform (cp.callerOf (.inSession s op) none) op := by
  have hstart : cp.begin (.inSession s op) = cp.start (.inSession s op) none := rfl
  rw [hstart, start_of_session rfl, hread]

theorem succeed?_of_begin {caller : Caller}
    (h : cp.begin (.inSession s op) = mid.respond caller (.ok value)) :
    cp.succeed? s op = some (mid.respond caller (.ok value)).2 := by
  unfold succeed? process?
  rw [h]
  rfl

/-- A request that drops references has no other effect than the operation itself. -/
theorem Relinquishes.request (hs : cp.holdings.Settled)
    (h : Relinquishes s p q (cp.enter s) mid) (caller : Caller) (result : Except Failure Value) :
    Relinquishes s p q cp ((mid.leave s).respond caller result).2 := by
  have henter : Relinquishes s (fun _ => False) (fun _ => False) cp (cp.enter s) := by
    obtain ⟨metrics, heq⟩ := enter_eq cp s
    have hsettled := settled_enter hs s
    rw [heq] at hsettled ⊢
    refine .of_eq hsettled rfl rfl rfl
      (fun u x => SessionTable.reference?_enter cp.sessions s u cp.now x) fun u hu => ?_
    rw [Bool.eq_iff_iff]
    exact (SessionTable.contains_enter cp.sessions s u cp.now).trans (or_iff_right hu.symm)
  have hleave : Relinquishes s (fun _ => False) (fun _ => False) mid (mid.leave s) :=
    .of_eq (settled_leave h.settled s) rfl rfl rfl
      (fun u x => SessionTable.reference?_leave mid.sessions s u mid.now x)
      fun u _ => SessionTable.contains_update mid.sessions s u _
  have hrespond : Relinquishes s (fun _ => False) (fun _ => False) (mid.leave s)
      ((mid.leave s).respond caller result).2 := by
    obtain ⟨metrics, cache, heq⟩ := respond_snd (mid.leave s) caller result
    rw [heq]
    exact .of_eq hleave.settled rfl rfl rfl (fun _ _ => rfl) fun _ _ => rfl
  refine (((henter.trans h).trans hleave).trans hrespond).congr (fun x _ _ => ?_) fun sub => ?_
  · rw [false_or, or_false, or_false]
  · rw [false_or, or_false, or_false]

/-- A request for an operation that drops references. -/
theorem exists_succeed?_of_drops (hs : cp.holdings.Settled)
    (hop : op.method.inTransaction = true) (hread : (Request.inSession s op).operation = .ok op)
    {ids : List ObjectId} {reason : RemovalReason}
    (h : (cp.enter s).execute s op =
      (.settled (.ok value), (cp.enter s).dropReferences s ids reason)) :
    ∃ last, cp.succeed? s op = some last ∧ Plain cp last ∧
      last.sessions.contains s = true ∧
      Relinquishes s (· ∈ ids) (fun _ => False) cp last := by
  have hbegin : cp.begin (.inSession s op) =
      (((cp.enter s).dropReferences s ids reason).leave s).respond
        (cp.callerOf (.inSession s op) none) (.ok value) := by
    rw [begin_inSession hread, perform_of_inTransaction cp _ hop, session_callerOf rfl, h]
    rfl
  have hplain := ((plain_dropReferences (cp.enter s) s ids reason).trans (plain_leave _ s)).trans
    (plain_respond _ (cp.callerOf (.inSession s op) none) (.ok value))
  refine ⟨_, succeed?_of_begin hbegin, (plain_enter cp s).trans hplain, ?_, ?_⟩
  · exact hplain.stays s (contains_enter cp s)
  · exact (relinquishes_dropReferences (settled_enter hs s) s ids reason).request hs _ _

theorem registry_enter (cp : ControlPlane) (s : SessionId) :
    (cp.enter s).registry = cp.registry := by
  obtain ⟨metrics, heq⟩ := enter_eq cp s
  rw [heq]
  rfl

theorem exists_unref (hs : cp.holdings.Settled) (s : SessionId) {x : ObjectId}
    (hx : cp.registry.contains x = true) :
    ∃ last, cp.succeed? s (.unref x) = some last ∧ Plain cp last ∧
      last.sessions.contains s = true ∧
      Relinquishes s (· ∈ [x]) (fun _ => False) cp last := by
  have hexecute : (cp.enter s).execute s (.unref x) =
      (.settled (.ok emptyResult), (cp.enter s).dropReferences s [x] .unreferenced) := by
    show (cp.enter s).settle emptyResult ((cp.enter s).unref s x) = _
    unfold unref
    rw [registry_enter, if_pos hx]
    rfl
  exact exists_succeed?_of_drops hs rfl rfl hexecute

theorem exists_release (hs : cp.holdings.Settled) (s : SessionId) {o : ObjectId}
    (ho : cp.registry.contains o = true) :
    ∃ last, cp.succeed? s (.release o) = some last ∧ last.sessions.contains s = true ∧
      Relinquishes s (· ∈ cp.registry.descendants o ++ [o]) (fun _ => False) cp last := by
  have hexecute : (cp.enter s).execute s (.release o) = (.settled (.ok (sessionResult s)),
      (cp.enter s).dropReferences s (cp.registry.descendants o ++ [o]) .released) := by
    show (cp.enter s).settle (sessionResult s) ((cp.enter s).release s o) = _
    unfold release
    rw [registry_enter, if_pos ho]
    rfl
  obtain ⟨last, hlast, -, hthere, hdrops⟩ := exists_succeed?_of_drops hs rfl rfl hexecute
  exact ⟨last, hlast, hthere, hdrops⟩

theorem exists_closeSession (hs : cp.holdings.Settled) (hc : cp.sessions.contains s = true) :
    ∃ last, cp.succeed? s (.closeSession false) = some last ∧
      last.sessions.contains s = false ∧
      Relinquishes s (fun _ => True) (fun sub => sub.session = s) cp last := by
  rcases closeSession_cases cp s false with ⟨hnone, -⟩ | ⟨closure, holdings, -, hok⟩
  · rw [hc] at hnone
    cases hnone
  · have hdrops := relinquishes_closeSession hs hok
    have hgone := not_contains_closeSession hok
    have hbegin : cp.begin (.inSession s (.closeSession false)) =
        ((cp.closedBy s closure holdings).gaugeSessions.gaugeSubscriptions).respond
          (cp.callerOf (.inSession s (.closeSession false)) none) (.ok emptyResult) := by
      rw [begin_inSession rfl]
      unfold perform
      simp only
      rw [session_callerOf rfl, hok]
    refine ⟨_, succeed?_of_begin hbegin, ?_⟩
    obtain ⟨metrics, cache, heq⟩ :=
      respond_snd (cp.closedBy s closure holdings).gaugeSessions.gaugeSubscriptions
        (cp.callerOf (.inSession s (.closeSession false)) none) (.ok emptyResult)
    rw [heq]
    exact ⟨hgone, hdrops.settled, hdrops.dropped, hdrops.kept, hdrops.others, hdrops.gone⟩

/-! ## One by one -/

/-- However objects go on the way, in the end the session has dropped all of the references. It is
there in the end if it was there, or if it sent any request at all. -/
theorem exists_unrefAll (hs : cp.holdings.Settled) (s : SessionId) (xs : List ObjectId) :
    ∃ last, cp.unrefAll? s xs = some last ∧ Plain cp last ∧
      ((∃ x ∈ xs, cp.registry.contains x = true) → last.sessions.contains s = true) ∧
      Relinquishes s (· ∈ xs) (fun _ => False) cp last := by
  induction xs generalizing cp with
  | nil =>
    refine ⟨cp, rfl, Plain.refl cp, fun ⟨x, hx, _⟩ => absurd hx List.not_mem_nil, ?_⟩
    exact (Relinquishes.of_eq hs rfl rfl rfl (fun _ _ => rfl) fun _ _ => rfl).congr
      (fun x _ _ => by simp) fun _ => Iff.rfl
  | cons x xs ih =>
    cases hx : cp.registry.contains x with
    | true =>
      obtain ⟨mid, hmid, hplain, hthere, hdrops⟩ := exists_unref hs s hx
      obtain ⟨last, hlast, hplain', -, hdrops'⟩ := ih hdrops.settled
      refine ⟨last, ?_, hplain.trans hplain', fun _ => hplain'.stays s hthere,
        (hdrops.trans hdrops').congr (fun y _ _ => ?_) fun sub => ?_⟩
      · rw [unrefAll?, if_pos hx, hmid]
        exact hlast
      · rw [List.mem_singleton, List.mem_cons]
      · rw [or_false]
    | false =>
      obtain ⟨last, hlast, hplain, hthere, hdrops⟩ := ih hs
      -- nothing that is live, or that the session references, is an object that is gone
      have hne : ∀ {y}, cp.registry.contains y = true → y ≠ x := by
        rintro y hy rfl
        rw [hx] at hy
        cases hy
      refine ⟨last, ?_, hplain, fun ⟨y, hy, hlive⟩ => hthere ⟨y, ?_, hlive⟩,
        hdrops.congr (fun y k hy => ?_) fun _ => Iff.rfl⟩
      · rw [unrefAll?, hx, if_neg Bool.false_ne_true]
        exact hlast
      · exact (List.mem_cons.mp hy).resolve_left (hne hlive)
      · rw [List.mem_cons, or_iff_right (hne (hs.held_live ⟨s, k, hy⟩))]

end ControlPlane

/-- What a session drops at once, it may as well drop one by one. -/
structure Confluent (cp : ControlPlane) (s : SessionId) : Prop where
  /-- To release an object is to drop the references to all of its tree, in any order. -/
  release : ∀ {o xs}, cp.registry.contains o = true →
    (∀ x, x ∈ xs ↔ x = o ∨ x ∈ cp.registry.descendants o) →
      ∃ last last', cp.succeed? s (.release o) = some last ∧ cp.unrefAll? s xs = some last' ∧
        last.SameEnd last'
  /-- Before a soft close, references may be dropped in any order, all of them or some. -/
  close : ∀ xs, cp.sessions.contains s = true →
    ∃ last mid last', cp.succeed? s (.closeSession false) = some last ∧
      cp.unrefAll? s xs = some mid ∧ mid.succeed? s (.closeSession false) = some last' ∧
        last.SameEnd last'

/-- In every reachable state, dropping references is confluent. -/
theorem drops_confluent (c : Settings) (inputs : List Input) (s : SessionId) :
    Confluent (c.run inputs).plane s where
  release := by
    intro o xs ho hxs
    have hs := c.settled_run inputs
    obtain ⟨last, hlast, hthere, hdrops⟩ := ControlPlane.exists_release hs s ho
    obtain ⟨last', hlast', -, hthere', hdrops'⟩ := ControlPlane.exists_unrefAll hs s xs
    have hsent : last'.sessions.contains s = true :=
      hthere' ⟨o, (hxs o).mpr (Or.inl rfl), ho⟩
    refine ⟨last, last', hlast, hlast', hdrops.sameEnd (hdrops'.congr (fun x _ _ => ?_)
      fun _ => Iff.rfl) (hthere.trans hsent.symm)⟩
    rw [hxs, List.mem_append, List.mem_singleton, or_comm]
  close := by
    intro xs hc
    have hs := c.settled_run inputs
    obtain ⟨last, hlast, hgone, hdrops⟩ := ControlPlane.exists_closeSession hs hc
    obtain ⟨mid, hmid, hplain, -, hbefore⟩ := ControlPlane.exists_unrefAll hs s xs
    obtain ⟨last', hlast', hgone', hafter⟩ :=
      ControlPlane.exists_closeSession hbefore.settled (hplain.stays s hc)
    refine ⟨last, mid, last', hlast, hmid, hlast', hdrops.sameEnd
      ((hbefore.trans hafter).congr (fun x _ _ => ?_) fun sub => ?_) (hgone.trans hgone'.symm)⟩
    · rw [or_true]
    · rw [false_or]

/-- The owner makes a pipeline, and an endpoint in it. -/
def Sample.furnished : List Input :=
  [.arrive (.inSession owner (.create "MediaPipeline" .null)),
    .arrive (.inSession owner
      (.create "WebRtcEndpoint" (.object [("mediaPipeline", .str pipeline.text)])))]

/-- From the top: the pipeline outlasts the reference to it, and goes with the endpoint. -/
theorem drops_confluent_downwards :
    let cp := (Sample.settings.run Sample.furnished).plane
    let xs := Sample.pipeline :: cp.registry.descendants Sample.pipeline
    cp.registry.contains Sample.pipeline = true ∧ xs.length = 2 ∧
      ∃ last last', cp.succeed? Sample.owner (.release Sample.pipeline) = some last ∧
        cp.unrefAll? Sample.owner xs = some last' ∧ last.SameEnd last' := by
  intro cp xs
  have hlive : cp.registry.contains Sample.pipeline = true := by decide +kernel
  have hlength : xs.length = 2 := by decide +kernel
  exact ⟨hlive, hlength,
    (drops_confluent Sample.settings Sample.furnished Sample.owner).release hlive
      fun x => List.mem_cons⟩

end MediaPlane
