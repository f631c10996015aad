import MediaPlane.Proofs.ControlPlane.Footing
import MediaPlane.Proofs.Service.Anchoring

/-
  No subscription outlives its session, as long as no transport makes it (`subscriptions_tidy`).
  A subscription is added after its handler was built, and then only the object is looked at again.
  So a transport that closes the very session it builds a handler for leaves a subscription without
  a session, which nobody will drop before its object goes (`subscription_strays`). Whether a
  transport does so is read off its build plans; all other closes, the idle sweep and the shutdown
  take the subscriptions of a session with it, whatever else is under way.
-/

namespace MediaPlane

/-! ## Transports that leave the session open -/

namespace BuildPlan

/-- A plan that does not close session `s` leaves it as it was, or there. -/
theorem leaves_of_within {s : SessionId} {plan : BuildPlan}
    (h : plan.Within { closes u _ := u ≠ s, subscribes _ := True })
    {Q : Bool → Footing → Prop} {k : Footing} (hk : ∀ built, Q built k)
    (hp : ∀ built, Q built .present) : plan.Leaves s Q k := by
  induction plan generalizing Q k with
  | done | refuse => exact hk _
  | lookFirst rest ih => exact fun answer => ih answer (h answer) hk hp
  | subscribeFirst u object eventType inner rest ih ih' =>
    obtain ⟨-, hinner, hrest⟩ := h
    have hpresent : ∀ answer, (rest answer).Leaves s Q .present :=
      fun answer => ih' answer (hrest answer) hp hp
    have hafter : ∀ built : Bool,
        (if built ∧ u = s then Footing.present.subscribed else .present) = .present :=
      fun _ => ite_self _
    unfold Leaves
    by_cases hu : u = s
    · simp only [if_pos hu]
      refine ⟨hpresent, ih hinner (fun built answer => ?_) fun built answer => ?_⟩
      all_goals
        rw [hafter]
        exact hpresent answer
    · have hsame : ∀ answer, (rest answer).Leaves s Q k :=
        fun answer => ih' answer (hrest answer) hk hp
      simp only [hu, and_false, if_false]
      exact ⟨hsame, ih hinner (fun _ => hsame) fun _ => hpresent⟩
  | closeFirst u forced rest ih =>
    unfold Leaves
    rw [if_neg h.1]
    exact fun answer => ih answer (h.2 answer) hk hp

theorem tidies_of_within {s : SessionId} {plan : BuildPlan}
    (h : plan.Within { closes u _ := u ≠ s, subscribes _ := True }) (u : SessionId) :
    plan.Tidies s u := by
  refine leaves_of_within h (fun built => ?_) fun built => ?_
  · by_cases hu : u = s
    · rw [if_pos hu]
      split <;> decide
    · rw [if_neg hu, if_neg fun hboth => hu hboth.2]
      decide
  · split <;> decide

end BuildPlan

/-- A transport that never closes the session. -/
theorem HandlerFactory.tidies_of_within {f : HandlerFactory} {s : SessionId}
    (h : ∀ object u eventType params, (f.plan object u eventType params).Within
      { closes v _ := v ≠ s, subscribes _ := True }) : f.Tidies s :=
  fun object u eventType params => BuildPlan.tidies_of_within (h object u eventType params) u

namespace ControlPlane

variable {cp : ControlPlane} {s : SessionId}

/-! ## Commands -/

theorem KeptTidy.expireAll (h : KeptTidy s cp) (ss : List SessionId) :
    KeptTidy s (cp.expireAll ss).2 := by
  induction ss generalizing cp with
  | nil => exact h
  | cons u ss ih =>
    unfold ControlPlane.expireAll
    split
    · exact ih h
    · next heq => exact ih (h.steady (steady_expire? heq) (tidy_expire? heq h.tidy))

theorem KeptTidy.sweep (h : KeptTidy s cp) : KeptTidy s cp.sweep.2 := by
  have hall := h.expireAll (cp.sessions.idle cp.now cp.sessionTtl)
  rcases cp.sweep_cases with heq | heq <;> rw [heq]
  · exact h
  · exact ⟨hall.tidy, hall.factory⟩

theorem KeptTidy.obey (h : KeptTidy s cp) {c : Command}
    (hc : ∀ f, c = .installFactory f → f.Tidies s) : KeptTidy s (cp.obey c) := by
  have hkept := enduring_keptTidy s
  have hobeys := cp.obeys c
  generalize cp.obey c = next at hobeys ⊢
  cases hobeys with
  | failed => exact h
  | keptAlive hok => exact hkept.keepAlive hok h
  | connected u => exact hkept.connect u h
  | closed hok => exact hkept.close hok h
  | swept => exact h.sweep
  | evicted => exact hkept.record cp.metrics _ h
  | handlerConnected object u eventType receiver =>
    exact h.steady (changes_connectHandler (P := Leeway.full) cp object u eventType receiver).steady
      (tidy_connectHandler h.tidy object u eventType receiver)
  | handlerShared object u id =>
    exact h.steady (steady_shareHandler cp object u id _) (tidy_shareHandler h.tidy object u id _)
  | factoryInstalled f =>
    refine ⟨h.tidy, fun f' hf' => ?_⟩
    have hinstalled : (cp.installFactory f).dispatcher.factory = some f := rfl
    rw [hinstalled] at hf'
    cases hf'
    exact hc f rfl
  | shutDown => exact h.steady (steady_shutdown cp) (tidy_shutdown h.tidy)
  | emitted | handlerTaken | handlerDropped | engineSet | probeLoaded | advanced =>
    exact ⟨h.tidy, h.factory⟩

end ControlPlane

/-! ## Runs -/

theorem Service.keptTidy_step {v : Service} {s : SessionId} {i : Input}
    (h : ControlPlane.KeptTidy s v.plane)
    (hi : ∀ f, i = .command (.installFactory f) → f.Tidies s) :
    ControlPlane.KeptTidy s (v.step i).plane := by
  have hkept := ControlPlane.enduring_keptTidy s
  cases i with
  | arrive r => exact hkept.begin h r
  | resume i tick =>
    show ControlPlane.KeptTidy s (v.resume i tick).plane
    unfold resume
    split
    · exact h
    · next heq =>
      obtain ⟨p, -, hp⟩ := Option.bind_eq_some_iff.mp heq
      exact hkept.resume? h hp
  | cancel i =>
    show ControlPlane.KeptTidy s (v.cancel i).plane
    unfold cancel
    split
    · exact h
    · exact hkept.cancel h _
  | command c => exact h.obey fun f hf => hi f (congrArg Input.command hf)

theorem Settings.keptTidy_run (c : Settings) {s : SessionId} (inputs : List Input)
    (hf : ∀ f, .command (.installFactory f) ∈ inputs → f.Tidies s) :
    ControlPlane.KeptTidy s (c.run inputs).plane := by
  induction inputs using List.reverseRecOn with
  | nil =>
    refine ⟨fun id sub hsub => ?_, fun f hnone => by cases hnone⟩
    cases (Std.ExtTreeMap.getElem?_empty (a := id)).symm.trans hsub
  | append_singleton inputs i ih =>
    rw [c.run_succ]
    refine Service.keptTidy_step (ih fun f hmem => ?_) fun f hi => ?_
    · exact hf f (List.mem_append_left _ hmem)
    · exact hf f (List.mem_append_right _ (List.mem_singleton.mpr hi.symm))

/-- In every run, between any two steps, a subscription belongs to a session that is there, unless a
factory was installed that closes that session while it builds a handler for it. -/
theorem subscriptions_tidy (c : Settings) (inputs : List Input) {id : SubscriptionId}
    {sub : Subscription} (hsub : (c.run inputs).plane.subscription? id = some sub)
    (hf : ∀ f, .command (.installFactory f) ∈ inputs → f.Tidies sub.session) :
    (c.run inputs).plane.sessions.contains sub.session = true :=
  (c.keptTidy_run inputs hf).tidy id sub hsub rfl

/-- The guest hears what the pipeline plays, and no transport closes anything. -/
theorem subscriptions_tidy_silent :
    ∃ sub, (Sample.settings.run Sample.inputs).plane.subscription? ⟨Sample.names.name 2⟩ =
        some sub ∧
      (∀ f, .command (.installFactory f) ∈ Sample.inputs → f.Tidies sub.session) ∧
      (Sample.settings.run Sample.inputs).plane.sessions.contains sub.session = true := by
  have hsome : ((Sample.settings.run Sample.inputs).plane.subscription?
      ⟨Sample.names.name 2⟩).isSome = true := by decide +kernel
  obtain ⟨sub, hsub⟩ := Option.isSome_iff_exists.mp hsome
  have hf : ∀ f, .command (.installFactory f) ∈ Sample.inputs → f.Tidies sub.session := by
    intro f hmem
    have hsilent : f = .silent := by
      simpa [Sample.inputs] using hmem
    rw [hsilent]
    exact HandlerFactory.tidies_of_within fun _ _ _ _ => trivial
  exact ⟨sub, hsub, hf, subscriptions_tidy Sample.settings Sample.inputs hsub hf⟩

/-- The guest subscribes to the owner's pipeline, and the transport closes the guest meanwhile: the
subscription is there, and the guest is not. -/
theorem subscription_strays :
    let v := Sample.settings.run (Sample.steeredInputs ++
      [.arrive (.inSession Sample.guest
        (.subscribe Sample.pipeline "Played" (.object [("$close", .str "guest")])))])
    (v.plane.subscription? ⟨Sample.names.name 2⟩).map (·.session) = some Sample.guest ∧
      v.plane.sessions.contains Sample.guest = false := by
  decide +kernel

end MediaPlane
