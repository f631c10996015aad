import MediaPlane.Proofs.Service.History
import MediaPlane.Proofs.Service.Retry

/-
  Responses. Whoever makes a call and gets a response gets one that answers its own request
  (`responses_answer`), even where another call was executed in its stead. A call that runs on its
  own account knows what its response has to say (`Caller.SpeaksFor`) from its arrival on. One that
  repeats another gets what was said to that one, and what is said to a request that names an id and
  a session depends on these two alone (`Response.answers_of_key`).
-/

namespace MediaPlane

/-! ## What a response says -/

/-- The session that the response to a request names, if the request ran in a session. A ping that
names no session is not told one. -/
def Request.echo (r : Request) (ran : SessionId) : Option SessionId :=
  match r.session with
  | some named => some named
  | none => if r.method = Method.ping.name then none else some ran

/-- A response answers a request that ran in a session. -/
structure Response.Answers (response : Response) (r : Request) (ran : SessionId) : Prop where
  id_eq : response.id = r.id
  session_eq : response.session = r.echo ran
  /-- It has either a result or an error. -/
  one : response.result.isSome = !response.error.isSome

/-- A call on whose behalf something runs is answered as its request asks for. -/
structure Caller.SpeaksFor (caller : Caller) (r : Request) (s : SessionId) : Prop where
  id_eq : caller.id = r.id
  echoed_eq : caller.echoed = r.echo s
  session_eq : caller.session = s

/-- Where a call stands, it gets a response that answers its request, if it gets one. -/
def CallState.SpeaksFor (r : Request) (s : SessionId) : CallState → Prop
  | waiting (.running caller _ _) => caller.SpeaksFor r s
  | answered response _ => response.Answers r s
  | waiting (.duplicate ..) | cancelled => True

section

variable {r : Request} {s : SessionId} {k : RetryKey} {caller : Caller} {response : Response}

theorem methodLabel_eq_ping_iff (method : String) :
    methodLabel method = Method.ping.name ↔ method = Method.ping.name := by
  unfold methodLabel
  cases h : Method.ofName? method with
  | some m =>
    rw [← Method.name_of_ofName? h]
  | none =>
    refine iff_of_false (by decide) ?_
    rintro rfl
    rw [Method.ofName?_name] at h
    cases h

theorem speaksFor_callerOf (cp : ControlPlane) (r : Request) (guard : Option Guard) :
    (cp.callerOf r guard).SpeaksFor r (cp.sessionOf r) where
  id_eq := rfl
  session_eq := rfl
  echoed_eq := by
    unfold Request.echo
    cases hr : r.session with
    | some named => exact ControlPlane.echoed_callerOf hr cp guard
    | none =>
      unfold Caller.echoed ControlPlane.callerOf
      simp only [hr, Option.isNone_none, Bool.true_and, beq_iff_eq, methodLabel_eq_ping_iff]

theorem Response.answers_ofOutcome (h : caller.SpeaksFor r s) (result : Except Failure Value) :
    (Response.ofOutcome caller.id caller.echoed result).Answers r s := by
  rw [h.id_eq, h.echoed_eq]
  cases result with
  | ok v => exact ⟨rfl, rfl, rfl⟩
  | error e => exact ⟨rfl, rfl, rfl⟩

theorem Request.key?_eq_some :
    r.key? = some k ↔ r.id = some k.id ∧ r.session = some k.session := by
  obtain ⟨id, session, method, params⟩ := r
  obtain ⟨session', id'⟩ := k
  cases id <;> cases session <;> simp [Request.key?, and_comm]

/-- What is said to a request with a key is said to all that have it. -/
theorem Response.answers_of_key {other : Request} {ran : SessionId} (h : response.Answers other ran)
    (hother : other.key? = some k) (hr : r.key? = some k) : response.Answers r s := by
  obtain ⟨hid, hsession⟩ := Request.key?_eq_some.mp hother
  obtain ⟨hid', hsession'⟩ := Request.key?_eq_some.mp hr
  refine ⟨h.id_eq.trans (hid.trans hid'.symm), ?_, h.one⟩
  have hsaid := h.session_eq
  unfold Request.echo at hsaid ⊢
  rw [hsession] at hsaid
  rw [hsession', hsaid]

/-- Those who waited for an execution that was given up are told so. -/
theorem Response.answers_abandoned (hr : r.key? = some k) :
    (ControlPlane.abandonedResponse k).Answers r s := by
  obtain ⟨hid, hsession⟩ := Request.key?_eq_some.mp hr
  refine ⟨hid.symm, ?_, rfl⟩
  unfold Request.echo
  rw [hsession]
  rfl

end

/-! ## Where a request runs -/

namespace ControlPlane

variable {cp next : ControlPlane} {caller : Caller} {P : Leeway} {r : Request} {s : SessionId}

/-- A call that advances for a caller gets the response that its caller speaks of. -/
theorem Advances.speaksFor {progress : Progress} (h : cp.Advances caller P (progress, next))
    (hs : caller.SpeaksFor r s) (now : Nat) : (progress.state now).SpeaksFor r s := by
  obtain ⟨w, mid, -, hc⟩ := h
  rcases hr : (progress, next) with ⟨progress, next⟩
  rw [hr] at hc
  cases hr
  cases hc with
  | answered result => exact Response.answers_ofOutcome hs result
  | suspended wait batch => exact hs

theorem session_of_entriesPerform (cp : ControlPlane) (s : SessionId) (slots : Slots)
    (entries : List Value) : ∀ p ∈ cp.entriesPerform s slots entries, p.session = s := by
  induction entries generalizing cp slots with
  | nil => exact fun p hp => by cases hp
  | cons entry rest ih =>
    unfold entriesPerform
    split
    · exact ih cp slots
    · intro p hp
      rcases List.mem_append.mp hp with hp | hp
      · unfold entryPerforms at hp
        split at hp
        · cases hp
        · rw [List.mem_singleton.mp hp]
      · split at hp
        · cases hp
        · exact ih _ _ p hp

theorem session_of_performs (cp : ControlPlane) (s : SessionId) (op : Operation) :
    ∀ p ∈ cp.performs s op, p.session = s := by
  cases op with
  | ping | keepAlive | connect | closeSession => exact fun p hp => by cases hp
  | transaction entries => exact session_of_entriesPerform _ s [] entries
  | create | invoke | ref | unref | release | describe | subscribe | unsubscribe =>
    intro p hp
    rw [List.mem_singleton.mp hp]

theorem session_of_startPerforms (cp : ControlPlane) (r : Request) :
    ∀ p ∈ cp.startPerforms r, p.session = cp.sessionOf r := by
  have hsession : (cp.sessionFor r.session).1 = cp.sessionOf r := by
    unfold sessionFor sessionOf
    cases r.session <;> rfl
  unfold startPerforms
  rcases heq : cp.sessionFor r.session with ⟨session, mid⟩
  rw [heq] at hsession
  rw [← hsession]
  cases r.operation with
  | error e => exact fun p hp => by cases hp
  | ok op => exact session_of_performs mid session op

theorem session_of_beginPerforms (cp : ControlPlane) (r : Request) :
    ∀ p ∈ cp.beginPerforms r, p.session = cp.sessionOf r := by
  unfold beginPerforms
  split
  · split
    · exact session_of_startPerforms _ r
    · exact fun p hp => by cases hp
  · exact session_of_startPerforms cp r

theorem session_of_resumePerforms (cp : ControlPlane) (tick : Nat) (caller : Caller) (wait : Wait)
    (batch : Option Batch) :
    ∀ p ∈ cp.resumePerforms tick (.running caller wait batch), p.session = caller.session := by
  unfold resumePerforms
  simp only
  split
  · exact fun p hp => by cases hp
  · cases batch with
    | none => exact fun p hp => by cases hp
    | some b => exact session_of_entriesPerform _ _ _ _

/-- What an answered call leaves does not depend on what the response says. -/
theorem respond_snd_eq {caller other : Caller} (hlabel : caller.label = other.label)
    (hguard : caller.guard = none) (hguard' : other.guard = none) (cp : ControlPlane)
    (result : Except Failure Value) :
    (cp.respond caller result).2 = (cp.respond other result).2 := by
  unfold respond
  rw [hguard, hguard', hlabel]

theorem perform_snd_eq {caller other : Caller} (hsession : caller.session = other.session)
    (hlabel : caller.label = other.label) (hguard : caller.guard = none)
    (hguard' : other.guard = none) (cp : ControlPlane) (op : Operation) :
    (cp.perform caller op).2 = (cp.perform other op).2 := by
  have hrespond := respond_snd_eq hlabel hguard hguard'
  have hproceed : ∀ (cp : ControlPlane) (outcome : Outcome),
      (cp.proceed caller outcome).2 = (cp.proceed other outcome).2 := by
    intro cp outcome
    cases outcome with
    | settled result =>
      unfold proceed
      rw [hsession]
      exact hrespond _ result
    | waiting w => rfl
  cases op with
  | ping => exact hrespond cp _
  | keepAlive =>
    unfold perform
    rw [hsession]
    simp only
    cases cp.keepAlive other.session with
    | error e => exact hrespond cp _
    | ok mid => exact hrespond mid _
  | connect =>
    unfold perform
    rw [hsession]
    exact hrespond _ _
  | closeSession forced =>
    unfold perform
    rw [hsession]
    simp only
    cases cp.closeSession other.session forced with
    | error e => exact hrespond cp _
    | ok closed => exact hrespond closed.2 _
  | transaction entries =>
    unfold perform
    rw [hsession]
    simp only
    cases ((cp.enter other.session).runEntries other.session [] [] entries).1 with
    | completed results =>
      unfold proceedBatch
      rw [hsession]
      exact hrespond _ _
    | waiting w batch => rfl
  | create | invoke | ref | unref | release | describe | subscribe | unsubscribe =>
    rw [perform_of_inTransaction cp caller rfl, perform_of_inTransaction cp other rfl, hsession]
    exact hproceed _ _

/-- A request that names no session runs in a new one: its name is drawn, and from then on all is as
if the request had named it. -/
structure Mints (cp : ControlPlane) (r : Request) (s : SessionId) : Prop where
  drawn : s = ⟨cp.names.name (cp.names.drawn + 1)⟩
  /-- The name is not drawn again. -/
  spent : cp.names.drawn < (cp.begin r).2.names.drawn
  as_named : (cp.begin r).2 =
    (cp.drawName.2.begin { r with id := none, session := some s }).2

theorem mints_sessionOf (hr : r.session = none) (cp : ControlPlane) :
    cp.Mints r (cp.sessionOf r) := by
  have hs : cp.sessionOf r = ⟨cp.drawName.1⟩ := by
    unfold sessionOf
    rw [hr]
    rfl
  have hkey : r.key? = none := by
    unfold Request.key?
    rw [hr]
    cases r.id <;> rfl
  have has_named : (cp.begin r).2 =
      (cp.drawName.2.begin { r with id := none, session := some (cp.sessionOf r) }).2 := by
    rw [begin_of_keyless hkey, begin_of_keyless rfl, hs]
    unfold start sessionFor
    rw [hr]
    simp only
    have hop : ({ r with id := none, session := some ⟨cp.drawName.1⟩ } : Request).operation =
        r.operation := rfl
    rw [hop]
    cases r.operation with
    | error e => refine respond_snd_eq ?_ ?_ ?_ _ _ <;> rfl
    | ok op => refine perform_snd_eq ?_ ?_ ?_ ?_ _ op <;> rfl
  refine ⟨hs, ?_, has_named⟩
  have hadvances := advances_start cp.drawName.2
    { r with id := none, session := some (cp.sessionOf r) } none
  obtain ⟨w, mid, hstretch, hconcludes⟩ := hadvances
  obtain ⟨metrics, cache, hlast⟩ := hconcludes.snd_eq
  rw [has_named, begin_of_keyless rfl, hlast]
  exact hstretch.steady.drawn_le

end ControlPlane

/-! ## What is known of a call -/

namespace Service

variable {v : Service} {retention : Nat} {i j n t tick : Nat} {k : RetryKey} {r : Request}
  {s : SessionId} {response : Response} {call : Call} {x : Input}

/-- What the call of a number performs while an input is taken in. -/
def performedBy (v : Service) (i : Nat) : Input → List Performance
  | .arrive r => if v.calls.length = i then v.performed (.arrive r) else []
  | .resume j tick => if j = i then v.performed (.resume j tick) else []
  | .cancel _ | .command _ => []

theorem length_calls_step (v : Service) (x : Input) :
    v.calls.length ≤ (v.step x).calls.length := by
  cases x with
  | arrive r =>
    show v.calls.length ≤ (v.calls ++ [_]).length
    rw [List.length_append]
    omega
  | resume j tick =>
    show v.calls.length ≤ (v.resume j tick).calls.length
    unfold resume
    split
    · exact Nat.le_refl _
    · exact Nat.le_of_eq (List.length_modify _ _ _).symm
  | cancel j =>
    show v.calls.length ≤ (v.cancel j).calls.length
    unfold cancel
    split
    · exact Nat.le_refl _
    · exact Nat.le_of_eq (List.length_modify _ _ _).symm
  | command c => exact Nat.le_refl _

/-- A call that has not arrived performs nothing. -/
theorem performedBy_of_length_le (h : (v.step x).calls.length ≤ i) : v.performedBy i x = [] := by
  cases x with
  | arrive r =>
    have hlength : (v.calls ++ [_]).length ≤ i := h
    rw [List.length_append, List.length_singleton] at hlength
    exact if_neg (by omega)
  | resume j tick =>
    show (if j = i then v.performed (.resume j tick) else []) = []
    split
    · next heq =>
      subst heq
      have hnone : v.pending? j = none := by
        unfold pending?
        rw [List.getElem?_eq_none (Nat.le_trans (v.length_calls_step _) h)]
        rfl
      show ((v.pending? j).map (v.plane.resumePerforms tick)).getD [] = []
      rw [hnone]
      rfl
    · rfl
  | cancel | command => rfl

/-- A call performs what it does in the session that it waits in. -/
theorem session_of_performedBy (hcall : v.calls[i]? = some call)
    (hs : call.state.SpeaksFor r s) (x : Input) : ∀ p ∈ v.performedBy i x, p.session = s := by
  cases x with
  | arrive r =>
    obtain ⟨hlt, -⟩ := List.getElem?_eq_some_iff.mp hcall
    have hnone : v.performedBy i (.arrive r) = [] := if_neg (by omega)
    rw [hnone]
    exact fun p hp => by cases hp
  | resume j tick =>
    intro p hp
    change p ∈ if j = i then v.performed (.resume j tick) else [] at hp
    split at hp
    · next heq =>
      subst heq
      change p ∈ ((v.pending? j).map (v.plane.resumePerforms tick)).getD [] at hp
      cases hpending : v.pending? j with
      | none =>
        rw [hpending] at hp
        cases hp
      | some pending =>
        rw [hpending] at hp
        cases pending with
        | duplicate k n => cases hp
        | running caller wait batch =>
          obtain ⟨d, hd, hstate⟩ := pending?_eq_some.mp hpending
          cases hcall.symm.trans hd
          rw [hstate] at hs
          rw [← hs.session_eq]
          exact ControlPlane.session_of_resumePerforms _ _ _ _ _ p hp
    · cases hp
  | cancel | command => exact fun p hp => by cases hp

/-- Every call gets a response that answers its request, if it gets one. -/
def Spoken (v : Service) : Prop :=
  ∀ {i : Nat} {call : Call}, v.calls[i]? = some call →
    ∃ s, call.state.SpeaksFor call.request s

theorem answers_of_completed (hl : v.Booked retention) (hv : v.Spoken)
    (h : v.CompletedAt k i n response t) (hr : r.key? = some k) : response.Answers r s := by
  obtain ⟨d, hd, hfound, hstate⟩ := h
  obtain ⟨ran, hspeaks⟩ := hv hd
  rw [hstate] at hspeaks
  exact Response.answers_of_key hspeaks ((hl.accounted i d hd).key?_of_fresh hfound) hr

theorem answers_of_ended (hl : v.Booked retention) (hv : v.Spoken) (h : v.Ended k i n response)
    (hr : r.key? = some k) : response.Answers r s := by
  rcases h with ⟨t, hdone⟩ | ⟨-, rfl⟩
  · exact answers_of_completed hl hv hdone hr
  · exact Response.answers_abandoned hr

/-- A call that arrives is executed for its own caller, or repeats another one with its key. -/
theorem speaksFor_begin (hl : v.Booked retention) (hv : v.Spoken) (r : Request) (now : Nat) :
    ((v.plane.begin r).1.state now).SpeaksFor r (v.plane.sessionOf r) := by
  cases hkey : r.key? with
  | none =>
    rw [ControlPlane.begin_of_keyless hkey]
    exact (v.plane.advances_start r none).speaksFor (speaksFor_callerOf v.plane r none) now
  | some k =>
    rw [ControlPlane.begin_of_key hkey]
    rcases hb : v.plane.cache.begin k v.plane.now with ⟨g | response | n, cache⟩
    · exact (ControlPlane.advances_start { v.plane with cache } r (some g)).speaksFor
        (speaksFor_callerOf v.plane r (some g)) now
    · obtain ⟨t, hentry, -⟩ := RetryCache.entries_of_replay hb
      obtain ⟨i, n, hdone⟩ := hl.completed k response t hentry
      exact answers_of_completed hl hv hdone hkey
    · trivial

/-- A call that goes on does so for its own caller, or gets what was said to the one it repeats. -/
theorem speaksFor_resume (hl : v.Booked retention) (hv : v.Spoken) {p : Pending}
    (hcall : v.calls[i]? = some call) (hp : call.state = .waiting p)
    (hs : call.state.SpeaksFor call.request s) {progress : Progress} {plane : ControlPlane}
    (h : v.plane.resume? tick p = some (progress, plane)) (now : Nat) :
    (progress.state now).SpeaksFor call.request s := by
  cases p with
  | duplicate k n =>
    obtain ⟨hkey, hfound⟩ := following_of_duplicate hl hcall hp
    obtain ⟨o, ho, heq⟩ := Option.map_eq_some_iff.mp h
    cases heq
    obtain ⟨j, hj⟩ := hl.followed i call k n hcall hkey hfound
    exact answers_of_ended hl hv (ended_of_outcome? hl hj ho) hkey
  | running caller wait batch =>
    rw [hp] at hs
    exact (ControlPlane.resume?_advances v.plane.dispatcher.within_full h).speaksFor hs now

end Service

/-! ## Runs -/

/-- The call of a number keeps to a session. -/
structure Settings.KeepsTo (c : Settings) (inputs : List Input) (i : Nat) (s : SessionId) :
    Prop where
  /-- Whatever the call performs it performs there, -/
  performs : ∀ {before x after}, inputs = before ++ x :: after →
    ∀ p ∈ (c.run before).performedBy i x, p.session = s
  /-- and from wherever it waits it goes on there. -/
  waits : ∀ {before after}, inputs = before ++ after → ∀ {caller wait batch},
    (c.run before).pending? i = some (.running caller wait batch) → caller.session = s

/-- The call of a number brought a request, which runs in a session: the one that it names, or a new
one if it names none. -/
structure Settings.RunsIn (c : Settings) (inputs : List Input) (i : Nat) (r : Request)
    (s : SessionId) : Prop where
  arrived : ∃ before after, inputs = before ++ .arrive r :: after ∧
    (c.run before).calls.length = i ∧ (∀ named, r.session = some named → s = named) ∧
      (r.session = none → (c.run before).plane.Mints r s)
  keeps : c.KeepsTo inputs i s

namespace Settings

variable {c : Settings} {inputs : List Input} {i : Nat} {x : Input} {r : Request} {s : SessionId}
  {call : Call}

theorem length_calls_run (c : Settings) (before later : List Input) :
    (c.run before).calls.length ≤ (c.run (before ++ later)).calls.length := by
  induction later using List.reverseRecOn with
  | nil => simp
  | append_singleton later x ih =>
    rw [← List.append_assoc, c.run_succ]
    exact Nat.le_trans ih (Service.length_calls_step _ x)

/-- A call that has not arrived keeps to any session. -/
theorem keepsTo_of_length_le (h : (c.run inputs).calls.length ≤ i) : c.KeepsTo inputs i s where
  performs := by
    rintro before x after rfl p hp
    have hle := c.length_calls_run (before ++ [x]) after
    rw [List.append_assoc, List.singleton_append, c.run_succ] at hle
    rw [Service.performedBy_of_length_le (Nat.le_trans hle h)] at hp
    cases hp
  waits := by
    rintro before after rfl caller wait batch hpending
    obtain ⟨d, hd, -⟩ := Service.pending?_eq_some.mp hpending
    obtain ⟨hlt, -⟩ := List.getElem?_eq_some_iff.mp hd
    have hle := c.length_calls_run before after
    omega

theorem KeepsTo.succ (h : c.KeepsTo inputs i s)
    (hp : ∀ p ∈ (c.run inputs).performedBy i x, p.session = s)
    (hcall : (c.run (inputs ++ [x])).calls[i]? = some call) (hs : call.state.SpeaksFor r s) :
    c.KeepsTo (inputs ++ [x]) i s where
  performs := by
    intro before y after heq
    rcases split_concat heq with ⟨-, rfl, rfl⟩ | ⟨rest, -, hrest⟩
    · exact hp
    · exact h.performs hrest
  waits := by
    intro before after heq caller wait batch hpending
    rcases List.eq_nil_or_concat after with rfl | ⟨after, z, rfl⟩
    · rw [List.append_nil] at heq
      subst heq
      obtain ⟨d, hd, hstate⟩ := Service.pending?_eq_some.mp hpending
      cases hcall.symm.trans hd
      rw [hstate] at hs
      exact hs.session_eq
    · rw [List.concat_eq_append, ← List.append_assoc] at heq
      exact h.waits (List.append_inj' heq rfl).1 hpending

/-- A call runs in a session, and its response answers its request, if it has one. -/
def Traced (c : Settings) (inputs : List Input) (i : Nat) (call : Call) : Prop :=
  ∃ s, c.RunsIn inputs i call.request s ∧ call.state.SpeaksFor call.request s

/-- What is known of a call stays known as another input is taken in. -/
theorem Traced.succ {next : Call} (h : c.Traced inputs i call)
    (hbefore : (c.run inputs).calls[i]? = some call)
    (hcall : (c.run (inputs ++ [x])).calls[i]? = some next) (hrequest : next.request = call.request)
    (hs : ∀ s, call.state.SpeaksFor call.request s → next.state.SpeaksFor call.request s) :
    c.Traced (inputs ++ [x]) i next := by
  obtain ⟨s, ⟨⟨before, after, heq, hrest⟩, hkeeps⟩, hspeaks⟩ := h
  unfold Traced
  rw [hrequest]
  refine ⟨s, ⟨⟨before, after ++ [x], ?_, hrest⟩, ?_⟩, hs s hspeaks⟩
  · rw [heq, List.append_assoc, List.cons_append]
  · exact hkeeps.succ (Service.session_of_performedBy hbefore hspeaks x) hcall (hs s hspeaks)

theorem traced_arrival (hv : (c.run inputs).Spoken) (r : Request)
    (hcall : (c.run (inputs ++ [.arrive r])).calls[(c.run inputs).calls.length]? = some call) :
    c.Traced (inputs ++ [.arrive r]) (c.run inputs).calls.length call := by
  have hspeaks := Service.speaksFor_begin (c.booked_run inputs) hv r
    ((c.run inputs).plane.begin r).2.now
  have hself := hcall
  rw [c.run_succ] at hcall
  cases hcall.symm.trans List.getElem?_concat_length
  refine ⟨(c.run inputs).plane.sessionOf r, ⟨⟨inputs, [], rfl, rfl, fun named hr => ?_,
    fun hr => ControlPlane.mints_sessionOf hr _⟩, ?_⟩, hspeaks⟩
  · unfold ControlPlane.sessionOf
    rw [hr]
    rfl
  · refine (keepsTo_of_length_le (Nat.le_refl _)).succ (fun p hp => ?_) hself hspeaks
    change p ∈ if (c.run inputs).calls.length = (c.run inputs).calls.length then
        (c.run inputs).performed (.arrive r) else [] at hp
    rw [if_pos rfl] at hp
    exact ControlPlane.session_of_beginPerforms _ r p hp

theorem traced_step
    (ih : ∀ {i call}, (c.run inputs).calls[i]? = some call → c.Traced inputs i call)
    (x : Input) (hcall : (c.run (inputs ++ [x])).calls[i]? = some call) :
    c.Traced (inputs ++ [x]) i call := by
  have hv : (c.run inputs).Spoken := by
    intro i call hcall
    obtain ⟨s, -, hs⟩ := ih hcall
    exact ⟨s, hs⟩
  have hself := hcall
  rw [c.run_succ] at hcall
  cases x with
  | arrive r =>
    rcases Ledger.getElem?_append_cases hcall with hold | ⟨rfl, -⟩
    · exact (ih hold).succ hold hself rfl fun _ hs => hs
    · exact traced_arrival hv r hself
  | resume j tick =>
    change ((c.run inputs).resume j tick).calls[i]? = some call at hcall
    unfold Service.resume at hcall
    split at hcall
    · exact (ih hcall).succ hcall hself rfl fun _ hs => hs
    · next progress plane heq =>
      rcases Ledger.getElem?_moved_cases hcall with ⟨-, hold⟩ | ⟨rfl, d, hd, rfl⟩
      · exact (ih hold).succ hold hself rfl fun _ hs => hs
      · obtain ⟨p, hpending, hresume⟩ := Option.bind_eq_some_iff.mp heq
        obtain ⟨d', hd', hstate⟩ := Service.pending?_eq_some.mp hpending
        cases hd.symm.trans hd'
        exact (ih hd).succ hd hself rfl fun s hs =>
          Service.speaksFor_resume (c.booked_run inputs) hv hd hstate hs hresume _
  | cancel j =>
    change ((c.run inputs).cancel j).calls[i]? = some call at hcall
    unfold Service.cancel at hcall
    split at hcall
    · exact (ih hcall).succ hcall hself rfl fun _ hs => hs
    · rcases Ledger.getElem?_moved_cases hcall with ⟨-, hold⟩ | ⟨rfl, d, hd, rfl⟩
      · exact (ih hold).succ hold hself rfl fun _ hs => hs
      · exact (ih hd).succ hd hself rfl fun _ _ => trivial
  | command => exact (ih hcall).succ hcall hself rfl fun _ hs => hs

theorem traced_run (c : Settings) (inputs : List Input) :
    ∀ {i call}, (c.run inputs).calls[i]? = some call → c.Traced inputs i call := by
  induction inputs using List.reverseRecOn with
  | nil => exact fun h => by cases h
  | append_singleton inputs x ih => exact traced_step ih x

end Settings

/-- In every run, a call that returns a response was executed or repeats one that was, and its
response answers the request that it brought. -/
theorem responses_answer (c : Settings) (inputs : List Input) {i : Nat} {call : Call}
    (hcall : (c.run inputs).calls[i]? = some call) {response : Response}
    (hresponse : call.response? = some response) :
    ∃ s, c.RunsIn inputs i call.request s ∧ response.Answers call.request s := by
  obtain ⟨s, hruns, hs⟩ := c.traced_run inputs hcall
  obtain ⟨t, hstate⟩ := Call.response?_eq_some.mp hresponse
  rw [hstate] at hs
  exact ⟨s, hruns, hs⟩

/-! ## A small run -/

namespace Sample

/-- A creation that takes some time, under the number 7. -/
def slowCreation : Request :=
  { Request.inSession owner (.create "MediaPipeline" (.object [("$delay", .nat 10)])) with
    id := some (.number 7) }

/-- A creation is repeated and then given up, and its repetition goes on. Somebody who names neither
a session nor an id connects. -/
def orphaned : List Input :=
  [.arrive slowCreation, .arrive slowCreation, .cancel 0, .arrive (.anonymous .connect),
    .resume 1 0]

end Sample

/-- The repetition is told that the creation was given up. -/
theorem responses_answer_orphan :
    ∃ call response s, (Sample.settings.run Sample.orphaned).calls[1]? = some call ∧
      call.request.key? = some ⟨Sample.owner, .number 7⟩ ∧ response.error.isSome = true ∧
      call.response? = some response ∧
      Sample.settings.RunsIn Sample.orphaned 1 call.request s ∧
      response.Answers call.request s := by
  have hrun : (Sample.settings.run Sample.orphaned).calls[1]?.map (fun call =>
      (call.request.key?, call.response?.map (·.error.isSome))) =
        some (some ⟨Sample.owner, .number 7⟩, some true) := by
    decide +kernel
  obtain ⟨call, hcall, heq⟩ := Option.map_eq_some_iff.mp hrun
  obtain ⟨hkey, hanswered⟩ := Prod.mk.inj heq
  obtain ⟨response, hresponse, herror⟩ := Option.map_eq_some_iff.mp hanswered
  obtain ⟨s, hruns, hanswers⟩ :=
    responses_answer Sample.settings Sample.orphaned hcall hresponse
  exact ⟨call, response, s, hcall, hkey, herror, hresponse, hruns, hanswers⟩

end MediaPlane
