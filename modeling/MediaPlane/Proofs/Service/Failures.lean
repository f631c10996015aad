import MediaPlane.Proofs.ControlPlane.Traceless
import MediaPlane.Proofs.Service.Bookkeeping
import MediaPlane.Proofs.Service.Isolation

/-
  Requests that fail (`failed_requests_traceless`). In every reachable state, a request whose
  response is an error leaves no trace, however long it had to wait: objects, subscriptions and
  handlers are as they were, no element is left over, and the session has at most touched the object
  that it addressed. A request that is refused before it enters a session leaves the sessions as
  they were, too. Transactions are left out, since their response is no error when an entry fails;
  and a transport is assumed not to call back. What is counted, the names that were drawn and the
  responses that are kept for repetitions are not part of this.
-/

namespace MediaPlane

/-- The object that a request touches before it does anything with it. -/
def Request.addressed? (r : Request) : Option ObjectId :=
  match r.operation with
  | .ok op => op.addressed?
  | .error _ => none

/-- A request for something that runs in its session. -/
def Request.Enters (r : Request) : Prop :=
  ∃ op, r.operation = .ok op ∧ op.method.inTransaction = true

theorem Response.error_of_ofOutcome {id : Option RequestId} {session : Option SessionId}
    {result : Except Failure Value} (h : (Response.ofOutcome id session result).error.isSome) :
    ∃ e, result = .error e := by
  cases result with
  | ok value => cases h
  | error e => exact ⟨e, rfl⟩

namespace ControlPlane

variable {cp last : ControlPlane} {r : Request} {response : Response}

/-- What lasts is still there when a call has come to its response. -/
theorem Lasting.completes {Q : ControlPlane → Prop} (hQ : Lasting Q)
    {p : Progress × ControlPlane} (h : Completes p response last) (hq : Q p.2) : Q last := by
  induction h with
  | finished => exact hq
  | @resumed p cp last next response ms hresume _ ih =>
    exact ih (hQ.resume? (hQ.set _ cp.admission cp.cache hq) hresume)

theorem completes_of_process? (h : cp.process? r = some (response, last)) :
    Completes (cp.begin r) response last := by
  unfold process? at h
  split at h
  · next heq =>
    cases h
    rw [heq]
    exact .finished _ _
  · cases h

/-- What a request that failed leaves behind. -/
structure FailedCleanly (cp : ControlPlane) (r : Request) (last : ControlPlane) : Prop where
  traceless : Traceless (cp.sessionOf r) r.addressed? cp last
  /-- The sessions are as they were if the request was refused before it entered its own. -/
  sessions_eq : ¬ r.Enters → last.sessions = cp.sessions

/-- A response that is there at once, while the tables and the journal stay as they are. -/
theorem FailedCleanly.of_holdings (hh : last.holdings = cp.holdings)
    (hd : last.dispatcher = cp.dispatcher) (hj : last.journal = cp.journal) :
    FailedCleanly cp r last where
  traceless := .of_holdings hh hd hj
  sessions_eq := fun _ => congrArg Holdings.sessions hh

/-- An operation that fails in the session of its caller. -/
theorem traceless_perform (hquiet : ∀ f, cp.dispatcher.factory = some f → f.Quiet)
    {caller : Caller} {op : Operation} (hop : op.method.inTransaction = true)
    (h : Completes (cp.perform caller op) response last) (hfail : response.error.isSome) :
    Traceless caller.session op.addressed? cp last := by
  rw [perform_of_inTransaction cp caller hop] at h
  obtain ⟨result, next, hr, h⟩ := completes_proceed_iff.mp h
  obtain ⟨rfl, rfl⟩ := completes_respond_iff.mp h
  obtain ⟨e, rfl⟩ := Response.error_of_ofOutcome hfail
  have henter : Traceless caller.session none cp (cp.enter caller.session) :=
    traceless_enter cp caller.session
  have hrun : Traceless caller.session op.addressed? (cp.enter caller.session) next :=
    hr.traceless fun f hf object eventType params =>
      hquiet f (henter.dispatcher_eq ▸ hf) object caller.session eventType params
  have hleave := traceless_leave next caller.session
  exact ((henter.trans hrun).andThen hleave).andThen (traceless_respond _ caller (.error e))

/-- An operation on a session fails only if there is no such session. -/
theorem last_of_perform_error {caller : Caller} {op : Operation}
    (hop : op.method.inTransaction = false) (hbatch : op.method ≠ .transaction)
    (h : Completes (cp.perform caller op) response last) (hfail : response.error.isSome) :
    ∃ e, last = (cp.respond caller (.error e)).2 := by
  have hnone : ∀ {mid : ControlPlane} {value : Value},
      ¬ Completes (mid.respond caller (.ok value)) response last := by
    intro mid value hc
    obtain ⟨rfl, -⟩ := completes_respond_iff.mp hc
    cases hfail
  unfold perform at h
  cases op with
  | create | invoke | ref | unref | release | describe | subscribe | unsubscribe => cases hop
  | transaction => exact absurd rfl hbatch
  | ping | connect => exact absurd h hnone
  | keepAlive | closeSession =>
    simp only at h
    split at h
    · exact ⟨_, (completes_respond_iff.mp h).2⟩
    · exact absurd h hnone

/-- The session of a request, for which a name may have to be drawn. -/
theorem sessionFor_eq (cp : ControlPlane) (r : Request) :
    ∃ names, cp.sessionFor r.session = (cp.sessionOf r, { cp with names }) := by
  unfold sessionFor sessionOf
  cases r.session with
  | some s => exact ⟨cp.names, rfl⟩
  | none => exact ⟨_, rfl⟩

theorem failedCleanly_start (hquiet : ∀ f, cp.dispatcher.factory = some f → f.Quiet)
    (hbatch : ∀ entries, r.operation ≠ .ok (.transaction entries)) {guard : Option Guard}
    (h : Completes (cp.start r guard) response last) (hfail : response.error.isSome) :
    FailedCleanly cp r last := by
  obtain ⟨names, hsession⟩ := sessionFor_eq cp r
  have hnamed : Traceless (cp.sessionOf r) none cp { cp with names } := .of_holdings rfl rfl rfl
  have hrespond : ∀ (caller : Caller) (e : Failure),
      FailedCleanly cp r (({ cp with names } : ControlPlane).respond caller (.error e)).2 := by
    intro caller e
    obtain ⟨metrics, cache, heq⟩ := respond_snd { cp with names } caller (.error e)
    rw [heq]
    exact .of_holdings rfl rfl rfl
  unfold start at h
  rw [hsession] at h
  simp only at h
  cases hop : r.operation with
  | error e =>
    rw [hop] at h
    rw [(completes_respond_iff.mp h).2]
    exact hrespond _ e
  | ok op =>
    rw [hop] at h
    cases hin : op.method.inTransaction with
    | true =>
      have haddressed : r.addressed? = op.addressed? := by
        unfold Request.addressed?
        rw [hop]
      have hquiet' : ∀ f, ({ cp with names } : ControlPlane).dispatcher.factory = some f →
        f.Quiet := hquiet
      have htraceless := traceless_perform hquiet' hin h hfail
      refine ⟨?_, fun hnot => absurd ⟨op, hop, hin⟩ hnot⟩
      rw [haddressed]
      exact hnamed.trans htraceless
    | false =>
      have hmethod : op.method ≠ .transaction := by
        intro hm
        cases op with
        | transaction entries => exact hbatch entries hop
        | _ => cases hm
      obtain ⟨e, rfl⟩ := last_of_perform_error hin hmethod h hfail
      exact hrespond _ e

theorem failedCleanly_begin (hquiet : ∀ f, cp.dispatcher.factory = some f → f.Quiet)
    (hbatch : ∀ entries, r.operation ≠ .ok (.transaction entries))
    (h : Completes (cp.begin r) response last) (hfail : response.error.isSome) :
    FailedCleanly cp r last := by
  cases hk : r.key? with
  | none =>
    rw [begin_of_keyless hk] at h
    exact failedCleanly_start hquiet hbatch h hfail
  | some k =>
    rw [begin_of_key hk] at h
    split at h
    · next guard cache _ =>
      have hquiet' : ∀ f, ({ cp with cache } : ControlPlane).dispatcher.factory = some f →
        f.Quiet := hquiet
      obtain ⟨⟨hr, hd, hj, ht⟩, hs⟩ := failedCleanly_start hquiet' hbatch h hfail
      exact ⟨⟨hr, hd, hj, ht⟩, hs⟩
    · -- an earlier response is given again
      cases h
      exact .of_holdings rfl rfl rfl
    · -- a call in flight has the response
      cases h with
      | resumed ms hresume hnext =>
        obtain ⟨response', -, rfl⟩ := Option.map_eq_some_iff.mp hresume
        cases hnext
        exact .of_holdings rfl rfl rfl

end ControlPlane

/-- In every reachable state, a request that is answered with an error, while nothing comes in
between, leaves no trace. -/
theorem failed_requests_traceless (c : Settings) (inputs : List Input) {r : Request}
    {response : Response} {last : ControlPlane}
    (hquiet : ∀ f, (c.run inputs).plane.dispatcher.factory = some f → f.Quiet)
    (hbatch : ∀ entries, r.operation ≠ .ok (.transaction entries))
    (h : ControlPlane.Completes ((c.run inputs).plane.begin r) response last)
    (hfail : response.error.isSome) :
    ControlPlane.FailedCleanly (c.run inputs).plane r last ∧ last.sessions.Mirrored := by
  refine ⟨ControlPlane.failedCleanly_begin hquiet hbatch h hfail, ?_⟩
  have hbegun := ControlPlane.lasting_settled.begin (c.settled_run inputs) r
  exact (ControlPlane.lasting_settled.completes h hbegun).mirrored

/-- A stranger asks the pipeline for what it cannot do. -/
theorem failed_requests_traceless_unsupported :
    let cp := (Sample.settings.run Sample.inputs).plane
    let r := Request.inSession ⟨"stranger"⟩ (.invoke Sample.pipeline "explode" .null)
    ∃ response last, (∀ f, cp.dispatcher.factory = some f → f.Quiet) ∧
      (∀ entries, r.operation ≠ .ok (.transaction entries)) ∧
      ControlPlane.Completes (cp.begin r) response last ∧ response.error.isSome ∧
      cp.FailedCleanly r last ∧ last.sessions.Mirrored := by
  intro cp r
  have hanswered : (cp.process? r).map (·.1.error.isSome) = some true := by decide +kernel
  obtain ⟨⟨response, last⟩, hprocess, hfail⟩ := Option.map_eq_some_iff.mp hanswered
  have hop : r.operation = .ok (.invoke Sample.pipeline "explode" .null) := rfl
  have hbatch : ∀ entries, r.operation ≠ .ok (.transaction entries) := by
    intro entries h
    rw [hop] at h
    cases h
  have hcompletes := ControlPlane.completes_of_process? hprocess
  exact ⟨response, last, Sample.quiet, hbatch, hcompletes, hfail,
    failed_requests_traceless Sample.settings Sample.inputs Sample.quiet hbatch hcompletes hfail⟩

end MediaPlane
