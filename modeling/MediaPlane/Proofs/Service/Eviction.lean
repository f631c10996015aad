import Mathlib.Data.List.Forall2
import MediaPlane.Proofs.Service.Staleness

/-
  Nobody can tell whether the retry cache was evicted. Every step of a service comes to the same
  with and without the responses that are too old to be replayed (`Service.current_step`). Hence two
  runs that differ in nothing but evictions agree after every other input, in the answer and in
  the whole state (`eviction_invisible`): only stale responses can lie in one cache and not in the
  other.
-/

namespace MediaPlane

/-! ## What a command answers -/

/-- What a command tells whoever gave it. -/
inductive Answer where
  | done
  | count (n : Nat)
  | subscribed (id : SubscriptionId)
  | handler (handler : Option Handler)
  | failed (failure : Failure)

namespace ControlPlane

/-- The answer to a command in a state. -/
def answer (cp : ControlPlane) : Command → Answer
  | .keepAlive s =>
    match cp.keepAlive s with
    | .error e => .failed e
    | .ok _ => .done
  | .close s forced =>
    match cp.closeSession s forced with
    | .error e => .failed e
    | .ok (n, _) => .count n
  | .sweep => .count cp.sweep.1
  | .evict => .count cp.evict.1
  | .emit object eventType data =>
    match cp.emit object eventType data with
    | .error e => .failed e
    | .ok (n, _) => .count n
  | .connectHandler object s eventType receiver =>
    match (cp.connectHandler object s eventType receiver).1 with
    | .error e => .failed e
    | .ok id => .subscribed id
  | .takeHandler object s eventType => .handler (cp.lookupHandler? object s eventType)
  | .shareHandler object s id handler =>
    if handler ∈ cp.dispatcher.held then
      match (cp.shareHandler object s id handler).1 with
      | .error e => .failed e
      | .ok () => .done
    else .done
  | .connect _ | .dropHandler _ | .installFactory _ | .refuse _ | .load _ | .advance _
  | .shutdown => .done

theorem answer_withCache (cp : ControlPlane) (cache : RetryCache) {c : Command} (hc : c ≠ .evict) :
    (cp.withCache cache).answer c = cp.answer c := by
  cases c with
  | keepAlive s =>
    simp only [answer, keepAlive_withCache]
    cases cp.keepAlive s <;> rfl
  | close s forced =>
    simp only [answer, closeSession_withCache]
    cases cp.closeSession s forced <;> rfl
  | sweep => simp only [answer, sweep_withCache, recache]
  | evict => exact absurd rfl hc
  | emit object eventType data =>
    simp only [answer, emit_withCache]
    cases cp.emit object eventType data <;> rfl
  | connectHandler object s eventType receiver =>
    simp only [answer, connectHandler_withCache, recache]
  | shareHandler object s id handler =>
    simp only [answer, dispatcher_withCache, shareHandler_withCache, recache]
  | connect | takeHandler | dropHandler | installFactory | refuse | load | advance | shutdown => rfl

end ControlPlane

/-! ## Steps of a service -/

def Input.isEviction : Input → Bool
  | .command .evict => true
  | _ => false

namespace Service

variable (v : Service)

/-- The service without the responses that are too old to be replayed. -/
def current : Service := { v with plane := v.plane.current }

theorem current_current : v.current.current = v.current :=
  congrArg (fun plane => { v with plane }) v.plane.current_current

theorem current_arrive (r : Request) : v.current.arrive r = (v.arrive r).current := by
  have hbegin : v.current.plane.begin r = ControlPlane.refresh (v.plane.begin r) :=
    v.plane.current_begin r
  have hfinds : v.current.finds r = v.finds r := by
    unfold finds
    cases r.key? with
    | none => rfl
    | some k =>
      have hfound : v.current.plane.cache.begin k v.current.plane.now = _ :=
        v.plane.cache.current_begin k
      rw [Option.map_some, hfound]
      rfl
  rw [arrive_eq, arrive_eq, hbegin, hfinds]
  rfl

theorem current_resume (i tick : Nat) : v.current.resume i tick = (v.resume i tick).current := by
  unfold resume
  have hpending : v.current.pending? i = v.pending? i := rfl
  have hresume : v.current.plane.resume? tick = fun p => (v.plane.resume? tick p).map _ :=
    funext fun p => v.plane.current_resume? tick p
  rw [hpending, hresume]
  cases v.pending? i with
  | none => rfl
  | some p =>
    simp only [Option.bind_some]
    cases v.plane.resume? tick p <;> rfl

theorem current_cancel (i : Nat) : v.current.cancel i = (v.cancel i).current := by
  unfold cancel
  have hpending : v.current.pending? i = v.pending? i := rfl
  rw [hpending]
  cases v.pending? i with
  | none => rfl
  | some p =>
    exact congrArg (fun plane => Service.mk plane (v.setState i .cancelled))
      (v.plane.current_cancel p)

/-- To forget stale responses before a step comes to the same as to forget them after it. -/
theorem current_step (i : Input) : (v.current.step i).current = (v.step i).current := by
  cases i with
  | arrive r => exact (congrArg current (v.current_arrive r)).trans (current_current _)
  | resume i tick => exact (congrArg current (v.current_resume i tick)).trans (current_current _)
  | cancel i => exact (congrArg current (v.current_cancel i)).trans (current_current _)
  | command c =>
    by_cases hc : c = .evict
    · subst hc
      exact congrArg current v.current_current
    · exact congrArg (fun plane => Service.mk plane v.calls) (v.plane.current_obey hc)

end Service

/-! ## Runs that differ in evictions -/

/-- What can be seen of an input once it is dealt with: what it was, the answer if it was a command,
and the state that it led to. -/
structure Sight where
  input : Input
  answer : Option Answer
  after : Service

namespace Service

/-- The answer to an input that is a command. -/
def answer? (v : Service) : Input → Option Answer
  | .command c => some (v.plane.answer c)
  | _ => none

/-- What can be seen of all inputs but evictions, in their order. -/
def sights (v : Service) : List Input → List Sight
  | [] => []
  | i :: rest =>
    if i.isEviction then (v.step i).sights rest
    else ⟨i, v.answer? i, v.step i⟩ :: (v.step i).sights rest

/-- Two services are in the same state, but for stale responses in their caches. -/
structure Agrees (v w : Service) : Prop where
  /-- The calls are the same, with all responses that they returned. -/
  calls_eq : w.calls = v.calls
  /-- So is the control plane, but for its cache. -/
  plane_eq : w.plane = v.plane.withCache w.plane.cache
  /-- And so are the caches, without what is too old to be replayed. -/
  cache_eq : w.plane.cache.current w.plane.now = v.plane.cache.current v.plane.now

variable {v w : Service}

theorem agrees_of_current (h : v.current = w.current) : v.Agrees w := by
  have hplane : v.plane.current = w.plane.current := congrArg plane h
  exact
    { calls_eq := (congrArg calls h).symm
      plane_eq := (congrArg (·.withCache w.plane.cache) hplane).symm
      cache_eq := (congrArg ControlPlane.cache hplane).symm }

/-- In two states that differ in stale responses alone, the next input is answered alike, and leads
to such states again. -/
theorem step_of_current (h : v.current = w.current) {i : Input} (hi : i.isEviction = false) :
    v.answer? i = w.answer? i ∧ (v.step i).current = (w.step i).current := by
  constructor
  · cases i with
    | arrive | resume | cancel => rfl
    | command c =>
      have hc : c ≠ .evict := by
        rintro rfl
        cases hi
      have hanswer := congrArg (fun u : Service => u.plane.answer c) h
      have hv : v.plane.current.answer c = v.plane.answer c := v.plane.answer_withCache _ hc
      have hw : w.plane.current.answer c = w.plane.answer c := w.plane.answer_withCache _ hc
      exact congrArg some (hv.symm.trans (hanswer.trans hw))
  · rw [← v.current_step i, ← w.current_step i, h]

end Service

/-- What can be seen without looking at stale responses. -/
def Sight.current (s : Sight) : Sight := { s with after := s.after.current }

namespace Service

variable {v w : Service}

theorem current_step_of_isEviction {i : Input} (hi : i.isEviction = true) (v : Service) :
    (v.step i).current = v.current := by
  cases i with
  | arrive | resume | cancel => cases hi
  | command c =>
    cases c with
    | evict => exact v.current_current
    | _ => cases hi

/-- To leave the evictions out changes nothing but which stale responses are kept. -/
theorem without_evictions (h : v.current = w.current) (inputs : List Input) :
    (v.sights inputs).map Sight.current =
        (w.sights (inputs.filter (!·.isEviction))).map Sight.current ∧
      (inputs.foldl step v).current =
        ((inputs.filter (!·.isEviction)).foldl step w).current := by
  induction inputs generalizing v w with
  | nil => exact ⟨rfl, h⟩
  | cons i rest ih =>
    cases hi : i.isEviction with
    | true =>
      obtain ⟨hsights, hlast⟩ := ih ((current_step_of_isEviction hi v).trans h)
      have hkept : (i :: rest).filter (!·.isEviction) = rest.filter (!·.isEviction) :=
        List.filter_cons_of_neg (by rw [hi]; decide)
      have hseen : v.sights (i :: rest) = (v.step i).sights rest := if_pos hi
      rw [hkept, hseen]
      exact ⟨hsights, hlast⟩
    | false =>
      obtain ⟨hanswer, hstep⟩ := step_of_current h hi
      obtain ⟨hsights, hlast⟩ := ih hstep
      have hkept : (i :: rest).filter (!·.isEviction) = i :: rest.filter (!·.isEviction) :=
        List.filter_cons_of_pos (by rw [hi]; decide)
      have hseen : ∀ (u : Service) (inputs : List Input),
          u.sights (i :: inputs) = ⟨i, u.answer? i, u.step i⟩ :: (u.step i).sights inputs :=
        fun _ _ => if_neg (by rw [hi]; decide)
      rw [hkept, hseen, hseen]
      refine ⟨?_, hlast⟩
      show Sight.mk i (v.answer? i) (v.step i).current :: _ =
        Sight.mk i (w.answer? i) (w.step i).current :: _
      rw [hanswer, hstep, hsights]

end Service

/-- Two sights are of the same input, with the same answer, and lead to states that agree. -/
structure Sight.Agrees (a b : Sight) : Prop where
  input_eq : b.input = a.input
  answer_eq : b.answer = a.answer
  after : a.after.Agrees b.after

theorem Sight.agrees_of_current {a b : Sight} (h : a.current = b.current) : a.Agrees b where
  input_eq := (congrArg Sight.input h).symm
  answer_eq := (congrArg Sight.answer h).symm
  after := Service.agrees_of_current (congrArg Sight.after h)

/-- What can be seen of a run. -/
def Settings.sights (c : Settings) (inputs : List Input) : List Sight :=
  Service.sights { plane := c.plane } inputs

/-- Two runs of the same inputs but for evictions agree throughout: in each answer, and in each
state but for the stale responses in its cache. -/
theorem eviction_invisible (c : Settings) {inputs others : List Input}
    (h : inputs.filter (!·.isEviction) = others.filter (!·.isEviction)) :
    List.Forall₂ Sight.Agrees (c.sights inputs) (c.sights others) ∧
      (c.run inputs).Agrees (c.run others) := by
  obtain ⟨hsights, hlast⟩ := Service.without_evictions (v := { plane := c.plane }) rfl inputs
  obtain ⟨hsights', hlast'⟩ := Service.without_evictions (v := { plane := c.plane }) rfl others
  rw [h] at hsights hlast
  constructor
  · have hsame : (c.sights inputs).map Sight.current = (c.sights others).map Sight.current :=
      hsights.trans hsights'.symm
    rw [← List.forall₂_eq_eq_eq, List.forall₂_map_left_iff, List.forall₂_map_right_iff] at hsame
    exact hsame.imp fun _ _ => Sight.agrees_of_current
  · exact Service.agrees_of_current (hlast.trans hlast'.symm)

namespace Sample

/-- The owner's request for a pipeline, under an id. -/
def numbered (n : Int64) : Input :=
  .arrive { Request.inSession owner (.create "MediaPipeline" .null) with id := some (.number n) }

/-- Two requests are answered, and one of them is repeated when its response is stale. -/
def repeatedLate : List Input :=
  [numbered 1, numbered 2, .command (.advance 60001), numbered 1]

/-- The same, with evictions in between. -/
def repeatedAfterEviction : List Input :=
  [numbered 1, .command .evict, numbered 2, .command (.advance 60001), .command .evict, numbered 1]

end Sample

/-- The caches differ in size, and the runs agree. -/
theorem eviction_invisible_to_repetition :
    (Sample.settings.run Sample.repeatedLate).plane.cache.size = 2 ∧
      (Sample.settings.run Sample.repeatedAfterEviction).plane.cache.size = 1 ∧
      Sample.repeatedLate.filter (!·.isEviction) =
        Sample.repeatedAfterEviction.filter (!·.isEviction) ∧
      List.Forall₂ Sight.Agrees (Sample.settings.sights Sample.repeatedLate)
        (Sample.settings.sights Sample.repeatedAfterEviction) ∧
      (Sample.settings.run Sample.repeatedLate).Agrees
        (Sample.settings.run Sample.repeatedAfterEviction) :=
  ⟨by decide +kernel, by decide +kernel, rfl, eviction_invisible Sample.settings rfl⟩

end MediaPlane
