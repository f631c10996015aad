import MediaPlane.Proofs.ControlPlane.Uncached
import MediaPlane.Proofs.Service.Bookkeeping

/-
  Responses that are too old to be replayed. Such a response is as good as none: to forget all of
  them and then take a step comes to the same as to take the step and then forget them. This holds
  of what is done to the cache (`RetryCache.current_begin` and its like), of each stage of a call
  (`ControlPlane.current_begin`, `current_resume?`, `current_cancel`), and of commands
  (`current_obey`), where time may pass and more responses become stale.
-/

namespace MediaPlane

namespace RetryCache

/-! ## The cache without stale responses -/

/-- The cache without the responses that are too old to be replayed. -/
def current (cache : RetryCache) (now : Nat) : RetryCache := (cache.evict now).2

theorem eq_of_entries {a b : RetryCache} (hretention : a.retention = b.retention)
    (hnext : a.nextTicket = b.nextTicket) (hended : a.ended = b.ended)
    (hentries : ∀ k : RetryKey, a.entries[k]? = b.entries[k]?) : a = b := by
  have h : a.entries = b.entries := Std.ExtTreeMap.ext_getElem? hentries
  cases a
  cases b
  cases hretention
  cases hnext
  cases hended
  cases h
  rfl

variable (cache : RetryCache) (g : Guard) (k : RetryKey) (response : Response)
  {now later : Nat}

theorem entries_current (now : Nat) :
    (cache.current now).entries[k]? = (cache.entries[k]?).filter (cache.keeps now) :=
  entries_evict cache now k

theorem keeps_completed_iff {t : Nat} :
    cache.keeps now (.completed response t) = true ↔ now ≤ t + cache.retention := by
  unfold keeps
  rw [Bool.not_eq_true', expired_eq_false_iff]

/-- What is stale stays stale. -/
theorem keeps_of_le (h : now ≤ later) {e : RetryEntry} (he : cache.keeps later e = true) :
    cache.keeps now e = true := by
  cases e with
  | inFlight n => rfl
  | completed response t =>
    rw [keeps_completed_iff] at he ⊢
    exact Nat.le_trans h he

theorem current_current (h : now ≤ later) :
    (cache.current now).current later = cache.current later := by
  refine eq_of_entries rfl rfl rfl fun k => ?_
  have htwice := entries_current (cache.current now) k later
  rw [htwice, entries_current, entries_current]
  show ((cache.entries[k]?).filter (cache.keeps now)).filter (cache.keeps later) = _
  rw [Option.filter_filter]
  congr 1
  funext e
  exact Bool.and_eq_right_iff_imp.mpr fun he => cache.keeps_of_le h he

/-! ## What is done to it -/

theorem current_start :
    (cache.current now).start k = ((cache.start k).1, (cache.start k).2.current now) := by
  refine Prod.ext rfl (eq_of_entries rfl rfl rfl fun j => ?_)
  show ((cache.current now).start k).2.entries[j]? = _
  rw [entries_start, entries_current, entries_current, entries_start]
  split <;> rfl

theorem current_complete :
    (cache.current now).complete g response now = (cache.complete g response now).current now := by
  refine eq_of_entries rfl rfl rfl fun j => ?_
  rw [entries_complete, entries_current, entries_current, entries_complete]
  split
  · have hkept := (cache.keeps_completed_iff response).mpr (Nat.le_add_right now cache.retention)
    exact (Option.filter_some_pos (p := cache.keeps now) hkept).symm
  · rfl

theorem current_abandon : (cache.current now).abandon g = (cache.abandon g).current now := by
  refine eq_of_entries rfl rfl rfl fun j => ?_
  rw [entries_abandon, entries_current, entries_current, entries_abandon]
  split <;> rfl

variable {cache k response}

theorem begin_of_stale {t : Nat} (h : cache.entries[k]? = some (.completed response t))
    (hnow : ¬ now ≤ t + cache.retention) :
    cache.begin k now = (.fresh (cache.start k).1, (cache.start k).2) := by
  have hstale : cache.expired t now = true := by
    rw [← Bool.not_eq_false, expired_eq_false_iff]
    exact hnow
  unfold begin
  simp only [h, hstale, if_true]

variable (cache k)

/-- A stale response is found as little as one that is forgotten. -/
theorem current_begin :
    (cache.current now).begin k now =
      ((cache.begin k now).1, (cache.begin k now).2.current now) := by
  have hentry := entries_current cache k now
  cases he : cache.entries[k]? with
  | none =>
    rw [he] at hentry
    rw [begin_of_none hentry, begin_of_none he, current_start]
  | some e =>
    rw [he, Option.filter_some] at hentry
    cases e with
    | inFlight n => rw [begin_of_inFlight hentry, begin_of_inFlight he]
    | completed response t =>
      simp only [keeps_completed_iff] at hentry
      by_cases hnow : now ≤ t + cache.retention
      · rw [if_pos hnow] at hentry
        rw [begin_of_completed hentry hnow, begin_of_completed he hnow]
      · rw [if_neg hnow] at hentry
        rw [begin_of_none hentry, begin_of_stale he hnow, current_start]

end RetryCache

namespace ControlPlane

/-! ## Stages of a call -/

/-- The state without the responses that are too old to be replayed. -/
def current (cp : ControlPlane) : ControlPlane := cp.evict.2

/-- What a step led to, without the responses that are too old to be replayed. -/
def refresh {α : Type} (r : α × ControlPlane) : α × ControlPlane := (r.1, r.2.current)

variable {cp next : ControlPlane}

theorem Steady.withCache_current (h : Steady cp next) :
    next.withCache (cp.cache.current cp.now) = next.current := by
  have hcurrent : next.current = next.withCache (next.cache.current next.now) := rfl
  rw [hcurrent, h.cache_eq, h.now_eq]

theorem Steady.recache_current {α : Type} {r : α × ControlPlane} (h : Steady cp r.2) :
    recache (cp.cache.current cp.now) r = refresh r :=
  Prod.ext rfl h.withCache_current

variable (cp)

theorem current_respond (caller : Caller) (result : Except Failure Value) :
    cp.current.respond caller result = refresh (cp.respond caller result) := by
  unfold respond
  cases caller.guard with
  | none => rfl
  | some g =>
    refine Prod.ext rfl ?_
    exact congrArg (cp.countRequest caller.label result).withCache
      (cp.cache.current_complete g _)

theorem current_proceed (caller : Caller) (outcome : Outcome) :
    cp.current.proceed caller outcome = refresh (cp.proceed caller outcome) := by
  cases outcome with
  | settled result => exact current_respond (cp.leave caller.session) caller result
  | waiting w => rfl

theorem current_proceedBatch (caller : Caller) (outcome : BatchOutcome) :
    cp.current.proceedBatch caller outcome = refresh (cp.proceedBatch caller outcome) := by
  cases outcome with
  | completed results => exact current_respond (cp.leave caller.session) caller _
  | waiting w batch => rfl

theorem current_enter (s : SessionId) : cp.current.enter s = (cp.enter s).current :=
  (enter_withCache cp _ s).trans (Change.steady (P := Leeway.full) .enter).withCache_current

theorem current_connect (s : SessionId) : cp.current.connect s = (cp.connect s).current :=
  (connect_withCache cp _ s).trans (Change.steady (P := Leeway.full) .connect).withCache_current

theorem current_keepAlive (s : SessionId) :
    cp.current.keepAlive s = (cp.keepAlive s).map current := by
  refine (keepAlive_withCache cp _ s).trans ?_
  cases h : cp.keepAlive s with
  | error e => rfl
  | ok next =>
    exact congrArg Except.ok (Change.steady (P := Leeway.full) (.keepAlive h)).withCache_current

theorem current_closeSession (s : SessionId) (forced : Bool) :
    cp.current.closeSession s forced = (cp.closeSession s forced).map refresh := by
  refine (closeSession_withCache cp _ s forced).trans ?_
  cases h : cp.closeSession s forced with
  | error e => rfl
  | ok r => exact congrArg Except.ok (steady_closeSession h).recache_current

theorem current_execute (s : SessionId) (op : Operation) :
    cp.current.execute s op = refresh (cp.execute s op) :=
  (execute_withCache cp _ s op).trans
    (execute_stretch cp.dispatcher.within_full s op).steady.recache_current

theorem current_runEntries (s : SessionId) (slots : Slots) (results entries : List Value) :
    cp.current.runEntries s slots results entries =
      refresh (cp.runEntries s slots results entries) := by
  have hrun := runEntries_stretch cp.dispatcher.within_full s slots results entries
  exact (runEntries_withCache cp _ s slots results entries).trans hrun.steady.recache_current

theorem current_finishWait (s : SessionId) (w : Wait) :
    cp.current.finishWait s w = refresh (cp.finishWait s w) :=
  (finishWait_withCache cp _ s w).trans (steady_finishWait cp s w).recache_current

theorem current_perform (caller : Caller) (op : Operation) :
    cp.current.perform caller op = refresh (cp.perform caller op) := by
  cases op with
  | ping => exact current_respond cp caller _
  | keepAlive =>
    unfold perform
    simp only [current_keepAlive]
    cases cp.keepAlive caller.session with
    | error e => exact current_respond cp caller _
    | ok next => exact current_respond next caller _
  | connect =>
    unfold perform
    simp only [current_connect]
    exact current_respond _ caller _
  | closeSession forced =>
    unfold perform
    simp only [current_closeSession]
    cases cp.closeSession caller.session forced with
    | error e => exact current_respond cp caller _
    | ok closed => exact current_respond closed.2 caller _
  | transaction entries =>
    unfold perform
    simp only [current_enter, current_runEntries, refresh]
    exact current_proceedBatch _ caller _
  | create | invoke | ref | unref | release | describe | subscribe | unsubscribe =>
    unfold perform
    simp only [current_enter, current_execute, refresh]
    exact current_proceed _ caller _

theorem current_start (r : Request) (guard : Option Guard) :
    cp.current.start r guard = refresh (cp.start r guard) := by
  have hsession : cp.current.sessionFor r.session = refresh (cp.sessionFor r.session) := by
    unfold sessionFor
    cases r.session <;> rfl
  unfold start
  rw [hsession]
  simp only [refresh]
  cases r.operation with
  | error e => exact current_respond _ _ _
  | ok op => exact current_perform _ _ op

/-- A request arrives. Whether a response is forgotten because it is stale or not looked at for
that reason, the request is executed. -/
theorem current_begin (r : Request) : cp.current.begin r = refresh (cp.begin r) := by
  cases hkey : r.key? with
  | none =>
    rw [begin_of_keyless hkey, begin_of_keyless hkey]
    exact current_start cp r none
  | some k =>
    have hfound : cp.current.cache.begin k cp.current.now = _ := cp.cache.current_begin k
    rw [begin_of_key hkey, begin_of_key hkey, hfound]
    rcases cp.cache.begin k cp.now with ⟨g | response | n, cache⟩
    · exact current_start { cp with cache } r (some g)
    · rfl
    · rfl

theorem current_resume? (tick : Nat) (p : Pending) :
    cp.current.resume? tick p = (cp.resume? tick p).map refresh := by
  cases p with
  | duplicate key n =>
    show (cp.cache.outcome? n).map _ = ((cp.cache.outcome? n).map _).map refresh
    rw [Option.map_map]
    rfl
  | running caller wait batch =>
    unfold resume?
    simp only
    split
    · rfl
    · simp only [current_finishWait, refresh]
      cases batch with
      | none => exact congrArg some (current_proceed _ caller _)
      | some b =>
        simp only [current_runEntries, refresh]
        exact congrArg some (current_proceedBatch _ caller _)

theorem current_cancel (p : Pending) : cp.current.cancel p = (cp.cancel p).current := by
  cases p with
  | duplicate key n => rfl
  | running caller wait batch =>
    cases hguard : caller.guard with
    | none =>
      rw [cancel_of_no_guard _ hguard, cancel_of_no_guard _ hguard]
      rfl
    | some g =>
      rw [cancel_of_guard _ hguard, cancel_of_guard _ hguard]
      exact congrArg (cp.leave caller.session).withCache (cp.cache.current_abandon g)

/-! ## Commands -/

variable (cache : RetryCache)

theorem obey_withCache {c : Command} (hc : c ≠ .evict) :
    (cp.withCache cache).obey c = (cp.obey c).withCache cache := by
  cases c with
  | keepAlive s =>
    simp only [obey, keepAlive_withCache]
    cases cp.keepAlive s <;> rfl
  | connect s => exact connect_withCache cp cache s
  | close s forced =>
    simp only [obey, closeSession_withCache]
    cases cp.closeSession s forced <;> rfl
  | sweep => simp only [obey, sweep_withCache, recache]
  | evict => exact absurd rfl hc
  | emit object eventType data =>
    simp only [obey, emit_withCache]
    cases cp.emit object eventType data <;> rfl
  | connectHandler object s eventType receiver =>
    simp only [obey, connectHandler_withCache, recache]
  | takeHandler object s eventType =>
    have hlookup : (cp.withCache cache).lookupHandler? object s eventType =
        cp.lookupHandler? object s eventType := rfl
    simp only [obey, hlookup]
    cases cp.lookupHandler? object s eventType <;> rfl
  | shareHandler object s id handler =>
    simp only [obey, dispatcher_withCache, shareHandler_withCache, recache]
    split <;> rfl
  | shutdown => exact shutdown_withCache cp cache
  | dropHandler | installFactory | refuse | load | advance => rfl

theorem current_current : cp.current.current = cp.current :=
  congrArg cp.withCache (cp.cache.current_current (Nat.le_refl cp.now))

/-- A command other than an eviction. What is stale before it is so after it. -/
theorem current_obey {c : Command} (hc : c ≠ .evict) :
    (cp.current.obey c).current = (cp.obey c).current := by
  obtain ⟨hcache, hnow⟩ := cp.obey_passes hc
  have hobey : cp.current.obey c = (cp.obey c).withCache (cp.cache.current cp.now) :=
    obey_withCache cp _ hc
  have htwice := cp.cache.current_current hnow
  rw [hobey]
  rw [← hcache] at htwice ⊢
  exact congrArg (cp.obey c).withCache htwice

end ControlPlane

end MediaPlane
