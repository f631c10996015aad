import MediaPlane.Proofs.Service.Run

/-
  How a call stands to the retry cache. A call whose key the cache did not know is an execution, and
  goes by a ticket; other calls with a key follow an execution or replay its response. `Accounted`
  says what the cache has on record about each of them.
-/

namespace MediaPlane

namespace RetryCache

variable {cache next : RetryCache} {k : RetryKey} {g : Guard} {now : Nat}

/-! ## What becomes of entries -/

theorem entries_start (cache : RetryCache) (key k : RetryKey) :
    (cache.start key).2.entries[k]? =
      if key = k then some (.inFlight cache.nextTicket) else cache.entries[k]? :=
  getElem?_insert_lawful cache.entries key k _

theorem entries_complete (cache : RetryCache) (g : Guard) (response : Response) (now : Nat)
    (k : RetryKey) :
    (cache.complete g response now).entries[k]? =
      if g.key = k then some (.completed response now) else cache.entries[k]? :=
  getElem?_insert_lawful cache.entries g.key k _

theorem entries_abandon (cache : RetryCache) (g : Guard) (k : RetryKey) :
    (cache.abandon g).entries[k]? = if g.key = k then none else cache.entries[k]? :=
  getElem?_erase_lawful cache.entries g.key k

theorem entries_evict (cache : RetryCache) (now : Nat) (k : RetryKey) :
    (cache.evict now).2.entries[k]? = (cache.entries[k]?).filter (cache.keeps now) :=
  Std.ExtTreeMap.getElem?_filter'

theorem entries_of_evict {e : RetryEntry} (h : (cache.evict now).2.entries[k]? = some e) :
    cache.entries[k]? = some e := by
  rw [entries_evict, Option.filter_eq_some_iff] at h
  exact h.1

/-- A response goes stale after the time of retention. -/
theorem expired_eq_false_iff {t : Nat} :
    cache.expired t now = false ↔ now ≤ t + cache.retention := by
  unfold expired
  rw [decide_eq_false_iff_not]
  omega

/-- A key is fresh if nothing is known of it, or only a stale response. -/
theorem begin_of_fresh (h : cache.begin k now = (.fresh g, next)) :
    (g, next) = cache.start k ∧
      ∀ e, cache.entries[k]? = some e →
        ∃ response t, e = .completed response t ∧ ¬ now ≤ t + cache.retention := by
  unfold begin at h
  simp only at h
  split at h
  · next response t he =>
    split at h
    · next hstale =>
      cases h
      refine ⟨rfl, fun e heq => ?_⟩
      rw [he] at heq
      cases heq
      refine ⟨response, t, rfl, ?_⟩
      rw [← expired_eq_false_iff, hstale]
      decide
    · cases h
  · cases h
  · next he =>
    cases h
    refine ⟨rfl, fun e heq => ?_⟩
    rw [he] at heq
    cases heq

theorem begin_of_inFlight {n : Nat} (h : cache.entries[k]? = some (.inFlight n)) (now : Nat) :
    cache.begin k now = (.pending n, cache) := by
  unfold begin
  simp only [h]

theorem begin_of_completed {response : Response} {t : Nat}
    (h : cache.entries[k]? = some (.completed response t)) (hnow : now ≤ t + cache.retention) :
    cache.begin k now = (.replay response, cache) := by
  have hlive := expired_eq_false_iff.mpr hnow
  unfold begin
  simp only [h, hlive, Bool.false_eq_true, if_false]

theorem begin_of_none (h : cache.entries[k]? = none) (now : Nat) :
    cache.begin k now = (.fresh (cache.start k).1, (cache.start k).2) := by
  unfold begin
  simp only [h]

theorem entries_of_replay {response : Response} (h : cache.begin k now = (.replay response, next)) :
    ∃ t, cache.entries[k]? = some (.completed response t) ∧ now ≤ t + cache.retention := by
  unfold begin at h
  simp only at h
  split at h
  · next response' t he =>
    split at h
    · cases h
    · next hlive =>
      cases h
      exact ⟨t, he, expired_eq_false_iff.mp (Bool.eq_false_iff.mpr hlive)⟩
  · cases h
  · cases h

theorem entries_of_pending {n : Nat} (h : cache.begin k now = (.pending n, next)) :
    cache.entries[k]? = some (.inFlight n) := by
  unfold begin at h
  simp only at h
  split at h
  · split at h
    · cases h
    · cases h
  · next n' he =>
    cases h
    exact he
  · cases h

end RetryCache

/-! ## Accounts -/

/-- How a call stands to the retry cache at a time. -/
inductive Call.Accounted (cache : RetryCache) (now : Nat) : Call → Prop where
  /-- It has no key, and completes nothing. -/
  | keyless {r : Request} {state : CallState} (hkey : r.key? = none)
      (hguard : ∀ p, state = .waiting p →
        ∃ caller wait batch, p = .running caller wait batch ∧ caller.guard = none) :
      Accounted cache now ⟨r, none, state⟩
  /-- It is the execution in flight of its key. -/
  | executing {r : Request} {g : Guard} {caller : Caller} {wait : Wait} {batch : Option Batch}
      (hkey : r.key? = some g.key) (hguard : caller.guard = some g)
      (hentry : cache.entries[g.key]? = some (.inFlight g.ticket))
      (hended : cache.outcome? g.ticket = none) :
      Accounted cache now ⟨r, some (.fresh g), .waiting (.running caller wait batch)⟩
  /-- It executed and completed, and its response is there for as long as it is replayed. -/
  | executed {r : Request} {g : Guard} {response : Response} {t : Nat}
      (hkey : r.key? = some g.key) (hended : cache.outcome? g.ticket = some (some response))
      (ht : t ≤ now)
      (hentry : now ≤ t + cache.retention →
        cache.entries[g.key]? = some (.completed response t)) :
      Accounted cache now ⟨r, some (.fresh g), .answered response t⟩
  /-- It executed and was given up. -/
  | abandoned {r : Request} {g : Guard} (hkey : r.key? = some g.key)
      (hended : cache.outcome? g.ticket = some none) :
      Accounted cache now ⟨r, some (.fresh g), .cancelled⟩
  /-- It waits for an execution. -/
  | following {r : Request} {k : RetryKey} {n : Nat} (hkey : r.key? = some k) :
      Accounted cache now ⟨r, some (.pending n), .waiting (.duplicate k n)⟩
  /-- It got what the execution ended with. -/
  | followed {r : Request} {k : RetryKey} {n t : Nat} {o : Option Response}
      (hkey : r.key? = some k) (hended : cache.outcome? n = some o) :
      Accounted cache now
        ⟨r, some (.pending n), .answered (o.getD (ControlPlane.abandonedResponse k)) t⟩
  /-- It was given up before. -/
  | unfollowed {r : Request} {k : RetryKey} {n : Nat} (hkey : r.key? = some k) :
      Accounted cache now ⟨r, some (.pending n), .cancelled⟩
  | replayed {r : Request} {k : RetryKey} {response : Response} {t : Nat}
      (hkey : r.key? = some k) :
      Accounted cache now ⟨r, some (.replay response), .answered response t⟩

namespace Call.Accounted

variable {cache next : RetryCache} {now : Nat} {c : Call}

/-- An account stays right when the cache forgets nothing that it speaks of. -/
theorem of_kept (h : c.Accounted cache now) (hretention : next.retention = cache.retention)
    (hended : ∀ n o, cache.outcome? n = some o → next.outcome? n = some o)
    (hopen : ∀ g, c.found = some (.fresh g) → cache.outcome? g.ticket = none →
      next.outcome? g.ticket = none)
    (hflight : ∀ g, c.found = some (.fresh g) →
      cache.entries[g.key]? = some (.inFlight g.ticket) →
        next.entries[g.key]? = some (.inFlight g.ticket))
    (hdone : ∀ g response t, c.found = some (.fresh g) → now ≤ t + cache.retention →
      cache.entries[g.key]? = some (.completed response t) →
        next.entries[g.key]? = some (.completed response t)) : c.Accounted next now := by
  cases h with
  | keyless hkey hguard => exact .keyless hkey hguard
  | executing hkey hguard he ho =>
    exact .executing hkey hguard (hflight _ rfl he) (hopen _ rfl ho)
  | executed hkey ho ht he =>
    refine .executed hkey (hended _ _ ho) ht fun hnow => ?_
    rw [hretention] at hnow
    exact hdone _ _ _ rfl hnow (he hnow)
  | abandoned hkey ho => exact .abandoned hkey (hended _ _ ho)
  | following hkey => exact .following hkey
  | followed hkey ho => exact .followed hkey (hended _ _ ho)
  | unfollowed hkey => exact .unfollowed hkey
  | replayed hkey => exact .replayed hkey

/-- As time goes on, no more is asked of the cache. -/
theorem later {after : Nat} (h : c.Accounted cache now) (hle : now ≤ after) :
    c.Accounted cache after := by
  cases h with
  | keyless hkey hguard => exact .keyless hkey hguard
  | executing hkey hguard he ho => exact .executing hkey hguard he ho
  | executed hkey ho ht he => exact .executed hkey ho (by omega) fun hnow => he (by omega)
  | abandoned hkey ho => exact .abandoned hkey ho
  | following hkey => exact .following hkey
  | followed hkey ho => exact .followed hkey ho
  | unfollowed hkey => exact .unfollowed hkey
  | replayed hkey => exact .replayed hkey

/-- What an execution's state says about it. -/
theorem of_waiting {g : Guard} {p : Pending} (h : c.Accounted cache now)
    (hfound : c.found = some (.fresh g)) (hstate : c.state = .waiting p) :
    cache.entries[g.key]? = some (.inFlight g.ticket) ∧ cache.outcome? g.ticket = none := by
  cases h with
  | executing hkey hguard he ho =>
    cases hfound
    exact ⟨he, ho⟩
  | keyless | following | followed | unfollowed | replayed => cases hfound
  | executed | abandoned => cases hstate

theorem of_answered {g : Guard} {response : Response} {t : Nat} (h : c.Accounted cache now)
    (hfound : c.found = some (.fresh g)) (hstate : c.state = .answered response t) :
    cache.outcome? g.ticket = some (some response) ∧ t ≤ now ∧
      (now ≤ t + cache.retention → cache.entries[g.key]? = some (.completed response t)) := by
  cases h with
  | executed hkey ho ht he =>
    cases hfound
    cases hstate
    exact ⟨ho, ht, he⟩
  | keyless | following | followed | unfollowed | replayed => cases hfound
  | executing | abandoned => cases hstate

theorem key?_of_fresh {g : Guard} (h : c.Accounted cache now)
    (hfound : c.found = some (.fresh g)) : c.request.key? = some g.key := by
  cases h with
  | executing hkey | executed hkey | abandoned hkey =>
    cases hfound
    exact hkey
  | keyless | following | followed | unfollowed | replayed => cases hfound

theorem of_cancelled {g : Guard} (h : c.Accounted cache now)
    (hfound : c.found = some (.fresh g)) (hstate : c.state = .cancelled) :
    cache.outcome? g.ticket = some none := by
  cases h with
  | abandoned hkey ho =>
    cases hfound
    exact ho
  | keyless | following | followed | unfollowed | replayed => cases hfound
  | executing | executed => cases hstate

end Call.Accounted

end MediaPlane
