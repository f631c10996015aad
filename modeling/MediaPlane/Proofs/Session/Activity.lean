import MediaPlane.Proofs.Session.Closing

/-
  When a session was last active, and how many requests the table counts in it. Only entering and
  leaving a session change the count; touching and dropping objects, collections and the close of
  other sessions do not (`activity?_collect`, `activity?_close`). But the count goes with the
  session's entry: a session that is closed counts nothing, also once it is there again.
-/

namespace MediaPlane

namespace SessionTable

variable {t : SessionTable} {s u : SessionId}

/-- When a session was last active, and how many requests run in it as far as the table knows. -/
def activity? (t : SessionTable) (u : SessionId) : Option (Nat × Nat) :=
  (t.find? u).map fun e => (e.lastActivity, e.inFlight)

/-- How many requests the table counts in a session. -/
def inFlight (t : SessionTable) (u : SessionId) : Nat := ((t.activity? u).map (·.2)).getD 0

theorem inFlight_of_activity? {t' : SessionTable} (h : t'.activity? u = t.activity? u) :
    t'.inFlight u = t.inFlight u := by
  unfold inFlight
  rw [h]

theorem contains_of_inFlight (h : 0 < t.inFlight u) : t.contains u = true := by
  rw [contains_eq]
  cases he : t.find? u with
  | some e => rfl
  | none => simp [inFlight, activity?, he] at h

theorem contains_of_activity? {t' : SessionTable} (h : t'.activity? u = t.activity? u) :
    t'.contains u = t.contains u := by
  unfold activity? at h
  have hsome := congrArg Option.isSome h
  rw [Option.isSome_map, Option.isSome_map] at hsome
  rw [contains_eq, contains_eq, hsome]

/-- An existing session is idle or not by its activity alone. -/
theorem activity?_eq_some {e : Session} (h : t.find? u = some e) :
    t.activity? u = some (e.lastActivity, e.inFlight) := by
  unfold activity?
  rw [h]
  rfl

/-! ## Requests come and go -/

theorem inFlight_ensure (t : SessionTable) (s u : SessionId) (now : Nat) :
    (t.ensure s now).2.inFlight u = t.inFlight u := by
  unfold inFlight activity?
  rw [find?_ensure]
  split
  · next hu =>
    subst hu
    cases t.find? s <;> rfl
  · rfl

theorem inFlight_update (t : SessionTable) (s u : SessionId) (f : Session → Session) :
    (t.update s f).inFlight u =
      if s = u then ((t.find? s).map fun e => (f e).inFlight).getD 0 else t.inFlight u := by
  unfold inFlight activity?
  rw [find?_update]
  split
  · next hu =>
    subst hu
    cases t.find? s <;> rfl
  · rfl

theorem inFlight_recordActivity (t : SessionTable) (s u : SessionId) (now : Nat) :
    (t.recordActivity s now).inFlight u = t.inFlight u := by
  unfold recordActivity
  rw [inFlight_update]
  split
  · next hu =>
    subst hu
    unfold inFlight activity?
    cases t.find? s <;> rfl
  · rfl

theorem inFlight_enter (t : SessionTable) (s u : SessionId) (now : Nat) :
    (t.enter s now).2.inFlight u = t.inFlight u + if s = u then 1 else 0 := by
  show ((t.ensure s now).2.update s _).inFlight u = _
  rw [inFlight_update]
  split
  · next hu =>
    subst hu
    rw [find?_ensure, if_pos rfl]
    unfold inFlight activity?
    cases t.find? s <;> rfl
  · exact inFlight_ensure t s u now

theorem inFlight_leave (t : SessionTable) (s u : SessionId) (now : Nat) :
    (t.leave s now).inFlight u = t.inFlight u - if s = u then 1 else 0 := by
  unfold leave
  rw [inFlight_update]
  split
  · next hu =>
    subst hu
    unfold inFlight activity?
    cases t.find? s <;> rfl
  · rfl

/-! ## References come and go -/

theorem inFlight_touch (t : SessionTable) (s u : SessionId) (o : ObjectId) (k : Strength)
    (now : Nat) : (t.touch s o k now).inFlight u = t.inFlight u := by
  unfold inFlight activity?
  rw [find?_touch]
  split
  · next hu =>
    subst hu
    cases t.find? s <;> rfl
  · rfl

theorem activity?_dropReference (t : SessionTable) (s u : SessionId) (o : ObjectId) :
    (t.dropReference s o).activity? u = t.activity? u := by
  unfold activity?
  rw [find?_dropReference]
  split
  · next hu =>
    subst hu
    cases t.find? s <;> rfl
  · rfl

theorem activity?_dropReferences (t : SessionTable) (s u : SessionId) (ids : List ObjectId) :
    (ids.foldl (fun t o => t.dropReference s o) t).activity? u = t.activity? u := by
  induction ids generalizing t with
  | nil => rfl
  | cons o ids ih => exact (ih (t.dropReference s o)).trans (activity?_dropReference t s u o)

theorem activity?_purge (t : SessionTable) (o : ObjectId) (u : SessionId) :
    (t.purge o).activity? u = t.activity? u := by
  unfold purge
  cases t.holders[o]? with
  | none => rfl
  | some hs =>
    have hfind := getElem?_eraseAll t.sessions o hs.keys Std.ExtTreeMap.nodup_keys u
    refine (congrArg (Option.map fun e => (e.lastActivity, e.inFlight)) hfind).trans ?_
    show _ = Option.map (fun e => (e.lastActivity, e.inFlight)) t.sessions[u]?
    split
    · cases t.sessions[u]? <;> rfl
    · rfl

theorem activity?_removeSession? {refs : List (ObjectId × Strength)} {t' : SessionTable}
    (h : t.removeSession? s = some (refs, t')) (u : SessionId) :
    t'.activity? u = if s = u then none else t.activity? u := by
  unfold activity?
  rw [find?_removeSession? h]
  split <;> rfl

end SessionTable

namespace Holdings

variable {h next : Holdings} {s : SessionId}

/-! ## Objects go -/

theorem activity?_remove (h : Holdings) (id : ObjectId) (u : SessionId) :
    (h.remove id).2.sessions.activity? u = h.sessions.activity? u := by
  have hall : ∀ (gone : List MediaObject) (t : SessionTable),
      (gone.foldl (fun t o => t.purge o.id) t).activity? u = t.activity? u := by
    intro gone
    induction gone with
    | nil => exact fun t => rfl
    | cons o gone ih => exact fun t => (ih (t.purge o.id)).trans (t.activity?_purge o.id u)
  exact hall _ h.sessions

theorem activity?_collectInOrder (h : Holdings) (ids : List ObjectId) (u : SessionId) :
    (h.collectInOrder ids).2.sessions.activity? u = h.sessions.activity? u := by
  induction ids generalizing h with
  | nil => rfl
  | cons id ids ih =>
    unfold collectInOrder
    split
    · exact (ih (h.remove id).2).trans (h.activity?_remove id u)
    · exact ih h

theorem activity?_collect (h : Holdings) (cs : List ObjectId) (u : SessionId) :
    (h.collect cs).2.sessions.activity? u = h.sessions.activity? u :=
  h.activity?_collectInOrder _ u

theorem activity?_destroyOwned (h : Holdings) (ids : List ObjectId) (u : SessionId) :
    (h.destroyOwned ids).2.2.sessions.activity? u = h.sessions.activity? u := by
  induction ids generalizing h with
  | nil => rfl
  | cons id ids ih =>
    unfold destroyOwned
    split
    · exact (ih (h.remove id).2).trans (h.activity?_remove id u)
    · exact ih h

/-- A close takes the session's entry, and leaves the activity of the other ones. -/
theorem activity?_close {kind : CloseKind} {closure : Closure}
    (hc : h.close s kind = .ok (some (closure, next))) (u : SessionId) :
    next.sessions.activity? u = if s = u then none else h.sessions.activity? u := by
  obtain ⟨refs, t, hr, -, -, rfl⟩ := close_ok hc
  rw [activity?_collect, expelled, activity?_destroyOwned]
  exact SessionTable.activity?_removeSession? hr u

/-- Only an idle session is closed for being idle. -/
theorem isIdle_of_close {closure : Closure} {now ttl : Nat}
    (hc : h.close s (.idle now ttl) = .ok (some (closure, next))) :
    ∃ e, h.sessions.find? s = some e ∧ e.isIdle now ttl = true := by
  obtain ⟨refs, t, hr, -⟩ := close_ok hc
  obtain ⟨e, he, -⟩ := SessionTable.removeSession?_eq_some hr
  rw [close_of_removeSession? he hr] at hc
  split at hc
  · next hidle => exact ⟨e, he, hidle⟩
  · cases hc

/-- And every idle session is. -/
theorem close_of_isIdle {e : Session} {now ttl : Nat} (he : h.sessions.find? s = some e)
    (hidle : e.isIdle now ttl = true) :
    ∃ closure next, h.close s (.idle now ttl) = .ok (some (closure, next)) := by
  obtain ⟨refs, t, hr⟩ : ∃ refs t, h.sessions.removeSession? s = some (refs, t) := by
    simp [SessionTable.removeSession?, he]
  have hcloses : closes (.idle now ttl) e = true := hidle
  have hc : h.close s (.idle now ttl) = _ := close_of_removeSession? he hr
  rw [if_pos hcloses] at hc
  exact ⟨_, _, hc⟩

end Holdings

end MediaPlane
