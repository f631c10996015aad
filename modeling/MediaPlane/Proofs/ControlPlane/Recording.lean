import Mathlib.Algebra.GroupWithZero.Nat
import MediaPlane.Proofs.ControlPlane.Performance
import MediaPlane.Proofs.ControlPlane.Sparing

/-
  What the statistics record. The numbers are written where things happen: objects that are taken
  out are counted where they are taken down, deliveries where an event is raised, requests where
  they are answered. `Records` says of a step that registers nothing that its numbers agree with
  what happened: whatever left the registry was counted, the gauge of objects is right or nothing
  left, and so many requests were counted. Every move records what it does (`Moves.records`), and so
  does all else that takes objects out. A creation writes on other pages: what it registers raises
  the gauge, and a refusal is counted. Together this accounts for all that a call performs
  (`Acts.accounts`).
-/

namespace MediaPlane

/-! ## Sums -/

namespace Metrics

/-- How many requests there were of each kind. -/
abbrev Tally := Std.ExtTreeMap (String × String) Nat comparePair

theorem nodup_toList (m : Tally) : m.toList.Nodup :=
  Std.ExtTreeMap.distinct_keys_toList.imp fun hne heq => by
    subst heq
    exact hne Std.ReflCmp.compare_self

/-- The entries of all kinds but one. -/
def others (m : Tally) (k : String × String) : List ((String × String) × Nat) :=
  m.toList.filter fun p => p.1 ≠ k

theorem mem_others {m : Tally} {k : String × String} {p : (String × String) × Nat} :
    p ∈ others m k ↔ m[p.1]? = some p.2 ∧ p.1 ≠ k := by
  unfold others
  rw [List.mem_filter, decide_eq_true_eq]
  exact and_congr_left fun _ => Std.ExtTreeMap.mem_toList_iff_getElem?_eq_some

theorem toList_perm (m : Tally) (k : String × String) :
    m.toList.Perm ((m[k]?.map fun n => (k, n)).toList ++ others m k) := by
  refine (List.perm_ext_iff_of_nodup (nodup_toList m) ?_).mpr fun p => ?_
  · refine List.nodup_append'.mpr ⟨?_, (nodup_toList m).filter _, fun p hp hout => ?_⟩
    · cases m[k]? <;> simp
    · obtain ⟨n, -, rfl⟩ := Option.map_eq_some_iff.mp (Option.mem_toList.mp hp)
      exact (mem_others.mp hout).2 rfl
  · obtain ⟨kind, n⟩ := p
    rw [List.mem_append, Option.mem_toList, Option.map_eq_some_iff, mem_others,
      Std.ExtTreeMap.mem_toList_iff_getElem?_eq_some]
    by_cases hk : kind = k
    · subst hk
      simp
    · simp [hk, Ne.symm hk]

theorem sum_toList (m : Tally) (k : String × String) :
    (m.toList.map (·.2)).sum = m[k]?.getD 0 + ((others m k).map (·.2)).sum := by
  rw [((toList_perm m k).map (·.2)).sum_nat, List.map_append, List.sum_append]
  cases m[k]? <;> simp

theorem others_insert (m : Tally) (k : String × String) (n : Nat) :
    (others (m.insert k n) k).Perm (others m k) := by
  refine (List.perm_ext_iff_of_nodup ((nodup_toList _).filter _) ((nodup_toList m).filter _)).mpr
    fun p => ?_
  rw [← others, ← others, mem_others, mem_others, Std.ExtTreeMap.getElem?_insert]
  refine and_congr_left fun hne => ?_
  rw [if_neg fun heq => hne (Std.LawfulEqCmp.eq_of_compare heq).symm]

theorem totalRequests_eq (m : Metrics) : m.totalRequests = (m.requests.toList.map (·.2)).sum := by
  unfold totalRequests
  rw [Std.ExtTreeMap.foldl_eq_foldl_toList, ← List.foldl_map (g := fun (n k : Nat) => n + k),
    List.sum_eq_foldl_nat]

/-- One more request is one more in all, of whatever kind it is. -/
theorem totalRequests_countRequest (m : Metrics) (method status : String) :
    (m.countRequest method status).totalRequests = m.totalRequests + 1 := by
  rw [totalRequests_eq, totalRequests_eq, sum_toList _ (method, status),
    sum_toList m.requests (method, status)]
  simp only [countRequest, Std.ExtTreeMap.getElem?_insert_self, Option.getD_some]
  rw [((others_insert _ _ _).map (·.2)).sum_nat]
  omega

/-- All requests that got an answer, by an execution of their own or by an earlier one. -/
def answered (m : Metrics) : Nat := m.totalRequests + m.replays

theorem answered_countRequest (m : Metrics) (method status : String) :
    (m.countRequest method status).answered = m.answered + 1 := by
  unfold answered
  rw [totalRequests_countRequest]
  exact Nat.add_right_comm _ _ _

theorem totalCollected_countCollected (m : Metrics) (reason : RemovalReason) (n : Nat) :
    (m.countCollected reason n).totalCollected = m.totalCollected + n := by
  cases reason <;> simp [totalCollected, countCollected, RemovalReason.all] <;> omega

end Metrics

namespace Registry

variable {r s : Registry} {gone : List MediaObject}

/-- What is taken out is missing in the count. -/
theorem Cut.size_add (h : Cut r gone s) (hr : r.Forest) (hs : s.Forest) :
    s.size + gone.length = r.size := by
  have hperm : (s.objects.keys ++ gone.map (·.id)).Perm r.objects.keys := by
    refine (List.perm_ext_iff_of_nodup ?_ Std.ExtTreeMap.nodup_keys).mpr fun x => ?_
    · refine List.nodup_append'.mpr ⟨Std.ExtTreeMap.nodup_keys, h.nodup, fun x hx hgone => ?_⟩
      exact (h.contains_iff.mp (Std.ExtTreeMap.mem_keys.mp hx)).2 hgone
    · rw [List.mem_append, Std.ExtTreeMap.mem_keys, Std.ExtTreeMap.mem_keys]
      show s.contains x = true ∨ _ ↔ r.contains x = true
      rw [h.contains_iff]
      constructor
      · rintro (⟨hx, -⟩ | hgone)
        · exact hx
        · exact h.live_of_mem hgone
      · intro hx
        by_cases hgone : x ∈ gone.map (·.id)
        · exact Or.inr hgone
        · exact Or.inl ⟨hx, hgone⟩
  have hlength := hperm.length_eq
  rw [List.length_append, List.length_map, Std.ExtTreeMap.length_keys,
    Std.ExtTreeMap.length_keys] at hlength
  unfold size
  rw [hr.live_eq, hs.live_eq]
  exact hlength

/-- The objects are counted. -/
theorem Forest.size_eq (h : r.Forest) : r.size = r.all.length := by
  unfold all size
  rw [List.length_map, Std.ExtTreeMap.length_toList]
  exact h.live_eq

theorem size_update (r : Registry) (x : ObjectId) (f : MediaObject → MediaObject) :
    (r.update x f).size = r.size := by
  unfold update
  split <;> rfl

/-- What is put in can be taken out again, and is one object. -/
theorem size_put {o : MediaObject} (hr : r.Forest) (h : r.put o = .ok s) :
    s.size = r.size + 1 := by
  have hcut : Cut s [o] r := by
    refine ⟨fun x => ?_, fun p hp => ?_, List.nodup_singleton _⟩
    · by_cases hx : x = o.id
      · subst hx
        have hnew : r.find? o.id = none := by
          rw [← Option.not_isSome_iff_eq_none, ← contains_eq, (put_ok h).1]
          exact Bool.false_ne_true
        rw [hnew, if_pos (List.mem_map_of_mem (List.mem_singleton_self o))]
      · have hother : x ∉ [o].map (·.id) := fun hmem => hx (List.mem_singleton.mp hmem)
        rw [if_neg hother, find?_put h, if_neg (Ne.symm hx)]
    · rw [List.mem_singleton.mp hp, find?_put h, if_pos rfl]
  exact (hcut.size_add (forest_put hr h) hr).symm

end Registry

namespace ControlPlane

open Registry (Cut)

variable {cp mid next : ControlPlane} {s u : SessionId} {P : Leeway} {tacit : Prop}
  {gone : List MediaObject} {ps qs : List Performance} {m n k : Nat}

/-! ## What a step records -/

/-- A step that registers nothing records what it does: what it takes out of the registry, the
deliveries that it makes, and so many requests. -/
structure Records (cp : ControlPlane) (k : Nat) (next : ControlPlane) : Prop where
  registered_eq : next.journal.registered = cp.journal.registered
  /-- What leaves the registry is counted. -/
  collected : next.metrics.totalCollected + next.registry.size =
    cp.metrics.totalCollected + cp.registry.size
  size_le : next.registry.size ≤ cp.registry.size
  /-- The gauge is set, or nothing has left. -/
  objects : next.metrics.objectsActive = some next.registry.size ∨
    next.metrics.objectsActive = cp.metrics.objectsActive ∧
      next.registry.size = cp.registry.size
  delivered : next.metrics.delivered + cp.journal.deliveries.length =
    cp.metrics.delivered + next.journal.deliveries.length
  rejected_eq : next.metrics.rejected = cp.metrics.rejected
  answered : next.metrics.answered = cp.metrics.answered + k

namespace Records

theorem refl (cp : ControlPlane) : Records cp 0 cp :=
  ⟨rfl, rfl, Nat.le_refl _, Or.inr ⟨rfl, rfl⟩, rfl, rfl, rfl⟩

theorem trans (h : Records cp m mid) (h' : Records mid k next) : Records cp (m + k) next where
  registered_eq := h'.registered_eq.trans h.registered_eq
  collected := h'.collected.trans h.collected
  size_le := Nat.le_trans h'.size_le h.size_le
  objects := by
    rcases h'.objects with hset | ⟨hsame, hsize⟩
    · exact Or.inl hset
    · rw [hsame, hsize]
      exact h.objects
  delivered := by
    have hfirst := h.delivered
    have hsecond := h'.delivered
    omega
  rejected_eq := h'.rejected_eq.trans h.rejected_eq
  answered := by rw [h'.answered, h.answered, Nat.add_assoc]

/-- No request is answered first. -/
theorem after (h : Records cp 0 mid) (h' : Records mid k next) : Records cp k next := by
  have htrans := h.trans h'
  rwa [Nat.zero_add] at htrans

/-- Nothing happens that is recorded, except perhaps in the gauges of sessions and
subscriptions. -/
theorem of_eq {sessions subscriptions : Option Nat}
    (hsize : next.registry.size = cp.registry.size)
    (hregistered : next.journal.registered = cp.journal.registered)
    (hdeliveries : next.journal.deliveries = cp.journal.deliveries)
    (hmetrics : next.metrics = { cp.metrics with
      sessionsActive := sessions, subscriptionsActive := subscriptions }) :
    Records cp 0 next where
  registered_eq := hregistered
  collected := by
    rw [hmetrics, hsize]
    rfl
  size_le := Nat.le_of_eq hsize
  objects := by
    rw [hmetrics]
    exact Or.inr ⟨rfl, hsize⟩
  delivered := by rw [hmetrics, hdeliveries]
  rejected_eq := by rw [hmetrics]
  answered := by
    rw [hmetrics]
    rfl

end Records

/-! ## Taking down -/

/-- So many objects that have left the tables are taken down and counted. -/
structure TakesDown (cp : ControlPlane) (n : Nat) (next : ControlPlane) : Prop where
  holdings_eq : next.holdings = cp.holdings
  registered_eq : next.journal.registered = cp.journal.registered
  deliveries_eq : next.journal.deliveries = cp.journal.deliveries
  collected : next.metrics.totalCollected = cp.metrics.totalCollected + n
  objects : next.metrics.objectsActive = some cp.registry.size ∨
    next.metrics.objectsActive = cp.metrics.objectsActive ∧ n = 0
  delivered_eq : next.metrics.delivered = cp.metrics.delivered
  rejected_eq : next.metrics.rejected = cp.metrics.rejected
  answered_eq : next.metrics.answered = cp.metrics.answered

theorem TakesDown.trans (h : TakesDown cp m mid) (h' : TakesDown mid n next) :
    TakesDown cp (m + n) next where
  holdings_eq := h'.holdings_eq.trans h.holdings_eq
  registered_eq := h'.registered_eq.trans h.registered_eq
  deliveries_eq := h'.deliveries_eq.trans h.deliveries_eq
  collected := by rw [h'.collected, h.collected, Nat.add_assoc]
  objects := by
    have hregistry : mid.registry = cp.registry := congrArg Holdings.registry h.holdings_eq
    rcases h'.objects with hset | ⟨hsame, rfl⟩
    · rw [hregistry] at hset
      exact Or.inl hset
    · rw [hsame]
      exact h.objects
  delivered_eq := h'.delivered_eq.trans h.delivered_eq
  rejected_eq := h'.rejected_eq.trans h.rejected_eq
  answered_eq := h'.answered_eq.trans h.answered_eq

theorem metrics_dismantleAll (cp : ControlPlane) (gone : List MediaObject) :
    (gone.foldl dismantle cp).metrics = cp.metrics := by
  induction gone generalizing cp with
  | nil => rfl
  | cons o gone ih => exact ih (cp.dismantle o)

theorem takesDown_teardown (cp : ControlPlane) (reason : RemovalReason)
    (gone : List MediaObject) : TakesDown cp gone.length (cp.teardown reason gone) := by
  have hjournal := journal_teardown cp reason gone
  have hholdings := holdings_teardown cp reason gone
  cases gone with
  | nil => exact ⟨rfl, rfl, rfl, rfl, Or.inr ⟨rfl, rfl⟩, rfl, rfl, rfl⟩
  | cons o gone =>
    have hkept := metrics_dismantleAll cp (o :: gone)
    have hmetrics : (cp.teardown reason (o :: gone)).metrics =
        { cp.metrics.countCollected reason (o :: gone).length with
          objectsActive := some (cp.teardown reason (o :: gone)).registry.size
          subscriptionsActive :=
            some (cp.teardown reason (o :: gone)).dispatcher.subscriptionCount } := by
      rw [← hkept]
      rfl
    refine
      { holdings_eq := hholdings
        registered_eq := ?_, deliveries_eq := ?_, collected := ?_, objects := ?_
        delivered_eq := ?_, rejected_eq := ?_, answered_eq := ?_ }
    · rw [hjournal]
      rfl
    · rw [hjournal]
      rfl
    · rw [hmetrics]
      exact Metrics.totalCollected_countCollected cp.metrics reason _
    · rw [hmetrics, registry, hholdings]
      exact Or.inl rfl
    all_goals
      rw [hmetrics]
      rfl

/-- What was taken out and then taken down is on record. -/
theorem records_of_cut (hs : cp.holdings.Settled) (hnext : next.holdings.Settled)
    (hcut : Cut cp.registry gone next.registry)
    (h : TakesDown { cp with holdings := next.holdings } gone.length next) :
    Records cp 0 next := by
  have hsize := hcut.size_add hs.forest hnext.forest
  have hcollected := h.collected
  exact
    { registered_eq := h.registered_eq
      collected := by
        have hbefore : ({ cp with holdings := next.holdings } : ControlPlane).metrics.totalCollected
          = cp.metrics.totalCollected := rfl
        omega
      size_le := by omega
      objects := by
        rcases h.objects with hset | ⟨hsame, hnone⟩
        · exact Or.inl hset
        · exact Or.inr ⟨hsame, by omega⟩
      delivered := by
        rw [h.delivered_eq, h.deliveries_eq]
      rejected_eq := h.rejected_eq
      answered := h.answered_eq }

theorem records_dropReferences (hs : cp.holdings.Settled) (s : SessionId) (ids : List ObjectId)
    (reason : RemovalReason) : Records cp 0 (cp.dropReferences s ids reason) := by
  have hnext : (cp.dropReferences s ids reason).holdings.Settled := by
    rw [holdings_dropReferences]
    exact Holdings.settled_dropReferences hs s ids
  refine records_of_cut hs hnext (cut_dropReferences hs s ids reason) ?_
  rw [holdings_dropReferences]
  exact takesDown_teardown { cp with holdings := _ } reason _

theorem takesDown_closedBy (cp : ControlPlane) (s : SessionId) (closure : Closure)
    (holdings : Holdings) :
    TakesDown { cp with holdings } (closure.forced ++ closure.collected).length
      (cp.closedBy s closure holdings) := by
  have hdrop : TakesDown { cp with holdings } 0 ({ cp with holdings }.dropSubscriptions s) :=
    ⟨rfl, rfl, rfl, rfl, Or.inr ⟨rfl, rfl⟩, rfl, rfl, rfl⟩
  rw [List.length_append, ← Nat.zero_add closure.forced.length]
  exact (hdrop.trans (takesDown_teardown _ .forced closure.forced)).trans
    (takesDown_teardown _ .unreferenced closure.collected)

theorem records_closedBy (hs : cp.holdings.Settled) {kind : CloseKind} {closure : Closure}
    {holdings : Holdings} (hc : cp.holdings.close u kind = .ok (some (closure, holdings))) :
    Records cp 0 (cp.closedBy u closure holdings) := by
  have hholdings := holdings_closedBy cp u closure holdings
  refine records_of_cut hs ?_ (cut_closedBy hs hc) ?_
  · rw [hholdings]
    exact Holdings.settled_close hs hc
  · rw [hholdings]
    exact takesDown_closedBy cp u closure holdings

theorem records_closeSession (hs : cp.holdings.Settled) {forced : Bool}
    (h : cp.closeSession u forced = .ok (n, next)) : Records cp 0 next := by
  obtain ⟨closure, holdings, hc, -, rfl⟩ := closeSession_ok h
  exact (records_closedBy hs hc).after (.of_eq rfl rfl rfl rfl)

/-! ## Moves -/

theorem records_enter (cp : ControlPlane) (s : SessionId) : Records cp 0 (cp.enter s) := by
  unfold enter
  simp only
  split <;> exact .of_eq rfl rfl rfl rfl

theorem records_connect (cp : ControlPlane) (s : SessionId) : Records cp 0 (cp.connect s) := by
  unfold connect
  simp only
  split <;> exact .of_eq rfl rfl rfl rfl

theorem records_leave (cp : ControlPlane) (s : SessionId) : Records cp 0 (cp.leave s) :=
  .of_eq rfl rfl rfl rfl

theorem records_ensureLive (cp : ControlPlane) (x : ObjectId) :
    Records cp 0 (cp.ensureLive x).2 := by
  unfold ensureLive
  split
  · exact Records.refl cp
  · exact .of_eq rfl rfl rfl rfl

theorem records_subscribeUnder (cp : ControlPlane) (s : SessionId) (key : HandlerKey)
    (receiver : Receiver) : Records cp 0 (cp.subscribeUnder s key receiver).2 := by
  have hattached : Records cp 0 (cp.attached s key receiver) := .of_eq rfl rfl rfl rfl
  have hlive := hattached.after (records_ensureLive _ key.object)
  rw [subscribeUnder_snd]
  rcases confirmed_cases (cp.attached s key receiver) key.object with heq | heq <;> rw [heq]
  · exact hlive
  · exact hlive.after (.of_eq rfl rfl rfl rfl)

theorem records_raise (cp : ControlPlane) (e : Event) : Records cp 0 (cp.raise e).2 where
  registered_eq := rfl
  collected := rfl
  size_le := Nat.le_refl _
  objects := Or.inr ⟨rfl, rfl⟩
  delivered := by
    show cp.metrics.delivered + (cp.dispatcher.dispatch e).length + _ =
      _ + (cp.journal.deliveries ++ cp.dispatcher.dispatch e).length
    rw [List.length_append]
    omega
  rejected_eq := rfl
  answered := rfl

/-- One more request is answered. -/
theorem records_countRequest (cp : ControlPlane) (label : String)
    (result : Except Failure Value) : Records cp 1 (cp.countRequest label result) :=
  ⟨rfl, rfl, Nat.le_refl _, Or.inr ⟨rfl, rfl⟩, rfl, rfl,
    Metrics.answered_countRequest cp.metrics label _⟩

theorem records_replay (cp : ControlPlane) :
    Records cp 1 { cp with metrics := cp.metrics.countReplay } :=
  ⟨rfl, rfl, Nat.le_refl _, Or.inr ⟨rfl, rfl⟩, rfl, rfl, rfl⟩

theorem Move.records (h : Move s P tacit cp next) (hs : cp.holdings.Settled) :
    Records cp 0 next := by
  cases h with
  | mock | touch | unsubscribe => exact .of_eq rfl rfl rfl rfl
  | built receiver => cases receiver <;> exact .of_eq rfl rfl rfl rfl
  | enter => exact records_enter cp s
  | annotate x f => exact .of_eq (cp.registry.size_update x f) rfl rfl rfl
  | raise e => exact records_raise cp e
  | dropReferences ids reason => exact records_dropReferences hs s ids reason
  | subscribe key receiver => exact records_subscribeUnder cp s key receiver
  | close _ h => exact records_closeSession hs h

/-- A chain of moves is recorded with the requests that it answers. -/
theorem Moves.records (h : Moves s P tacit cp n next) (hs : cp.holdings.Settled) :
    Records cp n next := by
  induction h with
  | refl => exact Records.refl cp
  | tail hm hmove ih | aside _ hm hmove ih =>
    exact ih.trans (hmove.records (lasting_settled.changes hm.changes hs))
  | @answered u _ _ mid _ result ih =>
    exact ih.trans ((records_leave mid u).after (records_countRequest _ _ result))

/-! ## What only commands do -/

theorem records_expire? (hs : cp.holdings.Settled) (h : cp.expire? s = some next) :
    Records cp 0 next := by
  obtain ⟨closure, holdings, hc, rfl⟩ := expire?_eq_some h
  exact records_closedBy hs hc

theorem records_expireAll (hs : cp.holdings.Settled) (ss : List SessionId) :
    Records cp 0 (cp.expireAll ss).2 := by
  induction ss generalizing cp with
  | nil => exact Records.refl cp
  | cons s ss ih =>
    unfold expireAll
    split
    · exact ih hs
    · next heq => exact (records_expire? hs heq).after (ih (settled_expire? hs heq))

theorem records_sweep (hs : cp.holdings.Settled) : Records cp 0 cp.sweep.2 := by
  rcases cp.sweep_cases with heq | heq <;> rw [heq]
  · exact Records.refl cp
  · exact (records_expireAll hs _).after (.of_eq rfl rfl rfl rfl)

theorem takesDown_dropAll (cp : ControlPlane) (ss : List SessionId) :
    TakesDown cp 0 (ss.foldl dropSubscriptions cp) := by
  induction ss generalizing cp with
  | nil => exact ⟨rfl, rfl, rfl, rfl, Or.inr ⟨rfl, rfl⟩, rfl, rfl, rfl⟩
  | cons s ss ih =>
    have hdrop : TakesDown cp 0 (cp.dropSubscriptions s) :=
      ⟨rfl, rfl, rfl, rfl, Or.inr ⟨rfl, rfl⟩, rfl, rfl, rfl⟩
    exact hdrop.trans (ih (cp.dropSubscriptions s))

theorem takesDown_shutdown (cp : ControlPlane) :
    TakesDown { cp with holdings := cp.shutdown.holdings } cp.registry.drain.1.length
      cp.shutdown := by
  rw [holdings_shutdown]
  have hdropped := takesDown_dropAll
    { cp with
      holdings :=
        { registry := cp.registry.drain.2
          sessions := cp.sessions.removeSessions cp.sessions.ids } } cp.sessions.ids
  have htaken := hdropped.trans (takesDown_teardown _ .shutdown cp.registry.drain.1)
  rw [Nat.zero_add] at htaken
  exact { htaken with }

theorem records_shutdown (hs : cp.holdings.Settled) : Records cp 0 cp.shutdown :=
  records_of_cut hs (settled_shutdown hs) (cut_shutdown hs) (takesDown_shutdown cp)

theorem records_shareHandler (cp : ControlPlane) (object : ObjectId) (s : SessionId)
    (id : SubscriptionId) (handler : Handler) :
    Records cp 0 (cp.shareHandler object s id handler).2 := by
  have hshares := shares cp object s id handler
  generalize (cp.shareHandler object s id handler).2 = next at hshares
  cases hshares with
  | missed | touched | shared => exact .of_eq rfl rfl rfl rfl

/-! ## What calls perform -/

/-- The numbers agree with the tables and the journal. -/
structure Tallied (cp : ControlPlane) : Prop where
  /-- Once an object was registered, the gauge says how many there are. -/
  objects : cp.journal.registered ≠ [] → cp.metrics.objectsActive = some cp.registry.size
  collected : cp.metrics.totalCollected + cp.registry.size = cp.journal.registered.length
  delivered : cp.metrics.delivered = cp.journal.deliveries.length

theorem Records.tallied (h : Records cp k next) (ht : cp.Tallied) : next.Tallied where
  objects := by
    intro hany
    rw [h.registered_eq] at hany
    rcases h.objects with hset | ⟨hsame, hsize⟩
    · exact hset
    · rw [hsame, hsize]
      exact ht.objects hany
  collected := by rw [h.collected, h.registered_eq, ht.collected]
  delivered := by
    have hdelivered := h.delivered
    have hbefore := ht.delivered
    omega

/-- What is performed is accounted for: the numbers agree afterwards if they did before, each
refused creation is counted, and so is each request that was answered. -/
structure Accounts (cp : ControlPlane) (ps : List Performance) (k : Nat) (next : ControlPlane) :
    Prop where
  tallied : cp.Tallied → next.Tallied
  rejected : next.metrics.rejected = cp.metrics.rejected + ps.countP Performance.refused
  answered : next.metrics.answered =
    cp.metrics.answered + ((ps.map Performance.requests).sum + k)

theorem Records.accounts (h : Records cp k next) : Accounts cp [] k next where
  tallied := h.tallied
  rejected := h.rejected_eq
  answered := by
    rw [h.answered]
    simp

theorem Accounts.trans (h : Accounts cp ps m mid) (h' : Accounts mid qs k next) :
    Accounts cp (ps ++ qs) (m + k) next where
  tallied := fun ht => h'.tallied (h.tallied ht)
  rejected := by rw [h'.rejected, h.rejected, List.countP_append, Nat.add_assoc]
  answered := by
    rw [h'.answered, h.answered, List.map_append, List.sum_append]
    omega

/-! ## Creations -/

/-- A registration raises the gauge with the registry. -/
theorem accounts_register (hs : cp.holdings.Settled) (s : SessionId) (c : Construction) :
    Accounts cp [] 0 (cp.register s c).2 := by
  unfold register
  split
  · exact Records.accounts (.of_eq rfl rfl rfl rfl)
  · next r hput =>
    have hsize : r.size = cp.registry.size + 1 := Registry.size_put hs.forest hput
    refine ⟨fun ht => ⟨fun _ => rfl, ?_, ht.delivered⟩, rfl, rfl⟩
    have hcollected := ht.collected
    show cp.metrics.totalCollected + r.size = (cp.journal.registered ++ [c.id]).length
    rw [List.length_append, List.length_singleton]
    omega

theorem Begins.records {c : Construction} (h : cp.Begins c next) : Records cp 0 next := by
  obtain ⟨mock, rfl⟩ := h.eq
  exact .of_eq rfl rfl rfl rfl

/-- An object is registered or not, but it is not refused any more. -/
theorem refused_register (cp : ControlPlane) (s : SessionId) (c : Construction) :
    Outcome.refused (.settled (cp.register s c).1) = false := by
  unfold register
  split
  · next e hput =>
    refine decide_eq_false fun he => ?_
    unfold Registry.put at hput
    split at hput
    · cases hput
      cases he
    · simp only at hput
      split at hput
      · cases hput
      · split at hput <;> cases hput
        cases he
  · rfl

/-- A creation that is refused is counted, and any other one is accounted for by what it
registers. -/
theorem Creates.accounts {outcome : Outcome} (h : Creates s cp outcome next)
    (hs : cp.holdings.Settled) {p : Performance} (hrefused : p.refused = outcome.refused)
    (hrequests : p.requests = 0) : Accounts cp [p] 0 next := by
  -- All outcomes but the first add nothing to the count of refused creations.
  have hadmitted : outcome.refused = false → Accounts cp [] 0 next → Accounts cp [p] 0 next := by
    intro hnot hnext
    rw [← hrefused] at hnot
    refine ⟨hnext.tallied, ?_, ?_⟩
    · rw [hnext.rejected, List.countP_cons_of_neg (by rw [hnot]; exact Bool.false_ne_true)]
    · rw [hnext.answered, List.map_singleton, List.sum_singleton, hrequests]
      rfl
  cases h with
  | refused _ he =>
    have hyes : p.refused = true := hrefused.trans (decide_eq_true he)
    refine ⟨fun ht => ⟨ht.objects, ht.collected, ht.delivered⟩, ?_, ?_⟩
    · rw [List.countP_singleton, if_pos hyes]
      rfl
    · rw [List.map_singleton, List.sum_singleton, hrequests]
      rfl
  | failed _ he => exact hadmitted (decide_eq_false he) (Records.refl cp).accounts
  | unbuilt fault => exact hadmitted rfl (Records.accounts (.of_eq rfl rfl rfl rfl))
  | @built c mid _ hb =>
    have hmid : mid.holdings.Settled := lasting_settled.begins hb hs
    exact hadmitted (refused_register mid s c)
      (hb.records.accounts.trans (accounts_register hmid s c))
  | begun _ hb ready => exact hadmitted rfl hb.records.accounts

/-- Every operation is accounted for. -/
theorem accounts_execute (hs : cp.holdings.Settled) (s : SessionId) (op : Operation) :
    Accounts cp [⟨cp, s, op⟩] 0 (cp.execute s op).2 := by
  by_cases hop : op.method = .create
  · have hrefused := Performance.refused_eq (p := ⟨cp, s, op⟩) hop
    cases op with
    | create typeName params => exact (creates cp s typeName params).accounts hs hrefused rfl
    | _ => cases hop
  · have hrefused := Performance.refused_eq_false (p := ⟨cp, s, op⟩) hop
    have hrecords : Records cp (cp.requestsWithin s op) (cp.execute s op).2 :=
      (moves_execute cp.dispatcher.within_full (Or.inl trivial) hop).records hs
    refine ⟨hrecords.tallied, ?_, ?_⟩
    · rw [hrecords.rejected_eq, List.countP_singleton, hrefused]
      rfl
    · rw [hrecords.answered, List.map_singleton, List.sum_singleton, Nat.add_zero]
      rfl

/-- An act performs nothing and is recorded, or it performs one operation. -/
theorem Act.records (h : Act cp ps n next) (hs : cp.holdings.Settled) :
    ps = [] ∧ Records cp n next ∨
      ∃ s op, ps = [⟨cp, s, op⟩] ∧ n = 0 ∧ next = (cp.execute s op).2 := by
  cases h with
  | draw | cache => exact Or.inl ⟨rfl, .of_eq rfl rfl rfl rfl⟩
  | enter s => exact Or.inl ⟨rfl, records_enter cp s⟩
  | leave s => exact Or.inl ⟨rfl, records_leave cp s⟩
  | keepAlive h =>
    rw [keepAlive_ok h]
    exact Or.inl ⟨rfl, .of_eq rfl rfl rfl rfl⟩
  | connect s => exact Or.inl ⟨rfl, records_connect cp s⟩
  | close h => exact Or.inl ⟨rfl, records_closeSession hs h⟩
  | @perform s op _ _ h => exact Or.inr ⟨s, op, rfl, rfl, congrArg Prod.snd h.symm⟩
  | count label result => exact Or.inl ⟨rfl, records_countRequest cp label result⟩
  | replay => exact Or.inl ⟨rfl, records_replay cp⟩

theorem Act.accounts (h : Act cp ps n next) (hs : cp.holdings.Settled) :
    Accounts cp ps n next := by
  rcases h.records hs with ⟨rfl, hrecords⟩ | ⟨s, op, rfl, rfl, rfl⟩
  · exact hrecords.accounts
  · exact accounts_execute hs s op

theorem Acts.accounts (h : Acts cp ps n next) (hs : cp.holdings.Settled) :
    Accounts cp ps n next := by
  induction h with
  | refl => exact (Records.refl cp).accounts
  | tail hm ha ih => exact ih.trans (ha.accounts (lasting_settled.acts hm hs))

end ControlPlane

end MediaPlane
