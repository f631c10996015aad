import MediaPlane.Proofs.Service.Account

/-
  The books on retries. Beside the account of each call, `Ledger` says how calls and retry cache
  belong together: an execution in flight is the one that the cache has for its key, tickets are not
  used twice, and who follows an execution or replays its response does so of one with its own key.
  The books stay right when a call arrives, when an execution completes or is given up, when old
  responses are evicted and as time goes on.
-/

namespace MediaPlane

/-! ## The books -/

/-- The call of a number executes under a guard, or did. -/
def Executes (calls : List Call) (i : Nat) (g : Guard) : Prop :=
  ∃ c, calls[i]? = some c ∧ c.found = some (.fresh g)

/-- It does, and that is where it stands. -/
def ExecutesAt (calls : List Call) (i : Nat) (g : Guard) (state : CallState) : Prop :=
  ∃ c, calls[i]? = some c ∧ c.found = some (.fresh g) ∧ c.state = state

theorem ExecutesAt.executes {calls : List Call} {i : Nat} {g : Guard} {state : CallState}
    (h : ExecutesAt calls i g state) : Executes calls i g := by
  obtain ⟨c, hc, hg, -⟩ := h
  exact ⟨c, hc, hg⟩

/-- The books on all calls at a time. -/
structure Ledger (retention : Nat) (cache : RetryCache) (now : Nat) (calls : List Call) : Prop where
  retention_eq : cache.retention = retention
  accounted : ∀ (i : Nat) (c : Call), calls[i]? = some c → c.Accounted cache now
  /-- Executions have tickets of their own. -/
  ticket_inj : ∀ i j g h, Executes calls i g → Executes calls j h → g.ticket = h.ticket → i = j
  ticket_lt : ∀ i g, Executes calls i g → g.ticket < cache.nextTicket
  /-- The next ticket was never used. -/
  unused : ∀ n, cache.nextTicket ≤ n → cache.outcome? n = none
  /-- What the cache has in flight is an execution that waits. -/
  inFlight : ∀ k n, cache.entries[k]? = some (.inFlight n) →
    ∃ i p, ExecutesAt calls i ⟨k, n⟩ (.waiting p)
  /-- What it has as completed is the response of an execution. -/
  completed : ∀ k response t, cache.entries[k]? = some (.completed response t) →
    ∃ i n, ExecutesAt calls i ⟨k, n⟩ (.answered response t)
  /-- Who follows an execution, or replays its response, does so of one with the same key. -/
  followed : ∀ (j : Nat) (d : Call) k n, calls[j]? = some d → d.request.key? = some k →
    d.found = some (.pending n) → ∃ i, Executes calls i ⟨k, n⟩
  replayed : ∀ (j : Nat) (d : Call) k response, calls[j]? = some d → d.request.key? = some k →
    d.found = some (.replay response) → ∃ i n t, ExecutesAt calls i ⟨k, n⟩ (.answered response t)

namespace Ledger

variable {retention : Nat} {cache next : RetryCache} {now : Nat} {calls : List Call} {c : Call}
  {i j : Nat} {g : Guard} {k : RetryKey} {state : CallState}

theorem empty (cache : RetryCache) (he : cache.entries = ∅) (ho : cache.ended = ∅) (now : Nat) :
    Ledger cache.retention cache now [] := by
  have hentry : ∀ (k : RetryKey) (e : RetryEntry), cache.entries[k]? ≠ some e := by
    intro k e hk
    rw [he, Std.ExtTreeMap.getElem?_empty] at hk
    cases hk
  refine { retention_eq := rfl, accounted := ?_, ticket_inj := ?_, ticket_lt := ?_, unused := ?_,
           inFlight := fun k n hk => absurd hk (hentry k _),
           completed := fun k response t hk => absurd hk (hentry k _), followed := ?_,
           replayed := ?_ }
  · intro i c hc
    cases hc
  · rintro i j g h ⟨c, hc, -⟩
    cases hc
  · rintro i g ⟨c, hc, -⟩
    cases hc
  · intro n _
    unfold RetryCache.outcome?
    rw [ho, Std.ExtTreeMap.getElem?_empty]
  · intro j d k n hd
    cases hd
  · intro j d k response hd
    cases hd

theorem entry_of_waiting (hl : Ledger retention cache now calls) {p : Pending}
    (h : ExecutesAt calls i g (.waiting p)) :
    cache.entries[g.key]? = some (.inFlight g.ticket) ∧ cache.outcome? g.ticket = none := by
  obtain ⟨c, hc, hf, hs⟩ := h
  exact (hl.accounted i c hc).of_waiting hf hs

theorem entry_of_answered (hl : Ledger retention cache now calls) {response : Response} {t : Nat}
    (h : ExecutesAt calls i g (.answered response t)) :
    cache.outcome? g.ticket = some (some response) ∧ t ≤ now ∧
      (now ≤ t + cache.retention → cache.entries[g.key]? = some (.completed response t)) := by
  obtain ⟨c, hc, hf, hs⟩ := h
  exact (hl.accounted i c hc).of_answered hf hs

theorem outcome?_of_cancelled (hl : Ledger retention cache now calls)
    (h : ExecutesAt calls i g .cancelled) : cache.outcome? g.ticket = some none := by
  obtain ⟨c, hc, hf, hs⟩ := h
  exact (hl.accounted i c hc).of_cancelled hf hs

/-- An execution in flight is the one that the cache has for its key, so there is only one. -/
theorem alone (hl : Ledger retention cache now calls) {p q : Pending} {h : Guard}
    (hi : ExecutesAt calls i g (.waiting p)) (hj : ExecutesAt calls j h (.waiting q))
    (hkey : g.key = h.key) : i = j := by
  have hg := (hl.entry_of_waiting hi).1
  rw [hkey, (hl.entry_of_waiting hj).1] at hg
  have hticket := RetryEntry.inFlight.inj (Option.some.inj hg)
  exact hl.ticket_inj i j g h hi.executes hj.executes hticket.symm

/-! ## One call more -/

theorem getElem?_append_of_some {more : Call} (h : calls[i]? = some c) :
    (calls ++ [more])[i]? = some c := by
  obtain ⟨hlt, -⟩ := List.getElem?_eq_some_iff.mp h
  rw [List.getElem?_append_left hlt, h]

theorem getElem?_append_cases {more : Call} (h : (calls ++ [more])[i]? = some c) :
    calls[i]? = some c ∨ i = calls.length ∧ c = more := by
  by_cases hlt : i < calls.length
  · rw [List.getElem?_append_left hlt] at h
    exact Or.inl h
  · rw [List.getElem?_append_right (by omega)] at h
    refine Or.inr ?_
    cases hi : i - calls.length with
    | zero =>
      rw [hi] at h
      refine ⟨by omega, ?_⟩
      cases h
      rfl
    | succ n =>
      rw [hi] at h
      cases h

theorem executesAt_append {more : Call} (h : ExecutesAt calls i g state) :
    ExecutesAt (calls ++ [more]) i g state := by
  obtain ⟨c, hc, hrest⟩ := h
  exact ⟨c, getElem?_append_of_some hc, hrest⟩

theorem executes_append {more : Call} (h : Executes calls i g) :
    Executes (calls ++ [more]) i g := by
  obtain ⟨c, hc, hf⟩ := h
  exact ⟨c, getElem?_append_of_some hc, hf⟩

theorem executes_append_cases {more : Call} (h : Executes (calls ++ [more]) i g) :
    Executes calls i g ∨ i = calls.length ∧ more.found = some (.fresh g) := by
  obtain ⟨c, hc, hf⟩ := h
  rcases getElem?_append_cases hc with hold | ⟨hi, rfl⟩
  · exact Or.inl ⟨c, hold, hf⟩
  · exact Or.inr ⟨hi, hf⟩

theorem followed_append (hl : Ledger retention cache now calls) {more : Call}
    (hm : ∀ k n, more.request.key? = some k → more.found = some (.pending n) →
      ∃ i, Executes calls i ⟨k, n⟩) (j : Nat) (d : Call) (k : RetryKey) (n : Nat)
    (hd : (calls ++ [more])[j]? = some d) (hkey : d.request.key? = some k)
    (hf : d.found = some (.pending n)) : ∃ i, Executes (calls ++ [more]) i ⟨k, n⟩ := by
  have hold : ∃ i, Executes calls i ⟨k, n⟩ := by
    rcases getElem?_append_cases hd with hd | ⟨-, rfl⟩
    · exact hl.followed j d k n hd hkey hf
    · exact hm k n hkey hf
  obtain ⟨i, hi⟩ := hold
  exact ⟨i, executes_append hi⟩

theorem replayed_append (hl : Ledger retention cache now calls) {more : Call}
    (hm : ∀ k response, more.request.key? = some k → more.found = some (.replay response) →
      ∃ i n t, ExecutesAt calls i ⟨k, n⟩ (.answered response t)) (j : Nat) (d : Call) (k : RetryKey)
    (response : Response) (hd : (calls ++ [more])[j]? = some d) (hkey : d.request.key? = some k)
    (hf : d.found = some (.replay response)) :
    ∃ i n t, ExecutesAt (calls ++ [more]) i ⟨k, n⟩ (.answered response t) := by
  have hold : ∃ i n t, ExecutesAt calls i ⟨k, n⟩ (.answered response t) := by
    rcases getElem?_append_cases hd with hd | ⟨-, rfl⟩
    · exact hl.replayed j d k response hd hkey hf
    · exact hm k response hkey hf
  obtain ⟨i, n, t, hi⟩ := hold
  exact ⟨i, n, t, executesAt_append hi⟩

/-- A call arrives that does not execute under a key. -/
theorem note (hl : Ledger retention cache now calls) {more : Call} (hm : more.Accounted cache now)
    (hfresh : ∀ g, more.found ≠ some (.fresh g))
    (hfollowed : ∀ k n, more.request.key? = some k → more.found = some (.pending n) →
      cache.entries[k]? = some (.inFlight n))
    (hreplayed : ∀ k response, more.request.key? = some k →
      more.found = some (.replay response) →
        ∃ t, cache.entries[k]? = some (.completed response t)) :
    Ledger retention cache now (calls ++ [more]) := by
  have hold : ∀ i g, Executes (calls ++ [more]) i g → Executes calls i g := fun i g h =>
    (executes_append_cases h).resolve_right fun hc => hfresh g hc.2
  refine { retention_eq := hl.retention_eq, accounted := ?_, unused := hl.unused,
           ticket_inj := fun i j g h hi hj => hl.ticket_inj i j g h (hold i g hi) (hold j h hj),
           ticket_lt := fun i g hi => hl.ticket_lt i g (hold i g hi), inFlight := ?_,
           completed := ?_, followed := hl.followed_append ?_, replayed := hl.replayed_append ?_ }
  · intro i c hc
    rcases getElem?_append_cases hc with hc | ⟨-, rfl⟩
    · exact hl.accounted i c hc
    · exact hm
  · intro k n hk
    obtain ⟨i, p, hi⟩ := hl.inFlight k n hk
    exact ⟨i, p, executesAt_append hi⟩
  · intro k response t hk
    obtain ⟨i, n, hi⟩ := hl.completed k response t hk
    exact ⟨i, n, executesAt_append hi⟩
  · intro k n hkey hf
    obtain ⟨i, p, hi⟩ := hl.inFlight k n (hfollowed k n hkey hf)
    exact ⟨i, hi.executes⟩
  · intro k response hkey hf
    obtain ⟨t, ht⟩ := hreplayed k response hkey hf
    obtain ⟨i, n, hi⟩ := hl.completed k response t ht
    exact ⟨i, n, t, hi⟩

/-- A key is only opened when nothing current stands under it, so no account suffers. -/
theorem accounted_start (hl : Ledger retention cache now calls)
    (hstale : ∀ e, cache.entries[k]? = some e → ∃ response t, e = .completed response t ∧
      ¬ now ≤ t + cache.retention) (hc : calls[i]? = some c) :
    c.Accounted (cache.start k).2 now := by
  have hentries := RetryCache.entries_start cache k
  refine (hl.accounted i c hc).of_kept rfl (fun _ _ ho => ho) (fun _ _ ho => ho) ?_ ?_
  · intro g _ he
    rw [hentries]
    split
    · next heq =>
      rw [← heq] at he
      obtain ⟨response, t, hcontra, -⟩ := hstale _ he
      cases hcontra
    · exact he
  · intro g response t _ hnow he
    rw [hentries]
    split
    · next heq =>
      rw [← heq] at he
      obtain ⟨response', t', hsame, hexpired⟩ := hstale _ he
      cases hsame
      exact absurd hnow hexpired
    · exact he

/-- A ticket that was never used tells a new execution from all others. -/
theorem ticket_inj_append (hl : Ledger retention cache now calls) {more : Call}
    (hm : ∀ g, more.found = some (.fresh g) → g.ticket = cache.nextTicket) {h : Guard}
    (hi : Executes (calls ++ [more]) i g) (hj : Executes (calls ++ [more]) j h)
    (hticket : g.ticket = h.ticket) : i = j := by
  rcases executes_append_cases hi with hi | ⟨hi, hg⟩ <;>
    rcases executes_append_cases hj with hj | ⟨hj, hh⟩
  · exact hl.ticket_inj i j g h hi hj hticket
  · have hlt := hl.ticket_lt i g hi
    have hnew := hm h hh
    omega
  · have hlt := hl.ticket_lt j h hj
    have hnew := hm g hg
    omega
  · exact hi.trans hj.symm

/-- An execution begins: its key is in flight from now on, under a new ticket. -/
theorem opened (hl : Ledger retention cache now calls) (hb : cache.begin k now = (.fresh g, next))
    {r : Request} (hr : r.key? = some k) (caller : Caller) (hcaller : caller.guard = some g)
    (wait : Wait) (batch : Option Batch) :
    Ledger retention next now
      (calls ++ [⟨r, some (.fresh g), .waiting (.running caller wait batch)⟩]) := by
  obtain ⟨hstart, hstale⟩ := RetryCache.begin_of_fresh hb
  obtain ⟨rfl, rfl⟩ : g = (cache.start k).1 ∧ next = (cache.start k).2 := Prod.mk.inj hstart
  have hentries := RetryCache.entries_start cache k
  have hself : (cache.start k).2.entries[k]? = some (.inFlight cache.nextTicket) := by
    rw [hentries, if_pos rfl]
  have hnew : cache.outcome? cache.nextTicket = none := hl.unused _ (Nat.le_refl _)
  have hticket : ∀ g', some (Arrival.fresh (cache.start k).1) = some (.fresh g') →
      g'.ticket = cache.nextTicket := by
    intro g' hg
    cases hg
    rfl
  refine { retention_eq := hl.retention_eq, accounted := ?_, ticket_inj := ?_, ticket_lt := ?_,
           unused := ?_, inFlight := ?_, completed := ?_, followed := hl.followed_append ?_,
           replayed := hl.replayed_append ?_ }
  · intro i c hc
    rcases getElem?_append_cases hc with hc | ⟨-, rfl⟩
    · exact hl.accounted_start hstale hc
    · exact .executing hr hcaller hself hnew
  · intro i j g' h hi hj heq
    exact hl.ticket_inj_append hticket hi hj heq
  · intro i g' hi
    rcases executes_append_cases hi with hi | ⟨-, hg⟩
    · exact Nat.lt_succ_of_lt (hl.ticket_lt i g' hi)
    · rw [hticket g' hg]
      exact Nat.lt_succ_self _
  · intro n hn
    exact hl.unused n (Nat.le_of_succ_le hn)
  · intro k' n hk
    rw [hentries] at hk
    split at hk
    · next heq =>
      cases hk
      subst heq
      exact ⟨calls.length, _, _, List.getElem?_concat_length, rfl, rfl⟩
    · obtain ⟨i, p, hi⟩ := hl.inFlight k' n hk
      exact ⟨i, p, executesAt_append hi⟩
  · intro k' response t hk
    rw [hentries] at hk
    split at hk
    · cases hk
    · obtain ⟨i, n, hi⟩ := hl.completed k' response t hk
      exact ⟨i, n, executesAt_append hi⟩
  · intro k' n _ hf
    cases hf
  · intro k' response _ hf
    cases hf

/-! ## A call moves on -/

/-- The calls once one of them stands elsewhere. -/
def moved (calls : List Call) (i : Nat) (state : CallState) : List Call :=
  calls.modify i fun c => { c with state }

theorem getElem?_moved_self (h : calls[i]? = some c) :
    (moved calls i state)[i]? = some { c with state } := by
  unfold moved
  rw [List.getElem?_modify_eq, h]
  rfl

theorem getElem?_moved_of_ne (h : i ≠ j) : (moved calls i state)[j]? = calls[j]? := by
  unfold moved
  rw [List.getElem?_modify]
  simp only [h, if_false]
  exact Option.map_id'

theorem getElem?_moved_cases {d : Call} (h : (moved calls i state)[j]? = some d) :
    i ≠ j ∧ calls[j]? = some d ∨
      i = j ∧ ∃ c, calls[i]? = some c ∧ d = { c with state } := by
  by_cases hij : i = j
  · subst hij
    unfold moved at h
    rw [List.getElem?_modify_eq] at h
    obtain ⟨c, hc, heq⟩ := Option.map_eq_some_iff.mp h
    exact Or.inr ⟨rfl, c, hc, heq.symm⟩
  · rw [getElem?_moved_of_ne hij] at h
    exact Or.inl ⟨hij, h⟩

theorem executes_of_moved (h : Executes (moved calls i state) j g) : Executes calls j g := by
  obtain ⟨d, hd, hf⟩ := h
  rcases getElem?_moved_cases hd with ⟨-, hd⟩ | ⟨rfl, c, hc, rfl⟩
  · exact ⟨d, hd, hf⟩
  · exact ⟨c, hc, hf⟩

theorem executes_moved (h : Executes calls j g) : Executes (moved calls i state) j g := by
  obtain ⟨d, hd, hf⟩ := h
  by_cases hij : i = j
  · subst hij
    exact ⟨_, getElem?_moved_self hd, hf⟩
  · exact ⟨d, (getElem?_moved_of_ne hij).trans hd, hf⟩

theorem executesAt_moved_of_ne {old : CallState} (h : ExecutesAt calls j g old) (hij : i ≠ j) :
    ExecutesAt (moved calls i state) j g old := by
  obtain ⟨d, hd, hrest⟩ := h
  exact ⟨d, (getElem?_moved_of_ne hij).trans hd, hrest⟩

/-- Only what has ended is replayed, so it is not the waiting call that moves on. -/
theorem executesAt_moved_of_answered {p : Pending} {response : Response} {t : Nat}
    (hc : calls[i]? = some c) (hp : c.state = .waiting p)
    (h : ExecutesAt calls j g (.answered response t)) :
    ExecutesAt (moved calls i state) j g (.answered response t) := by
  refine executesAt_moved_of_ne h fun hij => ?_
  obtain ⟨d, hd, -, hs⟩ := h
  rw [← hij, hc] at hd
  cases hd
  rw [hp] at hs
  cases hs

theorem followed_moved (hl : Ledger retention cache now calls) (j : Nat) (d : Call) (k : RetryKey)
    (n : Nat) (hd : (moved calls i state)[j]? = some d) (hkey : d.request.key? = some k)
    (hf : d.found = some (.pending n)) : ∃ l, Executes (moved calls i state) l ⟨k, n⟩ := by
  have hold : ∃ l, Executes calls l ⟨k, n⟩ := by
    rcases getElem?_moved_cases hd with ⟨-, hd⟩ | ⟨-, c, hc, rfl⟩
    · exact hl.followed j d k n hd hkey hf
    · exact hl.followed i c k n hc hkey hf
  obtain ⟨l, hl'⟩ := hold
  exact ⟨l, executes_moved hl'⟩

theorem replayed_moved (hl : Ledger retention cache now calls) {p : Pending}
    (hc : calls[i]? = some c) (hp : c.state = .waiting p) (j : Nat) (d : Call) (k : RetryKey)
    (response : Response) (hd : (moved calls i state)[j]? = some d)
    (hkey : d.request.key? = some k) (hf : d.found = some (.replay response)) :
    ∃ l n t, ExecutesAt (moved calls i state) l ⟨k, n⟩ (.answered response t) := by
  have hold : ∃ l n t, ExecutesAt calls l ⟨k, n⟩ (.answered response t) := by
    rcases getElem?_moved_cases hd with ⟨-, hd⟩ | ⟨-, c', hc', rfl⟩
    · exact hl.replayed j d k response hd hkey hf
    · exact hl.replayed i c' k response hc' hkey hf
  obtain ⟨l, n, t, hl'⟩ := hold
  exact ⟨l, n, t, executesAt_moved_of_answered hc hp hl'⟩

/-- A waiting call moves on. It is enough to see to its own account and to what is new in the
cache. -/
theorem move (hl : Ledger retention cache now calls) {p : Pending} (hc : calls[i]? = some c)
    (hp : c.state = .waiting p)
    (hothers : ∀ (j : Nat) (d : Call), i ≠ j → calls[j]? = some d → d.Accounted next now)
    (hself : { c with state : Call }.Accounted next now)
    (hretention : next.retention = cache.retention) (hnext : next.nextTicket = cache.nextTicket)
    (hunused : ∀ n, cache.nextTicket ≤ n → next.outcome? n = none)
    (hflight : ∀ k n, next.entries[k]? = some (.inFlight n) →
      cache.entries[k]? = some (.inFlight n) ∧
        (c.found = some (.fresh ⟨k, n⟩) → ∃ q, state = .waiting q))
    (hdone : ∀ k response t, next.entries[k]? = some (.completed response t) →
      cache.entries[k]? = some (.completed response t) ∨
        ∃ n, c.found = some (.fresh ⟨k, n⟩) ∧ state = .answered response t) :
    Ledger retention next now (moved calls i state) := by
  refine { retention_eq := hretention.trans hl.retention_eq, accounted := ?_, ticket_inj := ?_,
           ticket_lt := ?_, unused := ?_, inFlight := ?_, completed := ?_,
           followed := hl.followed_moved, replayed := hl.replayed_moved hc hp }
  · intro j d hd
    rcases getElem?_moved_cases hd with ⟨hij, hd⟩ | ⟨-, c', hc', rfl⟩
    · exact hothers j d hij hd
    · rw [hc] at hc'
      cases hc'
      exact hself
  · intro j l g h hj hl' hticket
    exact hl.ticket_inj j l g h (executes_of_moved hj) (executes_of_moved hl') hticket
  · intro j g hj
    rw [hnext]
    exact hl.ticket_lt j g (executes_of_moved hj)
  · intro n hn
    rw [hnext] at hn
    exact hunused n hn
  · intro k n hk
    obtain ⟨hold, hwaits⟩ := hflight k n hk
    obtain ⟨j, q, hj⟩ := hl.inFlight k n hold
    by_cases hij : i = j
    · subst hij
      obtain ⟨d, hd, hf, -⟩ := hj
      rw [hc] at hd
      cases hd
      obtain ⟨q', hq'⟩ := hwaits hf
      exact ⟨i, q', _, getElem?_moved_self hc, hf, hq'⟩
    · exact ⟨j, q, executesAt_moved_of_ne hj hij⟩
  · intro k response t hk
    rcases hdone k response t hk with hold | ⟨n, hf, hs⟩
    · obtain ⟨j, n, hj⟩ := hl.completed k response t hold
      exact ⟨j, n, executesAt_moved_of_answered hc hp hj⟩
    · exact ⟨i, n, _, getElem?_moved_self hc, hf, hs⟩

/-- A call moves on and nothing changes in the cache. -/
theorem move_quietly (hl : Ledger retention cache now calls) {p : Pending} (hc : calls[i]? = some c)
    (hp : c.state = .waiting p) (hself : { c with state : Call }.Accounted cache now)
    (hfresh : ∀ g, c.found = some (.fresh g) → ∃ q, state = .waiting q) :
    Ledger retention cache now (moved calls i state) :=
  hl.move hc hp (fun j d _ hd => hl.accounted j d hd) hself rfl rfl hl.unused
    (fun _ _ hk => ⟨hk, fun hf => hfresh _ hf⟩) fun _ _ _ hk => Or.inl hk

/-- Other calls have nothing to do with the entry and the ticket of an execution in flight. -/
theorem apart (hl : Ledger retention cache now calls) {p : Pending}
    (hi : ExecutesAt calls i g (.waiting p)) {d : Call} (hij : i ≠ j) (hd : calls[j]? = some d)
    (hretention : next.retention = cache.retention)
    (hended : ∀ n, n ≠ g.ticket → next.outcome? n = cache.outcome? n)
    (hentries : ∀ k, k ≠ g.key → next.entries[k]? = cache.entries[k]?) :
    d.Accounted next now := by
  obtain ⟨hentry, hopen⟩ := hl.entry_of_waiting hi
  have hticket : ∀ h, d.found = some (.fresh h) → h.ticket ≠ g.ticket := by
    intro h hf heq
    exact hij (hl.ticket_inj i j g h hi.executes ⟨d, hd, hf⟩ heq.symm)
  have hkey : ∀ (h : Guard) e, cache.entries[h.key]? = some e → e ≠ .inFlight g.ticket →
      next.entries[h.key]? = some e := by
    intro h e he hne
    rw [hentries, he]
    intro heq
    rw [heq, hentry] at he
    cases he
    exact hne rfl
  refine (hl.accounted j d hd).of_kept hretention ?_ ?_ ?_ ?_
  · intro n o ho
    rw [hended, ho]
    intro heq
    rw [heq, hopen] at ho
    cases ho
  · intro h hf ho
    rw [hended _ (hticket h hf), ho]
  · intro h hf he
    exact hkey h _ he fun heq => hticket h hf (RetryEntry.inFlight.inj heq)
  · intro h response t _ _ he
    refine hkey h _ he fun heq => ?_
    cases heq

/-- An execution ends: its ticket has an outcome from now on, and its key is no longer in flight. -/
theorem ended (hl : Ledger retention cache now calls) {p : Pending}
    (hi : ExecutesAt calls i g (.waiting p)) {o : Option Response} {e : Option RetryEntry}
    (hretention : next.retention = cache.retention) (hnext : next.nextTicket = cache.nextTicket)
    (hended : ∀ n, next.outcome? n = if g.ticket = n then some o else cache.outcome? n)
    (hentries : ∀ k, next.entries[k]? = if g.key = k then e else cache.entries[k]?)
    (hself : ∀ r : Request, r.key? = some g.key →
      Call.Accounted next now ⟨r, some (.fresh g), state⟩)
    (hflight : ∀ n, e ≠ some (.inFlight n))
    (hdone : ∀ response t, e = some (.completed response t) → state = .answered response t) :
    Ledger retention next now (moved calls i state) := by
  have hlt := hl.ticket_lt i g hi.executes
  obtain ⟨c, hc, hf, hs⟩ := id hi
  refine hl.move hc hs ?_ ?_ hretention hnext ?_ ?_ ?_
  · intro j d hij hd
    refine hl.apart hi hij hd hretention (fun n hn => ?_) (fun k hk => ?_)
    · rw [hended, if_neg hn.symm]
    · rw [hentries, if_neg hk.symm]
  · rw [hf]
    exact hself c.request ((hl.accounted i c hc).key?_of_fresh hf)
  · intro n hn
    rw [hended, if_neg (by omega)]
    exact hl.unused n hn
  · intro k n hk
    rw [hentries] at hk
    split at hk
    · exact absurd hk (hflight n)
    · next hne =>
      refine ⟨hk, fun hf' => ?_⟩
      rw [hf] at hf'
      cases hf'
      exact absurd rfl hne
  · intro k response t hk
    rw [hentries] at hk
    split at hk
    · next heq =>
      subst heq
      exact Or.inr ⟨g.ticket, hf, hdone response t hk⟩
    · exact Or.inl hk

/-- An execution completes. -/
theorem concluded (hl : Ledger retention cache now calls) {p : Pending}
    (hi : ExecutesAt calls i g (.waiting p)) (response : Response) :
    Ledger retention (cache.complete g response now) now
      (moved calls i (.answered response now)) := by
  have hentries := RetryCache.entries_complete cache g response now
  have hended := RetryCache.outcome?_complete cache g response now
  refine hl.ended hi rfl rfl hended hentries ?_ ?_ ?_
  · intro r hr
    refine .executed hr ?_ (Nat.le_refl _) fun _ => ?_
    · rw [hended, if_pos rfl]
    · rw [hentries, if_pos rfl]
  · intro n hn
    cases hn
  · intro response' t hdone
    cases hdone
    rfl

/-- An execution is given up. -/
theorem abandoned (hl : Ledger retention cache now calls) {p : Pending}
    (hi : ExecutesAt calls i g (.waiting p)) :
    Ledger retention (cache.abandon g) now (moved calls i .cancelled) := by
  have hentries := RetryCache.entries_abandon cache g
  have hended := RetryCache.outcome?_abandon cache g
  refine hl.ended hi rfl rfl hended hentries ?_ ?_ ?_
  · intro r hr
    refine .abandoned hr ?_
    rw [hended, if_pos rfl]
  · intro n hn
    cases hn
  · intro response t hdone
    cases hdone

/-! ## Time -/

theorem evict (hl : Ledger retention cache now calls) :
    Ledger retention (cache.evict now).2 now calls where
  retention_eq := hl.retention_eq
  accounted := by
    intro i c hc
    refine (hl.accounted i c hc).of_kept rfl (fun _ _ ho => ho) (fun _ _ ho => ho) ?_ ?_
    · intro g _ he
      rw [RetryCache.entries_evict, he]
      rfl
    · intro g response t _ hnow he
      have hlive := RetryCache.expired_eq_false_iff.mpr hnow
      rw [RetryCache.entries_evict, he]
      refine Option.filter_some_pos ?_
      show (!cache.expired t now) = true
      rw [hlive]
      rfl
  ticket_inj := hl.ticket_inj
  ticket_lt := hl.ticket_lt
  unused := hl.unused
  inFlight := fun k n hk => hl.inFlight k n (RetryCache.entries_of_evict hk)
  completed := fun k response t hk => hl.completed k response t (RetryCache.entries_of_evict hk)
  followed := hl.followed
  replayed := hl.replayed

theorem later (hl : Ledger retention cache now calls) {after : Nat} (hle : now ≤ after) :
    Ledger retention cache after calls :=
  { hl with accounted := fun i c hc => (hl.accounted i c hc).later hle }

end Ledger

end MediaPlane
