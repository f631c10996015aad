import Mathlib.Data.List.Nodup
import MediaPlane.Event.Dispatcher

/-
  Handlers and who has them. A handler is owned while a subscription or a holder outside has it; the
  handler table and the source index stand beside that and are kept apart from it. The invariant is
  `Sound`: the table knows every owned handler under its key, so no key has two live handlers and no
  live entry is ever overwritten or pruned. Every operation of the dispatcher keeps it. From it the
  targets of a source are exactly its owned handlers, each once (`mem_targets`, `nodup_targets`).
-/

namespace MediaPlane

/-! ## Searching a map -/

theorem forIn_any {α : Type} (l : List α) (q : α → Bool) :
    (Id.run do
      for a in l do
        if q a then return true
      return false) = l.any q := by
  induction l with
  | nil => rfl
  | cons a l ih =>
    simp only [List.forIn_cons, List.any_cons]
    cases h : q a
    · simpa using ih
    · simp

theorem any_map_iff {α β : Type} [Ord α] [Std.TransOrd α] [Std.LawfulEqOrd α]
    (m : Std.ExtTreeMap α β) (p : α → β → Bool) :
    m.any p = true ↔ ∃ k v, m[k]? = some v ∧ p k v = true := by
  have hloop : m.any p = Id.run do
      for q in m do
        if p q.1 q.2 then return true
      return false := by
    -- the map is a quotient, and its search is that of any representative
    obtain ⟨⟨m⟩⟩ := m
    induction m using Quotient.ind with
    | _ t => rfl
  have hlist : m.any p = m.toList.any fun q => p q.1 q.2 := by
    rw [hloop, ← forIn_any]
    simp only [Std.ExtTreeMap.forIn_eq_forIn_toList]
  rw [hlist, List.any_eq_true]
  simp only [Prod.exists, Std.ExtTreeMap.mem_toList_iff_getElem?_eq_some]

namespace Dispatcher

variable {d next : Dispatcher} {h k : Handler} {key : HandlerKey} {src : EventSource}

/-! ## The index of sources -/

/-- The index of sources without a key; an emptied set goes too. -/
def unindexed (sources : Std.ExtTreeMap EventSource (Std.ExtTreeSet HandlerKey))
    (key : HandlerKey) : Std.ExtTreeMap EventSource (Std.ExtTreeSet HandlerKey) :=
  match sources[key.source]? with
  | none => sources
  | some keys =>
    if (keys.erase key).isEmpty then sources.erase key.source
    else sources.insert key.source (keys.erase key)

theorem mem_unindexed (sources : Std.ExtTreeMap EventSource (Std.ExtTreeSet HandlerKey))
    (key x : HandlerKey) (src : EventSource) :
    (∃ keys, (unindexed sources key)[src]? = some keys ∧ x ∈ keys) ↔
      ¬ (src = key.source ∧ x = key) ∧ ∃ keys, sources[src]? = some keys ∧ x ∈ keys := by
  unfold unindexed
  cases hkeys : sources[key.source]? with
  | none =>
    by_cases hs : src = key.source
    · subst hs
      simp [hkeys]
    · simp [hs]
  | some keys =>
    have hmem : ∀ x, x ∈ keys.erase key ↔ x ≠ key ∧ x ∈ keys := fun x => by
      rw [Std.ExtTreeSet.mem_erase, Ne, Std.LawfulEqOrd.compare_eq_iff_eq, eq_comm]
    simp only
    split
    · next hempty =>
      have hnone : ∀ x ∈ keys, x = key := by
        intro x hx
        by_contra hne
        have hin := (hmem x).mpr ⟨hne, hx⟩
        rw [Std.ExtTreeSet.isEmpty_iff.mp hempty] at hin
        exact Std.ExtTreeSet.not_mem_empty hin
      rw [getElem?_erase_lawful]
      by_cases hs : key.source = src
      · subst hs
        simp only [if_true, reduceCtorEq, false_and, exists_false, hkeys, Option.some.injEq,
          exists_eq_left', true_and, false_iff, not_and]
        exact fun hne hx => hne (hnone x hx)
      · simp [hs, Ne.symm hs]
    · rw [getElem?_insert_lawful]
      by_cases hs : key.source = src
      · subst hs
        simp [hkeys, hmem]
      · simp [hs, Ne.symm hs]

/-! ## What the operations do to subscriptions and holders -/

theorem getElem?_removeWhere (d : Dispatcher) (p : Subscription → Bool) (id : SubscriptionId) :
    (d.removeWhere p).2.subscriptions[id]? = d.subscriptions[id]?.filter fun s => !p s := by
  rw [subscriptions_removeWhere, Std.ExtTreeMap.getElem?_filter']

theorem getElem?_removeWhere_eq_some {d : Dispatcher} {p : Subscription → Bool}
    {id : SubscriptionId} {sub : Subscription} :
    (d.removeWhere p).2.subscriptions[id]? = some sub ↔
      d.subscriptions[id]? = some sub ∧ ¬ p sub = true := by
  rw [getElem?_removeWhere, Option.filter_eq_some_iff, Bool.not_eq_true', Bool.not_eq_true]

/-- What is left of a removal before handlers are pruned. -/
def without (d : Dispatcher) (p : Subscription → Bool) : Dispatcher :=
  { d with subscriptions := d.subscriptions.filter fun _ s => !p s }

theorem getElem?_without {p : Subscription → Bool} {id : SubscriptionId} {s : Subscription} :
    (d.without p).subscriptions[id]? = some s ↔ d.subscriptions[id]? = some s ∧ ¬ p s = true := by
  rw [← getElem?_removeWhere_eq_some, subscriptions_removeWhere]
  rfl

/-- Only a dead entry is forgotten. -/
theorem pruneKey_cases (d : Dispatcher) (key : HandlerKey) :
    d.pruneKey key = d ∨ ∃ h, d.handlers[key]? = some h ∧ ¬ d.isLive h = true ∧
      d.pruneKey key =
        { d with handlers := d.handlers.erase key, sources := unindexed d.sources key } := by
  unfold pruneKey
  cases hk : d.handlers[key]? with
  | none => exact Or.inl rfl
  | some h =>
    by_cases hlive : d.isLive h = true
    · exact Or.inl (if_pos hlive)
    · exact Or.inr ⟨h, rfl, hlive, if_neg hlive⟩

theorem held_removeWhere (d : Dispatcher) (p : Subscription → Bool) :
    (d.removeWhere p).2.held = d.held := by
  have hprune : ∀ (keys : List HandlerKey) (d : Dispatcher), (d.prune keys).held = d.held := by
    intro keys
    induction keys with
    | nil => exact fun d => rfl
    | cons key keys ih =>
      intro d
      refine (ih (d.pruneKey key)).trans ?_
      rcases pruneKey_cases d key with heq | ⟨h, -, -, heq⟩ <;> rw [heq]
  exact hprune _ _

theorem add_eq (d : Dispatcher) (s : Subscription) :
    (d.add s).subscriptions = d.subscriptions.insert s.id s ∧ (d.add s).held = d.held := by
  refine ⟨subscriptions_add d s, ?_⟩
  unfold add
  split <;> rfl

/-- Attaching adds one subscription of the session to the key's object, with the live handler of
the key or a new one. -/
theorem attach_eq (d : Dispatcher) (id : SubscriptionId) (session : SessionId) (key : HandlerKey)
    (receiver : Receiver) :
    ∃ h : Handler, (d.liveHandler? key = some h ∨ h.key = key) ∧
      (d.attach id session key receiver).subscriptions =
        d.subscriptions.insert id ⟨id, key.object, key.eventType, session, h⟩ ∧
      (d.attach id session key receiver).held = d.held := by
  unfold attach
  cases hlive : d.liveHandler? key with
  | some h => exact ⟨h, Or.inl rfl, add_eq d _⟩
  | none => exact ⟨⟨d.nextSerial, key, receiver⟩, Or.inr rfl, add_eq _ _⟩

theorem subscriptions_attach (d : Dispatcher) (id : SubscriptionId) (s : SessionId)
    (key : HandlerKey) (receiver : Receiver) :
    ∃ sub : Subscription, sub.id = id ∧
      (d.attach id s key receiver).subscriptions = d.subscriptions.insert id sub := by
  obtain ⟨h, -, hsubs, -⟩ := d.attach_eq id s key receiver
  exact ⟨_, rfl, hsubs⟩

theorem share_ok {object : ObjectId} {session : SessionId} {id : SubscriptionId}
    (hok : d.share object session id h = .ok next) :
    next.subscriptions = d.subscriptions.insert id ⟨id, object, h.key.eventType, session, h⟩ ∧
      next.held = d.held := by
  unfold share at hok
  split at hok
  · cases hok
  · split at hok
    · cases hok
    · cases hok
      exact add_eq d _

theorem unsubscribe_ok {object : ObjectId} {s : SessionId} {id : SubscriptionId}
    (h : d.unsubscribe object s id = .ok next) :
    (∃ sub, d.subscriptions[id]? = some sub ∧ sub.session = s) ∧
      next = (d.removeWhere fun sub => sub.id = id).2 := by
  unfold unsubscribe at h
  split at h
  · cases h
  · next sub hsub =>
    split at h
    · next hown =>
      cases h
      exact ⟨⟨sub, hsub, hown.2⟩, rfl⟩
    · cases h

/-! ## Owners -/

/-- A subscription has a share of the handler. -/
def Subscribed (d : Dispatcher) (h : Handler) : Prop :=
  ∃ (id : SubscriptionId) (s : Subscription), d.subscriptions[id]? = some s ∧ s.handler = h

/-- A subscription or a holder outside has the handler. -/
def Owned (d : Dispatcher) (h : Handler) : Prop := d.Subscribed h ∨ h ∈ d.held

/-- The key is indexed under the source. -/
def Indexed (d : Dispatcher) (src : EventSource) (key : HandlerKey) : Prop :=
  ∃ keys, d.sources[src]? = some keys ∧ key ∈ keys

/-- The table knows every owned handler under its key, and the index goes with the table. -/
structure Sound (d : Dispatcher) : Prop where
  key_eq : ∀ {key : HandlerKey} {h : Handler}, d.handlers[key]? = some h → h.key = key
  /-- Serial numbers tell known handlers apart, and later ones too. -/
  serial_inj : ∀ {key key' : HandlerKey} {h k : Handler}, d.handlers[key]? = some h →
    d.handlers[key']? = some k → h.serial = k.serial → h = k
  serial_lt : ∀ {key : HandlerKey} {h : Handler}, d.handlers[key]? = some h →
    h.serial < d.nextSerial
  known : ∀ {h}, d.Owned h → d.handlers[h.key]? = some h
  indexed : ∀ {src key}, d.Indexed src key ↔ key.source = src ∧ key ∈ d.handlers
  source_eq : ∀ {id : SubscriptionId} {s : Subscription}, d.subscriptions[id]? = some s →
    s.source = s.handler.key.source

theorem isLive_of_owned (h : d.Owned k) : d.isLive k = true := by
  unfold isLive
  rw [Bool.or_eq_true, any_map_iff, List.any_eq_true]
  rcases h with ⟨id, s, hs, rfl⟩ | hheld
  · exact Or.inl ⟨id, s, hs, beq_self_eq_true _⟩
  · exact Or.inr ⟨k, hheld, beq_self_eq_true _⟩

namespace Sound

/-- A known handler is live exactly while somebody has it. -/
theorem isLive_iff (hd : d.Sound) (hk : d.handlers[key]? = some h) :
    d.isLive h = true ↔ d.Owned h := by
  refine ⟨fun hlive => ?_, isLive_of_owned⟩
  -- an owner of a handler of the same number has the handler itself
  have hsame : ∀ k, d.Owned k → k.serial = h.serial → d.Owned h := by
    intro k hown hserial
    have heq : k = h := hd.serial_inj (hd.known hown) hk hserial
    exact heq ▸ hown
  unfold isLive at hlive
  rw [Bool.or_eq_true, any_map_iff, List.any_eq_true] at hlive
  rcases hlive with ⟨id, s, hs, hserial⟩ | ⟨k, hheld, hserial⟩
  · exact hsame s.handler (Or.inl ⟨id, s, hs, rfl⟩) (beq_iff_eq.mp hserial)
  · exact hsame k (Or.inr hheld) (beq_iff_eq.mp hserial)

theorem liveHandler?_eq_some (hd : d.Sound) :
    d.liveHandler? key = some h ↔ h.key = key ∧ d.Owned h := by
  unfold liveHandler?
  rw [Option.filter_eq_some_iff]
  constructor
  · rintro ⟨hk, hlive⟩
    exact ⟨hd.key_eq hk, (hd.isLive_iff hk).mp hlive⟩
  · rintro ⟨rfl, hown⟩
    exact ⟨hd.known hown, isLive_of_owned hown⟩

theorem liveHandler?_eq_none (hd : d.Sound) :
    d.liveHandler? key = none ↔ ∀ h, d.Owned h → h.key ≠ key := by
  rw [Option.eq_none_iff_forall_ne_some]
  constructor
  · intro hnone h hown hkey
    exact hnone h (hd.liveHandler?_eq_some.mpr ⟨hkey, hown⟩)
  · intro hall h hlive
    obtain ⟨hkey, hown⟩ := hd.liveHandler?_eq_some.mp hlive
    exact hall h hown hkey

/-! ## Targets -/

/-- The targets of a source are its owned handlers. -/
theorem mem_targets (hd : d.Sound) : h ∈ d.targets src ↔ h.key.source = src ∧ d.Owned h := by
  have htargets : h ∈ d.targets src ↔ ∃ key, d.Indexed src key ∧ d.liveHandler? key = some h := by
    unfold targets Indexed
    cases d.sources[src]? with
    | none => simp
    | some keys => simp [List.mem_filterMap]
  rw [htargets]
  constructor
  · rintro ⟨key, hindex, hlive⟩
    obtain ⟨rfl, hown⟩ := hd.liveHandler?_eq_some.mp hlive
    exact ⟨(hd.indexed.mp hindex).1, hown⟩
  · rintro ⟨hsrc, hown⟩
    have hmem : h.key ∈ d.handlers :=
      Std.ExtTreeMap.mem_iff_isSome_getElem?.mpr (Option.isSome_of_eq_some (hd.known hown))
    exact ⟨h.key, hd.indexed.mpr ⟨hsrc, hmem⟩, hd.liveHandler?_eq_some.mpr ⟨rfl, hown⟩⟩

theorem nodup_targets (hd : d.Sound) (src : EventSource) : (d.targets src).Nodup := by
  unfold targets
  cases d.sources[src]? with
  | none => exact List.nodup_nil
  | some keys =>
    have hkeys : keys.toList.Nodup := by
      refine Std.ExtTreeSet.distinct_toList.imp fun {a b} hab heq => ?_
      exact hab (Std.LawfulEqOrd.compare_eq_iff_eq.mpr heq)
    refine List.Nodup.filterMap ?_ hkeys
    intro a b h ha hb
    exact (hd.liveHandler?_eq_some.mp ha).1.symm.trans (hd.liveHandler?_eq_some.mp hb).1

/-- Different targets have different numbers. -/
theorem nodup_serials (hd : d.Sound) (src : EventSource) :
    ((d.targets src).map (·.serial)).Nodup := by
  refine List.Nodup.map_on ?_ (hd.nodup_targets src)
  intro h hh k hk hserial
  have hown := (hd.mem_targets.mp hh).2
  exact hd.serial_inj (hd.known hown) (hd.known (hd.mem_targets.mp hk).2) hserial

/-! ## Owners come and go -/

/-- The same table and index with fewer owners. -/
theorem shrink (hd : d.Sound) (hhandlers : next.handlers = d.handlers)
    (hsources : next.sources = d.sources) (hserial : d.nextSerial ≤ next.nextSerial)
    (hown : ∀ h, next.Owned h → d.Owned h)
    (hsub : ∀ (id : SubscriptionId) (s : Subscription), next.subscriptions[id]? = some s →
      s.source = s.handler.key.source) :
    next.Sound where
  key_eq := by
    rw [hhandlers]
    exact hd.key_eq
  serial_inj := by
    rw [hhandlers]
    exact hd.serial_inj
  serial_lt := by
    rw [hhandlers]
    exact fun hk => Nat.lt_of_lt_of_le (hd.serial_lt hk) hserial
  known := by
    rw [hhandlers]
    exact fun h => hd.known (hown _ h)
  indexed := by
    unfold Indexed
    rw [hhandlers, hsources]
    exact hd.indexed
  source_eq := fun {id s} hs => hsub id s hs

theorem setFactory (hd : d.Sound) (factory : Option HandlerFactory) :
    Sound { d with factory } :=
  hd.shrink rfl rfl (Nat.le_refl _) (fun _ h => h) fun _ _ hs => hd.source_eq hs

theorem letGo (hd : d.Sound) (h : Handler) : (d.letGo h).Sound :=
  hd.shrink rfl rfl (Nat.le_refl _)
    (fun _ hown => hown.imp_right List.mem_of_mem_erase) fun _ _ hs => hd.source_eq hs

/-- Another holder of an owned handler changes nothing. -/
theorem hold (hd : d.Sound) (hown : d.Owned h) : (d.hold h).Sound := by
  refine hd.shrink rfl rfl (Nat.le_refl _) ?_ fun _ _ hs => hd.source_eq hs
  rintro k (hsub | hheld)
  · exact Or.inl hsub
  · rcases List.mem_cons.mp hheld with rfl | hheld
    · exact hown
    · exact Or.inr hheld

theorem owned_insert {s : Subscription}
    (hown : Owned { d with subscriptions := d.subscriptions.insert s.id s } h) :
    d.Owned h ∨ h = s.handler := by
  rcases hown with ⟨id, sub, hsub, rfl⟩ | hheld
  · rw [getElem?_insert_lawful] at hsub
    split at hsub
    · cases hsub
      exact Or.inr rfl
    · exact Or.inl (Or.inl ⟨id, sub, hsub, rfl⟩)
  · exact Or.inl (Or.inr hheld)

/-- A subscription to a handler that the table knows may be added. -/
theorem insert (hd : d.Sound) {s : Subscription}
    (hk : d.handlers[s.handler.key]? = some s.handler) (hsrc : s.source = s.handler.key.source) :
    Sound { d with subscriptions := d.subscriptions.insert s.id s } where
  key_eq := hd.key_eq
  serial_inj := hd.serial_inj
  serial_lt := hd.serial_lt
  known := by
    intro h hown
    rcases owned_insert hown with hold | rfl
    · exact hd.known hold
    · exact hk
  indexed := hd.indexed
  source_eq := by
    intro id sub hsub
    rw [getElem?_insert_lawful] at hsub
    split at hsub
    · cases hsub
      exact hsrc
    · exact hd.source_eq hsub

/-! ## The table -/

theorem indexed_install (d : Dispatcher) (h : Handler) :
    (d.install h).Indexed src key ↔ (src = h.key.source ∧ key = h.key) ∨ d.Indexed src key := by
  unfold Indexed install
  simp only [getElem?_insert_lawful]
  by_cases hs : h.key.source = src
  · subst hs
    cases hkeys : d.sources[h.key.source]? <;>
      simp [Std.ExtTreeSet.mem_insert, @eq_comm _ h.key]
  · simp [hs, Ne.symm hs]

/-- A new handler takes the place of a dead one, or a free one. -/
theorem install (hd : d.Sound) (hdead : d.liveHandler? h.key = none)
    (hlt : h.serial < d.nextSerial)
    (hnew : ∀ {key : HandlerKey} {k : Handler}, d.handlers[key]? = some k →
      k.serial ≠ h.serial) :
    (d.install h).Sound := by
  have hget : ∀ key, (d.install h).handlers[key]? =
      if h.key = key then some h else d.handlers[key]? := fun key => by
    unfold Dispatcher.install
    rw [getElem?_insert_lawful]
  constructor
  case key_eq =>
    intro key k hk
    rw [hget] at hk
    split at hk
    · next heq =>
      cases hk
      exact heq
    · exact hd.key_eq hk
  case serial_inj =>
    intro key key' k k' hk hk' hserial
    rw [hget] at hk hk'
    split at hk <;> split at hk'
    · cases hk
      cases hk'
      rfl
    · cases hk
      exact absurd hserial.symm (hnew hk')
    · cases hk'
      exact absurd hserial (hnew hk)
    · exact hd.serial_inj hk hk' hserial
  case serial_lt =>
    intro key k hk
    rw [hget] at hk
    split at hk
    · cases hk
      exact hlt
    · exact hd.serial_lt hk
  case known =>
    intro k hown
    have hne : h.key ≠ k.key := Ne.symm (hd.liveHandler?_eq_none.mp hdead k hown)
    rw [hget, if_neg hne]
    exact hd.known hown
  case indexed =>
    intro src key
    rw [indexed_install, hd.indexed]
    have hmem : key ∈ (d.install h).handlers ↔ key = h.key ∨ key ∈ d.handlers := by
      unfold Dispatcher.install
      rw [Std.ExtTreeMap.mem_insert, Std.LawfulEqOrd.compare_eq_iff_eq, eq_comm]
    rw [hmem]
    constructor
    · rintro (⟨rfl, rfl⟩ | ⟨hsrc, hold⟩)
      · exact ⟨rfl, Or.inl rfl⟩
      · exact ⟨hsrc, Or.inr hold⟩
    · rintro ⟨hsrc, rfl | hold⟩
      · exact Or.inl ⟨hsrc.symm, rfl⟩
      · exact Or.inr ⟨hsrc, hold⟩
  case source_eq => exact hd.source_eq

/-- A dead entry may be forgotten. -/
theorem pruneKey (hd : d.Sound) (key : HandlerKey) : (d.pruneKey key).Sound := by
  rcases pruneKey_cases d key with heq | ⟨h, hk, hdead, heq⟩
  · rw [heq]
    exact hd
  rw [heq]
  have hget : ∀ {x : HandlerKey} {k : Handler}, (d.handlers.erase key)[x]? = some k ↔
      key ≠ x ∧ d.handlers[x]? = some k := fun {x k} => by
    rw [getElem?_erase_lawful]
    by_cases hx : key = x
    · simp [hx]
    · simp [hx]
  constructor
  case key_eq => exact fun hx => hd.key_eq (hget.mp hx).2
  case serial_inj =>
    exact fun hx hy hserial => hd.serial_inj (hget.mp hx).2 (hget.mp hy).2 hserial
  case serial_lt => exact fun hx => hd.serial_lt (hget.mp hx).2
  case known =>
    intro k hown
    have hknown : d.handlers[k.key]? = some k := hd.known hown
    refine hget.mpr ⟨?_, hknown⟩
    -- an owned handler under the key would be the dead one
    rintro rfl
    rw [hk] at hknown
    cases hknown
    exact hdead (isLive_of_owned hown)
  case indexed =>
    intro src x
    have hmem : x ∈ d.handlers.erase key ↔ x ≠ key ∧ x ∈ d.handlers := by
      rw [Std.ExtTreeMap.mem_erase, Ne, Std.LawfulEqOrd.compare_eq_iff_eq, eq_comm]
    refine (mem_unindexed d.sources key x src).trans ?_
    rw [hmem]
    refine (and_congr_right fun _ => hd.indexed).trans ?_
    constructor
    · rintro ⟨hnot, hsrc, hold⟩
      exact ⟨hsrc, fun hx => hnot ⟨hx ▸ hsrc.symm, hx⟩, hold⟩
    · rintro ⟨hsrc, hx, hold⟩
      exact ⟨fun hboth => hx hboth.2, hsrc, hold⟩
  case source_eq => exact hd.source_eq

theorem prune (hd : d.Sound) (keys : List HandlerKey) : (d.prune keys).Sound := by
  induction keys generalizing d with
  | nil => exact hd
  | cons key keys ih => exact ih (hd.pruneKey key)

/-! ## The operations -/

theorem without (hd : d.Sound) (p : Subscription → Bool) : (d.without p).Sound := by
  have hsub : ∀ {id s}, (d.without p).subscriptions[id]? = some s →
      d.subscriptions[id]? = some s := fun hs => (getElem?_without.mp hs).1
  refine hd.shrink rfl rfl (Nat.le_refl _) ?_ fun _ _ hs => hd.source_eq (hsub hs)
  rintro h (⟨id, s, hs, rfl⟩ | hheld)
  · exact Or.inl ⟨id, s, hsub hs, rfl⟩
  · exact Or.inr hheld

theorem removeWhere (hd : d.Sound) (p : Subscription → Bool) : (d.removeWhere p).2.Sound :=
  (hd.without p).prune _

theorem unsubscribe (hd : d.Sound) {object : ObjectId} {session : SessionId}
    {id : SubscriptionId} (h : d.unsubscribe object session id = .ok next) : next.Sound := by
  obtain ⟨-, rfl⟩ := unsubscribe_ok h
  exact hd.removeWhere _

/-- A subscription to an owned handler of its source is added as it is. -/
theorem add (hd : d.Sound) {s : Subscription} (hown : d.Owned s.handler)
    (hsrc : s.source = s.handler.key.source) : (d.add s).Sound := by
  have hlive : (d.liveHandler? s.handler.key).isSome = true :=
    Option.isSome_of_eq_some (hd.liveHandler?_eq_some.mpr ⟨rfl, hown⟩)
  unfold Dispatcher.add
  simp only [if_pos hlive]
  exact hd.insert (hd.known hown) hsrc

/-- One to a new handler makes that one known. -/
theorem add_new (hd : d.Sound) {s : Subscription}
    (hdead : d.liveHandler? s.handler.key = none) (hlt : s.handler.serial < d.nextSerial)
    (hnew : ∀ {key : HandlerKey} {k : Handler}, d.handlers[key]? = some k →
      k.serial ≠ s.handler.serial)
    (hsrc : s.source = s.handler.key.source) : (d.add s).Sound := by
  have hnone : ¬ (d.liveHandler? s.handler.key).isSome = true := by
    rw [hdead]
    exact Bool.false_ne_true
  unfold Dispatcher.add
  simp only [if_neg hnone]
  refine (hd.install hdead hlt hnew).insert ?_ hsrc
  unfold Dispatcher.install
  rw [getElem?_insert_lawful, if_pos rfl]

theorem attach (hd : d.Sound) (id : SubscriptionId) (session : SessionId) (key : HandlerKey)
    (receiver : Receiver) : (d.attach id session key receiver).Sound := by
  unfold Dispatcher.attach
  cases hlive : d.liveHandler? key with
  | some h =>
    obtain ⟨rfl, hown⟩ := hd.liveHandler?_eq_some.mp hlive
    exact hd.add hown rfl
  | none =>
    have hnext : Sound { d with nextSerial := d.nextSerial + 1 } :=
      hd.shrink rfl rfl (Nat.le_succ _) (fun _ h => h) fun _ _ hs => hd.source_eq hs
    exact hnext.add_new hlive (Nat.lt_succ_self _) (fun hk => Nat.ne_of_lt (hd.serial_lt hk)) rfl

/-- What is shared is a handler that somebody holds. -/
theorem share (hd : d.Sound) {object : ObjectId} {session : SessionId} {id : SubscriptionId}
    (hheld : h ∈ d.held) (hok : d.share object session id h = .ok next) : next.Sound := by
  unfold Dispatcher.share at hok
  split at hok
  · cases hok
  · next hobject =>
    split at hok
    · cases hok
    · cases hok
      have hobj : h.key.object = object := Decidable.not_not.mp hobject
      refine hd.add (Or.inr hheld) ?_
      show EventSource.mk object h.key.eventType = _
      rw [← hobj]
      rfl

end Sound

theorem sound_empty : empty.Sound where
  key_eq := by
    intro key h hk
    cases hk
  serial_inj := by
    intro key key' h k hk
    cases hk
  serial_lt := by
    intro key h hk
    cases hk
  known := by
    rintro h (⟨id, s, hs, -⟩ | hheld)
    · cases hs
    · cases hheld
  indexed := by
    intro src key
    constructor
    · rintro ⟨keys, hkeys, -⟩
      cases hkeys
    · rintro ⟨-, hmem⟩
      cases hmem
  source_eq := by
    intro id s hs
    cases hs

end Dispatcher

end MediaPlane
