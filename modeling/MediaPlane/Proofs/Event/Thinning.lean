import MediaPlane.Proofs.Event.Handlers

/-
  What is left of a dispatcher once subscriptions are gone. Each removal prunes the handlers that
  died of it and nothing else, so handlers go with their last owner, and entries that were dead
  before stay as they are (`Thinned`). Hence the subscriptions that are left determine everything
  else, whatever the order in which the other ones went (`Thinned.eq`).
-/

namespace MediaPlane

namespace Dispatcher

variable {d mid next last : Dispatcher} {h : Handler} {key : HandlerKey} {src : EventSource}

/-! ## Pruning -/

theorem isLive_pruneKey (d : Dispatcher) (key : HandlerKey) :
    (d.pruneKey key).isLive = d.isLive := by
  rcases pruneKey_cases d key with heq | ⟨h, -, -, heq⟩ <;> rw [heq]
  rfl

/-- A pruned key keeps its handler only if it is live. -/
theorem handlers_pruneKey (d : Dispatcher) (k : HandlerKey) :
    (d.pruneKey k).handlers[key]? = some h ↔
      d.handlers[key]? = some h ∧ (key = k → d.isLive h = true) := by
  by_cases hk : key = k
  · subst hk
    unfold pruneKey
    cases hg : d.handlers[key]? with
    | none => simp [hg]
    | some g =>
      simp only
      by_cases hlive : d.isLive g = true
      · rw [if_pos hlive, hg]
        exact ⟨fun heq => ⟨heq, fun _ => Option.some.inj heq ▸ hlive⟩, And.left⟩
      · rw [if_neg hlive]
        simp only
        rw [getElem?_erase_lawful, if_pos rfl]
        refine iff_of_false (fun hh => by cases hh) ?_
        rintro ⟨heq, hlive'⟩
        exact hlive (Option.some.inj heq ▸ hlive' trivial)
  · have hother : (d.pruneKey k).handlers[key]? = d.handlers[key]? := by
      rcases pruneKey_cases d k with heq | ⟨g, -, -, heq⟩ <;> rw [heq]
      rw [getElem?_erase_lawful, if_neg (Ne.symm hk)]
    rw [hother]
    exact ⟨fun hh => ⟨hh, fun heq => absurd heq hk⟩, And.left⟩

theorem handlers_prune (d : Dispatcher) (keys : List HandlerKey) :
    (d.prune keys).handlers[key]? = some h ↔
      d.handlers[key]? = some h ∧ (key ∈ keys → d.isLive h = true) := by
  induction keys generalizing d with
  | nil =>
    show d.handlers[key]? = some h ↔ _
    simp
  | cons k keys ih =>
    rw [prune, List.foldl_cons]
    refine (ih (d.pruneKey k)).trans ?_
    rw [handlers_pruneKey, isLive_pruneKey, and_assoc, List.mem_cons, or_imp]

/-- No set of the index becomes empty: an emptied one goes. -/
theorem Sound.vacant_pruneKey (hd : d.Sound) (key : HandlerKey) :
    (d.pruneKey key).sources[src]? = some ∅ ↔ d.sources[src]? = some ∅ := by
  rcases pruneKey_cases d key with heq | ⟨h, hk, -, heq⟩ <;> rw [heq]
  have hmem : key ∈ d.handlers :=
    Std.ExtTreeMap.mem_iff_isSome_getElem?.mpr (Option.isSome_of_eq_some hk)
  obtain ⟨keys, hkeys, hin⟩ : d.Indexed key.source key := hd.indexed.mpr ⟨rfl, hmem⟩
  have hfull : d.sources[key.source]? ≠ some ∅ := by
    rw [hkeys]
    intro hempty
    rw [Option.some.inj hempty] at hin
    exact Std.ExtTreeSet.not_mem_empty hin
  show (unindexed d.sources key)[src]? = some ∅ ↔ _
  unfold unindexed
  rw [hkeys]
  simp only
  by_cases hs : key.source = src
  · subst hs
    refine iff_of_false ?_ hfull
    split
    · rw [getElem?_erase_lawful, if_pos rfl]
      exact nofun
    · next hleft =>
      rw [getElem?_insert_lawful, if_pos rfl]
      exact fun hempty => hleft (Std.ExtTreeSet.isEmpty_iff.mpr (Option.some.inj hempty))
  · split
    · rw [getElem?_erase_lawful, if_neg hs]
    · rw [getElem?_insert_lawful, if_neg hs]

theorem Sound.vacant_prune (hd : d.Sound) (keys : List HandlerKey) :
    (d.prune keys).sources[src]? = some ∅ ↔ d.sources[src]? = some ∅ := by
  induction keys generalizing d with
  | nil => exact Iff.rfl
  | cons key keys ih => exact (ih (hd.pruneKey key)).trans (hd.vacant_pruneKey key)

/-! ## Thinning -/

/-- Subscriptions went, and with them the handlers that they were the last to own. -/
structure Thinned (d next : Dispatcher) : Prop where
  sound : next.Sound
  factory_eq : next.factory = d.factory
  held_eq : next.held = d.held
  nextSerial_eq : next.nextSerial = d.nextSerial
  subscribed : ∀ {id : SubscriptionId} {s : Subscription}, next.subscriptions[id]? = some s →
    d.subscriptions[id]? = some s
  handler_iff : ∀ {key : HandlerKey} {h : Handler}, next.handlers[key]? = some h ↔
    d.handlers[key]? = some h ∧ (d.Owned h → next.Owned h)
  vacant_iff : ∀ {src : EventSource}, next.sources[src]? = some ∅ ↔ d.sources[src]? = some ∅

namespace Thinned

theorem refl (hd : d.Sound) : Thinned d d where
  sound := hd
  factory_eq := rfl
  held_eq := rfl
  nextSerial_eq := rfl
  subscribed := id
  handler_iff := (and_iff_left id).symm
  vacant_iff := Iff.rfl

theorem owned (h' : Thinned d next) (hown : next.Owned h) : d.Owned h := by
  rcases hown with ⟨id, s, hs, heq⟩ | hheld
  · exact Or.inl ⟨id, s, h'.subscribed hs, heq⟩
  · exact Or.inr (h'.held_eq ▸ hheld)

theorem trans (h : Thinned d mid) (h' : Thinned mid next) : Thinned d next where
  sound := h'.sound
  factory_eq := h'.factory_eq.trans h.factory_eq
  held_eq := h'.held_eq.trans h.held_eq
  nextSerial_eq := h'.nextSerial_eq.trans h.nextSerial_eq
  subscribed := fun hs => h.subscribed (h'.subscribed hs)
  handler_iff := by
    intro key k
    rw [h'.handler_iff, h.handler_iff, and_assoc]
    refine and_congr_right fun _ => ⟨fun hboth hown => hboth.2 (hboth.1 hown), fun hown => ?_⟩
    exact ⟨fun hk => h'.owned (hown hk), fun hk => hown (h.owned hk)⟩
  vacant_iff := h'.vacant_iff.trans h.vacant_iff

end Thinned

/-- Pruning only concerns the table and its index. -/
theorem prune_eq (d : Dispatcher) (keys : List HandlerKey) :
    ∃ handlers sources, d.prune keys = { d with handlers, sources } := by
  induction keys generalizing d with
  | nil => exact ⟨d.handlers, d.sources, rfl⟩
  | cons key keys ih =>
    obtain ⟨handlers, sources, heq⟩ := ih (d.pruneKey key)
    have hprune : d.prune (key :: keys) = { d.pruneKey key with handlers, sources } := heq
    rcases pruneKey_cases d key with hkey | ⟨h, -, -, hkey⟩ <;>
      exact ⟨handlers, sources, by rw [hprune, hkey]⟩

/-- The keys that a removal prunes. -/
def doomedKeys (d : Dispatcher) (p : Subscription → Bool) : List HandlerKey :=
  ((d.subscriptions.toList.filter fun e => p e.2).map (·.2)).map (·.handler.key)

theorem removeWhere_snd (d : Dispatcher) (p : Subscription → Bool) :
    (d.removeWhere p).2 = (d.without p).prune (d.doomedKeys p) := rfl

theorem mem_doomedKeys {p : Subscription → Bool} :
    key ∈ d.doomedKeys p ↔ ∃ (id : SubscriptionId) (s : Subscription),
      d.subscriptions[id]? = some s ∧ p s = true ∧ s.handler.key = key := by
  unfold doomedKeys
  simp [and_assoc]

/-- A known handler whose key a removal prunes was owned before, and where it is still owned it
stays. -/
theorem Sound.doomed_iff (hd : d.Sound) (p : Subscription → Bool)
    (hk : d.handlers[key]? = some h) :
    (key ∈ d.doomedKeys p → (d.without p).Owned h) ↔ (d.Owned h → (d.without p).Owned h) := by
  constructor
  · rintro hkept (⟨id, s, hs, rfl⟩ | hheld)
    · by_cases hp : p s = true
      · exact hkept (mem_doomedKeys.mpr ⟨id, s, hs, hp, hd.key_eq hk⟩)
      · exact Or.inl ⟨id, s, getElem?_without.mpr ⟨hs, hp⟩, rfl⟩
    · exact Or.inr hheld
  · intro hkept hdoomed
    obtain ⟨id, s, hs, -, rfl⟩ := mem_doomedKeys.mp hdoomed
    have hown : d.Owned s.handler := Or.inl ⟨id, s, hs, rfl⟩
    have hsame : some s.handler = some h := (hd.known hown).symm.trans hk
    exact hkept (Option.some.inj hsame ▸ hown)

theorem Sound.thinned_removeWhere (hd : d.Sound) (p : Subscription → Bool) :
    Thinned d (d.removeWhere p).2 := by
  obtain ⟨handlers, sources, heq⟩ := (d.without p).prune_eq (d.doomedKeys p)
  have howned : ∀ {h}, (d.removeWhere p).2.Owned h ↔ (d.without p).Owned h := by
    intro h
    rw [removeWhere_snd, heq]
    rfl
  refine { sound := hd.removeWhere p, factory_eq := ?_, held_eq := ?_, nextSerial_eq := ?_,
           subscribed := fun hs => (getElem?_removeWhere_eq_some.mp hs).1,
           handler_iff := ?_, vacant_iff := (hd.without p).vacant_prune _ }
  · rw [removeWhere_snd, heq]
    rfl
  · rw [removeWhere_snd, heq]
    rfl
  · rw [removeWhere_snd, heq]
    rfl
  · intro key h
    rw [removeWhere_snd, handlers_prune]
    refine and_congr_right fun hk => ?_
    rw [(hd.without p).isLive_iff hk, ← removeWhere_snd]
    simp only [howned]
    exact hd.doomed_iff p hk

/-! ## The subscriptions that are left determine the rest -/

theorem indexed_iff {keys : Std.ExtTreeSet HandlerKey} (hkeys : d.sources[src]? = some keys) :
    d.Indexed src key ↔ key ∈ keys := by
  unfold Indexed
  rw [hkeys]
  simp

/-- The sets of an index are known by their keys, where they have any. -/
theorem sources_of_indexed {e : Dispatcher} {keys : Std.ExtTreeSet HandlerKey}
    (hindex : ∀ key, d.Indexed src key ↔ e.Indexed src key)
    (hvacant : d.sources[src]? = some ∅ → e.sources[src]? = some ∅)
    (hkeys : d.sources[src]? = some keys) : e.sources[src]? = some keys := by
  by_cases hfull : ∃ key, key ∈ keys
  · obtain ⟨key, hkey⟩ := hfull
    obtain ⟨keys', hkeys', -⟩ := (hindex key).mp ((indexed_iff hkeys).mpr hkey)
    have hsame : keys' = keys := by
      refine Std.ExtTreeSet.ext_mem fun x => ?_
      rw [← indexed_iff hkeys', ← hindex, indexed_iff hkeys]
    rw [hkeys', hsame]
  · have hempty : keys = ∅ := by
      refine Std.ExtTreeSet.ext_mem fun x => iff_of_false (fun hx => hfull ⟨x, hx⟩) ?_
      exact Std.ExtTreeSet.not_mem_empty
    rw [hempty] at hkeys ⊢
    exact hvacant hkeys

theorem Thinned.eq {a b : Dispatcher} (ha : Thinned d a) (hb : Thinned d b)
    (hsubs : a.subscriptions = b.subscriptions) : a = b := by
  have howned : ∀ {h}, a.Owned h ↔ b.Owned h := by
    intro h
    unfold Owned Subscribed
    rw [hsubs, ha.held_eq, hb.held_eq]
  have hhandlers : a.handlers = b.handlers := by
    refine Std.ExtTreeMap.ext_getElem? fun key => Option.ext fun h => ?_
    rw [ha.handler_iff, hb.handler_iff, howned]
  have hsources : a.sources = b.sources := by
    have hindex : ∀ src key, a.Indexed src key ↔ b.Indexed src key := by
      intro src key
      rw [ha.sound.indexed, hb.sound.indexed, hhandlers]
    have hvacant : ∀ src, a.sources[src]? = some ∅ ↔ b.sources[src]? = some ∅ := fun src =>
      ha.vacant_iff.trans hb.vacant_iff.symm
    refine Std.ExtTreeMap.ext_getElem? fun src => Option.ext fun keys => ⟨?_, ?_⟩
    · exact sources_of_indexed (hindex src) (hvacant src).mp
    · exact sources_of_indexed (fun key => (hindex src key).symm) (hvacant src).mpr
  have hfactory := ha.factory_eq.trans hb.factory_eq.symm
  have hheld := ha.held_eq.trans hb.held_eq.symm
  have hserial := ha.nextSerial_eq.trans hb.nextSerial_eq.symm
  cases a
  cases b
  simp only at hsubs hhandlers hsources hfactory hheld hserial
  subst hsubs hhandlers hsources hfactory hheld hserial
  rfl

end Dispatcher

end MediaPlane
