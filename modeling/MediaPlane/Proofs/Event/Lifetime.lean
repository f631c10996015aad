import MediaPlane.Proofs.Event.Delivery
import MediaPlane.Proofs.Event.Thinning

/-
  The life of handlers. As long as nobody outside takes hold of a handler, handlers follow the
  subscriptions (`handlers_follow_subscriptions`): one is live while a subscription has it, no key
  has two, and what the table and the index know is what the subscriptions have, with no dead entry
  and no empty set. The invariant is `Current`. It needs new subscriptions to have new names, since
  one that took the place of another would leave a dead handler behind. Between the beginning and
  the end of a build anything may happen, also other builds for the same key.
-/

namespace MediaPlane

namespace EventInput

/-- The input belongs to somebody outside who holds handlers. -/
def Outside : EventInput → Prop
  | take .. | letGo _ | share .. => True
  | _ => False

/-- The name of the subscription that the input may add. -/
def added? : EventInput → Option SubscriptionId
  | subscribe _ _ _ id | built _ id _ | connect _ _ _ id _ | share _ _ id _ => some id
  | _ => none

end EventInput

namespace Dispatcher

variable {d next : Dispatcher} {h k : Handler} {key : HandlerKey} {src : EventSource}
  {id : SubscriptionId} {session : SessionId} {i : EventInput}

/-! ## Nothing dead is known -/

/-- Every handler that is known has a subscription, and nobody else holds it. -/
structure Current (d : Dispatcher) : Prop where
  sound : d.Sound
  unheld : d.held = []
  subscribed : ∀ {key : HandlerKey} {h : Handler}, d.handlers[key]? = some h → d.Subscribed h
  none_vacant : ∀ {src : EventSource}, d.sources[src]? ≠ some ∅

theorem current_empty : empty.Current where
  sound := sound_empty
  unheld := rfl
  subscribed := fun hk => by cases hk
  none_vacant := fun hs => by cases hs

/-! ## Attaching -/

/-- A subscription to a live handler changes the subscriptions only. -/
theorem Sound.attach_of_some (hd : d.Sound) (hlive : d.liveHandler? key = some h)
    (id : SubscriptionId) (session : SessionId) (receiver : Receiver) :
    d.attach id session key receiver =
      { d with
        subscriptions :=
          d.subscriptions.insert id ⟨id, key.object, key.eventType, session, h⟩ } := by
  have hkey := (hd.liveHandler?_eq_some.mp hlive).1
  unfold Dispatcher.attach
  rw [hlive]
  simp only [Dispatcher.add, hkey, hlive, Option.isSome_some, if_true]

/-- Where there is none, a new handler is made known, and subscribed to. -/
theorem attach_of_none (hnone : d.liveHandler? key = none) (id : SubscriptionId)
    (session : SessionId) (receiver : Receiver) :
    d.attach id session key receiver =
      { d.install ⟨d.nextSerial, key, receiver⟩ with
        nextSerial := d.nextSerial + 1
        subscriptions := d.subscriptions.insert id
          ⟨id, key.object, key.eventType, session, ⟨d.nextSerial, key, receiver⟩⟩ } := by
  have hnext : Dispatcher.liveHandler? { d with nextSerial := d.nextSerial + 1 } key = none := hnone
  unfold attach
  rw [hnone]
  simp only [add, hnext, Option.isSome_none, Bool.false_eq_true, if_false]
  rfl

namespace Current

theorem owned_iff (hd : d.Current) : d.Owned h ↔ d.Subscribed h := by
  unfold Owned
  rw [hd.unheld]
  exact or_iff_left List.not_mem_nil

theorem liveHandler?_eq_some (hd : d.Current) :
    d.liveHandler? key = some h ↔ h.key = key ∧ d.Subscribed h := by
  rw [hd.sound.liveHandler?_eq_some, hd.owned_iff]

/-- What is known of a key is its live handler. -/
theorem handlers_eq (hd : d.Current) (key : HandlerKey) :
    d.handlers[key]? = d.liveHandler? key := by
  refine Option.ext fun h => ?_
  rw [hd.liveHandler?_eq_some]
  constructor
  · exact fun hk => ⟨hd.sound.key_eq hk, hd.subscribed hk⟩
  · rintro ⟨rfl, hsubscribed⟩
    exact hd.sound.known (Or.inl hsubscribed)

theorem liveHandler?_eq_none (hd : d.Current) :
    d.liveHandler? key = none ↔
      ∀ (id : SubscriptionId) (s : Subscription), d.subscriptions[id]? = some s →
        s.handler.key ≠ key := by
  rw [hd.sound.liveHandler?_eq_none]
  simp only [hd.owned_iff]
  constructor
  · exact fun hnone id s hs => hnone s.handler ⟨id, s, hs, rfl⟩
  · rintro hnone h ⟨id, s, hs, rfl⟩
    exact hnone id s hs

theorem setFactory (hd : d.Current) (factory : Option HandlerFactory) :
    Current { d with factory } :=
  ⟨hd.sound.setFactory factory, hd.unheld, hd.subscribed, hd.none_vacant⟩

/-- Handlers go with the last of their subscriptions. -/
theorem removeWhere (hd : d.Current) (p : Subscription → Bool) : (d.removeWhere p).2.Current := by
  have ht := hd.sound.thinned_removeWhere p
  have hunheld : (d.removeWhere p).2.held = [] := ht.held_eq.trans hd.unheld
  refine { sound := ht.sound, unheld := hunheld, subscribed := ?_, none_vacant := ?_ }
  · intro key h hk
    obtain ⟨hold, hkept⟩ := ht.handler_iff.mp hk
    rcases hkept (Or.inl (hd.subscribed hold)) with hsubscribed | hheld
    · exact hsubscribed
    · rw [hunheld] at hheld
      cases hheld
  · intro src hvacant
    exact hd.none_vacant (ht.vacant_iff.mp hvacant)

theorem subscribed_insert {s : Subscription} (hnew : d.subscriptions[id]? = none)
    (hsubs : next.subscriptions = d.subscriptions.insert id s) :
    next.Subscribed k ↔ d.Subscribed k ∨ k = s.handler := by
  unfold Subscribed
  rw [hsubs]
  simp only [getElem?_insert_lawful]
  constructor
  · rintro ⟨id', s', hs, rfl⟩
    split at hs
    · cases hs
      exact Or.inr rfl
    · exact Or.inl ⟨id', s', hs, rfl⟩
  · rintro (⟨id', s', hs, rfl⟩ | rfl)
    · have hne : id ≠ id' := by
        rintro rfl
        rw [hnew] at hs
        cases hs
      exact ⟨id', s', by rw [if_neg hne, hs], rfl⟩
    · exact ⟨id, s, if_pos rfl, rfl⟩

theorem vacant_install (h : Handler) (hd : ∀ {src : EventSource}, d.sources[src]? ≠ some ∅) :
    (d.install h).sources[src]? ≠ some ∅ := by
  unfold install
  simp only
  rw [getElem?_insert_lawful]
  split
  · intro hempty
    have hmem : h.key ∈ (d.sources[h.key.source]?.getD ∅).insert h.key :=
      Std.ExtTreeSet.mem_insert_self
    rw [Option.some.inj hempty] at hmem
    exact Std.ExtTreeSet.not_mem_empty hmem
  · exact hd

/-- A subscription with a new name takes none from any handler. -/
theorem attach (hd : d.Current) (hnew : d.subscriptions[id]? = none) (session : SessionId)
    (key : HandlerKey) (receiver : Receiver) : (d.attach id session key receiver).Current := by
  have hsound := hd.sound.attach id session key receiver
  cases hlive : d.liveHandler? key with
  | some h =>
    rw [hd.sound.attach_of_some hlive] at hsound ⊢
    refine { sound := hsound, unheld := hd.unheld, subscribed := fun hk => ?_,
             none_vacant := hd.none_vacant }
    exact (subscribed_insert hnew rfl).mpr (Or.inl (hd.subscribed hk))
  | none =>
    rw [attach_of_none hlive] at hsound ⊢
    refine { sound := hsound, unheld := hd.unheld, subscribed := fun {x k} hk => ?_,
             none_vacant := vacant_install _ hd.none_vacant }
    refine (subscribed_insert hnew rfl).mpr ?_
    have hk' : (d.handlers.insert key ⟨d.nextSerial, key, receiver⟩)[x]? = some k := hk
    rw [getElem?_insert_lawful] at hk'
    split at hk'
    · cases hk'
      exact Or.inr rfl
    · exact Or.inl (hd.subscribed hk')

end Current

/-! ## Inputs -/

/-- What an input does to a dispatcher if it is not from outside. -/
inductive Turns (d : Dispatcher) (i : EventInput) : Dispatcher → Prop where
  | same : Turns d i d
  | installed (f : HandlerFactory) : Turns d i { d with factory := some f }
  | attached {id : SubscriptionId} (hid : i.added? = some id) (session : SessionId)
      (key : HandlerKey) (receiver : Receiver) : Turns d i (d.attach id session key receiver)
  | removed (p : Subscription → Bool) : Turns d i (d.removeWhere p).2

theorem Turns.current (h : Turns d i next) (hd : d.Current)
    (hnew : ∀ id, i.added? = some id → d.subscriptions[id]? = none) : next.Current := by
  cases h with
  | same => exact hd
  | installed f => exact hd.setFactory (some f)
  | attached hid session key receiver => exact hd.attach (hnew _ hid) session key receiver
  | removed p => exact hd.removeWhere p

/-- A subscription was there before, or the input names it. -/
theorem Turns.subscription (h : Turns d i next) {s : Subscription}
    (hs : next.subscriptions[id]? = some s) :
    d.subscriptions[id]? = some s ∨ i.added? = some id := by
  cases h with
  | same | installed => exact Or.inl hs
  | @attached id' hid session key receiver =>
    obtain ⟨sub, -, hsubs⟩ := d.subscriptions_attach id' session key receiver
    rw [hsubs, getElem?_insert_lawful] at hs
    split at hs
    · next heq => exact Or.inr (heq ▸ hid)
    · exact Or.inl hs
  | removed p => exact Or.inl (getElem?_removeWhere_eq_some.mp hs).1

end Dispatcher

/-! ## Runs -/

namespace Exchange

open Dispatcher (Turns)

theorem turns_step (x : Exchange) {i : EventInput} (hi : ¬ i.Outside) :
    Turns x.dispatcher i (x.step i).dispatcher := by
  cases i with
  | install f => exact .installed f
  | subscribe object session eventType id =>
    unfold step
    simp only
    split
    · exact .same
    · exact .attached rfl session _ _
    · exact .same
  | built n id receiver =>
    unfold step
    simp only
    split
    · exact .same
    · exact .attached rfl _ _ receiver
  | refused n => exact .same
  | connect object session eventType id receiver => exact .attached rfl session _ receiver
  | unsubscribe object session id =>
    unfold step
    simp only
    cases hok : x.dispatcher.unsubscribe object session id with
    | error e => exact .same
    | ok next =>
      obtain ⟨-, rfl⟩ := Dispatcher.unsubscribe_ok hok
      exact .removed _
  | dropSession session => exact .removed _
  | dropObject object => exact .removed _
  | take | letGo | share => exact absurd trivial hi

/-- With new names for new subscriptions, and nobody outside, everything known is current. -/
theorem current_run {inputs : List EventInput} (hinside : ∀ i ∈ inputs, ¬ i.Outside)
    (hdistinct : (inputs.filterMap EventInput.added?).Nodup) :
    (run inputs).dispatcher.Current ∧ ∀ (id : SubscriptionId) (s : Subscription),
      (run inputs).dispatcher.subscriptions[id]? = some s →
        id ∈ inputs.filterMap EventInput.added? := by
  induction inputs using List.reverseRecOn with
  | nil => exact ⟨Dispatcher.current_empty, fun id s hs => by cases hs⟩
  | append_singleton inputs i ih =>
    rw [List.filterMap_append] at hdistinct ⊢
    obtain ⟨hbefore, -, hapart⟩ := List.nodup_append.mp hdistinct
    obtain ⟨hcurrent, hnames⟩ := ih (fun j hj => hinside j (List.mem_append_left _ hj)) hbefore
    have hturns := (run inputs).turns_step
      (hinside i (List.mem_append_right _ (List.mem_singleton_self i)))
    have hadded : ∀ id, i.added? = some id → id ∈ [i].filterMap EventInput.added? :=
      fun id hid => List.mem_filterMap.mpr ⟨i, List.mem_singleton_self i, hid⟩
    rw [run_succ]
    refine ⟨hturns.current hcurrent fun id hid => ?_, fun id s hs => ?_⟩
    · rw [Option.eq_none_iff_forall_ne_some]
      intro s hs
      exact hapart id (hnames id s hs) id (hadded id hid) rfl
    · rw [List.mem_append]
      rcases hturns.subscription hs with hold | hid
      · exact Or.inl (hnames id s hold)
      · exact Or.inr (hadded id hid)

/-- Every key is that of its subscription, under one scope or the other. -/
theorem keys_run {inputs : List EventInput} (hinside : ∀ i ∈ inputs, ¬ i.Outside) :
    (run inputs).Fits fun key session => key.session = some session ∨ key.session = none := by
  induction inputs using List.reverseRecOn with
  | nil => exact ⟨fun hs => (by cases hs), fun hh => (by cases hh), fun hb => (by cases hb)⟩
  | append_singleton inputs i ih =>
    have hi := hinside i (List.mem_append_right _ (List.mem_singleton_self i))
    rw [run_succ]
    refine (ih fun j hj => hinside j (List.mem_append_left _ hj)).step (sound_run inputs) ?_ ?_
    · intro _ object session eventType
      unfold Dispatcher.keyFor
      cases (run inputs).dispatcher.scope with
      | session => exact Or.inl rfl
      | broadcast => exact Or.inr rfl
    · intro hshares
      cases i with
      | share => exact absurd trivial hi
      | _ => cases hshares

end Exchange

/-! ## Handlers and subscriptions -/

namespace Dispatcher

variable {d : Dispatcher} {h : Handler} {key : HandlerKey}

/-- The keys that subscriptions have handlers under, each once. -/
def subscribedKeys (d : Dispatcher) : List HandlerKey :=
  (d.subscriptions.toList.map (·.2.handler.key)).dedup

theorem mem_subscribedKeys : key ∈ d.subscribedKeys ↔ ∃ h, h.key = key ∧ d.Subscribed h := by
  unfold subscribedKeys
  rw [List.mem_dedup, List.mem_map]
  simp only [Prod.exists, Std.ExtTreeMap.mem_toList_iff_getElem?_eq_some]
  constructor
  · rintro ⟨id, s, hs, hkey⟩
    exact ⟨s.handler, hkey, id, s, hs, rfl⟩
  · rintro ⟨h, hkey, id, s, hs, rfl⟩
    exact ⟨id, s, hs, hkey⟩

/-- Handlers live and die with their subscriptions. -/
structure FollowsSubscriptions (d : Dispatcher) : Prop where
  /-- A handler is live exactly while a subscription has it, and no key has two. -/
  live_iff : ∀ key h, d.liveHandler? key = some h ↔ h.key = key ∧ d.Subscribed h
  unique : ∀ h k, d.Subscribed h → d.Subscribed k → h.key = k.key → h = k
  /-- A key has the object and the event type of the subscription, and its session unless it was
  made for all sessions. -/
  key_eq : ∀ (id : SubscriptionId) (s : Subscription), d.subscriptions[id]? = some s →
    ∃ scope, s.handler.key = .under scope s.object s.session s.eventType
  count_eq : d.handlerCount = d.subscribedKeys.length
  /-- The table has live handlers only, and each of them. -/
  known_iff : ∀ (key : HandlerKey) (h : Handler),
    d.handlers[key]? = some h ↔ d.liveHandler? key = some h
  /-- The index has the keys of live handlers, and no set of it is empty. -/
  indexed_iff : ∀ src key, d.Indexed src key ↔
    key.source = src ∧ ∃ h, d.liveHandler? key = some h
  none_empty : ∀ (src : EventSource) (keys : Std.ExtTreeSet HandlerKey),
    d.sources[src]? = some keys → keys.isEmpty = false

theorem Current.isLive (hd : d.Current) (hk : d.handlers[key]? = some h) : d.isLive h = true :=
  isLive_of_owned (Or.inl (hd.subscribed hk))

/-- The live handlers are counted by the keys of the subscriptions. -/
theorem Current.handlerCount_eq (hd : d.Current) : d.handlerCount = d.subscribedKeys.length := by
  have hall : (d.handlers.toList.filter fun p => d.isLive p.2) = d.handlers.toList := by
    refine List.filter_eq_self.mpr fun p hp => ?_
    exact hd.isLive (Std.ExtTreeMap.mem_toList_iff_getElem?_eq_some.mp hp)
  have hnodup : d.subscribedKeys.Nodup := List.nodup_dedup _
  have hperm : d.handlers.keys.Perm d.subscribedKeys := by
    refine (List.perm_ext_iff_of_nodup Std.ExtTreeMap.nodup_keys hnodup).mpr fun key => ?_
    rw [Std.ExtTreeMap.mem_keys, Std.ExtTreeMap.mem_iff_isSome_getElem?, mem_subscribedKeys,
      hd.handlers_eq, Option.isSome_iff_exists]
    simp only [hd.liveHandler?_eq_some]
  unfold handlerCount
  rw [hall, ← hperm.length_eq, ← Std.ExtTreeMap.map_fst_toList_eq_keys, List.length_map]

theorem Current.followsSubscriptions (hd : d.Current)
    (hkeys : ∀ {id : SubscriptionId} {s : Subscription}, d.subscriptions[id]? = some s →
      s.handler.key.session = some s.session ∨ s.handler.key.session = none) :
    d.FollowsSubscriptions where
  live_iff _ _ := hd.liveHandler?_eq_some
  unique := by
    intro h k hh hk hkey
    have hlive := hd.liveHandler?_eq_some.mpr ⟨hkey, hh⟩
    rw [hd.liveHandler?_eq_some.mpr ⟨rfl, hk⟩] at hlive
    exact (Option.some.inj hlive).symm
  key_eq := by
    intro id s hs
    have hsource := hd.sound.source_eq hs
    obtain ⟨hobject, htype⟩ := (EventSource.mk.injEq _ _ _ _).mp hsource
    rcases hkeys hs with hsession | hsession
    · exact ⟨.session, (HandlerKey.mk.injEq _ _ _ _ _ _).mpr ⟨hobject.symm, htype.symm, hsession⟩⟩
    · exact ⟨.broadcast,
        (HandlerKey.mk.injEq _ _ _ _ _ _).mpr ⟨hobject.symm, htype.symm, hsession⟩⟩
  count_eq := hd.handlerCount_eq
  known_iff := by
    intro key h
    rw [hd.handlers_eq]
  indexed_iff := by
    intro src key
    rw [hd.sound.indexed, Std.ExtTreeMap.mem_iff_isSome_getElem?, hd.handlers_eq,
      Option.isSome_iff_exists]
  none_empty := by
    intro src keys hkeys
    by_contra hempty
    rw [Bool.not_eq_false, Std.ExtTreeSet.isEmpty_iff] at hempty
    exact hd.none_vacant (hempty ▸ hkeys)

end Dispatcher

/-! ## Builds -/

namespace Exchange

variable {x : Exchange}

/-- A subscription that nothing comes in between of shares the handler of its key if a subscription
has one, and has one built otherwise. -/
structure BuildsWhereNeeded (x : Exchange) (f : HandlerFactory) (object : ObjectId)
    (session : SessionId) (eventType : String) : Prop where
  shared : ∀ (id k : SubscriptionId) (s : Subscription), x.dispatcher.subscriptions[k]? = some s →
    s.handler.key = .under f.scope object session eventType →
      (x.step (.subscribe object session eventType id)).building = x.building ∧
        (x.step (.subscribe object session eventType id)).dispatcher.subscriptions =
          x.dispatcher.subscriptions.insert id ⟨id, object, eventType, session, s.handler⟩
  /-- The build begins, and once it has ended the handler is a new one. -/
  built : (∀ (k : SubscriptionId) (s : Subscription), x.dispatcher.subscriptions[k]? = some s →
      s.handler.key ≠ .under f.scope object session eventType) →
    ∀ id id' receiver, ∃ h : Handler, h.receiver = receiver ∧
      h.key = .under f.scope object session eventType ∧
      (∀ k, x.dispatcher.Subscribed k → k.serial ≠ h.serial) ∧
      x.step (.subscribe object session eventType id) =
        { x with building := x.building ++ [⟨h.key, session⟩] } ∧
      let y := (x.step (.subscribe object session eventType id)).step
        (.built x.building.length id' receiver)
      y.building = x.building ∧ y.dispatcher.subscriptions =
        x.dispatcher.subscriptions.insert id' ⟨id', object, eventType, session, h⟩
  /-- The same in one call, where the factory builds on its own. -/
  told : ∀ params key receiver built,
    x.dispatcher.receiverFor object session eventType params = .ok (key, receiver, built) →
      key = .under f.scope object session eventType ∧
        (built = true ↔ ∀ (k : SubscriptionId) (s : Subscription),
          x.dispatcher.subscriptions[k]? = some s → s.handler.key ≠ key)

theorem buildsWhereNeeded (hd : x.dispatcher.Current) {f : HandlerFactory}
    (hf : x.dispatcher.factory = some f) (object : ObjectId) (session : SessionId)
    (eventType : String) : x.BuildsWhereNeeded f object session eventType where
  shared := by
    intro id k s hs hkey
    have hlive := hd.liveHandler?_eq_some.mpr ⟨hkey, k, s, hs, rfl⟩
    unfold step
    simp only [Dispatcher.supply_of_live hf hlive]
    rw [hd.sound.attach_of_some hlive]
    exact ⟨trivial, rfl⟩
  built := by
    intro hnone id id' receiver
    have hdead := hd.liveHandler?_eq_none.mpr hnone
    have hstep : x.step (.subscribe object session eventType id) =
        { x with
          building :=
            x.building ++ [⟨.under f.scope object session eventType, session⟩] } := by
      unfold step
      simp only [Dispatcher.supply_of_dead hf hdead]
    refine ⟨⟨x.dispatcher.nextSerial, .under f.scope object session eventType, receiver⟩, rfl, rfl,
      fun k hk => ?_, hstep, ?_⟩
    · exact Nat.ne_of_lt (hd.sound.serial_lt (hd.sound.known (Or.inl hk)))
    · rw [hstep]
      unfold step
      simp only [List.getElem?_concat_length, List.eraseIdx_append_of_length_le (Nat.le_refl _),
        Nat.sub_self, List.eraseIdx_zero, List.tail_cons, List.append_nil]
      rw [Dispatcher.attach_of_none hdead]
      exact ⟨trivial, rfl⟩
  told := by
    intro params key receiver built hok
    unfold Dispatcher.receiverFor at hok
    cases hlive : x.dispatcher.liveHandler? (.under f.scope object session eventType) with
    | some h =>
      rw [Dispatcher.supply_of_live hf hlive] at hok
      cases hok
      obtain ⟨hkey, k, s, hs, rfl⟩ := hd.liveHandler?_eq_some.mp hlive
      exact ⟨rfl, iff_of_false Bool.false_ne_true fun hnone => hnone k s hs hkey⟩
    | none =>
      rw [Dispatcher.supply_of_dead hf hlive] at hok
      simp only at hok
      split at hok
      · cases hok
      · cases hok
        exact ⟨rfl, iff_of_true rfl (hd.liveHandler?_eq_none.mp hlive)⟩

end Exchange

/-- Whatever was asked of a dispatcher while nobody held a handler outside, its handlers follow its
subscriptions, and a subscription that nothing comes in between of builds one exactly where none has
its key. No name is given to two subscriptions. -/
theorem handlers_follow_subscriptions {inputs : List EventInput}
    (hinside : ∀ i ∈ inputs, ¬ i.Outside)
    (hdistinct : (inputs.filterMap EventInput.added?).Nodup) :
    let x := Exchange.run inputs
    x.dispatcher.FollowsSubscriptions ∧
      ∀ f, x.dispatcher.factory = some f → ∀ object session eventType,
        x.BuildsWhereNeeded f object session eventType := by
  intro x
  have hcurrent := (Exchange.current_run hinside hdistinct).1
  refine ⟨hcurrent.followsSubscriptions (Exchange.keys_run hinside).subscribed, ?_⟩
  intro f hf object session eventType
  exact Exchange.buildsWhereNeeded hcurrent hf object session eventType

namespace Sample

def player : ObjectId := ⟨"player"⟩

def host : SessionId := ⟨"host"⟩

def viewer : SessionId := ⟨"viewer"⟩

/-- Two builds for one key overlap, and the one that ends last is not needed; then handlers become
public, and the session that had the first one goes. -/
def reentrant : List EventInput :=
  [.install .silent,
    .subscribe player host "Played" ⟨"1"⟩,
    .subscribe player host "Played" ⟨"2"⟩,
    .built 1 ⟨"3"⟩ (.named "late"),
    .built 0 ⟨"4"⟩ (.named "early"),
    .install (.steered .broadcast),
    .connect player viewer "Played" ⟨"5"⟩ .silent,
    .unsubscribe player host ⟨"3"⟩,
    .dropSession host]

end Sample

theorem handlers_follow_subscriptions_overlapping :
    (∀ i ∈ Sample.reentrant, ¬ i.Outside) ∧
      (Sample.reentrant.filterMap EventInput.added?).Nodup ∧
      (Exchange.run Sample.reentrant).dispatcher.FollowsSubscriptions ∧
      (Exchange.run (Sample.reentrant.take 8)).dispatcher.subscribedKeys.length = 2 := by
  have hinside : ∀ i ∈ Sample.reentrant, ¬ i.Outside := by
    simp [Sample.reentrant, EventInput.Outside]
  have hdistinct : (Sample.reentrant.filterMap EventInput.added?).Nodup := by decide +kernel
  exact ⟨hinside, hdistinct, (handlers_follow_subscriptions hinside hdistinct).1, by decide +kernel⟩

end MediaPlane
