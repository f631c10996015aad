import Mathlib.Data.List.Dedup
import Mathlib.Data.List.Induction
import MediaPlane.ControlPlane.State
import MediaPlane.Proofs.Event.Handlers

/-
  Delivery. A dispatcher is driven by whoever embeds it: subscriptions come and go, handlers are
  connected, held outside, let go and shared, and factories are installed. Building a handler takes
  calls of its own, so any other input may come between the beginning and the end of a build, also
  another build for the same key; `Exchange` keeps the builds under way. Whatever the inputs were,
  an event reaches each handler of its source that somebody has exactly once, and no other
  (`delivered_exactly_once`).
-/

namespace MediaPlane

/-! ## Inputs -/

/-- A subscription whose handler is being built. -/
structure Building where
  key : HandlerKey
  session : SessionId

/-- A dispatcher, and the subscriptions that wait for their handlers. -/
structure Exchange where
  dispatcher : Dispatcher := {}
  building : List Building := []

/-- What can be asked of a dispatcher. -/
inductive EventInput where
  | install (factory : HandlerFactory)
  /-- Subscribes to the live handler of a key, or begins to build one. -/
  | subscribe (object : ObjectId) (session : SessionId) (eventType : String)
      (id : SubscriptionId)
  /-- The build of a number ends with a handler. -/
  | built (n : Nat) (id : SubscriptionId) (receiver : Receiver)
  /-- The build of a number ends without one. -/
  | refused (n : Nat)
  | connect (object : ObjectId) (session : SessionId) (eventType : String)
      (id : SubscriptionId) (receiver : Receiver)
  /-- Takes hold of the live handler that a subscription would share. -/
  | take (object : ObjectId) (session : SessionId) (eventType : String)
  | letGo (handler : Handler)
  /-- Subscribes with a handler that is held. -/
  | share (object : ObjectId) (session : SessionId) (id : SubscriptionId) (handler : Handler)
  | unsubscribe (object : ObjectId) (session : SessionId) (id : SubscriptionId)
  | dropSession (session : SessionId)
  | dropObject (object : ObjectId)

namespace EventInput

/-- The input makes the key of a handler. -/
def MakesKey : EventInput → Prop
  | subscribe .. | connect .. => True
  | _ => False

/-- The input subscribes with a handler of the caller's choice. -/
def Shares : EventInput → Prop
  | share .. => True
  | _ => False

end EventInput

namespace Exchange

def step (x : Exchange) : EventInput → Exchange
  | .install f => { x with dispatcher := { x.dispatcher with factory := some f } }
  | .subscribe object session eventType id =>
    match x.dispatcher.supply object session eventType with
    | .error _ => x
    | .ok (key, .shared h) => { x with dispatcher := x.dispatcher.attach id session key h.receiver }
    | .ok (key, .built _) => { x with building := x.building ++ [⟨key, session⟩] }
  | .built n id receiver =>
    match x.building[n]? with
    | none => x
    | some b =>
      { dispatcher := x.dispatcher.attach id b.session b.key receiver
        building := x.building.eraseIdx n }
  | .refused n => { x with building := x.building.eraseIdx n }
  | .connect object session eventType id receiver =>
    let key := x.dispatcher.keyFor object session eventType
    { x with dispatcher := x.dispatcher.attach id session key receiver }
  | .take object session eventType =>
    match x.dispatcher.lookup? object session eventType with
    | some h => { x with dispatcher := x.dispatcher.hold h }
    | none => x
  | .letGo h => { x with dispatcher := x.dispatcher.letGo h }
  | .share object session id h =>
    if h ∈ x.dispatcher.held then
      { x with
        dispatcher := (x.dispatcher.share object session id h).toOption.getD x.dispatcher }
    else x
  | .unsubscribe object session id =>
    { x with
      dispatcher := (x.dispatcher.unsubscribe object session id).toOption.getD x.dispatcher }
  | .dropSession session => { x with dispatcher := (x.dispatcher.dropSession session).2 }
  | .dropObject object => { x with dispatcher := (x.dispatcher.dropObject object).2 }

/-- What comes of a list of inputs. -/
def run (inputs : List EventInput) : Exchange := inputs.foldl step {}

theorem run_succ (inputs : List EventInput) (i : EventInput) :
    run (inputs ++ [i]) = (run inputs).step i := by
  unfold run
  rw [List.foldl_append]
  rfl

variable {x : Exchange} {i : EventInput}

/-! ## Every step keeps the books -/

theorem sound_step (hx : x.dispatcher.Sound) (i : EventInput) : (x.step i).dispatcher.Sound := by
  cases i with
  | install f => exact hx.setFactory (some f)
  | subscribe object session eventType id =>
    unfold step
    simp only
    split
    · exact hx
    · exact hx.attach id session _ _
    · exact hx
  | built n id receiver =>
    unfold step
    simp only
    split
    · exact hx
    · exact hx.attach id _ _ receiver
  | refused n => exact hx
  | connect object session eventType id receiver => exact hx.attach id session _ receiver
  | take object session eventType =>
    unfold step
    simp only
    split
    · next h hlook => exact hx.hold (hx.liveHandler?_eq_some.mp hlook).2
    · exact hx
  | letGo h => exact hx.letGo h
  | share object session id h =>
    unfold step
    simp only
    split
    · next hheld =>
      cases hok : x.dispatcher.share object session id h with
      | error e => exact hx
      | ok next => exact hx.share hheld hok
    · exact hx
  | unsubscribe object session id =>
    unfold step
    simp only
    cases hok : x.dispatcher.unsubscribe object session id with
    | error e => exact hx
    | ok next => exact hx.unsubscribe hok
  | dropSession session => exact hx.removeWhere _
  | dropObject object => exact hx.removeWhere _

theorem sound_run (inputs : List EventInput) : (run inputs).dispatcher.Sound := by
  induction inputs using List.reverseRecOn with
  | nil => exact Dispatcher.sound_empty
  | append_singleton inputs i ih =>
    rw [run_succ]
    exact sound_step ih i

end Exchange

/-! ## What is delivered -/

namespace Dispatcher

variable {d : Dispatcher} {e : Event}

/-- An event reaches each handler of its source that somebody has, once, and nobody else; and
whoever raises it is told how many it reached. -/
structure DeliversOnce (d : Dispatcher) (e : Event) : Prop where
  event_eq : ∀ δ ∈ d.dispatch e, δ.event = e
  nodup : ((d.dispatch e).map (·.handler.serial)).Nodup
  mem_iff : ∀ h, h ∈ (d.dispatch e).map (·.handler) ↔ h.key.source = e.source ∧ d.Owned h
  /-- However many subscriptions share it, and whoever else has it. -/
  subscribed : ∀ {id : SubscriptionId} {s : Subscription}, d.subscriptions[id]? = some s →
    s.source = e.source → ((d.dispatch e).map (·.handler)).count s.handler = 1
  counted : ∀ cp : ControlPlane, cp.dispatcher = d →
    (cp.raise e).1 = (d.dispatch e).length ∧
      (cp.raise e).2.journal.deliveries = cp.journal.deliveries ++ d.dispatch e

theorem map_handler_dispatch (d : Dispatcher) (e : Event) :
    (d.dispatch e).map (·.handler) = d.targets e.source := by
  unfold dispatch
  rw [List.map_map]
  exact List.map_id _

theorem length_dispatch (d : Dispatcher) (e : Event) :
    (d.dispatch e).length = (d.targets e.source).length := List.length_map _

theorem Sound.deliversOnce (hd : d.Sound) (e : Event) : d.DeliversOnce e where
  event_eq := by
    intro δ hδ
    obtain ⟨h, -, rfl⟩ := List.mem_map.mp hδ
    rfl
  nodup := by
    have hserials : (d.dispatch e).map (·.handler.serial) =
        (d.targets e.source).map (·.serial) := by
      rw [← map_handler_dispatch, List.map_map]
      rfl
    rw [hserials]
    exact hd.nodup_serials e.source
  mem_iff := by
    intro h
    rw [map_handler_dispatch]
    exact hd.mem_targets
  subscribed := by
    intro id s hs hsrc
    rw [map_handler_dispatch]
    refine List.count_eq_one_of_mem (hd.nodup_targets e.source) (hd.mem_targets.mpr ⟨?_, ?_⟩)
    · exact (hd.source_eq hs).symm.trans hsrc
    · exact Or.inl ⟨id, s, hs, rfl⟩
  counted := by
    rintro cp rfl
    exact ⟨rfl, rfl⟩

/-- The sessions with a subscription to a source, each once. -/
def audience (d : Dispatcher) (src : EventSource) : List SessionId :=
  ((d.subscriptions.toList.filter fun p => p.2.source = src).map (·.2.session)).dedup

theorem mem_audience {src : EventSource} {session : SessionId} :
    session ∈ d.audience src ↔
      ∃ (id : SubscriptionId) (s : Subscription), d.subscriptions[id]? = some s ∧
        s.source = src ∧ s.session = session := by
  unfold audience
  rw [List.mem_dedup, List.mem_map]
  simp only [List.mem_filter, decide_eq_true_eq, Prod.exists,
    Std.ExtTreeMap.mem_toList_iff_getElem?_eq_some, and_assoc]

/-- A key is known by its source and its session. -/
theorem key_ext {h k : Handler} (hsrc : h.key.source = k.key.source)
    (hsession : h.key.session = k.key.session) : h.key = k.key := by
  obtain ⟨object, eventType⟩ := (EventSource.mk.injEq _ _ _ _).mp hsrc
  exact (HandlerKey.mk.injEq _ _ _ _ _ _).mpr ⟨object, eventType, hsession⟩

/-- Where every handler belongs to the session that subscribes, each session has one target. -/
theorem Sound.length_targets_personal (hd : d.Sound) (hheld : d.held = [])
    (hpersonal : ∀ {id : SubscriptionId} {s : Subscription}, d.subscriptions[id]? = some s →
      s.handler.key.session = some s.session) (src : EventSource) :
    (d.targets src).length = (d.audience src).length := by
  have howned : ∀ h, d.Owned h ↔ d.Subscribed h := fun h => by
    unfold Owned
    rw [hheld]
    exact or_iff_left List.not_mem_nil
  have hnodup : ((d.targets src).map (·.key.session)).Nodup := by
    refine List.Nodup.map_on ?_ (hd.nodup_targets src)
    intro h hh k hk hsession
    obtain ⟨hsrc, hown⟩ := hd.mem_targets.mp hh
    obtain ⟨hsrc', hown'⟩ := hd.mem_targets.mp hk
    have hkey := key_ext (hsrc.trans hsrc'.symm) hsession
    have hknown := hd.known hown
    rw [hkey, hd.known hown'] at hknown
    exact (Option.some.inj hknown).symm
  have haudience : ((d.audience src).map some).Nodup :=
    (List.nodup_dedup _).map fun _ _ => Option.some.inj
  have hperm : ((d.targets src).map (·.key.session)).Perm ((d.audience src).map some) := by
    refine (List.perm_ext_iff_of_nodup hnodup haudience).mpr fun session? => ?_
    simp only [List.mem_map, hd.mem_targets, howned, mem_audience]
    constructor
    · rintro ⟨h, ⟨hsrc, id, s, hs, rfl⟩, rfl⟩
      exact ⟨s.session, ⟨id, s, hs, (hd.source_eq hs).trans hsrc, rfl⟩, (hpersonal hs).symm⟩
    · rintro ⟨session, ⟨id, s, hs, hsrc, rfl⟩, rfl⟩
      exact ⟨s.handler, ⟨(hd.source_eq hs).symm.trans hsrc, id, s, hs, rfl⟩, hpersonal hs⟩
  have hlength := hperm.length_eq
  rw [List.length_map, List.length_map] at hlength
  exact hlength

/-- Where no handler belongs to a session, a source has one target at most. -/
theorem Sound.length_targets_public (hd : d.Sound)
    (hpublic : ∀ h, d.Owned h → h.key.session = none) (src : EventSource) :
    (d.targets src).length ≤ 1 := by
  have hsame : ∀ h ∈ d.targets src, ∀ k ∈ d.targets src, k = h := by
    intro h hh k hk
    obtain ⟨hsrc, hown⟩ := hd.mem_targets.mp hh
    obtain ⟨hsrc', hown'⟩ := hd.mem_targets.mp hk
    have hkey := key_ext (hsrc.trans hsrc'.symm) ((hpublic h hown).trans (hpublic k hown').symm)
    have hknown := hd.known hown
    rw [hkey, hd.known hown'] at hknown
    exact Option.some.inj hknown
  have hnodup := hd.nodup_targets src
  match htargets : d.targets src with
  | [] => exact Nat.zero_le 1
  | h :: hs =>
    rw [htargets] at hsame hnodup
    have hrepeat := List.eq_replicate_of_mem (hsame h List.mem_cons_self)
    rw [hrepeat, List.nodup_replicate] at hnodup
    exact hnodup

end Dispatcher

/-! ## Keys and who they are made for -/

namespace Exchange

variable {x : Exchange} {i : EventInput} {R : HandlerKey → SessionId → Prop}

/-- Every key that is in use stands in a relation to the session that it was made for. -/
structure Fits (x : Exchange) (R : HandlerKey → SessionId → Prop) : Prop where
  subscribed : ∀ {id : SubscriptionId} {s : Subscription},
    x.dispatcher.subscriptions[id]? = some s → R s.handler.key s.session
  held : ∀ {h : Handler}, h ∈ x.dispatcher.held → ∃ session, R h.key session
  building : ∀ {b : Building}, b ∈ x.building → R b.key b.session

theorem Fits.owned (hf : x.Fits R) {h : Handler} (hown : x.dispatcher.Owned h) :
    ∃ session, R h.key session := by
  rcases hown with ⟨id, s, hs, rfl⟩ | hheld
  · exact ⟨s.session, hf.subscribed hs⟩
  · exact hf.held hheld

/-- The same holders and builds with fewer subscriptions. -/
theorem Fits.removeWhere (hf : x.Fits R) (p : Subscription → Bool) :
    Fits { x with dispatcher := (x.dispatcher.removeWhere p).2 } R where
  subscribed := fun hs =>
    hf.subscribed (Dispatcher.getElem?_removeWhere_eq_some.mp hs).1
  held := by
    intro h hheld
    rw [Dispatcher.held_removeWhere] at hheld
    exact hf.held hheld
  building := hf.building

/-- One more subscription, with a key that stands in the relation to its session. -/
theorem Fits.added (hf : x.Fits R) {next : Dispatcher} {id : SubscriptionId} {s : Subscription}
    (hsubs : next.subscriptions = x.dispatcher.subscriptions.insert id s)
    (hheld : next.held = x.dispatcher.held) (hR : R s.handler.key s.session) :
    Fits { x with dispatcher := next } R where
  subscribed := by
    intro id' s' hs
    have hs' : next.subscriptions[id']? = some s' := hs
    rw [hsubs, getElem?_insert_lawful] at hs'
    split at hs'
    · cases hs'
      exact hR
    · exact hf.subscribed hs'
  held := fun hmem => hf.held (hheld ▸ hmem)
  building := hf.building

theorem Fits.attach (hf : x.Fits R) (hx : x.dispatcher.Sound) (id : SubscriptionId)
    {session : SessionId} {key : HandlerKey} (receiver : Receiver) (hR : R key session) :
    Fits { x with dispatcher := x.dispatcher.attach id session key receiver } R := by
  obtain ⟨h, hlive, hsubs, hheld⟩ := x.dispatcher.attach_eq id session key receiver
  have hkey : h.key = key := hlive.elim (fun hl => (hx.liveHandler?_eq_some.mp hl).1) fun hk => hk
  exact hf.added hsubs hheld (hkey ▸ hR)

theorem Fits.hold (hf : x.Fits R) {h : Handler} (hown : x.dispatcher.Owned h) :
    Fits { x with dispatcher := x.dispatcher.hold h } R where
  subscribed := hf.subscribed
  held := by
    intro k hk
    rcases List.mem_cons.mp hk with rfl | hk
    · exact hf.owned hown
    · exact hf.held hk
  building := hf.building

/-- A build for one more session. -/
theorem Fits.built (hf : x.Fits R) {key : HandlerKey} {session : SessionId} (hR : R key session) :
    Fits { x with building := x.building ++ [⟨key, session⟩] } R where
  subscribed := hf.subscribed
  held := hf.held
  building := by
    intro b hb
    rcases List.mem_append.mp hb with hold | hnew
    · exact hf.building hold
    · cases List.mem_singleton.mp hnew
      exact hR

theorem Fits.step (hf : x.Fits R) (hx : x.dispatcher.Sound)
    (hmakes : i.MakesKey → ∀ object session eventType,
      R (x.dispatcher.keyFor object session eventType) session)
    (hshares : i.Shares → ∀ {key session session'}, R key session → R key session') :
    (x.step i).Fits R := by
  cases i with
  | install f => exact ⟨hf.subscribed, hf.held, hf.building⟩
  | subscribe object session eventType id =>
    unfold Exchange.step
    simp only
    have hR := hmakes trivial object session eventType
    split
    · exact hf
    · next hs => exact hf.attach hx id _ ((Dispatcher.supply_shared hs).1 ▸ hR)
    · next hs => exact hf.built ((Dispatcher.supply_built hs).1 ▸ hR)
  | built n id receiver =>
    unfold Exchange.step
    simp only
    split
    · exact hf
    · next b hb =>
      have hrest : Fits { x with building := x.building.eraseIdx n } R :=
        ⟨hf.subscribed, hf.held, fun hb => hf.building (List.mem_of_mem_eraseIdx hb)⟩
      exact hrest.attach hx id receiver (hf.building (List.mem_of_getElem? hb))
  | refused n =>
    exact ⟨hf.subscribed, hf.held, fun hb => hf.building (List.mem_of_mem_eraseIdx hb)⟩
  | connect object session eventType id receiver =>
    exact hf.attach hx id receiver (hmakes trivial object session eventType)
  | take object session eventType =>
    unfold Exchange.step
    simp only
    split
    · next h hlook => exact hf.hold (hx.liveHandler?_eq_some.mp hlook).2
    · exact hf
  | letGo h => exact ⟨hf.subscribed, fun hk => hf.held (List.mem_of_mem_erase hk), hf.building⟩
  | share object session id h =>
    unfold Exchange.step
    simp only
    split
    · next hheld =>
      cases hok : x.dispatcher.share object session id h with
      | error e => exact hf
      | ok next =>
        obtain ⟨session', hR⟩ := hf.held hheld
        obtain ⟨hsubs, hkeep⟩ := Dispatcher.share_ok hok
        exact hf.added hsubs hkeep (hshares trivial hR)
    · exact hf
  | unsubscribe object session id =>
    unfold Exchange.step
    simp only
    cases hok : x.dispatcher.unsubscribe object session id with
    | error e => exact hf
    | ok next =>
      obtain ⟨-, rfl⟩ := Dispatcher.unsubscribe_ok hok
      exact hf.removeWhere _
  | dropSession session => exact hf.removeWhere _
  | dropObject object => exact hf.removeWhere _

/-- Every key was made under one scope. Until a factory is installed that is the session's. -/
def UsesOnly (scope : HandlerScope) (inputs : List EventInput) : Prop :=
  ∀ before i after, inputs = before ++ i :: after → i.MakesKey →
    (run before).dispatcher.scope = scope

theorem UsesOnly.of_append {scope : HandlerScope} {inputs more : List EventInput}
    (h : UsesOnly scope (inputs ++ more)) : UsesOnly scope inputs := by
  intro before i after heq hmakes
  exact h before i (after ++ more) (by rw [heq, List.append_assoc]; rfl) hmakes

theorem fits_run {scope : HandlerScope}
    (hR : ∀ object session eventType, R (.under scope object session eventType) session)
    {inputs : List EventInput} (huses : UsesOnly scope inputs)
    (hshares : ∀ i ∈ inputs, i.Shares → ∀ {key session session'}, R key session → R key session') :
    (run inputs).Fits R := by
  induction inputs using List.reverseRecOn with
  | nil =>
    constructor
    case subscribed =>
      intro id s hs
      cases hs
    case held =>
      intro h hh
      cases hh
    case building =>
      intro b hb
      cases hb
  | append_singleton inputs i ih =>
    have hbefore := ih huses.of_append fun j hj => hshares j (List.mem_append_left _ hj)
    rw [run_succ]
    refine hbefore.step (sound_run inputs) (fun hmakes object session eventType => ?_)
      (hshares i (List.mem_append_right _ (List.mem_singleton.mpr rfl)))
    unfold Dispatcher.keyFor
    rw [huses inputs i [] rfl hmakes]
    exact hR object session eventType

end Exchange

/-- Whatever was asked of a dispatcher, it delivers an event once to each handler of the event's
source that somebody has. With handlers per session, none of them shared or held, it reaches one
handler per session that subscribes; with broadcast handlers it reaches one in all. -/
theorem delivered_exactly_once (inputs : List EventInput) (e : Event) :
    let d := (Exchange.run inputs).dispatcher
    d.DeliversOnce e ∧
      (Exchange.UsesOnly .session inputs → (∀ i ∈ inputs, ¬ i.Shares) → d.held = [] →
        (d.dispatch e).length = (d.audience e.source).length) ∧
      (Exchange.UsesOnly .broadcast inputs →
        (d.audience e.source ≠ [] → (d.dispatch e).length = 1) ∧
        (d.audience e.source = [] → d.held = [] → (d.dispatch e).length = 0)) := by
  intro d
  have hd : d.Sound := Exchange.sound_run inputs
  refine ⟨hd.deliversOnce e, ?_, ?_⟩
  · intro huses hshares hheld
    have hfits : (Exchange.run inputs).Fits fun key session => key.session = some session :=
      Exchange.fits_run (fun _ _ _ => rfl) huses fun i hi hshare => absurd hshare (hshares i hi)
    rw [Dispatcher.length_dispatch]
    exact hd.length_targets_personal hheld hfits.subscribed e.source
  · intro huses
    have hfits : (Exchange.run inputs).Fits fun key _ => key.session = none :=
      Exchange.fits_run (fun _ _ _ => rfl) huses fun _ _ _ _ _ _ hkey => hkey
    rw [Dispatcher.length_dispatch]
    constructor
    · intro haudience
      have hle := hd.length_targets_public (fun h hown => (hfits.owned hown).choose_spec) e.source
      obtain ⟨session, hmem⟩ := List.exists_mem_of_ne_nil _ haudience
      obtain ⟨id, s, hs, hsrc, -⟩ := Dispatcher.mem_audience.mp hmem
      have htarget : s.handler ∈ d.targets e.source :=
        hd.mem_targets.mpr ⟨(hd.source_eq hs).symm.trans hsrc, Or.inl ⟨id, s, hs, rfl⟩⟩
      have hpos := List.length_pos_of_mem htarget
      omega
    · intro haudience hheld
      refine List.length_eq_zero_iff.mpr (List.eq_nil_iff_forall_not_mem.mpr fun h hh => ?_)
      obtain ⟨hsrc, ⟨id, s, hs, rfl⟩ | hmem⟩ := hd.mem_targets.mp hh
      · have hin : s.session ∈ d.audience e.source :=
          Dispatcher.mem_audience.mpr ⟨id, s, hs, (hd.source_eq hs).trans hsrc, rfl⟩
        rw [haudience] at hin
        exact List.not_mem_nil hin
      · rw [hheld] at hmem
        exact List.not_mem_nil hmem

end MediaPlane
