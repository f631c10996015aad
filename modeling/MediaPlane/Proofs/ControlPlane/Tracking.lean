import MediaPlane.Proofs.ControlPlane.Linking
import MediaPlane.Proofs.ControlPlane.Rearing

/-
  The connections that are kept follow the history (`Tracks`). The sinks that an element keeps agree
  with those that the performances so far have linked it to, the live ones among them stand in its
  tree, and the events on record alternate and are those that the performances raised. Objects that
  were never registered have no part in this, so that a new object starts with nothing as long as no
  id is registered twice. `Tracks.perform`: every performance keeps this up.
-/

namespace MediaPlane

namespace ControlPlane

variable {cp mid next : ControlPlane} {s : SessionId} {a b : ObjectId} {sinks kept : List ObjectId}
  {asked raised : SinkChange} {history : List Performance} {p : Performance} {c : Construction}

/-! ## The invariant -/

/-- What is kept of connections follows from the history. -/
structure Tracks (history : List Performance) (cp : ControlPlane) : Prop where
  live_registered : ∀ {x}, cp.registry.contains x = true → x ∈ cp.journal.registered
  /-- The sinks that an element keeps agree with those that it is linked to. -/
  agrees : ∀ {a sinks}, cp.registry.sinks? a = some sinks →
    Agrees cp.registry.contains sinks (linksFrom history a) (cp.journal.news a)
  joined : ∀ {a sinks b}, cp.registry.sinks? a = some sinks → b ∈ sinks →
    cp.registry.contains b = true → cp.registry.Joined a b
  /-- Nothing is kept, linked or raised of an object that was never registered. -/
  kept_registered : ∀ {a sinks b}, cp.registry.sinks? a = some sinks → b ∈ sinks →
    b ∈ cp.journal.registered
  linked_registered : ∀ {a b}, b ∈ linksFrom history a →
    a ∈ cp.journal.registered ∧ b ∈ cp.journal.registered
  news_registered : ∀ {a b}, cp.journal.news a b ≠ [] →
    a ∈ cp.journal.registered ∧ b ∈ cp.journal.registered
  alternates : ∀ a b, LinkChange.Alternates (cp.journal.news a b)
  news_eq : ∀ a b, cp.journal.news a b = history.flatMap fun p => p.news a b
  reported : Reported history

namespace Relinked

theorem journal_news (h : Relinked cp a kept raised next) (x y : ObjectId) :
    next.journal.news x y =
      cp.journal.news x y ++ if a = x then raised.toward y else [] := by
  unfold Journal.news
  rw [h.raised_eq, List.filterMap_append, SinkChange.filterMap_events]

theorem news (h : Relinked p.plane a kept raised p.next) (x y : ObjectId) :
    p.news x y = if a = x then raised.toward y else [] := by
  rw [Performance.news_of_raised h.raised_eq, SinkChange.filterMap_events]

theorem joined (h : Relinked cp a kept raised next) (hf : cp.registry.Forest)
    (hf' : next.registry.Forest) {x y : ObjectId} (hx : cp.registry.contains x = true)
    (hxy : cp.registry.Joined x y) : next.registry.Joined x y := by
  have hroot : ∀ {z}, cp.registry.contains z = true →
      next.registry.rootOf z = cp.registry.rootOf z := fun hz =>
    hf'.rootOf_congr hf (fun w _ => h.parentOf_eq w) hz ((h.contains_eq _).trans hz)
  refine ⟨?_, ?_⟩
  · rw [h.sinks?_eq]
    split
    · rfl
    · exact hxy.loopback
  · rw [hroot hx, hroot hxy.contains, hxy.root_eq]

end Relinked

theorem Calm.news_eq (h : Calm cp next) (a b : ObjectId) :
    next.journal.news a b = cp.journal.news a b := by
  obtain ⟨events, hraised, hforeign⟩ := h.raised_eq
  unfold Journal.news
  rw [hraised, List.filterMap_append, Event.filterMap_change?_eq_nil hforeign, List.append_nil]

theorem Calm.contains (h : Calm cp next) {x : ObjectId} (hx : next.registry.contains x = true) :
    cp.registry.contains x = true := by
  obtain ⟨o, ho⟩ := Registry.contains_iff.mp hx
  obtain ⟨o', ho', -⟩ := h.origin ho
  exact Registry.contains_iff.mpr ⟨o', ho'⟩

theorem Calm.parentOf_eq (h : Calm cp next) {x : ObjectId} (hx : next.registry.contains x = true) :
    next.registry.parentOf x = cp.registry.parentOf x := by
  obtain ⟨o, ho⟩ := Registry.contains_iff.mp hx
  obtain ⟨o', ho', -, hparent⟩ := h.origin ho
  rw [Registry.parentOf, Registry.parentOf, ho, ho']
  exact hparent.symm

theorem Calm.sinks?_eq (h : Calm cp next) {x : ObjectId} (hx : next.registry.contains x = true) :
    next.registry.sinks? x = cp.registry.sinks? x := by
  obtain ⟨o, ho⟩ := Registry.contains_iff.mp hx
  obtain ⟨o', ho', helement, -⟩ := h.origin ho
  rw [Registry.sinks?, Registry.sinks?, ho, ho', Option.bind_some, Option.bind_some, helement]

theorem Calm.sinks? (h : Calm cp next) (hsinks : next.registry.sinks? a = some sinks) :
    cp.registry.sinks? a = some sinks := by
  rw [← h.sinks?_eq (Registry.contains_of_sinks? hsinks), hsinks]

namespace Tracks

theorem calm (h : Tracks history cp) (hc : Calm cp next) (hf : cp.registry.Forest)
    (hf' : next.registry.Forest) : Tracks history next where
  live_registered := by
    rw [hc.registered_eq]
    exact fun hx => h.live_registered (hc.contains hx)
  agrees := by
    intro a sinks hsinks
    have hnews : next.journal.news a = cp.journal.news a := funext (hc.news_eq a)
    rw [hnews]
    exact (h.agrees (hc.sinks? hsinks)).mono fun b hb => hc.contains hb
  joined := by
    intro a sinks b hsinks hb hlive
    obtain ⟨hloopback, hroot⟩ := h.joined (hc.sinks? hsinks) hb (hc.contains hlive)
    have hsource : next.registry.contains a = true :=
      Registry.contains_of_sinks? hsinks
    have hsame : ∀ {x}, next.registry.contains x = true →
        cp.registry.rootOf x = next.registry.rootOf x := fun hx =>
      hf.rootOf_congr hf' (fun _ hy => (hc.parentOf_eq hy).symm) hx (hc.contains hx)
    refine ⟨by rw [hc.sinks?_eq hlive, hloopback], ?_⟩
    rw [← hsame hlive, ← hsame hsource, hroot]
  kept_registered := by
    rw [hc.registered_eq]
    exact fun hsinks => h.kept_registered (hc.sinks? hsinks)
  linked_registered := by
    rw [hc.registered_eq]
    exact h.linked_registered
  news_registered := by
    intro a b
    rw [hc.news_eq, hc.registered_eq]
    exact h.news_registered
  alternates := by
    intro a b
    rw [hc.news_eq]
    exact h.alternates a b
  news_eq := by
    intro a b
    rw [hc.news_eq]
    exact h.news_eq a b
  reported := h.reported

/-- An operation that succeeds in asking for nothing, and raises no news. -/
theorem idle (h : Tracks history cp) (hchange : p.change? = none)
    (hnews : ∀ a b, p.news a b = []) : Tracks (history ++ [p]) cp where
  live_registered := h.live_registered
  agrees := by
    intro a sinks hsinks
    have hlinks : linksFrom (history ++ [p]) a = linksFrom history a := by
      rw [linksFrom_concat, Performance.changeOf_of_none hchange]
      rfl
    rw [hlinks]
    exact h.agrees hsinks
  joined := h.joined
  kept_registered := h.kept_registered
  linked_registered := by
    intro a b hb
    rw [linksFrom_concat, Performance.changeOf_of_none hchange] at hb
    exact h.linked_registered hb
  news_registered := h.news_registered
  alternates := h.alternates
  news_eq := by
    intro a b
    rw [List.flatMap_append, List.flatMap_singleton, hnews, List.append_nil]
    exact h.news_eq a b
  reported := by
    refine h.reported.concat ⟨fun a b => ?_, fun a b => ?_⟩
    · rw [hnews, hchange]
      simp
    · rw [hnews]
      exact Nat.zero_le 1

/-- What is kept by an element, or can be connected to it, has been registered. -/
theorem known (h : Tracks history cp) (hsinks : cp.registry.sinks? a = some sinks)
    (hb : b ∈ sinks ∨ cp.registry.Joined a b) : b ∈ cp.journal.registered := by
  rcases hb with hb | hb
  · exact h.kept_registered hsinks hb
  · exact h.live_registered hb.contains

section Rewires

/- An element of which a performance asks something about its sinks, and how it answers. -/
variable (h : Tracks history p.plane) (hsinks : p.plane.registry.sinks? a = some sinks)
  (hr : Relinks p.plane.registry.contains (p.plane.registry.Joined a) sinks asked kept raised)

include h hsinks hr

theorem rewires_agrees (hnext : Relinked p.plane a kept raised p.next)
    (hchange : p.change? = asked.map fun change => (change.1, a, change.2)) {x : ObjectId}
    {sinks' : List ObjectId} (hx : p.next.registry.sinks? x = some sinks') :
    Agrees p.next.registry.contains sinks' (linksFrom (history ++ [p]) x)
      (p.next.journal.news x) := by
  have hlive : p.next.registry.contains = p.plane.registry.contains := funext hnext.contains_eq
  have hnews : p.next.journal.news x = fun y => p.plane.journal.news x y ++
      if a = x then raised.toward y else [] := funext (hnext.journal_news x)
  rw [hlive, hnews, linksFrom_concat, Performance.changeOf_of_asked hchange]
  rw [hnext.sinks?_eq] at hx
  by_cases hax : a = x
  · subst hax
    rw [if_pos rfl] at hx ⊢
    cases hx
    simp only [if_true]
    exact (h.agrees hsinks).relinks (fun _ => Registry.Joined.contains) hr
  · rw [if_neg hax] at hx ⊢
    simp only [if_neg hax, List.append_nil]
    exact h.agrees hx

theorem rewires_joined (hf : p.plane.registry.Forest) (hf' : p.next.registry.Forest)
    (hnext : Relinked p.plane a kept raised p.next) {x y : ObjectId} {sinks' : List ObjectId}
    (hx : p.next.registry.sinks? x = some sinks') (hy : y ∈ sinks')
    (hlive : p.next.registry.contains y = true) : p.next.registry.Joined x y := by
  rw [hnext.contains_eq] at hlive
  rw [hnext.sinks?_eq] at hx
  by_cases hax : a = x
  · subst hax
    rw [if_pos rfl] at hx
    cases hx
    refine hnext.joined hf hf' (Registry.contains_of_sinks? hsinks) ?_
    rcases hr.mem hy with hy | hy
    · exact h.joined hsinks hy hlive
    · exact hy
  · rw [if_neg hax] at hx
    exact hnext.joined hf hf' (Registry.contains_of_sinks? hx)
      (h.joined hx hy hlive)

theorem rewires_linked_registered
    (hchange : p.change? = asked.map fun change => (change.1, a, change.2)) {x y : ObjectId}
    (hy : y ∈ linksFrom (history ++ [p]) x) :
    x ∈ p.plane.journal.registered ∧ y ∈ p.plane.journal.registered := by
  rw [mem_linksFrom_concat, Performance.changeOf_of_asked hchange] at hy
  rcases hy with hmade | ⟨hy, -⟩
  · split at hmade
    · next hax =>
      subst hax
      exact ⟨h.live_registered (Registry.contains_of_sinks? hsinks),
        h.known hsinks (Or.inr (hr.target_of_asked hmade))⟩
    · cases hmade
  · exact h.linked_registered hy

theorem rewires_news_registered (hnext : Relinked p.plane a kept raised p.next) {x y : ObjectId}
    (hxy : p.next.journal.news x y ≠ []) :
    x ∈ p.plane.journal.registered ∧ y ∈ p.plane.journal.registered := by
  by_cases hold : p.plane.journal.news x y = []
  · rw [hnext.journal_news, hold, List.nil_append] at hxy
    split at hxy
    · next hax =>
      subst hax
      obtain ⟨k, hk⟩ := List.exists_mem_of_ne_nil _ hxy
      exact ⟨h.live_registered (Registry.contains_of_sinks? hsinks),
        h.known hsinks (hr.mem_of_raised (SinkChange.mem_toward.mp hk))⟩
    · exact absurd rfl hxy
  · exact h.news_registered hold

theorem rewires_reports (hnext : Relinked p.plane a kept raised p.next)
    (hchange : p.change? = asked.map fun change => (change.1, a, change.2)) :
    p.Reports history where
  made_iff := by
    intro x y
    rw [← Performance.changeOf_eq_some, ← mem_linksFrom, hnext.news,
      Performance.changeOf_of_asked hchange]
    by_cases hax : a = x
    · subst hax
      rw [if_pos rfl, if_pos rfl, SinkChange.mem_toward]
      exact (h.agrees hsinks).raised_made_iff (fun _ => Registry.Joined.contains) hr
    · simp [hax]
  length_le := by
    intro x y
    rw [hnext.news]
    split
    · exact raised.length_toward_le y
    · exact Nat.zero_le 1

end Rewires

/-- The element of an object answers, and its sinks follow the history again. -/
theorem rewires (h : Tracks history p.plane) (hf : p.plane.registry.Forest)
    (hf' : p.next.registry.Forest) (hsinks : p.plane.registry.sinks? a = some sinks)
    (hrewires : Rewires p.plane a sinks asked p.next)
    (hchange : p.change? = asked.map fun change => (change.1, a, change.2)) :
    Tracks (history ++ [p]) p.next := by
  obtain ⟨hr, hnext⟩ := hrewires
  refine { live_registered := ?_, agrees := h.rewires_agrees hsinks hr hnext hchange,
           joined := h.rewires_joined hsinks hr hf hf' hnext, kept_registered := ?_,
           linked_registered := ?_, news_registered := ?_, alternates := ?_, news_eq := ?_,
           reported := h.reported.concat (h.rewires_reports hsinks hr hnext hchange) }
  · intro x hx
    rw [hnext.registered_eq]
    exact h.live_registered ((hnext.contains_eq x).symm.trans hx)
  · intro x sinks' y hx hy
    rw [hnext.registered_eq]
    rw [hnext.sinks?_eq] at hx
    split at hx
    · cases hx
      exact h.known hsinks (hr.mem hy)
    · exact h.kept_registered hx hy
  · rw [hnext.registered_eq]
    exact h.rewires_linked_registered hsinks hr hchange
  · rw [hnext.registered_eq]
    exact h.rewires_news_registered hsinks hr hnext
  · intro x y
    rw [hnext.journal_news]
    split
    · next hax =>
      subst hax
      exact (h.agrees hsinks).alternates (fun _ => Registry.Joined.contains) hr
        (h.alternates a y)
    · rw [List.append_nil]
      exact h.alternates x y
  · intro x y
    rw [List.flatMap_append, List.flatMap_singleton, hnext.journal_news, hnext.news, h.news_eq]

end Tracks

/-! ## Objects that come -/

theorem Begins.fresh (h : cp.Begins c next) : c.element.Fresh := by
  obtain ⟨id, type, parent, element⟩ := c
  obtain ⟨entry, params, -, -, hc⟩ := h
  rintro sinks hsinks
  unfold construct at hc
  simp only at hc
  split at hc
  · split at hc
    · cases hc
    · cases hc
      cases hsinks
  · split at hc
    · cases hc
    · cases hc
      cases hsinks
      rfl

theorem Begins.calm (h : cp.Begins c next) : Calm cp next where
  registered_eq := by obtain ⟨mock, rfl⟩ := h.eq; rfl
  raised_eq := by
    obtain ⟨mock, rfl⟩ := h.eq
    exact ⟨[], (List.append_nil _).symm, fun e he => by cases he⟩
  origin := by
    obtain ⟨mock, rfl⟩ := h.eq
    exact fun ho => ⟨_, ho, rfl, rfl⟩

theorem raised_register (cp : ControlPlane) (s : SessionId) (c : Construction) :
    (cp.register s c).2.journal.raised = cp.journal.raised := by
  unfold register
  split <;> rfl

/-- A new object enters the registry. -/
structure Admits (cp : ControlPlane) (c : Construction) (next : ControlPlane) : Prop where
  registered_eq : next.journal.registered = cp.journal.registered ++ [c.id]
  raised_eq : next.journal.raised = cp.journal.raised
  contains_iff : ∀ {x}, next.registry.contains x = true ↔ c.id = x ∨ cp.registry.contains x = true
  parentOf_eq : ∀ {x}, c.id ≠ x → next.registry.parentOf x = cp.registry.parentOf x
  sinks?_eq : ∀ x, next.registry.sinks? x =
    if c.id = x then c.element.sinks? else cp.registry.sinks? x

theorem register_admits (cp : ControlPlane) (s : SessionId) (c : Construction) :
    Admits cp c (cp.register s c).2 ∨ Calm cp (cp.register s c).2 := by
  unfold register
  split
  · exact Or.inr ⟨rfl, ⟨[], (List.append_nil _).symm, fun e he => by cases he⟩,
      fun ho => ⟨_, ho, rfl, rfl⟩⟩
  · next r hput =>
    refine Or.inl ⟨rfl, rfl, fun {x} => Registry.contains_put hput x, ?_, fun x => ?_⟩
    · intro x hx
      exact (Registry.parentOf_put hput x).trans (if_neg hx)
    · have hfind : r.find? x = if c.id = x then
          some (.new c.id c.type c.parent c.element cp.now) else cp.registry.find? x :=
        Registry.find?_put hput x
      show (r.find? x).bind (·.element.sinks?) = _
      rw [hfind]
      split <;> rfl

theorem Admits.news_eq (h : Admits cp c next) : next.journal.news = cp.journal.news := by
  funext x y
  unfold Journal.news
  rw [h.raised_eq]

namespace Tracks

/-- Nothing is known of an object before it is registered. -/
theorem unknown (h : Tracks history cp) {x : ObjectId} (hx : x ∉ cp.journal.registered) :
    linksFrom history x = [] ∧ cp.journal.news x = fun _ => [] := by
  refine ⟨List.eq_nil_iff_forall_not_mem.mpr fun b hb => hx (h.linked_registered hb).1, ?_⟩
  funext b
  by_contra hne
  exact hx (h.news_registered hne).1

theorem admits_agrees (h : Tracks history cp) (hc : Admits cp c next) (hfresh : c.element.Fresh)
    (hnew : c.id ∉ cp.journal.registered) (hsinks : next.registry.sinks? a = some sinks) :
    Agrees next.registry.contains sinks (linksFrom history a) (next.journal.news a) := by
  rw [hc.news_eq]
  rw [hc.sinks?_eq] at hsinks
  split at hsinks
  · next ha =>
    obtain ⟨hlinks, hnews⟩ := h.unknown hnew
    rw [← ha, hlinks, hnews, hfresh sinks hsinks]
    exact agrees_nil _
  · refine (h.agrees hsinks).born (x := c.id) ?_ (fun hmem => hnew (h.kept_registered hsinks hmem))
      (fun hmem => hnew (h.linked_registered hmem).2) ?_
    · intro b hb
      rw [Bool.eq_iff_iff, hc.contains_iff, or_iff_right (Ne.symm hb)]
    · by_contra hne
      exact hnew (h.news_registered hne).2

/-- A new object starts with nothing, and nobody is connected to it. -/
theorem admits (h : Tracks history cp) (hc : Admits cp c next) (hf : cp.registry.Forest)
    (hf' : next.registry.Forest) (hfresh : c.element.Fresh)
    (hnew : c.id ∉ cp.journal.registered) : Tracks history next := by
  have hmono : ∀ {x}, x ∈ cp.journal.registered → x ∈ next.journal.registered := by
    rw [hc.registered_eq]
    exact fun hx => List.mem_append_left _ hx
  refine { live_registered := ?_, agrees := h.admits_agrees hc hfresh hnew, joined := ?_,
           kept_registered := ?_, linked_registered := ?_, news_registered := ?_,
           alternates := ?_, news_eq := ?_, reported := h.reported }
  · intro x hx
    rw [hc.registered_eq, List.mem_append, List.mem_singleton]
    rcases hc.contains_iff.mp hx with hx | hx
    · exact Or.inr hx.symm
    · exact Or.inl (h.live_registered hx)
  · intro a sinks b hsinks hb hlive
    rw [hc.sinks?_eq] at hsinks
    split at hsinks
    · rw [hfresh sinks hsinks] at hb
      cases hb
    · -- Source and sink were there before, and so were their ways up.
      have hb' := h.kept_registered hsinks hb
      have hold : ∀ {x}, x ∈ cp.journal.registered → c.id ≠ x := by
        rintro x hx rfl
        exact hnew hx
      have hjoined := h.joined hsinks hb
        ((hc.contains_iff.mp hlive).resolve_left (hold hb'))
      have hroot : ∀ {x}, cp.registry.contains x = true →
          next.registry.rootOf x = cp.registry.rootOf x := fun hx =>
        hf'.rootOf_congr hf (fun _ hy => hc.parentOf_eq (hold (h.live_registered hy))) hx
          (hc.contains_iff.mpr (Or.inr hx))
      refine ⟨?_, ?_⟩
      · rw [hc.sinks?_eq, if_neg (hold hb'), hjoined.loopback]
      · rw [hroot hjoined.contains, hroot (Registry.contains_of_sinks? hsinks),
          hjoined.root_eq]
  · intro a sinks b hsinks hb
    rw [hc.sinks?_eq] at hsinks
    split at hsinks
    · rw [hfresh sinks hsinks] at hb
      cases hb
    · exact hmono (h.kept_registered hsinks hb)
  · exact fun hb => (h.linked_registered hb).imp hmono hmono
  · rw [hc.news_eq]
    exact fun hne => (h.news_registered hne).imp hmono hmono
  · rw [hc.news_eq]
    exact h.alternates
  · rw [hc.news_eq]
    exact h.news_eq

/-- A construction ends; no id is registered twice. -/
theorem register (h : Tracks history cp) (hs : cp.holdings.Settled) (s : SessionId)
    (hfresh : c.element.Fresh) (hn : (cp.register s c).2.journal.registered.Nodup) :
    Tracks history (cp.register s c).2 := by
  have hs' := settled_register hs s c
  rcases register_admits cp s c with hc | hc
  · refine h.admits hc hs.forest hs'.forest hfresh fun hmem => ?_
    rw [hc.registered_eq] at hn
    exact (List.nodup_append.mp hn).2.2 c.id hmem c.id (List.mem_singleton.mpr rfl) rfl
  · exact h.calm hc hs.forest hs'.forest

end Tracks

/-! ## Performances -/

theorem news_of_calm (h : Calm p.plane p.next) (a b : ObjectId) : p.news a b = [] := by
  obtain ⟨events, hraised, hforeign⟩ := h.raised_eq
  rw [Performance.news_of_raised hraised]
  exact Event.filterMap_change?_eq_nil hforeign a b

theorem raised_creates {outcome : Outcome} (h : Creates s cp outcome next) :
    next.journal.raised = cp.journal.raised := by
  cases h with
  | refused | failed | unbuilt => rfl
  | built _ hb =>
    obtain ⟨mock, rfl⟩ := hb.eq
    exact raised_register _ s _
  | begun _ hb =>
    obtain ⟨mock, rfl⟩ := hb.eq
    rfl

namespace Tracks

theorem creates (h : Tracks history cp) (hs : cp.holdings.Settled) (hs' : next.holdings.Settled)
    {outcome : Outcome} (hc : Creates s cp outcome next) (hn : next.journal.registered.Nodup) :
    Tracks history next := by
  cases hc with
  | refused | failed | unbuilt =>
    exact h.calm (calm_of_eq rfl rfl) hs.forest hs'.forest
  | @built c mid _ hb =>
    have hmid : mid.holdings.Settled := lasting_settled.begins hb hs
    exact (h.calm hb.calm hs.forest hmid.forest).register hmid s hb.fresh hn
  | begun _ hb => exact h.calm hb.calm hs.forest hs'.forest

theorem performCalm (h : Tracks history p.plane) (hs : p.plane.holdings.Settled)
    (hs' : p.next.holdings.Settled) (hc : Calm p.plane p.next) (hchange : p.change? = none) :
    Tracks (history ++ [p]) p.next :=
  (h.calm hc hs.forest hs'.forest).idle hchange (news_of_calm hc)

theorem performInvoke (h : Tracks history p.plane) (hs : p.plane.holdings.Settled)
    (hs' : p.next.holdings.Settled) {operation : String} {params : Value}
    (hop : p.op = .invoke a operation params) (hgenuine : p.op.forged? = none) :
    Tracks (history ++ [p]) p.next := by
  have hinvokes : Invokes p.plane a (SinkChange.requested operation params) p.outcome p.next := by
    rw [hop] at hgenuine
    unfold Performance.outcome Performance.next
    rw [hop]
    exact invokes hs.forest p.session hgenuine fun sinks hsinks b hb hlive =>
      (h.joined hsinks hb hlive).loopback
  generalize ho : p.outcome = outcome at hinvokes
  generalize hnext : p.next = next at hinvokes
  cases hinvokes with
  | calm hc hnone =>
    subst ho hnext
    exact h.performCalm hs hs' hc (Performance.change?_of_calm hop hnone)
  | rewired hsinks hrewires =>
    subst hnext
    exact h.rewires hs.forest hs'.forest hsinks hrewires (Performance.change?_of_ok hop ho)

/-- Whatever is performed, the connections follow the history, as long as no id is registered
twice and no event is forged. -/
theorem perform (h : Tracks history p.plane) (hs : p.plane.holdings.Settled)
    (hgenuine : p.op.forged? = none) (hn : p.next.journal.registered.Nodup) :
    Tracks (history ++ [p]) p.next := by
  have hs' : p.next.holdings.Settled :=
    lasting_settled.stretch (execute_stretch p.plane.dispatcher.within_full _ _) hs
  by_cases hi : p.op.method = .invoke
  · cases hop : p.op with
    | invoke a operation params => exact h.performInvoke hs hs' hop hgenuine
    | _ => rw [hop] at hi; cases hi
  have hchange := Performance.change?_of_method hi
  by_cases hc : p.op.method = .create
  · have hcreates : Creates p.session p.plane p.outcome p.next := by
      obtain ⟨cp, s, op⟩ := p
      cases op with
      | create typeName params => exact cp.creates s typeName params
      | _ => cases hc
    refine (h.creates hs hs' hcreates hn).idle hchange fun a b => ?_
    rw [Performance.news_of_raised ((raised_creates hcreates).trans (List.append_nil _).symm)]
    rfl
  · exact h.performCalm hs hs' (wanes_execute p.plane p.session hc hi).calm hchange

end Tracks

end ControlPlane

end MediaPlane
