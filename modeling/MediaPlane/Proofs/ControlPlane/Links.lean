import Mathlib.Data.List.Induction
import MediaPlane.Proofs.ControlPlane.Performance
import MediaPlane.Proofs.ControlPlane.Sinks

/-
  Connections, as a history tells of them. A performance that succeeds in asking for a connection to
  be made or undone shows in what it asked for (`Performance.change?`), and the events that it
  raises show in the journal (`Performance.news`). From the changes follows which sinks a source is
  linked to, in the order in which they were connected: those that were last connected and not
  disconnected since (`mem_linksFrom`). If every performance reports a connection exactly where
  there was none (`Reported`), this is the order of the last reports (`pairwise_linksFrom`).
-/

namespace MediaPlane

/-! ## Histories -/

namespace Event

/-- What an event tells of the connection from one element to another. -/
def change? (source sink : ObjectId) (e : Event) : Option LinkChange :=
  if e.object = source ∧ (e.data.get? "sink").bind Value.str? = some sink.text then
    LinkChange.ofEventType? e.eventType
  else none

theorem change?_connectionEvent (a b source sink : ObjectId) (k : LinkChange) :
    (ControlPlane.connectionEvent a b k.eventType).change? source sink =
      if a = source ∧ b = sink then some k else none := by
  have hsink : ((ControlPlane.connectionEvent a b k.eventType).data.get? "sink").bind Value.str? =
      some b.text := by
    simp [ControlPlane.connectionEvent, Value.object, Members.ofPairs, Members.get?_insert,
      Value.str?]
  have htext : b.text = sink.text ↔ b = sink := by cases b; cases sink; simp
  unfold change?
  rw [hsink]
  refine if_congr ?_ k.ofEventType?_eventType rfl
  rw [Option.some.injEq, htext]
  rfl

/-- Events of other types tell nothing of connections. -/
theorem filterMap_change?_eq_nil {events : List Event}
    (h : ∀ e ∈ events, LinkChange.ofEventType? e.eventType = none) (source sink : ObjectId) :
    events.filterMap (change? source sink) = [] := by
  refine List.filterMap_eq_nil_iff.mpr fun e he => ?_
  unfold change?
  rw [h e he, ite_self]

end Event

theorem SinkChange.filterMap_events (a source sink : ObjectId) (change : SinkChange) :
    (change.events a).filterMap (Event.change? source sink) =
      if a = source then change.toward sink else [] := by
  unfold events toward
  split
  · simp
  · next k b =>
    by_cases ha : a = source <;> by_cases hb : b = sink <;>
      simp [Event.change?_connectionEvent, ha, hb]

namespace Journal

/-- What the events on record tell of a connection, in order of time. -/
def news (j : Journal) (source sink : ObjectId) : List LinkChange :=
  j.raised.filterMap (Event.change? source sink)

end Journal

namespace Performance

variable {p : Performance} {a b c : ObjectId}

/-- The change of a connection that is asked for with success, with its source and its sink. -/
def change? (p : Performance) : Option (LinkChange × ObjectId × ObjectId) :=
  match p.op, p.outcome with
  | .invoke source operation params, .settled (.ok _) =>
    (SinkChange.requested operation params).map fun change => (change.1, source, change.2)
  | _, _ => none

theorem change?_of_method (h : p.op.method ≠ .invoke) : p.change? = none := by
  obtain ⟨cp, s, op⟩ := p
  cases op with
  | invoke => exact absurd rfl h
  | _ => rfl

theorem change?_of_ok {operation : String} {params value : Value}
    (hop : p.op = .invoke a operation params) (h : p.outcome = .settled (.ok value)) :
    p.change? =
      (SinkChange.requested operation params).map fun change => (change.1, a, change.2) := by
  unfold change?
  rw [hop, h]

/-- Without success, or where nothing is asked for, there is no change. -/
theorem change?_of_calm {operation : String} {params : Value}
    (hop : p.op = .invoke a operation params)
    (h : ∀ value, p.outcome = .settled (.ok value) →
      SinkChange.requested operation params = none) : p.change? = none := by
  cases ho : p.outcome with
  | settled result =>
    cases result with
    | ok value =>
      rw [change?_of_ok hop ho, h value ho]
      rfl
    | error e =>
      unfold change?
      rw [hop, ho]
  | waiting w =>
    unfold change?
    rw [hop, ho]

/-- The change of a connection of one source. -/
def changeOf (p : Performance) (source : ObjectId) : SinkChange :=
  match p.change? with
  | some (k, a, sink) => if a = source then some (k, sink) else none
  | none => none

theorem changeOf_of_none (h : p.change? = none) (a : ObjectId) : p.changeOf a = none := by
  unfold changeOf
  rw [h]

theorem changeOf_of_asked {asked : SinkChange}
    (h : p.change? = asked.map fun change => (change.1, a, change.2)) (source : ObjectId) :
    p.changeOf source = if a = source then asked else none := by
  unfold changeOf
  rw [h]
  cases asked with
  | none => simp
  | some change => rfl

theorem changeOf_eq_some {k : LinkChange} :
    p.changeOf a = some (k, b) ↔ p.change? = some (k, a, b) := by
  unfold changeOf
  split
  · next j c d heq =>
    rw [heq]
    by_cases hc : c = a
    · simp [hc]
    · simp [hc]
  · next heq => simp [heq]

/-- The events that are raised. -/
def raised (p : Performance) : List Event :=
  p.next.journal.raised.drop p.plane.journal.raised.length

/-- What these events tell of a connection. -/
def news (p : Performance) (source sink : ObjectId) : List LinkChange :=
  p.raised.filterMap (Event.change? source sink)

theorem news_of_raised {events : List Event}
    (h : p.next.journal.raised = p.plane.journal.raised ++ events) (source sink : ObjectId) :
    p.news source sink = events.filterMap (Event.change? source sink) := by
  unfold news raised
  rw [h, List.drop_left]

end Performance

/-! ## Links -/

section Links

variable {history : List Performance} {p : Performance} {a b : ObjectId} {i : Nat}

/-- The sinks that a source is linked to, in the order in which they were connected. -/
def linksFrom (history : List Performance) (source : ObjectId) : List ObjectId :=
  history.foldl (fun sinks p => (p.changeOf source).apply sinks) []

/-- The last success in connecting two elements was not followed by one in disconnecting them. -/
def Linked (history : List Performance) (source sink : ObjectId) : Prop :=
  ∃ before p after, history = before ++ p :: after ∧ p.change? = some (.made, source, sink) ∧
    ∀ q ∈ after, q.change? ≠ some (.undone, source, sink)

theorem linksFrom_concat (history : List Performance) (p : Performance) (a : ObjectId) :
    linksFrom (history ++ [p]) a = (p.changeOf a).apply (linksFrom history a) := by
  unfold linksFrom
  rw [List.foldl_append]
  rfl

theorem mem_linksFrom_concat : b ∈ linksFrom (history ++ [p]) a ↔
    p.changeOf a = some (.made, b) ∨
      b ∈ linksFrom history a ∧ p.changeOf a ≠ some (.undone, b) := by
  rw [linksFrom_concat]
  cases p.changeOf a with
  | none => simp [SinkChange.apply]
  | some change =>
    obtain ⟨k, c⟩ := change
    rw [SinkChange.apply, LinkChange.mem_apply]
    by_cases hc : b = c
    · cases k <;> simp [hc]
    · simp [hc, Ne.symm hc]

theorem linked_concat : Linked (history ++ [p]) a b ↔
    p.change? = some (.made, a, b) ∨
      Linked history a b ∧ p.change? ≠ some (.undone, a, b) := by
  constructor
  · rintro ⟨before, q, after, hsplit, hmade, hafter⟩
    rcases split_concat hsplit with ⟨-, -, rfl⟩ | ⟨rest, rfl, hrest⟩
    · exact Or.inl hmade
    · refine Or.inr ⟨⟨before, q, rest, hrest, hmade, fun r hr => ?_⟩, ?_⟩
      · exact hafter r (List.mem_append_left _ hr)
      · exact hafter p (List.mem_append_right _ (List.mem_singleton.mpr rfl))
  · rintro (hmade | ⟨⟨before, q, after, rfl, hmade, hafter⟩, hp⟩)
    · exact ⟨history, p, [], rfl, hmade, fun q hq => by cases hq⟩
    · refine ⟨before, q, after ++ [p], by simp, hmade, fun r hr => ?_⟩
      rcases List.mem_append.mp hr with hr | hr
      · exact hafter r hr
      · rwa [List.mem_singleton.mp hr]

theorem mem_linksFrom : b ∈ linksFrom history a ↔ Linked history a b := by
  induction history using List.reverseRecOn with
  | nil => simp [linksFrom, Linked]
  | append_singleton history p ih =>
    rw [mem_linksFrom_concat, linked_concat, ih, ne_eq, ne_eq, Performance.changeOf_eq_some,
      Performance.changeOf_eq_some]

/-- The last performance that raised the news of a connection is the one at this position. -/
def LastRaised (history : List Performance) (source sink : ObjectId) (i : Nat) : Prop :=
  ∃ before p after, history = before ++ p :: after ∧ before.length = i ∧
    .made ∈ p.news source sink ∧ ∀ q ∈ after, .made ∉ q.news source sink

/-- One connection was last raised before another one. -/
def RaisedBefore (history : List Performance) (source b c : ObjectId) : Prop :=
  ∃ i j, LastRaised history source b i ∧ LastRaised history source c j ∧ i < j

/-- What an operation reports of a connection, by what was performed before it: at most one change,
and that it was made exactly if it was asked for with success where there was none. -/
structure Performance.Reports (before : List Performance) (p : Performance) : Prop where
  made_iff : ∀ a b,
    .made ∈ p.news a b ↔ p.change? = some (.made, a, b) ∧ ¬ Linked before a b
  length_le : ∀ a b, (p.news a b).length ≤ 1

/-- Every operation reports what it does. -/
def Reported (history : List Performance) : Prop :=
  ∀ before p after, history = before ++ p :: after → p.Reports before

theorem reported_nil : Reported [] := by
  intro before p after h
  simp at h

theorem Reported.concat (h : Reported history) (hp : p.Reports history) :
    Reported (history ++ [p]) := by
  intro before q after hsplit
  rcases split_concat hsplit with ⟨-, rfl, rfl⟩ | ⟨rest, -, hrest⟩
  · exact hp
  · exact h before q rest hrest

theorem Reported.before (h : Reported (history ++ [p])) : Reported history := by
  rintro before q after rfl
  exact h before q (after ++ [p]) (by simp)

theorem Reported.last (h : Reported (history ++ [p])) :
    .made ∈ p.news a b ↔ p.changeOf a = some (.made, b) ∧ b ∉ linksFrom history a := by
  rw [(h history p [] rfl).made_iff, Performance.changeOf_eq_some, mem_linksFrom]

theorem LastRaised.lt (h : LastRaised history a b i) : i < history.length := by
  obtain ⟨before, p, after, rfl, rfl, -⟩ := h
  simp

theorem LastRaised.append (h : LastRaised history a b i) (hp : .made ∉ p.news a b) :
    LastRaised (history ++ [p]) a b i := by
  obtain ⟨before, q, after, rfl, hi, hq, hafter⟩ := h
  refine ⟨before, q, after ++ [p], by simp, hi, hq, fun r hr => ?_⟩
  rcases List.mem_append.mp hr with hr | hr
  · exact hafter r hr
  · rwa [List.mem_singleton.mp hr]

theorem lastRaised_concat (hp : .made ∈ p.news a b) :
    LastRaised (history ++ [p]) a b history.length :=
  ⟨history, p, [], rfl, rfl, hp, fun q hq => by cases hq⟩

/-- What a source is linked to was raised at some time. -/
theorem Reported.lastRaised (h : Reported history) (hb : b ∈ linksFrom history a) :
    ∃ i, LastRaised history a b i := by
  induction history using List.reverseRecOn with
  | nil => cases hb
  | append_singleton history p ih =>
    by_cases hp : .made ∈ p.news a b
    · exact ⟨_, lastRaised_concat hp⟩
    · have hbefore : b ∈ linksFrom history a := by
        rcases mem_linksFrom_concat.mp hb with hmade | ⟨hbefore, -⟩
        · by_contra hnew
          exact hp (h.last.mpr ⟨hmade, hnew⟩)
        · exact hbefore
      obtain ⟨i, hi⟩ := ih h.before hbefore
      exact ⟨i, hi.append hp⟩

/-- The links of a source are in the order in which they were last raised. -/
theorem Reported.pairwise_linksFrom (h : Reported history) (a : ObjectId) :
    (linksFrom history a).Pairwise (RaisedBefore history a) := by
  induction history using List.reverseRecOn with
  | nil => exact .nil
  | append_singleton history p ih =>
    have hsame : ∀ b ∈ linksFrom history a, .made ∉ p.news a b := by
      intro b hb hp
      exact (h.last.mp hp).2 hb
    have hbefore : (linksFrom history a).Pairwise (RaisedBefore (history ++ [p]) a) := by
      refine (ih h.before).imp_of_mem fun hb hc hbc => ?_
      obtain ⟨i, j, hi, hj, hij⟩ := hbc
      exact ⟨i, j, hi.append (hsame _ hb), hj.append (hsame _ hc), hij⟩
    rw [linksFrom_concat]
    cases hchange : p.changeOf a with
    | none => exact hbefore
    | some change =>
      obtain ⟨k, c⟩ := change
      cases k with
      | undone => exact hbefore.filter _
      | made =>
        simp only [SinkChange.apply, LinkChange.apply]
        split
        · exact hbefore
        · next hnew =>
          refine List.pairwise_append.mpr ⟨hbefore, List.pairwise_singleton _ _, ?_⟩
          intro b hb d hd
          rw [List.mem_singleton.mp hd]
          obtain ⟨i, hi⟩ := h.before.lastRaised hb
          exact ⟨i, _, hi.append (hsame b hb), lastRaised_concat (h.last.mpr ⟨hchange, hnew⟩),
            hi.lt⟩

end Links

end MediaPlane
