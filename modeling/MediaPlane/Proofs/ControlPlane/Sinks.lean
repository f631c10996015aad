import Mathlib.Data.List.Chain
import Mathlib.Data.List.Nodup
import MediaPlane.ControlPlane.Element

/-
  The sinks of an element. A connection is made and undone, and made again (`LinkChange`); which
  sinks an element is linked to follows from these changes alone. The sinks that it keeps need not
  be these, since dead ones are dropped only when it looks at them. `Agrees` says how far the two
  agree, and what the events on record have to do with it. Whatever an element can do with its sinks
  (`Relinks`) keeps this up (`Agrees.relinks`); it raises the event of a connection exactly if there
  was none (`Agrees.raised_made_iff`), and its events go on alternating (`Agrees.alternates`).
-/

namespace MediaPlane

/-! ## Changes of connections -/

/-- What can happen to a connection between two elements. -/
inductive LinkChange where
  | made
  | undone
deriving DecidableEq, Repr

namespace LinkChange

def all : List LinkChange := [made, undone]

/-- The operation that asks for it. -/
def operation : LinkChange → String
  | made => "connect"
  | undone => "disconnect"

/-- The type of the event that tells of it. -/
def eventType : LinkChange → String
  | made => "ElementConnected"
  | undone => "ElementDisconnected"

def ofOperation? (s : String) : Option LinkChange := all.find? (·.operation = s)

def ofEventType? (s : String) : Option LinkChange := all.find? (·.eventType = s)

theorem ofOperation?_operation (k : LinkChange) : ofOperation? k.operation = some k := by
  cases k <;> rfl

theorem eq_operation {s : String} {k : LinkChange} (h : ofOperation? s = some k) :
    s = k.operation := by
  have hk := List.find?_some h
  rw [decide_eq_true_eq] at hk
  exact hk.symm

theorem ofEventType?_eventType (k : LinkChange) : ofEventType? k.eventType = some k := by
  cases k <;> rfl

/-- The sinks of a source after a change. -/
def apply (sink : ObjectId) (sinks : List ObjectId) : LinkChange → List ObjectId
  | made => if sink ∈ sinks then sinks else sinks ++ [sink]
  | undone => sinks.filter (· ≠ sink)

theorem mem_apply {b c : ObjectId} {sinks : List ObjectId} {k : LinkChange} :
    c ∈ k.apply b sinks ↔ if c = b then k = made else c ∈ sinks := by
  cases k with
  | made =>
    unfold apply
    by_cases hb : b ∈ sinks <;> by_cases hc : c = b <;> simp [hb, hc]
  | undone =>
    unfold apply
    by_cases hc : c = b <;> simp [hc]

/-- Changes that alternate: a connection is made, and undone, and made again. -/
structure Alternates (changes : List LinkChange) : Prop where
  starts : ∀ k ∈ changes.head?, k = made
  chain : changes.IsChain (· ≠ ·)

variable {changes : List LinkChange} {k : LinkChange}

theorem alternates_nil : Alternates [] := ⟨nofun, .nil⟩

theorem Alternates.concat (h : Alternates changes) (hlast : changes.getLast? ≠ some k)
    (hfirst : changes = [] → k = made) : Alternates (changes ++ [k]) where
  starts := by
    cases changes with
    | nil =>
      rintro j ⟨⟩
      exact hfirst rfl
    | cons => exact h.starts
  chain := by
    refine h.chain.append (.singleton k) ?_
    rintro j hj j' ⟨⟩ rfl
    exact hlast hj

end LinkChange

/-- A change of the connection to a sink. -/
abbrev SinkChange := Option (LinkChange × ObjectId)

namespace SinkChange

/-- The sinks of a source after a change, if there is one. -/
def apply (sinks : List ObjectId) : SinkChange → List ObjectId
  | none => sinks
  | some (k, sink) => k.apply sink sinks

/-- The change that an operation asks for. -/
def requested (operation : String) (params : Value) : SinkChange := do
  let k ← LinkChange.ofOperation? operation
  let sink ← (ControlPlane.textParam params "sink").toOption
  return (k, ⟨sink⟩)

theorem requested_operation {k : LinkChange} {params : Value} {sink : ObjectId}
    (h : ControlPlane.textParam params "sink" = .ok sink.text) :
    requested k.operation params = some (k, sink) := by
  unfold requested
  rw [k.ofOperation?_operation, h]
  rfl

theorem requested_of_none {operation : String} (h : LinkChange.ofOperation? operation = none)
    (params : Value) : requested operation params = none := by
  unfold requested
  rw [h]
  rfl

/-- The events that tell of a change. -/
def events (source : ObjectId) : SinkChange → List Event
  | none => []
  | some (k, sink) => [ControlPlane.connectionEvent source sink k.eventType]

/-- What happens to the connection to `sink`. -/
def toward (sink : ObjectId) : SinkChange → List LinkChange
  | none => []
  | some (k, b) => if b = sink then [k] else []

theorem length_toward_le (change : SinkChange) (sink : ObjectId) :
    (change.toward sink).length ≤ 1 := by
  unfold toward
  split
  · exact Nat.zero_le 1
  · split
    · exact Nat.le_refl 1
    · exact Nat.zero_le 1

theorem mem_toward {b : ObjectId} {k : LinkChange} {change : SinkChange} :
    k ∈ change.toward b ↔ change = some (k, b) := by
  unfold toward
  split
  · simp
  · next j c =>
    by_cases hc : c = b
    · simp [hc, eq_comm]
    · simp [hc]

end SinkChange

/-! ## What elements keep -/

section Kept

variable {live : ObjectId → Bool} {target : ObjectId → Prop} {sinks links kept : List ObjectId}
  {b : ObjectId} {news : ObjectId → List LinkChange} {asked raised : SinkChange}

/-- The sinks that an element keeps agree with those that it is linked to, as far as they are live;
and the last news of a live sink is that it was connected exactly if it is kept. -/
structure Agrees (live : ObjectId → Bool) (sinks links : List ObjectId)
    (news : ObjectId → List LinkChange) : Prop where
  nodup : sinks.Nodup
  filter_eq : sinks.filter live = links.filter live
  last_made : ∀ b ∈ sinks, (news b).getLast? = some .made
  kept_of_last : ∀ b, live b = true → (news b).getLast? = some .made → b ∈ sinks

/-- What begins with nothing agrees. -/
theorem agrees_nil (live : ObjectId → Bool) : Agrees live [] [] fun _ => [] where
  nodup := .nil
  filter_eq := rfl
  last_made := nofun
  kept_of_last := nofun

/-- How an element answers a request: what is asked of its connections, the sinks that it keeps
from then on, and the change of which it raises an event. New sinks are among the targets. -/
inductive Relinks (live : ObjectId → Bool) (target : ObjectId → Prop) (sinks : List ObjectId) :
    SinkChange → List ObjectId → SinkChange → Prop where
  | same : Relinks live target sinks none sinks none
  | looked : Relinks live target sinks none (sinks.filter live) none
  | found {b : ObjectId} (ht : target b) (hb : b ∈ sinks.filter live) :
      Relinks live target sinks (some (.made, b)) (sinks.filter live) none
  | made {b : ObjectId} (ht : target b) (hb : b ∉ sinks.filter live) :
      Relinks live target sinks (some (.made, b)) (sinks.filter live ++ [b]) (some (.made, b))
  | undone {b : ObjectId} (hb : b ∈ sinks) :
      Relinks live target sinks (some (.undone, b)) (sinks.filter (· ≠ b)) (some (.undone, b))
  | absent {b : ObjectId} (hb : b ∉ sinks) :
      Relinks live target sinks (some (.undone, b)) sinks none

namespace Agrees

theorem mem_iff (h : Agrees live sinks links news) (hb : live b = true) :
    b ∈ sinks ↔ b ∈ links := by
  have hiff : b ∈ sinks.filter live ↔ b ∈ links.filter live := by rw [h.filter_eq]
  rwa [List.mem_filter, List.mem_filter, and_iff_left hb, and_iff_left hb] at hiff

/-- Sinks may die. -/
theorem mono (h : Agrees live sinks links news) {survives : ObjectId → Bool}
    (hsub : ∀ b, survives b = true → live b = true) : Agrees survives sinks links news where
  nodup := h.nodup
  filter_eq := by
    have hboth : ∀ l : List ObjectId, l.filter survives = (l.filter live).filter survives := by
      intro l
      rw [List.filter_filter]
      refine List.filter_congr fun b _ => ?_
      cases hb : survives b with
      | false => rfl
      | true => rw [hsub b hb]; rfl
    rw [hboth, h.filter_eq, ← hboth]
  last_made := h.last_made
  kept_of_last := fun b hb => h.kept_of_last b (hsub b hb)

/-- An object that nobody was ever linked to may come to life. -/
theorem born (h : Agrees live sinks links news) {alive : ObjectId → Bool} {x : ObjectId}
    (halive : ∀ b, b ≠ x → alive b = live b) (hsinks : x ∉ sinks) (hlinks : x ∉ links)
    (hnews : news x = []) : Agrees alive sinks links news where
  nodup := h.nodup
  filter_eq := by
    have hsame : ∀ l : List ObjectId, x ∉ l → l.filter alive = l.filter live := fun l hl =>
      List.filter_congr fun b hb => halive b fun heq => hl (heq ▸ hb)
    rw [hsame sinks hsinks, hsame links hlinks, h.filter_eq]
  last_made := h.last_made
  kept_of_last := by
    intro b hb hlast
    by_cases heq : b = x
    · rw [heq, hnews] at hlast
      cases hlast
    · exact h.kept_of_last b (halive b heq ▸ hb) hlast

/-- Dead sinks are dropped. -/
theorem looked (h : Agrees live sinks links news) :
    Agrees live (sinks.filter live) links news where
  nodup := h.nodup.filter live
  filter_eq := by rw [List.filter_filter, ← h.filter_eq]; simp
  last_made := fun b hb => h.last_made b (List.mem_filter.mp hb).1
  kept_of_last := fun b hb hlast => List.mem_filter.mpr ⟨h.kept_of_last b hb hlast, hb⟩

/-- A sink that is not kept is connected. -/
theorem made (h : Agrees live sinks links news) (hb : b ∉ sinks) :
    Agrees live (sinks ++ [b]) (links ++ [b])
      (fun c => news c ++ if b = c then [LinkChange.made] else []) where
  nodup := by
    rw [List.nodup_append]
    refine ⟨h.nodup, List.nodup_singleton b, ?_⟩
    rintro c hc d hd rfl
    exact hb (List.mem_singleton.mp hd ▸ hc)
  filter_eq := by rw [List.filter_append, List.filter_append, h.filter_eq]
  last_made := by
    intro c hc
    by_cases hcb : b = c
    · simp [hcb]
    · rw [List.mem_append, List.mem_singleton] at hc
      rw [if_neg hcb, List.append_nil]
      exact h.last_made c (hc.resolve_right fun heq => hcb heq.symm)
  kept_of_last := by
    intro c hc hlast
    by_cases hcb : b = c
    · exact List.mem_append_right _ (List.mem_singleton.mpr hcb.symm)
    · rw [if_neg hcb, List.append_nil] at hlast
      exact List.mem_append_left _ (h.kept_of_last c hc hlast)

/-- A sink that is kept is disconnected. -/
theorem undone (h : Agrees live sinks links news) (b : ObjectId) :
    Agrees live (sinks.filter (· ≠ b)) (links.filter (· ≠ b))
      (fun c => news c ++ if b = c then [LinkChange.undone] else []) where
  nodup := h.nodup.filter _
  filter_eq := by
    have hswap : ∀ l : List ObjectId,
        (l.filter (· ≠ b)).filter live = (l.filter live).filter (· ≠ b) := by
      intro l
      rw [List.filter_filter, List.filter_filter]
      exact List.filter_congr fun c _ => Bool.and_comm _ _
    rw [hswap, h.filter_eq, hswap]
  last_made := by
    intro c hc
    rw [List.mem_filter, decide_eq_true_eq] at hc
    rw [if_neg (Ne.symm hc.2), List.append_nil]
    exact h.last_made c hc.1
  kept_of_last := by
    intro c hc hlast
    by_cases hcb : b = c
    · simp [hcb] at hlast
    · rw [if_neg hcb, List.append_nil] at hlast
      rw [List.mem_filter, decide_eq_true_eq]
      exact ⟨h.kept_of_last c hc hlast, Ne.symm hcb⟩

/-- A sink that is not kept, and so is dead if it is linked, need not be disconnected. -/
theorem absent (h : Agrees live sinks links news) (hb : b ∉ sinks) :
    Agrees live sinks (links.filter (· ≠ b)) news where
  nodup := h.nodup
  filter_eq := by
    rw [List.filter_filter, h.filter_eq]
    refine List.filter_congr fun c hc => ?_
    cases hlive : live c with
    | false => rfl
    | true =>
      have hne : c ≠ b := by
        rintro rfl
        exact hb ((h.mem_iff hlive).mpr hc)
      rw [decide_eq_true hne]
      rfl
  last_made := h.last_made
  kept_of_last := h.kept_of_last

/-- Whatever a source answers, its sinks agree with its links again. -/
theorem relinks (h : Agrees live sinks links news)
    (htarget : ∀ b, target b → live b = true)
    (hr : Relinks live target sinks asked kept raised) :
    Agrees live kept (asked.apply links) (fun c => news c ++ raised.toward c) := by
  cases hr with
  | same => simpa [SinkChange.apply, SinkChange.toward] using h
  | looked => simpa [SinkChange.apply, SinkChange.toward] using h.looked
  | @found b ht hb =>
    have hlinks : b ∈ links := (h.mem_iff (htarget b ht)).mp (List.mem_filter.mp hb).1
    simpa [SinkChange.apply, LinkChange.apply, hlinks, SinkChange.toward] using h.looked
  | @made b ht hb =>
    have hlinks : b ∉ links := by rwa [← h.looked.mem_iff (htarget b ht)]
    simpa [SinkChange.apply, LinkChange.apply, hlinks, SinkChange.toward] using h.looked.made hb
  | @undone b hb => exact h.undone b
  | @absent b hb =>
    simpa [SinkChange.apply, LinkChange.apply, SinkChange.toward] using h.absent hb

/-- It raises news of a connection exactly if that was not there. -/
theorem raised_made_iff (h : Agrees live sinks links news)
    (htarget : ∀ b, target b → live b = true)
    (hr : Relinks live target sinks asked kept raised) :
    raised = some (.made, b) ↔ asked = some (.made, b) ∧ b ∉ links := by
  cases hr with
  | same | looked | undone | absent => simp
  | @found c ht hc =>
    have hlinks : c ∈ links := (h.mem_iff (htarget c ht)).mp (List.mem_filter.mp hc).1
    simp only [reduceCtorEq, false_iff, not_and, not_not]
    rintro ⟨⟩
    exact hlinks
  | @made c ht hc =>
    have hlinks : c ∉ links := by rwa [← h.looked.mem_iff (htarget c ht)]
    refine ⟨?_, fun hasked => hasked.1⟩
    rintro ⟨⟩
    exact ⟨rfl, hlinks⟩

/-- And its news keep alternating. -/
theorem alternates (h : Agrees live sinks links news)
    (htarget : ∀ b, target b → live b = true)
    (hr : Relinks live target sinks asked kept raised) (hb : LinkChange.Alternates (news b)) :
    LinkChange.Alternates (news b ++ raised.toward b) := by
  have hsame : LinkChange.Alternates (news b ++ []) := by rwa [List.append_nil]
  cases hr with
  | same | looked | found | absent => exact hsame
  | @made c ht hc =>
    by_cases heq : c = b
    · subst heq
      rw [SinkChange.toward, if_pos rfl]
      refine hb.concat (fun hlast => hc ?_) fun _ => rfl
      exact List.mem_filter.mpr ⟨h.kept_of_last c (htarget c ht) hlast, htarget c ht⟩
    · rwa [SinkChange.toward, if_neg heq]
  | @undone c hc =>
    by_cases heq : c = b
    · subst heq
      rw [SinkChange.toward, if_pos rfl]
      have hlast := h.last_made c hc
      refine hb.concat (by rw [hlast]; exact nofun) fun hnil => ?_
      rw [hnil] at hlast
      cases hlast
    · rwa [SinkChange.toward, if_neg heq]

end Agrees

theorem Relinks.mem (hr : Relinks live target sinks asked kept raised) (hb : b ∈ kept) :
    b ∈ sinks ∨ target b := by
  cases hr with
  | same | absent => exact Or.inl hb
  | looked | found => exact Or.inl (List.mem_filter.mp hb).1
  | made ht =>
    rcases List.mem_append.mp hb with hb | hb
    · exact Or.inl (List.mem_filter.mp hb).1
    · exact Or.inr (List.mem_singleton.mp hb ▸ ht)
  | undone => exact Or.inl (List.mem_filter.mp hb).1

/-- What is asked to be connected is a target. -/
theorem Relinks.target_of_asked (hr : Relinks live target sinks asked kept raised)
    (hb : asked = some (.made, b)) : target b := by
  cases hr with
  | found ht | made ht =>
    cases hb
    exact ht
  | same | looked | undone | absent => cases hb

/-- News are of sinks that were kept, and of targets. -/
theorem Relinks.mem_of_raised (hr : Relinks live target sinks asked kept raised) {k : LinkChange}
    (hb : raised = some (k, b)) : b ∈ sinks ∨ target b := by
  cases hr with
  | same | looked | found | absent => cases hb
  | made ht =>
    cases hb
    exact Or.inr ht
  | undone hmem =>
    cases hb
    exact Or.inl hmem

end Kept

end MediaPlane
