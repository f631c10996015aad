import MediaPlane.Proofs.Session.References

/-
  The two indexes of references through any sequence of changes. A table that starts empty is
  changed by eight actions. What a sequence of them makes of the references is said without any
  table by `holding`, a relation between sessions and objects: a touch raises one pair, a drop
  takes one pair away, a removal takes a row and a purge takes a column. `indexes_agree` is that
  both indexes hold this relation at the end of every sequence, that no empty set of holders is
  kept, that the four questions a collector or a caller can ask are answered from it, and that a
  touch leaves the stronger of the old and the new strength and no other pair different.
-/

namespace MediaPlane

/-- One change of a session table. -/
inductive TableAction where
  | ensure (s : SessionId) (now : Nat)
  | enter (s : SessionId) (now : Nat)
  | leave (s : SessionId) (now : Nat)
  | recordActivity (s : SessionId) (now : Nat)
  | touch (s : SessionId) (o : ObjectId) (k : Strength) (now : Nat)
  | dropReference (s : SessionId) (o : ObjectId)
  | removeSession (s : SessionId)
  | purge (o : ObjectId)
deriving DecidableEq, Repr

/-- Who holds what, and how strongly. -/
abbrev Holding := SessionId → ObjectId → Option Strength

namespace Holding

/-- Nobody holds anything. -/
def empty : Holding := fun _ _ => none

/-- What an action does to the references. -/
def after (held : Holding) : TableAction → Holding
  | .ensure .. | .enter .. | .leave .. | .recordActivity .. => held
  | .touch s o k _ => fun u x =>
      if s = u ∧ o = x then some (((held s o).getD k).max k) else held u x
  | .dropReference s o => fun u x => if s = u ∧ o = x then none else held u x
  | .removeSession s => fun u x => if s = u then none else held u x
  | .purge o => fun u x => if o = x then none else held u x

end Holding

/-- The references that a sequence of actions leaves. -/
def holding (actions : List TableAction) : Holding := actions.foldl Holding.after Holding.empty

namespace SessionTable

/-- The table after an action. -/
def act (t : SessionTable) : TableAction → SessionTable
  | .ensure s now => (t.ensure s now).2
  | .enter s now => (t.enter s now).2
  | .leave s now => t.leave s now
  | .recordActivity s now => t.recordActivity s now
  | .touch s o k now => t.touch s o k now
  | .dropReference s o => t.dropReference s o
  | .removeSession s => ((t.removeSession? s).map (·.2)).getD t
  | .purge o => t.purge o

/-- The table after a sequence of actions, from an empty one. -/
def ofActions (actions : List TableAction) : SessionTable := actions.foldl act empty

/-! ## One action -/

variable {t : SessionTable} {held : Holding} {s u : SessionId} {o x : ObjectId} {k : Strength}

/-- Removing an unknown session changes nothing. -/
theorem act_removeSession_cases (t : SessionTable) (s : SessionId) :
    (t.find? s = none ∧ t.act (.removeSession s) = t) ∨
      ∃ refs, t.removeSession? s = some (refs, t.act (.removeSession s)) := by
  simp only [act]
  cases h : t.removeSession? s with
  | none =>
    left
    refine ⟨?_, rfl⟩
    have hc := (removeSession?_eq_none_iff t s).mp h
    rwa [contains_eq, Option.isSome_eq_false_iff, Option.isNone_iff_eq_none] at hc
  | some p =>
    right
    exact ⟨p.1, rfl⟩

theorem mirrored_act (h : t.Mirrored) (a : TableAction) : (t.act a).Mirrored := by
  cases a with
  | ensure s now => exact mirrored_ensure h s now
  | enter s now => exact mirrored_enter h s now
  | leave s now => exact mirrored_leave h s now
  | recordActivity s now => exact mirrored_recordActivity h s now
  | touch s o k now => exact mirrored_touch h s o k now
  | dropReference s o => exact mirrored_dropReference h s o
  | removeSession s =>
    rcases act_removeSession_cases t s with ⟨-, heq⟩ | ⟨refs, hr⟩
    · rw [heq]
      exact h
    · exact mirrored_removeSession? h hr
  | purge o => exact mirrored_purge h o

/-- An action does to the sessions' own references what it does to the relation. -/
theorem reference?_act (h : t.Mirrored) (a : TableAction) (u : SessionId) (x : ObjectId) :
    (t.act a).reference? u x = Holding.after t.reference? a u x := by
  cases a with
  | ensure s now => exact reference?_ensure t s u now x
  | enter s now => exact reference?_enter t s u now x
  | leave s now => exact reference?_leave t s u now x
  | recordActivity s now => exact reference?_recordActivity t s u now x
  | touch s o k now => exact reference?_touch t s u o x k now
  | dropReference s o => exact reference?_dropReference t s u o x
  | removeSession s =>
    rcases act_removeSession_cases t s with ⟨hnone, heq⟩ | ⟨refs, hr⟩
    · rw [heq]
      simp only [Holding.after]
      split
      · next hu =>
        subst hu
        exact reference?_eq_none_of_find? hnone
      · rfl
    · exact reference?_removeSession? hr u x
  | purge o => exact reference?_purge h o x u

/-! ## A sequence of actions -/

/-- The invariant of a sequence: the indexes mirror each other and hold the relation. -/
theorem mirrored_foldl (h : t.Mirrored) (heq : t.reference? = held) (actions : List TableAction) :
    (actions.foldl act t).Mirrored ∧
      (actions.foldl act t).reference? = actions.foldl Holding.after held := by
  induction actions generalizing t held with
  | nil => exact ⟨h, heq⟩
  | cons a actions ih =>
    refine ih (mirrored_act h a) ?_
    funext u x
    rw [reference?_act h, heq]

theorem mirrored_ofActions (actions : List TableAction) : (ofActions actions).Mirrored :=
  (mirrored_foldl mirrored_empty rfl actions).1

theorem reference?_ofActions (actions : List TableAction) :
    (ofActions actions).reference? = holding actions := by
  refine (mirrored_foldl mirrored_empty ?_ actions).2
  funext u x
  simp [reference?, find?, empty, Holding.empty]


/-! ## The questions that are asked of a table -/

theorem mem_referencesOf : (o, k) ∈ t.referencesOf s ↔ t.reference? s o = some k := by
  unfold referencesOf reference?
  cases t.find? s with
  | none => simp
  | some e => exact Std.ExtTreeMap.mem_toList_iff_getElem?_eq_some

/-- A session's references are listed once each, by object id. -/
theorem referencesOf_sorted (t : SessionTable) (s : SessionId) :
    (t.referencesOf s).Pairwise fun a b => compare a.1 b.1 = .lt := by
  unfold referencesOf
  cases t.find? s with
  | none => exact List.Pairwise.nil
  | some e => exact e.references.ordered_keys_toList

/-- An object's holders are listed once each, by session id. -/
theorem holdersOf_sorted (t : SessionTable) (o : ObjectId) :
    (t.holdersOf o).Pairwise fun a b => compare a.1 b.1 = .lt := by
  unfold holdersOf
  cases t.holders[o]? with
  | none => exact List.Pairwise.nil
  | some hs => exact hs.ordered_keys_toList

/-- Everything that is asked of the table about references is answered from one relation. -/
structure Answers (t : SessionTable) (held : Holding) : Prop where
  /-- A session's own map holds the relation. -/
  forward : ∀ s o k, (t.find? s).bind (·.references[o]?) = some k ↔ held s o = some k
  /-- So does the index of holders. -/
  backward : ∀ s o k, t.holders[o]?.bind (·[s]?) = some k ↔ held s o = some k
  /-- An object that is indexed has a holder. -/
  none_empty : ∀ (o : ObjectId) (hs : Holders), t.holders[o]? = some hs → hs.isEmpty = false
  referencesOf : ∀ s o k, (o, k) ∈ t.referencesOf s ↔ held s o = some k
  references_sorted : ∀ s, (t.referencesOf s).Pairwise fun a b => compare a.1 b.1 = .lt
  holdersOf : ∀ s o k, (s, k) ∈ t.holdersOf o ↔ held s o = some k
  holders_sorted : ∀ o, (t.holdersOf o).Pairwise fun a b => compare a.1 b.1 = .lt
  hasReferences : ∀ o, t.hasReferences o = true ↔ ∃ s k, held s o = some k
  hasStrongReference : ∀ o, t.hasStrongReference o = true ↔ ∃ s, held s o = some .strong

theorem Mirrored.answers (h : t.Mirrored) : t.Answers t.reference? where
  forward _ _ _ := Iff.rfl
  backward s o k := by
    rw [← h.recorded_eq]
    exact Iff.rfl
  none_empty _ _ ho := h.none_empty ho
  referencesOf _ _ _ := mem_referencesOf
  references_sorted := referencesOf_sorted t
  holdersOf s o k := by
    rw [mem_holdersOf, h.recorded_eq]
  holders_sorted := holdersOf_sorted t
  hasReferences _ := h.hasReferences_iff
  hasStrongReference _ := h.hasStrongReference_iff

/-- A touch leaves the stronger of the old and the new strength, and every other pair as it is. -/
structure Touches (s : SessionId) (o : ObjectId) (k : Strength) (held next : Holding) :
    Prop where
  first : held s o = none → next s o = some k
  again : ∀ old, held s o = some old → next s o = some (old.max k)
  others : ∀ u x, ¬ (u = s ∧ x = o) → next u x = held u x

theorem touches_after (held : Holding) (s : SessionId) (o : ObjectId) (k : Strength) (now : Nat) :
    Touches s o k held (held.after (.touch s o k now)) where
  first h := by simp [Holding.after, h]
  again old h := by simp [Holding.after, h]
  others u x hne := if_neg fun h => hne ⟨h.1.symm, h.2.symm⟩

/-- The two indexes of references never drift apart: after any sequence of actions both hold the
relation that the sequence describes, and every question is answered from it. -/
theorem indexes_agree (actions : List TableAction) :
    (ofActions actions).Answers (holding actions) ∧
      ∀ s o k now, (ofActions (actions ++ [.touch s o k now])).Answers
          (holding (actions ++ [.touch s o k now])) ∧
        Touches s o k (holding actions) (holding (actions ++ [.touch s o k now])) := by
  have hanswers : ∀ actions, (ofActions actions).Answers (holding actions) := by
    intro actions
    have h := (mirrored_ofActions actions).answers
    rwa [reference?_ofActions] at h
  refine ⟨hanswers actions, fun s o k now => ⟨hanswers _, ?_⟩⟩
  have happend : holding (actions ++ [.touch s o k now]) =
      (holding actions).after (.touch s o k now) := List.foldl_concat _ _ _ _
  rw [happend]
  exact touches_after (holding actions) s o k now

end SessionTable

end MediaPlane
