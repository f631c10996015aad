import Mathlib.Data.List.Nodup
import MediaPlane.Session.Table

/-
  The two indexes of references. A session's own map says what it holds; the index of holders says
  by whom an object is held. `Mirrored` says that both answer from one relation and that no empty
  set of holders is kept. Every change of the table keeps it, and is pinned down by what it does to
  `reference?`: a closed session loses all of its references and no other does, and a purge takes
  one object from every session.
-/

namespace MediaPlane

/-- The session once it does not hold an object any more. -/
def Session.without (e : Session) (o : ObjectId) : Session :=
  { e with references := e.references.erase o }

namespace SessionTable

variable {t : SessionTable} {s u : SessionId} {o x : ObjectId} {k : Strength}

/-! ## The index of holders -/

abbrev HolderIndex := Std.ExtTreeMap ObjectId Holders

/-- How strongly a session holds an object, by the index of holders. -/
def recorded (m : HolderIndex) (o : ObjectId) (s : SessionId) : Option Strength :=
  m[o]?.bind fun h => h[s]?

/-- No object has an empty set of holders. -/
def NoneEmpty (m : HolderIndex) : Prop :=
  ∀ {o : ObjectId} {h : Holders}, m[o]? = some h → h.isEmpty = false

theorem recorded_insert (m : HolderIndex) (o x : ObjectId) (s u : SessionId) (k : Strength) :
    recorded (m.insert o ((m[o]?.getD ∅).insert s k)) x u =
      if o = x ∧ s = u then some k else recorded m x u := by
  unfold recorded
  rw [getElem?_insert_lawful]
  by_cases ho : o = x
  · subst ho
    rw [if_pos rfl, Option.bind_some, getElem?_insert_lawful]
    by_cases hs : s = u
    · rw [if_pos hs, if_pos ⟨rfl, hs⟩]
    · rw [if_neg hs, if_neg fun h => hs h.2]
      cases m[o]? <;> simp
  · rw [if_neg ho, if_neg fun h => ho h.1]

theorem noneEmpty_insert {m : HolderIndex} (h : NoneEmpty m) (o : ObjectId) (s : SessionId)
    (k : Strength) : NoneEmpty (m.insert o ((m[o]?.getD ∅).insert s k)) := by
  intro x hs hx
  rw [getElem?_insert_lawful] at hx
  split at hx
  · cases hx
    simp
  · exact h hx

theorem recorded_erase (m : HolderIndex) (o x : ObjectId) (u : SessionId) :
    recorded (m.erase o) x u = if o = x then none else recorded m x u := by
  unfold recorded
  rw [getElem?_erase_lawful]
  split <;> rfl

theorem noneEmpty_erase {m : HolderIndex} (h : NoneEmpty m) (o : ObjectId) :
    NoneEmpty (m.erase o) := by
  intro x hs hx
  rw [getElem?_erase_lawful] at hx
  split at hx
  · cases hx
  · exact h hx

theorem recorded_dropHolder (m : HolderIndex) (o x : ObjectId) (s u : SessionId) :
    recorded (dropHolder m o s) x u = if o = x ∧ s = u then none else recorded m x u := by
  unfold dropHolder
  cases ho : m[o]? with
  | none =>
    simp only
    split
    · next h =>
      rw [← h.1]
      simp [recorded, ho]
    · rfl
  | some h =>
    simp only
    split
    · next he =>
      -- The last holder goes, and its object with it.
      have hnone : ∀ v, s ≠ v → h[v]? = none := by
        intro v hv
        have hv' : (h.erase s)[v]? = none := by
          rw [Std.ExtTreeMap.isEmpty_iff.mp he]
          exact Std.ExtTreeMap.getElem?_empty
        rwa [getElem?_erase_lawful, if_neg hv] at hv'
      rw [recorded_erase]
      by_cases hx : o = x
      · subst hx
        rw [if_pos rfl]
        split
        · rfl
        · next hu => simp [recorded, ho, hnone u fun hs => hu ⟨rfl, hs⟩]
      · rw [if_neg hx, if_neg fun h => hx h.1]
    · unfold recorded
      rw [getElem?_insert_lawful]
      by_cases hx : o = x
      · subst hx
        rw [if_pos rfl, Option.bind_some, getElem?_erase_lawful, ho]
        by_cases hs : s = u
        · rw [if_pos hs, if_pos ⟨rfl, hs⟩]
        · rw [if_neg hs, if_neg fun h => hs h.2, Option.bind_some]
      · rw [if_neg hx, if_neg fun h => hx h.1]

theorem noneEmpty_dropHolder {m : HolderIndex} (h : NoneEmpty m) (o : ObjectId) (s : SessionId) :
    NoneEmpty (dropHolder m o s) := by
  unfold dropHolder
  cases ho : m[o]? with
  | none => exact h
  | some hs =>
    simp only
    split
    · exact noneEmpty_erase h o
    · next he =>
      intro x hs' hx
      rw [getElem?_insert_lawful] at hx
      split at hx
      · cases hx
        simpa using he
      · exact h hx

theorem recorded_dropHolders (m : HolderIndex) (rs : List (ObjectId × Strength)) (s u : SessionId)
    (x : ObjectId) :
    recorded (rs.foldl (fun h r => dropHolder h r.1 s) m) x u =
      if s = u ∧ x ∈ rs.map (·.1) then none else recorded m x u := by
  induction rs generalizing m with
  | nil => simp
  | cons r rs ih =>
    have hmem : x ∈ (r :: rs).map (·.1) ↔ r.1 = x ∨ x ∈ rs.map (·.1) := by
      rw [List.map_cons, List.mem_cons, eq_comm]
    rw [List.foldl_cons, ih, recorded_dropHolder]
    by_cases hs : s = u
    · by_cases hr : r.1 = x
      · simp [hs, hr]
      · simp only [hmem, hr, false_and, false_or, if_false]
    · simp [hs]

theorem noneEmpty_dropHolders {m : HolderIndex} (h : NoneEmpty m)
    (rs : List (ObjectId × Strength)) (s : SessionId) :
    NoneEmpty (rs.foldl (fun h r => dropHolder h r.1 s) m) := by
  induction rs generalizing m with
  | nil => exact h
  | cons r rs ih => exact ih (noneEmpty_dropHolder h r.1 s)

/-! ## Both indexes together -/

/-- Both indexes answer from one relation, and no object has an empty set of holders. -/
structure Mirrored (t : SessionTable) : Prop where
  recorded_eq : ∀ o s, recorded t.holders o s = t.reference? s o
  none_empty : NoneEmpty t.holders

theorem mirrored_empty : empty.Mirrored := by
  refine ⟨fun o s => ?_, fun ho => ?_⟩
  · simp [empty, recorded, reference?, find?]
  · simp [empty] at ho

theorem Mirrored.hasReferences_iff (h : t.Mirrored) :
    t.hasReferences o = true ↔ ∃ s k, t.reference? s o = some k := by
  simp only [hasReferences, ← h.recorded_eq, recorded]
  cases ho : t.holders[o]? with
  | none => simp
  | some hs =>
    have hne := h.none_empty ho
    simp only [hne, Bool.not_false, true_iff, Option.bind_some]
    by_contra hnone
    refine Std.ExtTreeMap.isEmpty_eq_false_iff.mp hne ?_
    refine Std.ExtTreeMap.eq_empty_iff_forall_not_mem.mpr fun s hs => hnone ?_
    exact ⟨s, _, Std.ExtTreeMap.getElem?_eq_some_getElem hs⟩

theorem Mirrored.holders_eq_none (h : t.Mirrored) (ho : t.hasReferences o = false) :
    t.holders[o]? = none := by
  cases hh : t.holders[o]? with
  | none => rfl
  | some hs =>
    simp [hasReferences, hh, h.none_empty hh] at ho

theorem mem_holdersOf : (s, k) ∈ t.holdersOf o ↔ recorded t.holders o s = some k := by
  unfold holdersOf recorded
  cases t.holders[o]? with
  | none => simp
  | some hs => exact Std.ExtTreeMap.mem_toList_iff_getElem?_eq_some

theorem Mirrored.hasStrongReference_iff (h : t.Mirrored) :
    t.hasStrongReference o = true ↔ ∃ s, t.reference? s o = some .strong := by
  simp only [hasStrongReference, List.any_eq_true, decide_eq_true_eq, ← h.recorded_eq]
  constructor
  · rintro ⟨⟨s, k⟩, hm, hk⟩
    simp only at hk
    subst hk
    exact ⟨s, mem_holdersOf.mp hm⟩
  · rintro ⟨s, hs⟩
    exact ⟨(s, .strong), mem_holdersOf.mpr hs, rfl⟩

/-- The index of holders follows from the references. -/
theorem Mirrored.holders_eq {t' : SessionTable} (h : t.Mirrored) (h' : t'.Mirrored)
    (heq : ∀ u x, t.reference? u x = t'.reference? u x) : t.holders = t'.holders := by
  refine Std.ExtTreeMap.ext_getElem? fun o => ?_
  have hrecorded : ∀ u, recorded t.holders o u = recorded t'.holders o u := by
    intro u
    rw [h.recorded_eq, h'.recorded_eq, heq]
  have hsame : t.hasReferences o = t'.hasReferences o := by
    rw [Bool.eq_iff_iff, h.hasReferences_iff, h'.hasReferences_iff]
    simp only [heq]
  cases hr : t.hasReferences o with
  | false => rw [h.holders_eq_none hr, h'.holders_eq_none (hsame.symm.trans hr)]
  | true =>
    have hr' := hsame.symm.trans hr
    unfold hasReferences at hr hr'
    unfold recorded at hrecorded
    cases ho : t.holders[o]? with
    | none => simp [ho] at hr
    | some hs =>
      cases ho' : t'.holders[o]? with
      | none => simp [ho'] at hr'
      | some hs' =>
        simp only [ho, ho', Option.bind_some] at hrecorded
        rw [Std.ExtTreeMap.ext_getElem? hrecorded]

/-- So a table whose indexes agree is known by its sessions. -/
theorem Mirrored.eq_of_find? {t' : SessionTable} (h : t.Mirrored) (h' : t'.Mirrored)
    (heq : ∀ u, t.find? u = t'.find? u) : t = t' := by
  have hsessions : t.sessions = t'.sessions := Std.ExtTreeMap.ext_getElem? fun u => heq u
  have hholders : t.holders = t'.holders := by
    refine h.holders_eq h' fun u x => ?_
    unfold reference?
    rw [heq]
  obtain ⟨sessions, holders⟩ := t
  cases hsessions
  cases hholders
  rfl

/-! ## Sessions come and go -/

theorem reference?_eq_none_of_find? (h : t.find? s = none) : t.reference? s o = none := by
  simp [reference?, h]

@[simp] theorem reference?_ensure (t : SessionTable) (s u : SessionId) (now : Nat) (o : ObjectId) :
    (t.ensure s now).2.reference? u o = t.reference? u o := by
  unfold reference?
  rw [find?_ensure]
  split
  · next hu =>
    subst hu
    cases t.find? s with
    | none => simp
    | some e => rfl
  · rfl

theorem mirrored_ensure (h : t.Mirrored) (s : SessionId) (now : Nat) :
    (t.ensure s now).2.Mirrored := by
  refine ⟨fun o u => ?_, ?_⟩
  · rw [holders_ensure, reference?_ensure]
    exact h.recorded_eq o u
  · rw [holders_ensure]
    exact h.none_empty

theorem reference?_update {f : Session → Session} (hf : ∀ e, (f e).references = e.references)
    (t : SessionTable) (s u : SessionId) (o : ObjectId) :
    (t.update s f).reference? u o = t.reference? u o := by
  unfold reference?
  rw [find?_update]
  split
  · next hu =>
    subst hu
    cases t.find? s with
    | none => rfl
    | some e => simp [hf]
  · rfl

theorem mirrored_update {f : Session → Session} (hf : ∀ e, (f e).references = e.references)
    (h : t.Mirrored) (s : SessionId) : (t.update s f).Mirrored := by
  refine ⟨fun o u => ?_, ?_⟩
  · rw [holders_update, reference?_update hf]
    exact h.recorded_eq o u
  · rw [holders_update]
    exact h.none_empty

theorem reference?_recordActivity (t : SessionTable) (s u : SessionId) (now : Nat)
    (o : ObjectId) : (t.recordActivity s now).reference? u o = t.reference? u o :=
  reference?_update (by intro e; rfl) t s u o

theorem mirrored_recordActivity (h : t.Mirrored) (s : SessionId) (now : Nat) :
    (t.recordActivity s now).Mirrored := mirrored_update (by intro e; rfl) h s

theorem reference?_enter (t : SessionTable) (s u : SessionId) (now : Nat) (o : ObjectId) :
    (t.enter s now).2.reference? u o = t.reference? u o :=
  (reference?_update (by intro e; rfl) _ s u o).trans (reference?_ensure t s u now o)

theorem mirrored_enter (h : t.Mirrored) (s : SessionId) (now : Nat) : (t.enter s now).2.Mirrored :=
  mirrored_update (by intro e; rfl) (mirrored_ensure h s now) s

theorem reference?_leave (t : SessionTable) (s u : SessionId) (now : Nat) (o : ObjectId) :
    (t.leave s now).reference? u o = t.reference? u o :=
  reference?_update (by intro e; rfl) t s u o

theorem mirrored_leave (h : t.Mirrored) (s : SessionId) (now : Nat) : (t.leave s now).Mirrored :=
  mirrored_update (by intro e; rfl) h s

/-! ## References -/

theorem mirrored_touch (h : t.Mirrored) (s : SessionId) (o : ObjectId) (k : Strength)
    (now : Nat) : (t.touch s o k now).Mirrored := by
  have hfind : (t.ensure s now).2.find? s = some ((t.find? s).getD { lastActivity := now }) := by
    simp [find?_ensure]
  have hholders : (t.touch s o k now).holders =
      t.holders.insert o ((t.holders[o]?.getD ∅).insert s
        (((t.reference? s o).getD k).max k)) := by
    simp only [touch, hfind, holders_ensure]
    cases hs : t.find? s <;> simp [reference?, hs]
  refine ⟨fun x u => ?_, ?_⟩
  · rw [hholders, recorded_insert, reference?_touch, h.recorded_eq]
    by_cases hx : o = x <;> by_cases hu : s = u <;> simp [hx, hu]
  · rw [hholders]
    exact noneEmpty_insert h.none_empty o s _

theorem mirrored_dropReference (h : t.Mirrored) (s : SessionId) (o : ObjectId) :
    (t.dropReference s o).Mirrored := by
  have hrec : ∀ x u, recorded (t.dropReference s o).holders x u =
      if o = x ∧ s = u then none else recorded t.holders x u := by
    intro x u
    unfold dropReference
    cases hs : t.find? s with
    | none =>
      simp only
      split
      · next hxu =>
        rw [h.recorded_eq, ← hxu.2]
        exact reference?_eq_none_of_find? hs
      · rfl
    | some e =>
      simp only
      split
      · exact recorded_dropHolder t.holders o x s u
      · next hne =>
        split
        · next hxu =>
          rw [h.recorded_eq, ← hxu.1, ← hxu.2]
          simp only [reference?, hs, Option.bind_some]
          exact Std.ExtTreeMap.getElem?_eq_none fun hm =>
            hne (Std.ExtTreeMap.contains_iff_mem.mpr hm)
        · rfl
  refine ⟨fun x u => ?_, ?_⟩
  · rw [hrec, reference?_dropReference, h.recorded_eq]
    by_cases hx : o = x <;> by_cases hu : s = u <;> simp [hx, hu]
  · unfold dropReference
    cases t.find? s with
    | none => exact h.none_empty
    | some e =>
      simp only
      split
      · exact noneEmpty_dropHolder h.none_empty o s
      · exact h.none_empty

/-! ## Closed sessions and objects that are gone -/

/-- A closed session tells what it held, and is gone. -/
theorem removeSession?_eq_some {refs : List (ObjectId × Strength)} {t' : SessionTable}
    (h : t.removeSession? s = some (refs, t')) :
    ∃ e, t.find? s = some e ∧ refs = e.references.toList ∧
      t'.sessions = t.sessions.erase s ∧
      t'.holders = refs.foldl (fun m r => dropHolder m r.1 s) t.holders := by
  obtain ⟨e, he, heq⟩ := Option.map_eq_some_iff.mp h
  simp only [Prod.mk.injEq] at heq
  obtain ⟨hrefs, ht⟩ := heq
  exact ⟨e, he, hrefs.symm, by rw [← ht], by rw [← ht, hrefs]⟩

theorem mem_of_removeSession? {refs : List (ObjectId × Strength)} {t' : SessionTable}
    (h : t.removeSession? s = some (refs, t')) :
    (o, k) ∈ refs ↔ t.reference? s o = some k := by
  obtain ⟨e, he, hrefs, -, -⟩ := removeSession?_eq_some h
  rw [hrefs, Std.ExtTreeMap.mem_toList_iff_getElem?_eq_some]
  simp [reference?, he]

theorem find?_removeSession? {refs : List (ObjectId × Strength)} {t' : SessionTable}
    (h : t.removeSession? s = some (refs, t')) (u : SessionId) :
    t'.find? u = if s = u then none else t.find? u := by
  obtain ⟨-, -, -, ht, -⟩ := removeSession?_eq_some h
  unfold find?
  rw [ht, getElem?_erase_lawful]

/-- A closed session loses all of its references, and no other session does. -/
theorem reference?_removeSession? {refs : List (ObjectId × Strength)} {t' : SessionTable}
    (h : t.removeSession? s = some (refs, t')) (u : SessionId) (o : ObjectId) :
    t'.reference? u o = if s = u then none else t.reference? u o := by
  unfold reference?
  rw [find?_removeSession? h]
  split <;> rfl

theorem mirrored_removeSession? (hm : t.Mirrored) {refs : List (ObjectId × Strength)}
    {t' : SessionTable} (h : t.removeSession? s = some (refs, t')) : t'.Mirrored := by
  obtain ⟨-, -, -, -, hholders⟩ := removeSession?_eq_some h
  refine ⟨fun o u => ?_, ?_⟩
  · rw [hholders, recorded_dropHolders, reference?_removeSession? h, hm.recorded_eq]
    by_cases hu : s = u
    · subst hu
      rw [if_pos rfl]
      split
      · rfl
      · next hin =>
        cases hr : t.reference? s o with
        | none => rfl
        | some k =>
          have hmem := (mem_of_removeSession? h).mpr hr
          exact absurd ⟨rfl, List.mem_map.mpr ⟨(o, k), hmem, rfl⟩⟩ hin
    · rw [if_neg hu, if_neg fun h => hu h.1]
  · rw [hholders]
    exact noneEmpty_dropHolders hm.none_empty refs s

theorem getElem?_eraseAll (m : Std.ExtTreeMap SessionId Session) (o : ObjectId)
    (ss : List SessionId) (hn : ss.Nodup) (u : SessionId) :
    (ss.foldl
      (fun (sessions : Std.ExtTreeMap SessionId Session) (s : SessionId) =>
        match (sessions[s]? : Option Session) with
        | some e => sessions.insert s { e with references := e.references.erase o }
        | none => sessions) m)[u]? =
      if u ∈ ss then (m[u]? : Option Session).map (·.without o) else m[u]? := by
  induction ss generalizing m with
  | nil => simp
  | cons s ss ih =>
    obtain ⟨hs, hn⟩ := List.nodup_cons.mp hn
    rw [List.foldl_cons, ih _ hn]
    cases he : m[s]? with
    | none =>
      simp only
      by_cases hu : u = s
      · subst hu
        simp [hs, he]
      · simp [hu]
    | some e =>
      simp only
      rw [getElem?_insert_lawful]
      by_cases hu : s = u
      · subst hu
        simp [hs, he, Session.without]
      · simp [hu, Ne.symm hu]

/-- A purge takes one object out of every session's references. -/
theorem find?_purge (h : t.Mirrored) (o : ObjectId) (u : SessionId) :
    (t.purge o).find? u = (t.find? u).map (·.without o) := by
  have hkeep : ∀ e, t.find? u = some e → t.reference? u o = none → e.without o = e := by
    intro e he hr
    have hout : o ∉ e.references := by
      rw [Std.ExtTreeMap.mem_iff_isSome_getElem?]
      simp only [reference?, he, Option.bind_some] at hr
      simp [hr]
    rw [Session.without, erase_of_not_mem hout]
  have hsame : t.reference? u o = none → t.find? u = (t.find? u).map (·.without o) := by
    intro hr
    cases he : t.find? u with
    | none => rfl
    | some e => rw [Option.map_some, hkeep e he hr]
  unfold purge
  cases hh : t.holders[o]? with
  | none =>
    refine hsame ?_
    rw [← h.recorded_eq]
    simp [recorded, hh]
  | some hs =>
    unfold find?
    simp only
    refine (getElem?_eraseAll t.sessions o hs.keys Std.ExtTreeMap.nodup_keys u).trans ?_
    split
    · rfl
    · next hu =>
      refine hsame ?_
      rw [← h.recorded_eq]
      simp only [recorded, hh, Option.bind_some]
      exact Std.ExtTreeMap.getElem?_eq_none fun hm => hu (Std.ExtTreeMap.mem_keys.mpr hm)

theorem reference?_purge (h : t.Mirrored) (o x : ObjectId) (u : SessionId) :
    (t.purge o).reference? u x = if o = x then none else t.reference? u x := by
  unfold reference?
  rw [find?_purge h]
  cases t.find? u with
  | none => simp
  | some e => simp [Session.without, getElem?_erase_lawful]

theorem mirrored_purge (h : t.Mirrored) (o : ObjectId) : (t.purge o).Mirrored := by
  refine ⟨fun x u => ?_, ?_⟩
  · rw [reference?_purge h, ← h.recorded_eq]
    unfold purge
    cases hh : t.holders[o]? with
    | none =>
      simp only
      split
      · next hx =>
        rw [← hx]
        simp [recorded, hh]
      · rfl
    | some hs => exact recorded_erase t.holders o x u
  · unfold purge
    cases t.holders[o]? with
    | none => exact h.none_empty
    | some hs => exact noneEmpty_erase h.none_empty o

/-- Where nobody holds an object, a purge of it changes nothing. -/
theorem purge_of_not_held (h : t.Mirrored) (ho : t.hasReferences o = false) : t.purge o = t := by
  unfold purge
  rw [h.holders_eq_none ho]

/-! ## Sessions that are there -/

theorem contains_update (t : SessionTable) (s u : SessionId) (f : Session → Session) :
    (t.update s f).contains u = t.contains u := by
  rw [contains_eq, contains_eq, find?_update]
  split
  · next hu =>
    subst hu
    exact Option.isSome_map
  · rfl

theorem contains_ensure (t : SessionTable) (s u : SessionId) (now : Nat) :
    (t.ensure s now).2.contains u = true ↔ s = u ∨ t.contains u = true := by
  rw [contains_eq, contains_eq, find?_ensure]
  split
  · next hu => simp [hu]
  · next hu => simp [hu]

theorem contains_enter (t : SessionTable) (s u : SessionId) (now : Nat) :
    (t.enter s now).2.contains u = true ↔ s = u ∨ t.contains u = true := by
  rw [← contains_ensure t s u now]
  exact (congrArg (· = true) (contains_update _ s u _)).to_iff

theorem contains_touch (t : SessionTable) (s u : SessionId) (o : ObjectId) (k : Strength)
    (now : Nat) : (t.touch s o k now).contains u = true ↔ s = u ∨ t.contains u = true := by
  rw [contains_eq, contains_eq, find?_touch]
  split
  · next hu => simp [hu]
  · next hu => simp [hu]

/-! ## How many there are -/

theorem mem_ids {t : SessionTable} {u : SessionId} : u ∈ t.ids ↔ t.contains u = true :=
  Std.ExtTreeMap.mem_keys.trans Std.ExtTreeMap.contains_iff_mem.symm

theorem nodup_ids (t : SessionTable) : t.ids.Nodup := Std.ExtTreeMap.nodup_keys

theorem length_ids (t : SessionTable) : t.ids.length = t.size := Std.ExtTreeMap.length_keys

theorem size_eq_of_contains {t t' : SessionTable} (h : ∀ u, t'.contains u = t.contains u) :
    t'.size = t.size := by
  have hperm : t'.ids.Perm t.ids := by
    refine (List.perm_ext_iff_of_nodup t'.nodup_ids t.nodup_ids).mpr fun u => ?_
    rw [mem_ids, mem_ids, h]
  rw [← length_ids, ← length_ids]
  exact hperm.length_eq

/-- One session more is there. -/
theorem size_eq_succ {t t' : SessionTable} {s : SessionId} (hs : t.contains s = false)
    (h : ∀ u, t'.contains u = true ↔ s = u ∨ t.contains u = true) : t'.size = t.size + 1 := by
  have hnew : s ∉ t.ids := fun hmem => by
    rw [mem_ids, hs] at hmem
    cases hmem
  have hperm : t'.ids.Perm (s :: t.ids) := by
    refine (List.perm_ext_iff_of_nodup t'.nodup_ids (t.nodup_ids.cons hnew)).mpr fun u => ?_
    rw [mem_ids, h, List.mem_cons, mem_ids, eq_comm]
  rw [← length_ids, ← length_ids]
  exact hperm.length_eq

end SessionTable

end MediaPlane
