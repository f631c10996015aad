import MediaPlane.Proofs.Session.LeavesFirst

/-
  What a collection does, in terms of its candidates alone (`collects_exactly`). The live candidates
  and everything above them are nominated, and an object goes exactly if everything below it is
  nominated and nobody holds any of it. The candidates may repeat, name objects that do not exist,
  and lie below one another: only their set matters, since the depths recorded for them are those of
  the registry (`depths_spec`) and the order of a collection follows from the depths.

  The holdings need only be consistent. Nothing is assumed of what the sessions hold: a reference to
  an object that is not live any more holds nothing back.
-/

namespace MediaPlane

namespace Holdings

variable {h : Holdings} {cs : List ObjectId} {x y : ObjectId}

/-- The object is a live candidate or stands above one. -/
def Nominated (h : Holdings) (cs : List ObjectId) (x : ObjectId) : Prop :=
  ∃ c ∈ cs, h.registry.contains c = true ∧ h.registry.Within c x

/-- Only live objects are nominated. -/
theorem Nominated.live (hx : h.Nominated cs x) (hf : h.registry.Forest) :
    h.registry.contains x = true := by
  obtain ⟨c, -, hlive, hc⟩ := hx
  exact hf.contains_of_within hlive hc

/-- What stands above a candidate and is live stands above a live one. -/
theorem nominated_of_live (hy : h.registry.contains y = true)
    (hcs : ∃ c ∈ cs, h.registry.Within c y) : h.Nominated cs y := by
  obtain ⟨c, hc, hcy⟩ := hcs
  exact ⟨c, hc, Registry.contains_of_within_live hy hcy, hcy⟩

/-- What a collection has to do with the candidates `cs`. -/
structure CollectsExactly (h : Holdings) (cs : List ObjectId) : Prop where
  /-- An object goes if everything in its tree is nominated and held by nobody. -/
  goes_iff : ∀ x, x ∈ (h.collect cs).1.map (·.id) ↔
    ∀ y, h.registry.Within y x → h.Nominated cs y ∧ ¬ h.sessions.Held y
  /-- What goes is handed back once, as it stood. -/
  once : ((h.collect cs).1.map (·.id)).Nodup
  stood : ∀ o ∈ (h.collect cs).1, h.registry.find? o.id = some o
  childrenFirst : ChildrenFirst h.registry ((h.collect cs).1.map (·.id))
  /-- No other object changes, and the index of children stays in step. -/
  rest : ∀ x, (h.collect cs).2.registry.find? x =
    if x ∈ (h.collect cs).1.map (·.id) then none else h.registry.find? x
  forest : (h.collect cs).2.registry.Forest
  sessions : (h.collect cs).2.sessions = h.sessions
  /-- Candidates in another order or number come to the same. -/
  unordered : ∀ cs', (∀ x, x ∈ cs' ↔ x ∈ cs) → h.collect cs' = h.collect cs

/-! ## The set of candidates -/

/-- The depths that are recorded follow from the set of candidates. -/
theorem depths_congr {r : Registry} (hf : r.Forest) {cs' : List ObjectId}
    (heq : ∀ x, x ∈ cs' ↔ x ∈ cs) : depths r cs' = depths r cs := by
  obtain ⟨hd, hmem⟩ := depths_spec hf cs
  obtain ⟨hd', hmem'⟩ := depths_spec hf cs'
  refine Std.ExtTreeMap.ext_getElem? fun x => ?_
  have hsame : x ∈ depths r cs' ↔ x ∈ depths r cs := by
    rw [hmem, hmem']
    exact exists_congr fun c => and_congr_left fun _ => heq c
  cases hx : (depths r cs)[x]? with
  | none =>
    refine Std.ExtTreeMap.getElem?_eq_none fun hin => ?_
    have hsome := Std.ExtTreeMap.mem_iff_isSome_getElem?.mp (hsame.mp hin)
    rw [hx] at hsome
    cases hsome
  | some d =>
    have hin : x ∈ depths r cs' :=
      hsame.mpr (Std.ExtTreeMap.mem_iff_isSome_getElem?.mpr (by rw [hx]; rfl))
    obtain ⟨d', hx'⟩ :=
      Option.isSome_iff_exists.mp (Std.ExtTreeMap.mem_iff_isSome_getElem?.mp hin)
    rw [hx', hd hx, hd' hx']

theorem collect_congr (hf : h.registry.Forest) {cs' : List ObjectId}
    (heq : ∀ x, x ∈ cs' ↔ x ∈ cs) : h.collect cs' = h.collect cs := by
  unfold collect collectionOrder
  rw [depths_congr hf heq]

/-! ## What goes -/

theorem Consistent.goes_iff (hc : h.Consistent) :
    x ∈ (h.collect cs).1.map (·.id) ↔
      ∀ y, h.registry.Within y x → h.Nominated cs y ∧ ¬ h.sessions.Held y := by
  rw [hc.mem_collect]
  constructor
  · rintro ⟨hlive, hneeded, hcs⟩ y hy
    exact ⟨nominated_of_live (Registry.contains_of_within_live hlive hy) (hcs y hy),
      fun hheld => hneeded ⟨y, hy, hheld⟩⟩
  · intro hall
    have hself := (hall x (Registry.Within.refl _ x)).1
    refine ⟨hself.live hc.forest, ?_, fun y hy => ?_⟩
    · rintro ⟨y, hy, hheld⟩
      exact (hall y hy).2 hheld
    · obtain ⟨c, hc, -, hcy⟩ := (hall y hy).1
      exact ⟨c, hc, hcy⟩

/-- Whatever the candidates are, a collection in consistent holdings is exact. -/
theorem collects_exactly (h : Holdings) (hf : h.registry.Forest) (hm : h.sessions.Mirrored)
    (cs : List ObjectId) : h.CollectsExactly cs := by
  have hc : h.Consistent := ⟨hf, hm⟩
  obtain ⟨ht, hnext, hsessions⟩ := hc.collect cs
  exact {
    goes_iff := fun x => hc.goes_iff
    once := ht.cut.nodup
    stood := ht.cut.taken
    childrenFirst := hc.childrenFirst_collect cs
    rest := ht.cut.find?_eq
    forest := hnext.forest
    sessions := hsessions
    unordered := fun _ heq => collect_congr hf heq }

/-! ## A small forest -/

namespace Sample

/-- Adds an object if it can be added. -/
def plant (r : Registry) (o : MediaObject) : Registry := ((r.put o).toOption).getD r

theorem forest_plant {r : Registry} (hf : r.Forest) (o : MediaObject) : (plant r o).Forest := by
  unfold plant
  cases hput : r.put o with
  | error e => exact hf
  | ok s => exact Registry.forest_put hf hput

def element (id : String) (parent : Option String) : MediaObject :=
  .new ⟨id⟩ { typeName := "Element", qualifiedName := "Element", kind := .pipeline }
    (parent.map fun p => ⟨p⟩) .mock 0

/-- An oak with two branches, and a twig on one of them; beside it, a birch with a branch. -/
def forest : Registry :=
  [element "oak" none, element "thick" (some "oak"), element "thin" (some "oak"),
    element "twig" (some "thin"), element "birch" none, element "bough" (some "birch")].foldl
      plant .empty

theorem forest_forest : forest.Forest := by
  unfold forest
  simp only [List.foldl_cons, List.foldl_nil]
  repeat apply forest_plant
  exact Registry.forest_empty

/-- Somebody sits on the thick branch, and holds on to something that is not there. -/
def perch : SessionTable :=
  (SessionTable.empty.touch ⟨"owl"⟩ ⟨"thick"⟩ .strong 0).touch ⟨"owl"⟩ ⟨"nest"⟩ .touched 0

theorem mirrored_perch : perch.Mirrored :=
  SessionTable.mirrored_touch
    (SessionTable.mirrored_touch SessionTable.mirrored_empty ⟨"owl"⟩ ⟨"thick"⟩ .strong 0)
    ⟨"owl"⟩ ⟨"nest"⟩ .touched 0

def occupied : Holdings := { registry := forest, sessions := perch }

end Sample

/-- The twig goes with its branch, but not the oak with the owl; the birch goes altogether. -/
theorem collects_exactly_around_owl :
    let cs := [⟨"bough"⟩, ⟨"twig"⟩, ⟨"nest"⟩, ⟨"thin"⟩, ⟨"bough"⟩, ⟨"thick"⟩]
    Sample.occupied.registry.Forest ∧ Sample.occupied.sessions.Mirrored ∧
      (Sample.occupied.collect cs).1.map (·.id.text) = ["twig", "bough", "thin", "birch"] ∧
      Sample.occupied.CollectsExactly cs := by
  intro cs
  have hdepths : (depths Sample.forest cs).toList = [(⟨"birch"⟩, 0), (⟨"bough"⟩, 1), (⟨"nest"⟩, 0),
    (⟨"oak"⟩, 0), (⟨"thick"⟩, 1), (⟨"thin"⟩, 1), (⟨"twig"⟩, 2)] := by decide +kernel
  have horder : collectionOrder Sample.forest cs = [⟨"twig"⟩, ⟨"bough"⟩, ⟨"thick"⟩, ⟨"thin"⟩,
      ⟨"birch"⟩, ⟨"nest"⟩, ⟨"oak"⟩] := by
    unfold collectionOrder
    rw [hdepths]
    simp [List.mergeSort, List.MergeSort.Internal.splitInTwo, deeperFirst]
  refine ⟨Sample.forest_forest, Sample.mirrored_perch, ?_,
    collects_exactly _ Sample.forest_forest Sample.mirrored_perch cs⟩
  show (Sample.occupied.collectInOrder (collectionOrder Sample.forest cs)).1.map _ = _
  rw [horder]
  decide +kernel

end Holdings

end MediaPlane
