import MediaPlane.Proofs.Service.Ancestry

/-
  Ids are never used twice (`ids_unique`). As long as the texts that are drawn are unique
  identifiers, all elements that a run ever built have different ids, whatever their types are
  called, an id that has left the registry stays out, and no object is turned away because its id is
  taken.
-/

namespace MediaPlane

/-- What tells the objects of a run apart is their ids. -/
structure Settings.IdsUnique (c : Settings) (inputs : List Input) : Prop where
  /-- No two elements that were built have the same id, and no id enters the registry twice. -/
  constructed : (c.run inputs).plane.journal.constructed.Nodup
  registered : (c.run inputs).plane.journal.registered.Nodup
  /-- All that is live has entered the registry, and all that has entered it was built. -/
  live : ∀ x, (c.run inputs).plane.registry.contains x = true →
    x ∈ (c.run inputs).plane.journal.registered
  built : ∀ x ∈ (c.run inputs).plane.journal.registered,
    x ∈ (c.run inputs).plane.journal.constructed
  /-- What was live once, and later was not, is not live again. -/
  stays_out : ∀ before between after x, inputs = before ++ between ++ after →
    (c.run before).plane.registry.contains x = true →
    (c.run (before ++ between)).plane.registry.contains x = false →
    (c.run inputs).plane.registry.contains x = false
  /-- Whatever is below a parent entered the registry below it, and whatever ever did so is named
  by the parent's id, a slash, and a segment of its own. -/
  adopted : ∀ x p, (c.run inputs).plane.registry.parentOf x = some p →
    (x, p) ∈ (c.run inputs).plane.journal.adopted
  child : ∀ x p, (x, p) ∈ (c.run inputs).plane.journal.adopted →
    x.ChildOf p ((c.run inputs).plane.names.since c.names.drawn)
  /-- No creation was answered that its id is taken. -/
  created : ∀ p ∈ c.history inputs, p.op.method = .create → ∀ x,
    p.outcome ≠ .settled (.error (.internal (.registeredTwice x)))
  /-- Nor will one that still waits for its element, if it goes on now. -/
  waiting : ∀ i caller construction ready batch, (c.run inputs).pending? i =
      some (.running caller (.construction construction ready) batch) → ∀ x,
    ((c.run inputs).plane.register caller.session construction).1 ≠
      .error (.internal (.registeredTwice x))

theorem Service.mem_constructions {v : Service} {i : Nat} {caller : Caller} {c : Construction}
    {ready : Nat} {batch : Option Batch}
    (h : v.pending? i = some (.running caller (.construction c ready) batch)) :
    c ∈ v.constructions := by
  obtain ⟨others, hbefore, -⟩ := perm_constructions h v.plane .cancelled
  exact hbefore.mem_iff.mpr List.mem_cons_self

/-- In every run in which unique identifiers are drawn, ids are unique. -/
theorem ids_unique (c : Settings) (inputs : List Input)
    (hu : (c.run inputs).plane.names.UniqueSince c.names.drawn) : c.IdsUnique inputs := by
  have h := c.ancestry_run inputs
  have hregistered := c.nodup_registered_run hu
  refine { constructed := c.nodup_constructed_run hu, registered := hregistered,
           live := fun x hx => h.live hx,
           built := fun x hx => h.accounted.subset (List.mem_append_left _ hx),
           stays_out := ?_, adopted := fun x p hp => h.below hp,
           child := fun x p hx => h.adopted hx, created := ?_, waiting := ?_ }
  · rintro before between after x rfl hlive hgone
    obtain ⟨entered, hentered, -⟩ := (c.rears_run before between).entered
    have hx : x ∈ (c.run (before ++ between)).plane.journal.registered := by
      rw [hentered]
      exact List.mem_append_left _ ((c.ancestry_run before).live hlive)
    exact (c.rears_run (before ++ between) after).stays_out hregistered hx hgone
  · intro p hp hcreate x hx
    obtain ⟨during, hrears, honward⟩ := c.rears_history inputs p hp
    obtain ⟨cp, s, op⟩ := p
    cases op with
    | create typeName params =>
      have hancestry := hrears.ancestry c.ancestry_start
      exact hancestry.not_twice_of_create (c.settled_history inputs _ hp) (hu.of_onward honward)
        hx rfl
    | _ => cases hcreate
  · intro i caller construction ready batch hpending x hx
    exact h.not_twice hu (Service.mem_constructions hpending) caller.session _ hx rfl

/-! ## A small run -/

namespace Sample

/-- Pipelines, elements below them, and a root type that is called like such an element. -/
def misnamed : Settings where
  admission := ⟨.fixed .nan, .ofNat 1⟩
  sessionTtl := 60000
  catalog := Catalog.empty.registerAll .mock true
    [.inModule "kurento" "MediaPipeline" .pipeline,
      (ObjectType.inModule "kurento" "WebRtcEndpoint" .endpoint).below "mediaPipeline" .pipeline,
      .inModule ("kurento.MediaPipeline/" ++ NamingScheme.ascending.name 2 ++ "_kurento")
        "WebRtcEndpoint" .endpoint]
  names := { name := NamingScheme.ascending.name }
  retention := 60000

/-- The pipeline of the `k`-th name. -/
def pipelineOf (k : Nat) : ObjectId := .root (NamingScheme.ascending.name k) "kurento.MediaPipeline"

/-- A creation below the first pipeline that takes some time. -/
def slowEndpoint : Input :=
  .arrive (.inSession owner (.create "kurento.WebRtcEndpoint"
    (.object [("mediaPipeline", .str (pipelineOf 1).text), ("$delay", .nat 10)])))

/-- An object that reads like an endpoint comes to be while the endpoint is under construction. All
of it goes, and a second endpoint is given up. -/
def lookalikes : List Input :=
  [.arrive (.inSession owner (.create "MediaPipeline" .null)), slowEndpoint,
    .arrive (.inSession owner (.create "WebRtcEndpoint" .null)), .command (.advance 10),
    .resume 1 10, slowEndpoint, .cancel 3, .command .shutdown,
    .arrive (.inSession guest (.create "MediaPipeline" .null))]

end Sample

/-- The look-alike differs from an endpoint in the text that comes first. -/
theorem ids_unique_lookalikes :
    (Sample.misnamed.run Sample.lookalikes).plane.names.UniqueSince Sample.misnamed.names.drawn ∧
      Sample.misnamed.IdsUnique Sample.lookalikes ∧
      (Sample.misnamed.run Sample.lookalikes).plane.journal.registered =
        [Sample.pipelineOf 1,
          .child (Sample.pipelineOf 3) (NamingScheme.ascending.name 2) "kurento.WebRtcEndpoint",
          .child (Sample.pipelineOf 1) (NamingScheme.ascending.name 2) "kurento.WebRtcEndpoint",
          Sample.pipelineOf 5] := by
  -- One evaluation of the run gives both the texts that it draws and the objects that it registers.
  obtain ⟨hdrawn, hregistered⟩ :
      (Sample.misnamed.run Sample.lookalikes).plane.names.since Sample.misnamed.names.drawn =
          [1, 2, 3, 4, 5].map NamingScheme.ascending.name ∧
        (Sample.misnamed.run Sample.lookalikes).plane.journal.registered =
          [Sample.pipelineOf 1,
            .child (Sample.pipelineOf 3) (NamingScheme.ascending.name 2) "kurento.WebRtcEndpoint",
            .child (Sample.pipelineOf 1) (NamingScheme.ascending.name 2) "kurento.WebRtcEndpoint",
            Sample.pipelineOf 5] := by
    decide +kernel
  have hu : (Sample.misnamed.run Sample.lookalikes).plane.names.UniqueSince
      Sample.misnamed.names.drawn := by
    constructor <;> rw [hdrawn] <;> decide +kernel
  exact ⟨hu, ids_unique Sample.misnamed Sample.lookalikes hu, hregistered⟩

end MediaPlane
