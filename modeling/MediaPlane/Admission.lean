import MediaPlane.Failure

/-
  Admission control. Before anything is constructed, a probe is asked how much of the capacity is in
  use; above the limit the construction is refused. A usage that is no number is never above it.
-/

namespace MediaPlane

/-- How busy the host is: parts of one. -/
structure HostLoad where
  cpu : Binary64
  memory : Binary64
deriving DecidableEq, Repr

namespace HostLoad

/-- The higher of the two; a side that is no number loses. -/
def peak (l : HostLoad) : Binary64 := l.cpu.max l.memory

/-- A measurement brought between zero and one. -/
def clampPart (x : Binary64) : Binary64 :=
  if x.lt (.ofNat 0) then .ofNat 0 else if (Binary64.ofNat 1).lt x then .ofNat 1 else x

/-- What a sampler reports of raw measurements. -/
def sampled (cpu memory : Binary64) : HostLoad := ⟨clampPart cpu, clampPart memory⟩

end HostLoad

/-- A source of the current usage, which may depend on the number of live objects. -/
structure Probe where
  name : String
  usage : Nat → Binary64

namespace Probe

/-- The live objects as a part of the capacity, which counts as at least one. -/
def objectCount (capacity : Nat) : Probe where
  name := "objects"
  usage := fun live => (Binary64.ofNat live).div (.ofNat (max capacity 1))

/-- The same usage always. -/
def fixed (usage : Binary64) : Probe where
  name := "fixed"
  usage := fun _ => usage

/-- The peak load of the host. -/
def system (load : HostLoad) : Probe where
  name := "system"
  usage := fun _ => load.peak

end Probe

/-- A probe and the usage above which constructions are refused. -/
structure AdmissionControl where
  probe : Probe
  limit : Binary64

namespace AdmissionControl

def exceeded (a : AdmissionControl) (live : Nat) : Bool := a.limit.lt (a.probe.usage live)

/-- Whether one more construction may start. -/
def check (a : AdmissionControl) (live : Nat) : Except Failure Unit :=
  if a.exceeded live then .error (.notEnoughResources (a.probe.usage live) a.limit) else .ok ()

end AdmissionControl

end MediaPlane
