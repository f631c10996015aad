import MediaPlane.Admission
import MediaPlane.Number.Word

/-
  Configuration from named variables. Each variable has a default; the first one that cannot be used
  is the fault, in the order of the fields that `Config.ofVars` fills. Only the capacity is lenient:
  one that cannot be used counts as absent.
-/

namespace MediaPlane

/-- Which usage admission control looks at. -/
inductive ProbeKind where
  | objects
  | system
deriving DecidableEq, Repr

namespace ProbeKind

def name : ProbeKind → String
  | objects => "objects"
  | system => "system"

/-- Reads a kind; the letters may be in either case. -/
def ofName? (s : String) : Option ProbeKind :=
  if s = "objects" then some objects else if s = "system" then some system else none

end ProbeKind

/-- Why a configuration is refused: a variable's value cannot be used. -/
inductive ConfigFault where
  | notPositive (name raw : String)
  | limitNotNumber (raw : String)
  | limitOutOfRange (limit : Binary64)
  | unknownProbe (lowercased : String)
deriving DecidableEq, Repr

namespace ConfigFault

def detail : ConfigFault → String
  | notPositive name raw => name ++ " must be a positive integer, got '" ++ raw ++ "'"
  | limitNotNumber raw => "MEDIA_RESOURCE_LIMIT is not a number: '" ++ raw ++ "'"
  | limitOutOfRange limit =>
    "MEDIA_RESOURCE_LIMIT must be within 0.0..=1.0, got " ++ limit.positional
  | unknownProbe lowercased =>
    "MEDIA_ADMISSION_PROBE must be 'objects' or 'system', got '" ++ lowercased ++ "'"

def message (f : ConfigFault) : String := "Invalid configuration value: " ++ f.detail

end ConfigFault

structure Config where
  healthAddress : String
  rpcAddress : String
  /-- The name of this instance. -/
  instanceName : String
  sessionTtlSeconds : Nat
  sweepIntervalSeconds : Nat
  retentionSeconds : Nat
  evictionIntervalSeconds : Nat
  limit : Binary64
  maxObjects : Nat
  probe : ProbeKind
  jsonLogs : Bool
deriving DecidableEq, Repr

namespace Config

/-- The variables that are set. -/
abbrev Vars := String → Option String

def defaultHealthAddress : String := "0.0.0.0:8081"

def defaultRpcAddress : String := "0.0.0.0:8888"

def defaultSessionTtl : Nat := 120

def defaultSweepInterval : Nat := 10

def defaultRetention : Nat := 30

def defaultEvictionInterval : Nat := 5

/-- Four fifths. -/
def defaultLimit : Binary64 := .ofRatio false 8 10

def defaultMaxObjects : Nat := 10000

/-- What is logged when nothing else is asked for. -/
def logFilter : String := "media_controller=debug,tower_http=debug"

/-! ## Single variables -/

/-- A positive whole number of 64 bits. -/
def positive? (raw : String) : Option Nat := (readWord? raw.toList).filter (0 < ·)

/-- A duration in seconds. -/
def duration (vars : Vars) (name : String) (default : Nat) : Except ConfigFault Nat :=
  match vars name with
  | none => .ok default
  | some raw =>
    match positive? raw with
    | some n => .ok n
    | none => .error (.notPositive name raw)

/-- Whether a limit lies between zero and one. -/
def limitInRange (x : Binary64) : Bool := (Binary64.ofNat 0).le x && x.le (.ofNat 1)

def readLimit (vars : Vars) : Except ConfigFault Binary64 :=
  match vars "MEDIA_RESOURCE_LIMIT" with
  | none => .ok defaultLimit
  | some raw =>
    match Binary64.read? raw with
    | none => .error (.limitNotNumber raw)
    | some x => if limitInRange x then .ok x else .error (.limitOutOfRange x)

def readMaxObjects (vars : Vars) : Nat :=
  ((vars "MEDIA_MAX_OBJECTS").bind positive?).getD defaultMaxObjects

/-- Capital letters of the Latin alphabet made small. -/
def lowercase (s : String) : String := s.map Char.toLower

def readProbe (vars : Vars) : Except ConfigFault ProbeKind :=
  match vars "MEDIA_ADMISSION_PROBE" with
  | none => .ok .objects
  | some raw =>
    match ProbeKind.ofName? (lowercase raw) with
    | some kind => .ok kind
    | none => .error (.unknownProbe (lowercase raw))

def readJsonLogs (vars : Vars) : Bool :=
  match vars "MEDIA_LOG_JSON" with
  | some v => v = "1" || v = "true" || v = "TRUE" || v = "yes"
  | none => false

/-- The given name, or one made of the host's name and the start of a fresh unique text. -/
def readInstanceName (vars : Vars) (unique : String) : String :=
  (vars "MEDIA_CONTROLLER_ID").getD <|
    "media-" ++ (vars "HOSTNAME").getD "unknown" ++ "-" ++ String.ofList (unique.toList.take 8)

/-! ## The whole -/

def ofVars (vars : Vars) (unique : String) : Except ConfigFault Config := do
  let sessionTtlSeconds ← duration vars "MEDIA_SESSION_TTL_SECONDS" defaultSessionTtl
  let sweepIntervalSeconds ←
    duration vars "MEDIA_SESSION_SWEEP_INTERVAL_SECONDS" defaultSweepInterval
  let retentionSeconds ← duration vars "MEDIA_REQUEST_CACHE_RETENTION_SECONDS" defaultRetention
  let evictionIntervalSeconds ←
    duration vars "MEDIA_REQUEST_CACHE_EVICTION_INTERVAL_SECONDS" defaultEvictionInterval
  let limit ← readLimit vars
  let probe ← readProbe vars
  return {
    healthAddress := (vars "MEDIA_HEALTH_BIND_ADDRESS").getD defaultHealthAddress
    rpcAddress := (vars "MEDIA_RPC_BIND_ADDRESS").getD defaultRpcAddress
    instanceName := readInstanceName vars unique
    sessionTtlSeconds, sweepIntervalSeconds, retentionSeconds, evictionIntervalSeconds, limit
    maxObjects := readMaxObjects vars
    probe
    jsonLogs := readJsonLogs vars }

end Config

end MediaPlane
