import MediaPlane.Failure

/-
  The types of media objects. A type says where its objects hang in the tree: at a root, or below an
  object of a given kind that a constructor parameter names. The catalog finds a type by its short
  and by its qualified name; a later entry replaces an earlier one of the same name.
-/

namespace MediaPlane

/-- The closed set of object categories. -/
inductive ObjectKind where
  | pipeline
  | endpoint
  | filter
  | mixer
  | hubPort
deriving DecidableEq, Repr

namespace ObjectKind

def all : List ObjectKind := [pipeline, endpoint, filter, mixer, hubPort]

def name : ObjectKind → String
  | pipeline => "pipeline"
  | endpoint => "endpoint"
  | filter => "filter"
  | mixer => "mixer"
  | hubPort => "hub_port"

def ofName? (s : String) : Option ObjectKind := all.find? (·.name = s)

/-- Whether elements of a kind pass media on, so that they can be connected. -/
def connectable : ObjectKind → Bool
  | pipeline | mixer => false
  | endpoint | filter | hubPort => true

end ObjectKind

/-- Where an object of a type hangs. -/
inductive Placement where
  /-- At a root of the forest. -/
  | root
  /-- Below the object named by a constructor parameter, which must be of this kind. -/
  | under (param : String) (kind : ObjectKind)
deriving DecidableEq, Repr

/-- A type of media objects. -/
structure ObjectType where
  typeName : String
  qualifiedName : String
  /-- Qualified names of the types it extends, nearest first. -/
  hierarchy : List String := []
  kind : ObjectKind
  placement : Placement := .root
deriving DecidableEq, Repr

namespace ObjectType

/-- A root type of a module. -/
def inModule (module typeName : String) (kind : ObjectKind) : ObjectType where
  typeName := typeName
  qualifiedName := module ++ "." ++ typeName
  kind := kind

def extending (t : ObjectType) (hierarchy : List String) : ObjectType :=
  { t with hierarchy := hierarchy }

def below (t : ObjectType) (param : String) (kind : ObjectKind) : ObjectType :=
  { t with placement := .under param kind }

end ObjectType

/-- The engines that can back an object. -/
inductive Engine where
  | loopback
  | mock
deriving DecidableEq, Repr

/-- A type together with how its elements are made. -/
structure CatalogEntry where
  type : ObjectType
  engine : Engine
  /-- Whether a constructor parameter may ask for a slow construction. -/
  delayable : Bool := true
deriving DecidableEq, Repr

/-- The known types, by short and by qualified name. -/
structure Catalog where
  entries : Std.ExtTreeMap String CatalogEntry := ∅

namespace Catalog

def empty : Catalog := {}

def register (c : Catalog) (e : CatalogEntry) : Catalog where
  entries := (c.entries.insert e.type.typeName e).insert e.type.qualifiedName e

def lookup? (c : Catalog) (tag : String) : Option CatalogEntry := c.entries[tag]?

/-- The type of a tag, or the failure to name. -/
def find (c : Catalog) (tag : String) : Except Failure CatalogEntry :=
  match c.lookup? tag with
  | some e => .ok e
  | none => .error (.unknownType tag)

/-- Short names of the known types, sorted, each once. -/
def typeNames (c : Catalog) : List String :=
  (Std.ExtTreeSet.ofList (c.entries.toList.map (·.2.type.typeName))).toList

end Catalog

/-! ## The built-in types -/

namespace ObjectType

def mediaObject : String := "kurento.MediaObject"

def mediaElement : String := "kurento.MediaElement"

/-- What both kinds of session endpoints extend. -/
def endpointHierarchy : List String :=
  ["kurento.BaseRtpEndpoint", "kurento.SdpEndpoint", "kurento.SessionEndpoint", "kurento.Endpoint",
    mediaElement, mediaObject]

/-- The types whose elements keep their state in memory and pass no media. -/
def loopbackTypes : List ObjectType :=
  let type := inModule "kurento"
  [(type "MediaPipeline" .pipeline).extending [mediaObject],
    ((type "PassThrough" .filter).extending ["kurento.Filter", mediaElement, mediaObject]).below
      "mediaPipeline" .pipeline,
    ((type "WebRtcEndpoint" .endpoint).extending endpointHierarchy).below
      "mediaPipeline" .pipeline,
    ((type "RtpEndpoint" .endpoint).extending endpointHierarchy).below "mediaPipeline" .pipeline,
    ((type "Composite" .mixer).extending ["kurento.Hub", mediaObject]).below
      "mediaPipeline" .pipeline,
    ((type "HubPort" .hubPort).extending [mediaElement, mediaObject]).below "hub" .mixer]

/-- The types whose elements only count what they are asked. -/
def mockTypes : List ObjectType :=
  [inModule "mock" "MockPipeline" .pipeline,
    ((inModule "mock" "MockElement" .endpoint).extending ["mock.Element"]).below
      "mediaPipeline" .pipeline]

end ObjectType

namespace Catalog

/-- Registers types backed by one engine, in order. -/
def registerAll (c : Catalog) (engine : Engine) (delayable : Bool) (types : List ObjectType) :
    Catalog :=
  types.foldl (fun c t => c.register ⟨t, engine, delayable⟩) c

end Catalog

end MediaPlane
