import MediaPlane.Config
import MediaPlane.ControlPlane.Call
import MediaPlane.Value.Lenient

/-
  Setting up a control plane for a scenario. Options say how names are drawn, which types are known,
  what admission looks at and how handlers are built. Every option has a default.
-/

namespace MediaPlane.Scenario

/-- The answer where something fails outside a request: the code's symbol and the full wording. -/
def failureValue (f : Failure) : Value :=
  .object [("error", .str f.code.symbol), ("message", .str f.message)]

/-- The answer where a value does not decode. -/
def decodeFaultValue (f : DecodeFault) : Value :=
  .object [("error", .str "decode"), ("message", .str f.message)]

/-- A value, or why there is none. -/
def outcomeValue {α : Type} (encode : α → Value) : Except Failure α → Value
  | .ok a => encode a
  | .error f => failureValue f

/-- The naming scheme of an option. -/
def namingScheme (options : Value) : NamingScheme :=
  match options.textAt "uuid" with
  | "desc" => .descending
  | "mix" => .scattered
  | _ => .ascending

/-- A source of names that was not drawn from yet. -/
def nameSource (options : Value) : NameSource where
  name := (namingScheme options).name

/-- The factory of a name; none for the empty name. -/
def handlerFactory? (name : String) : Option HandlerFactory :=
  match name with
  | "session" => some (.steered .session)
  | "broadcast" => some (.steered .broadcast)
  | "log" => some .silent
  | _ => none

/-- A further type, as options describe it. -/
def extraType (v : Value) : ObjectType :=
  let kind := fun s => (ObjectKind.ofName? s).getD .endpoint
  let base := (ObjectType.inModule (v.textAt "module") (v.textAt "name")
    (kind (v.textAt "kind"))).extending (v.textsAt "extends")
  match v.get? "parent" with
  | some (.obj ms) =>
    base.below (Value.textAt (.obj ms) "param") (kind (Value.textAt (.obj ms) "kind"))
  | _ => base

/-- The types that options ask for: those of the named engines, and further ones. -/
def catalog (options : Value) : Catalog :=
  let engines := match options.get? "engines" with
    | some (.arr _) => options.textsAt "engines"
    | _ => ["mock", "loopback"]
  let c := Catalog.empty
  let c := if engines.contains "mock" then c.registerAll .mock true ObjectType.mockTypes else c
  let c := if engines.contains "loopback" then
      c.registerAll .loopback true ObjectType.loopbackTypes
    else c
  c.registerAll .loopback true ((options.itemsAt "extra").map extraType)

/-- Only the loopback types, whose construction never takes time. -/
def plainCatalog : Catalog := Catalog.empty.registerAll .loopback false ObjectType.loopbackTypes

/-- Whether a scenario is plain: with the built-in types only, and no record of releases. -/
def isPlain (options : Value) : Bool := options.flagAt "plain"

/-- What admission looks at: a fixed usage, or the number of live objects. -/
def probe (options : Value) : Probe :=
  match (options.get? "probe").bind Value.toDouble? with
  | some usage => .fixed usage
  | none =>
    .objectCount (((options.get? "capacity").bind Value.nat?).getD Config.defaultMaxObjects)

/-- A number of milliseconds, or so many seconds. -/
def milliseconds (options : Value) (key : String) (seconds : Nat) : Nat :=
  ((options.get? key).bind Value.nat?).getD (1000 * seconds)

/-- The control plane that options describe. -/
def controlPlane (options : Value) : ControlPlane :=
  let cp : ControlPlane :=
    { admission :=
        { probe := probe options
          limit := ((options.get? "limit").bind Value.toDouble?).getD Config.defaultLimit }
      sessionTtl := milliseconds options "ttl_ms" Config.defaultSessionTtl
      catalog := if isPlain options then plainCatalog else catalog options
      names := nameSource options
      cache := { retention := milliseconds options "retention_ms" Config.defaultRetention } }
  let factory := ((options.get? "factory").bind Value.str?).getD "session"
  match handlerFactory? factory with
  | some f => cp.installFactory f
  | none => cp

end MediaPlane.Scenario
