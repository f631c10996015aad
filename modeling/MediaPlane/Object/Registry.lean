import MediaPlane.Object.Catalog

/-
  The registry: every live media object and the forest that their parents make. Beside the objects
  stand an index of children and a count of the live objects. Walks up and down the forest are
  bounded by the number of objects, which no path in a forest exceeds. Each change of one object is
  pinned down by what it does to `find?`.
-/

namespace MediaPlane

/-- The engine's side of an object. -/
inductive Element where
  /-- Counts what it is asked and keeps nothing. -/
  | mock
  /-- Keeps properties, and the sinks it was connected to in order of connection. -/
  | loopback (properties : Members) (sinks : List ObjectId)
deriving Repr, Inhabited

/-- A live media object. Its name and tags are kept here and not by the engine. -/
structure MediaObject where
  id : ObjectId
  type : ObjectType
  parent : Option ObjectId
  element : Element
  /-- The time of its creation, in milliseconds. -/
  createdAt : Nat
  name : String
  tags : Std.ExtTreeMap String String := ∅

namespace MediaObject

def kind (o : MediaObject) : ObjectKind := o.type.kind

/-- A new object is named by its id and has no tags. -/
def new (id : ObjectId) (type : ObjectType) (parent : Option ObjectId) (element : Element)
    (now : Nat) : MediaObject where
  id := id
  type := type
  parent := parent
  element := element
  createdAt := now
  name := id.text

end MediaObject

/-- The live objects, the children of each, and their number. -/
structure Registry where
  objects : Std.ExtTreeMap ObjectId MediaObject := ∅
  children : Std.ExtTreeMap ObjectId (Std.ExtTreeSet ObjectId) := ∅
  live : Nat := 0

namespace Registry

def empty : Registry := {}

/-! ## Looking up -/

def find? (r : Registry) (id : ObjectId) : Option MediaObject := r.objects[id]?

def contains (r : Registry) (id : ObjectId) : Bool := r.objects.contains id

theorem contains_eq (r : Registry) (id : ObjectId) : r.contains id = (r.find? id).isSome :=
  Std.ExtTreeMap.contains_eq_isSome_getElem?

def get (r : Registry) (id : ObjectId) : Except Failure MediaObject :=
  match r.find? id with
  | some o => .ok o
  | none => .error (.objectNotFound id)

theorem get_eq_ok_iff {r : Registry} {id : ObjectId} {o : MediaObject} :
    r.get id = .ok o ↔ r.find? id = some o := by
  simp only [get]; cases r.find? id <;> simp

/-- An object that must be of a kind. -/
def getOfKind (r : Registry) (id : ObjectId) (kind : ObjectKind) : Except Failure MediaObject :=
  match r.find? id with
  | none => .error (.objectNotFound id)
  | some o => if o.kind = kind then .ok o else .error (.wrongKind id kind.name)

/-- The children of an object, in order of their ids. -/
def childrenOf (r : Registry) (id : ObjectId) : List ObjectId :=
  match r.children[id]? with
  | some s => s.toList
  | none => []

def hasChildren (r : Registry) (id : ObjectId) : Bool :=
  match r.children[id]? with
  | some s => !s.isEmpty
  | none => false

def parentOf (r : Registry) (id : ObjectId) : Option ObjectId := (r.find? id).bind (·.parent)

def size (r : Registry) : Nat := r.live

/-- Every object, in order of ids. -/
def all (r : Registry) : List MediaObject := r.objects.toList.map (·.2)

/-- The ids of the objects without a parent, in order. -/
def roots (r : Registry) : List ObjectId := (r.all.filter (·.parent.isNone)).map (·.id)

/-! ## Walks -/

/-- The parents above `id`, nearest first, at most `fuel` of them. -/
def ancestorsWithin (r : Registry) : Nat → ObjectId → List ObjectId
  | 0, _ => []
  | fuel + 1, id =>
    match r.parentOf id with
    | none => []
    | some p => p :: ancestorsWithin r fuel p

/-- Every ancestor of `id`, nearest first; none for roots and unknown ids. -/
def ancestors (r : Registry) (id : ObjectId) : List ObjectId :=
  r.ancestorsWithin r.objects.size id

/-- The generations below a frontier, at most `fuel` of them. -/
def generations (r : Registry) : Nat → List ObjectId → List ObjectId
  | 0, _ => []
  | _ + 1, [] => []
  | fuel + 1, frontier => frontier ++ generations r fuel (frontier.flatMap r.childrenOf)

/-- Every descendant of `id`, children before grandchildren. -/
def descendants (r : Registry) (id : ObjectId) : List ObjectId :=
  r.generations r.objects.size (r.childrenOf id)

/-- The root of the tree that contains `id`. -/
def rootOf (r : Registry) (id : ObjectId) : Except Failure ObjectId :=
  if r.contains id then .ok ((r.ancestors id).getLast?.getD id)
  else .error (.objectNotFound id)

/-! ## Changes -/

/-- Adds a child to the index. -/
def addChild (children : Std.ExtTreeMap ObjectId (Std.ExtTreeSet ObjectId))
    (parent child : ObjectId) : Std.ExtTreeMap ObjectId (Std.ExtTreeSet ObjectId) :=
  children.insert parent ((children[parent]?.getD ∅).insert child)

/-- Takes a child out of the index; an emptied set goes too. -/
def dropChild (children : Std.ExtTreeMap ObjectId (Std.ExtTreeSet ObjectId))
    (parent child : ObjectId) : Std.ExtTreeMap ObjectId (Std.ExtTreeSet ObjectId) :=
  match children[parent]? with
  | none => children
  | some s =>
    if (s.erase child).isEmpty then children.erase parent
    else children.insert parent (s.erase child)

/-- Adds an object whose id is new and whose parent, if any, is live. -/
def put (r : Registry) (o : MediaObject) : Except Failure Registry :=
  if r.contains o.id then .error (.internal (.registeredTwice o.id))
  else
    let objects := r.objects.insert o.id o
    match o.parent with
    | none => .ok { r with objects, live := objects.size }
    | some p =>
      if r.contains p then
        .ok { objects, children := addChild r.children p o.id, live := objects.size }
      else .error (.objectNotFound p)

theorem find?_put {r s : Registry} {o : MediaObject} (h : r.put o = .ok s) (id : ObjectId) :
    s.find? id = if o.id = id then some o else r.find? id := by
  simp only [put] at h
  split at h
  · cases h
  · split at h
    · cases h; simp [find?, getElem?_insert_lawful]
    · split at h
      · cases h; simp [find?, getElem?_insert_lawful]
      · cases h

/-- Changes an object in place; its id and parent stay. -/
def update (r : Registry) (id : ObjectId) (f : MediaObject → MediaObject) : Registry :=
  match r.find? id with
  | none => r
  | some o => { r with objects := r.objects.insert id { f o with id := o.id, parent := o.parent } }

theorem find?_update (r : Registry) (id k : ObjectId) (f : MediaObject → MediaObject) :
    (r.update id f).find? k =
      if id = k then (r.find? id).map fun o => { f o with id := o.id, parent := o.parent }
      else r.find? k := by
  simp only [update]
  cases h : r.find? id with
  | none =>
    by_cases hk : id = k
    · subst hk; simp [h]
    · simp [hk]
  | some o => simp [find?, getElem?_insert_lawful]

@[simp] theorem parentOf_update (r : Registry) (id k : ObjectId) (f : MediaObject → MediaObject) :
    (r.update id f).parentOf k = r.parentOf k := by
  simp only [parentOf, find?_update]
  by_cases hk : id = k
  · subst hk; cases r.find? id <;> simp
  · simp [hk]

/-- Takes one object out of the objects and out of the index. -/
def unlink (r : Registry) (id : ObjectId) : Registry :=
  let children := r.children.erase id
  match r.find? id with
  | none => { r with children }
  | some o =>
    { r with
      objects := r.objects.erase id
      children := match o.parent with
        | none => children
        | some p => dropChild children p id }

theorem find?_unlink (r : Registry) (id k : ObjectId) :
    (r.unlink id).find? k = if id = k then none else r.find? k := by
  simp only [unlink]
  cases h : r.find? id with
  | none =>
    by_cases hk : id = k
    · subst hk; simpa [find?] using h
    · simp [find?, hk]
  | some o => simp [find?, getElem?_erase_lawful]

/-- Takes objects out one after the other; those that were there, and what is left. -/
def unlinkAll (r : Registry) : List ObjectId → List MediaObject × Registry
  | [] => ([], r)
  | id :: ids =>
    let (removed, rest) := unlinkAll (r.unlink id) ids
    ((r.find? id).toList ++ removed, rest)

/-- Takes out `id` and all below it, descendants before their ancestors. -/
def remove (r : Registry) (id : ObjectId) : List MediaObject × Registry :=
  if r.contains id then
    let (removed, rest) := r.unlinkAll ((r.descendants id).reverse ++ [id])
    (removed, { rest with live := rest.objects.size })
  else ([], r)

/-- Takes out tree after tree. -/
def removeAll (r : Registry) : List ObjectId → List MediaObject × Registry
  | [] => ([], r)
  | id :: ids =>
    let (first, next) := r.remove id
    let (removed, rest) := removeAll next ids
    (first ++ removed, rest)

/-- Takes out every object, leaves first in each tree. -/
def drain (r : Registry) : List MediaObject × Registry := r.removeAll r.roots

end Registry

end MediaPlane
