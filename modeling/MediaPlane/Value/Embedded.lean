import MediaPlane.Value.Reader

/-
  Values embedded as text inside a value. Where a value is taken over from another one, each object
  whose least key is `embeddedKey` is replaced by what its text says; it must have no other member.
  What the text says is not looked at again.
-/

namespace MediaPlane.Value

/-- Whether the members are those of an embedded value. -/
def isEmbedded (ms : Members) : Bool := ms.head?.any (·.1 = embeddedKey)

/-- What an embedded value stands for. -/
def unpackEmbedded : Members → Except DecodeFault Value
  | [] => .ok (.obj [])
  | (_, .str text) :: rest =>
    match read text with
    | .error e => .error (.unreadable e)
    | .ok v => if rest.isEmpty then .ok v else .error (.tooManyMembers (rest.length + 1))
  | (_, v) :: _ => .error (.wrongType v Flaw.embeddedText)

mutual

/-- A value with its embedded values replaced, or the first that cannot be. -/
def unpack : Value → Except DecodeFault Value
  | .arr items =>
    match unpackItems items with
    | .error e => .error e
    | .ok vs => .ok (.arr vs)
  | .obj ms =>
    if isEmbedded ms then unpackEmbedded ms
    else
      match unpackMembers ms with
      | .error e => .error e
      | .ok ns => .ok (.obj ns)
  | v => .ok v

def unpackItems : List Value → Except DecodeFault (List Value)
  | [] => .ok []
  | v :: vs =>
    match unpack v with
    | .error e => .error e
    | .ok w =>
      match unpackItems vs with
      | .error e => .error e
      | .ok ws => .ok (w :: ws)

def unpackMembers : Members → Except DecodeFault Members
  | [] => .ok []
  | (k, v) :: ms =>
    match unpack v with
    | .error e => .error e
    | .ok w =>
      match unpackMembers ms with
      | .error e => .error e
      | .ok ns => .ok ((k, w) :: ns)

end

mutual

/-- Whether no object at any depth is an embedded value. -/
def isPlain : Value → Bool
  | .arr items => isPlainItems items
  | .obj ms => !isEmbedded ms && isPlainMembers ms
  | _ => true

def isPlainItems : List Value → Bool
  | [] => true
  | v :: vs => isPlain v && isPlainItems vs

def isPlainMembers : Members → Bool
  | [] => true
  | (_, v) :: ms => isPlain v && isPlainMembers ms

end

@[simp] theorem unpack_str (s : String) : unpack (.str s) = .ok (.str s) := by simp [unpack]

@[simp] theorem unpack_null : unpack .null = .ok .null := by simp [unpack]

mutual

theorem unpack_of_isPlain : (v : Value) → v.isPlain = true → v.unpack = .ok v
  | .arr items, h => by
    simp only [isPlain] at h
    simp [unpack, unpackItems_of_isPlain items h]
  | .obj ms, h => by
    simp only [isPlain, Bool.and_eq_true, Bool.not_eq_true'] at h
    simp [unpack, h.1, unpackMembers_of_isPlain ms h.2]
  | .null, _ | .bool _, _ | .int _, _ | .double _, _ | .str _, _ => by simp [unpack]

theorem unpackItems_of_isPlain :
    (vs : List Value) → isPlainItems vs = true → unpackItems vs = .ok vs
  | [], _ => by simp [unpackItems]
  | v :: vs, h => by
    simp only [isPlainItems, Bool.and_eq_true] at h
    simp [unpackItems, unpack_of_isPlain v h.1, unpackItems_of_isPlain vs h.2]

theorem unpackMembers_of_isPlain :
    (ms : Members) → isPlainMembers ms = true → unpackMembers ms = .ok ms
  | [], _ => by simp [unpackMembers]
  | (_, v) :: ms, h => by
    simp only [isPlainMembers, Bool.and_eq_true] at h
    simp [unpackMembers, unpack_of_isPlain v h.1, unpackMembers_of_isPlain ms h.2]

end

end MediaPlane.Value
