import MediaPlane.Number.Binary64

/-
  Values as clients write them: the JSON data model. Whole numbers and doubles are different values.
  The members of an object are a list of pairs; every function here that builds an object keeps the
  keys strictly increasing by code point, which is the order of their bytes, and later members
  replace earlier ones of the same key.
-/

namespace MediaPlane

/-- A JSON value. -/
inductive Value where
  | null
  | bool (b : Bool)
  | int (n : Int)
  | double (d : Binary64)
  | str (s : String)
  | arr (items : List Value)
  | obj (members : List (String × Value))
deriving Repr, Inhabited

/-- The members of an object, in order of their keys. -/
abbrev Members := List (String × Value)

namespace Members

/-- Puts a member in its place among sorted members, replacing one of the same key. -/
def insert (key : String) (value : Value) : Members → Members
  | [] => [(key, value)]
  | (k, v) :: rest =>
    if key = k then (key, value) :: rest
    else if key < k then (key, value) :: (k, v) :: rest
    else (k, v) :: insert key value rest

/-- Sorted members from pairs in any order; the last of a key counts. -/
def ofPairs (pairs : List (String × Value)) : Members :=
  pairs.foldl (fun ms p => insert p.1 p.2 ms) []

def get? (ms : Members) (key : String) : Option Value := ms.lookup key

@[simp] theorem get?_nil (key : String) : get? [] key = none := rfl

theorem get?_cons (k : String) (v : Value) (ms : Members) (key : String) :
    get? ((k, v) :: ms) key = if key = k then some v else get? ms key := by
  simp only [get?, List.lookup_cons]
  by_cases h : key = k
  · simp [h]
  · rw [beq_false_of_ne h, if_neg h]

theorem get?_insert (key k : String) (value : Value) (ms : Members) :
    get? (insert key value ms) k = if k = key then some value else get? ms k := by
  induction ms with
  | nil => simp [insert, get?_cons]
  | cons m ms ih =>
    obtain ⟨k', v'⟩ := m
    simp only [insert]
    split
    · next h => subst h; by_cases hk : k = key <;> simp [get?_cons, hk]
    · split
      · simp [get?_cons]
      · next h _ =>
        simp only [get?_cons, ih]
        by_cases hk : k = k'
        · subst hk; simp [Ne.symm h]
        · simp [hk]

@[simp] theorem insert_nil (key : String) (value : Value) :
    insert key value [] = [(key, value)] := rfl

theorem insert_of_lt {key k : String} (h : key < k) (value v : Value) (ms : Members) :
    insert key value ((k, v) :: ms) = (key, value) :: (k, v) :: ms := by
  have hne : key ≠ k := fun heq => String.lt_irrefl k (heq ▸ h)
  simp only [insert, if_neg hne, if_pos h]

theorem insert_of_gt {key k : String} (h : k < key) (value v : Value) (ms : Members) :
    insert key value ((k, v) :: ms) = (k, v) :: insert key value ms := by
  have hne : key ≠ k := fun heq => String.lt_irrefl k (heq ▸ h)
  simp only [insert, if_neg hne, if_neg (String.lt_asymm h)]

/-- The members whose value is present; absent ones are left out of the object. -/
def present (fields : List (String × Option Value)) : Members :=
  ofPairs (fields.filterMap fun f => f.2.map fun v => (f.1, v))

end Members

namespace Value

/-- An object from members in any order. -/
def object (pairs : List (String × Value)) : Value := .obj (Members.ofPairs pairs)

/-- An object from the members that are present. -/
def objectOf (fields : List (String × Option Value)) : Value := .obj (Members.present fields)

def nat (n : Nat) : Value := .int n

/-- An optional value, null when absent. -/
def orNull : Option Value → Value
  | some v => v
  | none => .null

/-- The member of an object; other values have none. -/
def get? : Value → String → Option Value
  | .obj ms, key => Members.get? ms key
  | _, _ => none

def str? : Value → Option String
  | .str s => some s
  | _ => none

def bool? : Value → Option Bool
  | .bool b => some b
  | _ => none

def int? : Value → Option Int
  | .int n => some n
  | _ => none

/-- A whole number that is not negative. -/
def nat? : Value → Option Nat
  | .int n => if 0 ≤ n then some n.toNat else none
  | _ => none

def arr? : Value → Option (List Value)
  | .arr items => some items
  | _ => none

def obj? : Value → Option Members
  | .obj ms => some ms
  | _ => none

def isNull : Value → Bool
  | .null => true
  | _ => false

@[simp] theorem get?_obj (ms : Members) (key : String) :
    (obj ms).get? key = Members.get? ms key := rfl

theorem isNull_iff {v : Value} : v.isNull = true ↔ v = null := by
  cases v <;> simp [isNull]

/-! ## Reaching into a value -/

/-- A place in an array: digits without a leading zero. -/
def index? (token : String) : Option Nat :=
  let cs := token.toList
  if cs.isEmpty || !cs.all Char.isDigit then none
  else if cs.length ≠ 1 ∧ cs.head? = some '0' then none
  else some (cs.foldl (fun n c => 10 * n + (c.toNat - '0'.toNat)) 0)

/-- One token of a pointer with its two escapes undone: `~1` is a slash, `~0` a tilde. -/
def unescapeToken : List Char → List Char
  | '~' :: '1' :: cs => '/' :: unescapeToken cs
  | '~' :: '0' :: cs => '~' :: unescapeToken cs
  | c :: cs => c :: unescapeToken cs
  | [] => []

/-- The value that a path of tokens leads to. -/
def follow : List String → Value → Option Value
  | [], v => some v
  | token :: path, .obj ms => (Members.get? ms token).bind (follow path)
  | token :: path, .arr items => ((index? token).bind (items[·]?)).bind (follow path)
  | _ :: _, _ => none

/-- The value at a pointer: empty for the whole, else tokens each after a slash. -/
def pointer? (v : Value) (path : String) : Option Value :=
  if path = "" then some v
  else if path.toList.head? = some '/' then
    follow (((path.splitOn "/").drop 1).map fun t => String.ofList (unescapeToken t.toList)) v
  else none

/-! ## Strings inside a value -/

mutual

/-- Rewrites every string value at any depth; keys stay. -/
def mapStrings (f : String → Value) : Value → Value
  | .str s => f s
  | .arr items => .arr (mapStringsList f items)
  | .obj ms => .obj (mapStringsMembers f ms)
  | v => v

def mapStringsList (f : String → Value) : List Value → List Value
  | [] => []
  | v :: vs => mapStrings f v :: mapStringsList f vs

def mapStringsMembers (f : String → Value) : Members → Members
  | [] => []
  | (k, v) :: ms => (k, mapStrings f v) :: mapStringsMembers f ms

end

end Value

end MediaPlane
