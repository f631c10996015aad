import Std.Data.ExtTreeMap
import Std.Data.ExtTreeSet

/-
  Names of things. Objects, sessions and subscriptions are known by texts of their own kind, ordered
  by code point (the order of their UTF-8 bytes). An object's name extends its parent's by a
  segment, so it shows the path from the root. New names come from a source of unique texts, drawn
  in turn. The orders tell different things apart, so a map keyed by them is changed at one key only
  (`getElem?_insert_lawful`, `getElem?_erase_lawful`).
-/

namespace MediaPlane

/-- The name of a media object. -/
structure ObjectId where
  text : String
deriving DecidableEq, Repr, Inhabited

/-- The name of a client session. -/
structure SessionId where
  text : String
deriving DecidableEq, Repr, Inhabited

/-- The name of a subscription. -/
structure SubscriptionId where
  text : String
deriving DecidableEq, Repr, Inhabited

/-- A request id chosen by a client: a whole number of 64 bits, or a text. -/
inductive RequestId where
  | number (n : Int64)
  | text (s : String)
deriving DecidableEq, Repr, Inhabited

/-! ## Orders -/

/-- Comparing things by a key. -/
def compareBy {α β : Type} (cmp : β → β → Ordering) (key : α → β) : α → α → Ordering :=
  fun a b => cmp (key a) (key b)

instance {α β : Type} {cmp : β → β → Ordering} [Std.TransCmp cmp] {key : α → β} :
    Std.TransCmp (compareBy cmp key) where
  eq_swap {a b} := by
    show cmp (key a) (key b) = (cmp (key b) (key a)).swap
    exact Std.OrientedCmp.eq_swap
  isLE_trans {a b c} hab hbc := by
    show (cmp (key a) (key c)).isLE
    have hab : (cmp (key a) (key b)).isLE := hab
    have hbc : (cmp (key b) (key c)).isLE := hbc
    exact Std.TransCmp.isLE_trans hab hbc

/-- A key that tells things apart makes equals equal. -/
theorem lawfulEqCmp_compareBy {α β : Type} {cmp : β → β → Ordering} [Std.LawfulEqCmp cmp]
    {key : α → β} (inj : ∀ {a b}, key a = key b → a = b) : Std.LawfulEqCmp (compareBy cmp key) where
  compare_self {a} := by
    show cmp (key a) (key a) = .eq
    exact Std.ReflCmp.compare_self
  eq_of_compare {a b} h := by
    have h : cmp (key a) (key b) = .eq := h
    exact inj (Std.LawfulEqCmp.eq_of_compare h)

instance : Ord ObjectId := ⟨compareBy compare ObjectId.text⟩

instance : Std.TransOrd ObjectId := inferInstanceAs (Std.TransCmp (compareBy compare ObjectId.text))

instance : Std.LawfulEqOrd ObjectId :=
  lawfulEqCmp_compareBy fun {a b} h => by cases a; cases b; simpa using h

instance : Ord SessionId := ⟨compareBy compare SessionId.text⟩

instance : Std.TransOrd SessionId :=
  inferInstanceAs (Std.TransCmp (compareBy compare SessionId.text))

instance : Std.LawfulEqOrd SessionId :=
  lawfulEqCmp_compareBy fun {a b} h => by cases a; cases b; simpa using h

instance : Ord SubscriptionId := ⟨compareBy compare SubscriptionId.text⟩

instance : Std.TransOrd SubscriptionId :=
  inferInstanceAs (Std.TransCmp (compareBy compare SubscriptionId.text))

instance : Std.LawfulEqOrd SubscriptionId :=
  lawfulEqCmp_compareBy fun {a b} h => by cases a; cases b; simpa using h

/-- Pairs in lexicographic order. -/
def comparePair {α β : Type} [Ord α] [Ord β] : α × β → α × β → Ordering :=
  compareLex (compareOn Prod.fst) (compareOn Prod.snd)

instance {α β : Type} [Ord α] [Ord β] [Std.TransOrd α] [Std.TransOrd β] :
    Std.TransCmp (comparePair (α := α) (β := β)) :=
  inferInstanceAs (Std.TransCmp (compareLex (compareOn Prod.fst) (compareOn Prod.snd)))

instance {α β : Type} [Ord α] [Ord β] [Std.TransOrd α] [Std.TransOrd β]
    [Std.LawfulEqOrd α] [Std.LawfulEqOrd β] : Std.LawfulEqCmp (comparePair (α := α) (β := β)) where
  eq_of_compare {a b} h := by
    simp only [comparePair, compareLex, Ordering.then_eq_eq, compareOn] at h
    exact Prod.ext (Std.LawfulEqOrd.eq_of_compare h.1) (Std.LawfulEqOrd.eq_of_compare h.2)

/-! ## Maps whose order tells keys apart -/

theorem getElem?_insert_lawful {α β : Type} [Ord α] [DecidableEq α] [Std.TransOrd α]
    [Std.LawfulEqOrd α] (m : Std.ExtTreeMap α β) (k a : α) (v : β) :
    (m.insert k v)[a]? = if k = a then some v else m[a]? := by
  rw [Std.ExtTreeMap.getElem?_insert]
  simp only [Std.LawfulEqOrd.compare_eq_iff_eq]

theorem getElem?_erase_lawful {α β : Type} [Ord α] [DecidableEq α] [Std.TransOrd α]
    [Std.LawfulEqOrd α] (m : Std.ExtTreeMap α β) (k a : α) :
    (m.erase k)[a]? = if k = a then none else m[a]? := by
  rw [Std.ExtTreeMap.getElem?_erase]
  simp only [Std.LawfulEqOrd.compare_eq_iff_eq]

theorem erase_of_not_mem {α β : Type} [Ord α] [DecidableEq α] [Std.TransOrd α]
    [Std.LawfulEqOrd α] {m : Std.ExtTreeMap α β} {k : α} (h : k ∉ m) :
    m.erase k = m := by
  refine Std.ExtTreeMap.ext_getElem? fun a => ?_
  rw [getElem?_erase_lawful]
  split
  · next ha => subst ha; simpa using h
  · rfl

/-! ## Request ids -/

namespace RequestId

/-- Numbers before texts. -/
def sortKey : RequestId → Int × String
  | number n => (n.toInt, "")
  | text s => (Int64.maxValue.toInt + 1, s)

theorem sortKey_inj {a b : RequestId} (h : a.sortKey = b.sortKey) : a = b := by
  cases a with
  | number m =>
    cases b with
    | number n =>
      simp only [sortKey, Prod.mk.injEq, and_true] at h
      rw [Int64.toInt_inj.mp h]
    | text t =>
      simp only [sortKey, Int64.toInt_maxValue, Prod.mk.injEq] at h
      have := m.toInt_lt
      omega
  | text s =>
    cases b with
    | number n =>
      simp only [sortKey, Int64.toInt_maxValue, Prod.mk.injEq] at h
      have := n.toInt_lt
      omega
    | text t =>
      simp only [sortKey, Prod.mk.injEq, true_and] at h
      rw [h]

instance : Ord RequestId := ⟨compareBy comparePair sortKey⟩

instance : Std.TransOrd RequestId := inferInstanceAs (Std.TransCmp (compareBy comparePair sortKey))

instance : Std.LawfulEqOrd RequestId := lawfulEqCmp_compareBy sortKey_inj

end RequestId

/-! ## New names -/

namespace ObjectId

/-- The name of a root object of a type. -/
def root (unique qualifiedType : String) : ObjectId := ⟨unique ++ "_" ++ qualifiedType⟩

/-- The name of a child: the parent's name and a segment of its own. -/
def child (parent : ObjectId) (unique qualifiedType : String) : ObjectId :=
  ⟨parent.text ++ "/" ++ (unique ++ "_" ++ qualifiedType)⟩

/-- The name of a new object below `parent`, or of a root. -/
def below (parent : Option ObjectId) (unique qualifiedType : String) : ObjectId :=
  match parent with
  | none => root unique qualifiedType
  | some p => child p unique qualifiedType

end ObjectId

/-- How the leading digits of drawn names follow from their number. -/
inductive NamingScheme where
  | ascending
  | descending
  | scattered
deriving DecidableEq, Repr

namespace NamingScheme

/-- Lowercase hexadecimal digits, padded with zeros. -/
def hexPadded (width n : Nat) : String :=
  let ds := Nat.toDigits 16 n
  String.ofList (List.replicate (width - ds.length) '0' ++ ds)

/-- The leading 32 bits of the `n`-th name. -/
def key (s : NamingScheme) (n : Nat) : Nat :=
  match s with
  | ascending => n % UInt32.size
  | descending => UInt32.size - 1 - n
  | scattered => n * 2654435761 % UInt32.size

/-- The `n`-th unique text, in the form of a random identifier. -/
def name (s : NamingScheme) (n : Nat) : String :=
  hexPadded 8 (s.key n) ++ "-0000-4000-8000-" ++ hexPadded 12 n

end NamingScheme

/-- A source of unique texts: what the `n`-th draw gives, and how many were drawn. -/
structure NameSource where
  name : Nat → String
  drawn : Nat := 0

namespace NameSource

/-- The next unique text. -/
def draw (s : NameSource) : String × NameSource :=
  (s.name (s.drawn + 1), { s with drawn := s.drawn + 1 })

@[simp] theorem draw_fst (s : NameSource) : s.draw.1 = s.name (s.drawn + 1) := rfl

@[simp] theorem draw_drawn (s : NameSource) : s.draw.2.drawn = s.drawn + 1 := rfl

@[simp] theorem draw_name (s : NameSource) : s.draw.2.name = s.name := rfl

end NameSource

end MediaPlane
