import LiveForm.Keyed
import LiveForm.Number.Binary64

/-!
# JSON values

A number is an integer when it was written as one and fits 64 bits, signed or unsigned, and a
finite `Binary64` otherwise. The two kinds stay apart: `1` and `1.0` are different values. Members
of an object are in the order of their keys (`Keyed`); `Json.Ordered` says so of every object
inside a value.

`Json.same` is the equality of the data: that of the values, except that both zeros are one number.
-/

namespace LiveForm

/-- A number in a JSON value. -/
inductive Number where
  | int (value : Int) (fits : -0x8000000000000000 ≤ value ∧ value < 0x10000000000000000)
  | float (value : Binary64) (finite : value.isFinite = true)
deriving DecidableEq

namespace Number

/-- An integer, if it fits 64 bits, signed or unsigned. -/
def ofInt? (n : Int) : Option Number :=
  if h : -0x8000000000000000 ≤ n ∧ n < 0x10000000000000000 then some (.int n h) else none

/-- A finite number. -/
def ofBinary64? (x : Binary64) : Option Number :=
  if h : x.isFinite = true then some (.float x h) else none

/-- A word of 64 bits. -/
def ofUInt64 (n : UInt64) : Number :=
  .int n.toNat ⟨by omega, by have := n.toNat_lt; omega⟩

/-- The number as a `Binary64`; an integer becomes the nearest one. -/
def toBinary64 : Number → Binary64
  | int n _ => Binary64.ofInt n
  | float x _ => x

/-- An integer that is not negative. -/
def natural? : Number → Option Nat
  | int n _ => if 0 ≤ n then some n.toNat else none
  | float _ _ => none

/-- Equality of the data: both zeros are one number. -/
def same : Number → Number → Bool
  | int m _, int n _ => m == n
  | float x _, float y _ => x.same y
  | _, _ => false

theorem same_self (n : Number) : n.same n = true := by
  cases n with
  | int n _ => simp [same]
  | float x h => exact Binary64.same_self h

end Number

/-- A JSON value. -/
inductive Json where
  | null
  | bool (value : Bool)
  | num (value : Number)
  | str (value : String)
  | arr (items : List Json)
  | obj (members : List (String × Json))

namespace Json

instance : Inhabited Json := ⟨.null⟩

mutual

/-- Whether two values are the same. -/
def decEq : (a b : Json) → Decidable (a = b)
  | .null, .null => isTrue rfl
  | .bool a, .bool b => if h : a = b then isTrue (h ▸ rfl) else isFalse (by simp [h])
  | .num a, .num b => if h : a = b then isTrue (h ▸ rfl) else isFalse (by simp [h])
  | .str a, .str b => if h : a = b then isTrue (h ▸ rfl) else isFalse (by simp [h])
  | .arr a, .arr b =>
    match decEqItems a b with
    | isTrue h => isTrue (h ▸ rfl)
    | isFalse h => isFalse (by simp [h])
  | .obj a, .obj b =>
    match decEqMembers a b with
    | isTrue h => isTrue (h ▸ rfl)
    | isFalse h => isFalse (by simp [h])
  | .null, .bool _ | .null, .num _ | .null, .str _ | .null, .arr _ | .null, .obj _
  | .bool _, .null | .bool _, .num _ | .bool _, .str _ | .bool _, .arr _ | .bool _, .obj _
  | .num _, .null | .num _, .bool _ | .num _, .str _ | .num _, .arr _ | .num _, .obj _
  | .str _, .null | .str _, .bool _ | .str _, .num _ | .str _, .arr _ | .str _, .obj _
  | .arr _, .null | .arr _, .bool _ | .arr _, .num _ | .arr _, .str _ | .arr _, .obj _
  | .obj _, .null | .obj _, .bool _ | .obj _, .num _ | .obj _, .str _ | .obj _, .arr _ =>
    isFalse (by simp)

/-- Whether two lists of items are the same. -/
def decEqItems : (a b : List Json) → Decidable (a = b)
  | [], [] => isTrue rfl
  | a :: as, b :: bs =>
    match decEq a b, decEqItems as bs with
    | isTrue h, isTrue h' => isTrue (h ▸ h' ▸ rfl)
    | isFalse h, _ => isFalse (by simp [h])
    | _, isFalse h => isFalse (by simp [h])
  | [], _ :: _ | _ :: _, [] => isFalse (by simp)

/-- Whether two lists of members are the same. -/
def decEqMembers : (a b : List (String × Json)) → Decidable (a = b)
  | [], [] => isTrue rfl
  | (k, a) :: as, (l, b) :: bs =>
    match decEq a b, decEqMembers as bs with
    | isTrue h, isTrue h' =>
      if hk : k = l then isTrue (h ▸ h' ▸ hk ▸ rfl) else isFalse (by simp [hk])
    | isFalse h, _ => isFalse (by simp [h])
    | _, isFalse h => isFalse (by simp [h])
  | [], _ :: _ | _ :: _, [] => isFalse (by simp)

end

instance : DecidableEq Json := decEq

mutual

/-- Equality of the data: both zeros are one number. -/
def same : Json → Json → Bool
  | .null, .null => true
  | .bool a, .bool b => a == b
  | .num a, .num b => a.same b
  | .str a, .str b => a == b
  | .arr a, .arr b => sameItems a b
  | .obj a, .obj b => sameMembers a b
  | _, _ => false

/-- The items are the same one by one. -/
def sameItems : List Json → List Json → Bool
  | [], [] => true
  | a :: as, b :: bs => same a b && sameItems as bs
  | _, _ => false

/-- The members are the same one by one. -/
def sameMembers : List (String × Json) → List (String × Json) → Bool
  | [], [] => true
  | (k, a) :: as, (l, b) :: bs => k == l && same a b && sameMembers as bs
  | _, _ => false

end

mutual

/-- Every object inside the value has its keys in strictly ascending order. -/
def Ordered : Json → Prop
  | .arr items => ItemsOrdered items
  | .obj members => Keyed.Ordered members ∧ MembersOrdered members
  | _ => True

/-- `Ordered` for every item. -/
def ItemsOrdered : List Json → Prop
  | [] => True
  | v :: rest => Ordered v ∧ ItemsOrdered rest

/-- `Ordered` for the value of every member. -/
def MembersOrdered : List (String × Json) → Prop
  | [] => True
  | (_, v) :: rest => Ordered v ∧ MembersOrdered rest

end

/-- A natural number, when it fits 64 bits; `null` otherwise. -/
def ofNat (n : Nat) : Json :=
  match Number.ofInt? n with
  | some n => .num n
  | none => .null

/-- A number; one that is not finite is `null`. -/
def ofBinary64 (x : Binary64) : Json :=
  match Number.ofBinary64? x with
  | some n => .num n
  | none => .null

/-- An object of members in any order; the last of several with one key wins. -/
def ofMembers (members : List (String × Json)) : Json := .obj (Keyed.ofPairs members)

/-- The text of a string. -/
def text? : Json → Option String
  | .str s => some s
  | _ => none

/-- The member of an object. -/
def member? (v : Json) (key : String) : Option Json :=
  match v with
  | .obj members => Keyed.find? members key
  | _ => none

mutual

theorem same_self : (v : Json) → v.same v = true
  | .null => rfl
  | .bool b => by simp [same]
  | .num n => by simp [same, Number.same_self]
  | .str s => by simp [same]
  | .arr items => by rw [same]; exact sameItems_self items
  | .obj members => by rw [same]; exact sameMembers_self members

theorem sameItems_self : (vs : List Json) → sameItems vs vs = true
  | [] => rfl
  | v :: rest => by rw [sameItems, same_self v, sameItems_self rest]; rfl

theorem sameMembers_self : (ms : List (String × Json)) → sameMembers ms ms = true
  | [] => rfl
  | (k, v) :: rest => by rw [sameMembers, same_self v, sameMembers_self rest]; simp

end

end Json

end LiveForm
