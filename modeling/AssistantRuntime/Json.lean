/-
**JSON values in durable storage.**

The runtime keeps requests, results, contexts and messages as JSON columns.  What a column may hold
is the image of `to_json_safe`: Python primitives, lists and string-keyed mappings, with every float
finite.  A Python integer, a Python float and a Python boolean are three different JSON values even
where Python's `==` identifies them, so they are three constructors.
-/

import Mathlib.Data.List.DropRight
import Mathlib.Data.Rat.Defs

namespace AssistantRuntime

open Option

/-- `str.isspace` of one character. -/
def PyStr.isSpace (c : Char) : Bool :=
  let n := c.toNat
  9 ≤ n && n ≤ 13 || 28 ≤ n && n ≤ 32 || 0x2000 ≤ n && n ≤ 0x200A ||
    n ∈ [0x85, 0xA0, 0x1680, 0x2028, 0x2029, 0x202F, 0x205F, 0x3000]

/-- `str.strip`. -/
def PyStr.strip (text : List Char) : List Char := (text.dropWhile isSpace).rdropWhile isSpace

/-- A Python float.  The negative zero is a value of its own: it prints as `-0.0`. -/
inductive PyFloat
  | finite (value : ℚ)
  | negZero
  | nan
  | infinity (negative : Bool)
  deriving DecidableEq

/-- `math.isfinite`. -/
def PyFloat.isFinite : PyFloat → Bool
  | .finite _ => true
  | .negZero => true
  | .nan => false
  | .infinity _ => false

/-- The Python values that a JSON column can be written from. -/
inductive Json
  | null
  | bool (value : Bool)
  | int (value : ℤ)
  | float (value : PyFloat)
  | str (value : String)
  | arr (items : List Json)
  | obj (members : List (String × Json))

/-- A JSON object, as a column of type `Dict[str, Any]` holds it. -/
abbrev JsonObject := List (String × Json)

namespace Json

instance : Inhabited Json := ⟨.null⟩

mutual

/-- `to_json_safe`: the conversion fails closed on a float that is not finite. -/
def toJsonSafe : Json → Option Json
  | .null => some .null
  | .bool b => some (.bool b)
  | .int n => some (.int n)
  | .float x => if x.isFinite then some (.float x) else none
  | .str s => some (.str s)
  | .arr items => (itemsToJsonSafe items).map .arr
  | .obj members => (membersToJsonSafe members).map .obj

def itemsToJsonSafe : List Json → Option (List Json)
  | [] => some []
  | v :: vs => (toJsonSafe v).bind fun w => (itemsToJsonSafe vs).map (w :: ·)

def membersToJsonSafe : List (String × Json) → Option (List (String × Json))
  | [] => some []
  | (k, v) :: ms => (toJsonSafe v).bind fun w => (membersToJsonSafe ms).map ((k, w) :: ·)

end

mutual

/-- An accepted value comes back unchanged. -/
theorem toJsonSafe_eq_some {v w : Json} (h : v.toJsonSafe = some w) : w = v := by
  cases v with
  | null | bool | int | str =>
    simp only [toJsonSafe, Option.some.injEq] at h
    exact h.symm
  | float x =>
    simp only [toJsonSafe] at h
    split at h
    · exact (Option.some.inj h).symm
    · cases h
  | arr items =>
    simp only [toJsonSafe, map_eq_some_iff] at h
    obtain ⟨ws, hws, rfl⟩ := h
    rw [itemsToJsonSafe_eq_some hws]
  | obj members =>
    simp only [toJsonSafe, map_eq_some_iff] at h
    obtain ⟨ws, hws, rfl⟩ := h
    rw [membersToJsonSafe_eq_some hws]

theorem itemsToJsonSafe_eq_some {vs ws : List Json} (h : itemsToJsonSafe vs = some ws) :
    ws = vs := by
  cases vs with
  | nil => simpa [itemsToJsonSafe] using h.symm
  | cons v vs =>
    simp only [itemsToJsonSafe, bind_eq_some_iff, map_eq_some_iff] at h
    obtain ⟨w, hw, ws', hws, rfl⟩ := h
    rw [toJsonSafe_eq_some hw, itemsToJsonSafe_eq_some hws]

theorem membersToJsonSafe_eq_some {ms ns : List (String × Json)}
    (h : membersToJsonSafe ms = some ns) : ns = ms := by
  cases ms with
  | nil => simpa [membersToJsonSafe] using h.symm
  | cons m ms =>
    obtain ⟨k, v⟩ := m
    simp only [membersToJsonSafe, bind_eq_some_iff, map_eq_some_iff] at h
    obtain ⟨w, hw, ns', hns, rfl⟩ := h
    rw [toJsonSafe_eq_some hw, membersToJsonSafe_eq_some hns]

end

/-! ### Equality of values -/

mutual

/-- Two values are the same value, member by member and in the same order. -/
def same : Json → Json → Bool
  | .null, .null => true
  | .bool a, .bool b => a = b
  | .int a, .int b => a = b
  | .float a, .float b => a = b
  | .str a, .str b => a = b
  | .arr vs, .arr ws => sameItems vs ws
  | .obj ms, .obj ns => sameMembers ms ns
  | _, _ => false

def sameItems : List Json → List Json → Bool
  | [], [] => true
  | v :: vs, w :: ws => same v w && sameItems vs ws
  | _, _ => false

def sameMembers : List (String × Json) → List (String × Json) → Bool
  | [], [] => true
  | (k, v) :: ms, (l, w) :: ns => decide (k = l) && same v w && sameMembers ms ns
  | _, _ => false

end

mutual

theorem same_iff (v w : Json) : same v w = true ↔ v = w := by
  cases v with
  | arr vs => cases w <;> simp [same, sameItems_iff vs]
  | obj ms => cases w <;> simp [same, sameMembers_iff ms]
  | _ => cases w <;> simp [same]

theorem sameItems_iff (vs ws : List Json) : sameItems vs ws = true ↔ vs = ws := by
  cases vs with
  | nil => cases ws <;> simp [sameItems]
  | cons v vs => cases ws <;> simp [sameItems, same_iff v, sameItems_iff vs]

theorem sameMembers_iff (ms ns : List (String × Json)) : sameMembers ms ns = true ↔ ms = ns := by
  cases ms with
  | nil => cases ns <;> simp [sameMembers]
  | cons m ms =>
    obtain ⟨k, v⟩ := m
    cases ns with
    | nil => simp [sameMembers]
    | cons n ns => simp [sameMembers, same_iff v, sameMembers_iff ms, Prod.ext_iff, and_assoc]

end

instance : DecidableEq Json := fun v w => decidable_of_iff (same v w = true) (same_iff v w)

/-! ### Python values -/

/-- The text or null that a text column holds, if the value is one. -/
def asText? : Json → Option (Option String)
  | .null => some none
  | .str s => some (some s)
  | _ => none

end Json

/-- Any Python value, as the two stores see it: `jsonable_encoder` writes `encoded` for it, and
`to_json_safe` makes `safe` of it, or refuses it. -/
structure PyValue where
  encoded : Json
  safe : Option Json
  deriving DecidableEq

namespace Json

/-- A value that came as JSON. -/
def toPy (v : Json) : PyValue := ⟨v, v.toJsonSafe⟩

/-! ### Python equality -/

/-- The number a Python value compares as; a boolean is one of its integers. -/
def number? : Json → Option ℚ
  | .bool b => some (if b then 1 else 0)
  | .int n => some n
  | .float (.finite q) => some q
  | .float .negZero => some 0
  | _ => none

/-- `==` on values that are neither lists nor mappings.  A `nan` equals nothing. -/
def scalarEq : Json → Json → Bool
  | .null, .null => true
  | .str s, .str t => s = t
  | .float (.infinity b), .float (.infinity c) => b = c
  | v, w =>
    match v.number?, w.number? with
    | some p, some q => p = q
    | _, _ => false

/-- The value of a member, as `dict.get` finds it. -/
def member? (key : String) (members : List (String × Json)) : Option Json :=
  (members.find? fun m => m.1 = key).map (·.2)

/-- `bool(v)`. -/
def truthy : Json → Bool
  | .null => false
  | .bool b => b
  | .int n => n ≠ 0
  | .float (.finite q) => q ≠ 0
  | .float .negZero => false
  | .float _ => true
  | .str s => s ≠ ""
  | .arr items => !items.isEmpty
  | .obj members => !members.isEmpty

/-- `members[key] = v`: the member keeps its place, a new one comes last. -/
def setMember (key : String) (v : Json) (members : List (String × Json)) : List (String × Json) :=
  if members.any (·.1 = key) then members.map fun m => if m.1 = key then (key, v) else m
  else members ++ [(key, v)]

/-- The value of a member of a mapping; a value that is no mapping has none. -/
def get? (v : Json) (key : String) : Option Json :=
  match v with
  | .obj members => member? key members
  | _ => none

mutual

/-- Python's `==` on JSON values: `1`, `1.0` and `True` are equal, and so are two mappings with the
same members in another order. -/
def pyEq : Json → Json → Bool
  | .arr items, .arr items' => itemsPyEq items items'
  | .obj members, .obj members' =>
    members.length = members'.length && membersPyEq members members'
  | .arr _, _ => false
  | .obj _, _ => false
  | v, w => scalarEq v w

/-- `==` on two lists. -/
def itemsPyEq : List Json → List Json → Bool
  | [], [] => true
  | v :: vs, w :: ws => pyEq v w && itemsPyEq vs ws
  | _, _ => false

/-- Every member is equal to the member of the other mapping with its key. -/
def membersPyEq : List (String × Json) → List (String × Json) → Bool
  | [], _ => true
  | (k, v) :: ms, ns =>
    (match member? k ns with
    | some w => pyEq v w
    | none => false) && membersPyEq ms ns

end

end Json

end AssistantRuntime
