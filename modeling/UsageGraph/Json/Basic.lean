import UsageGraph.Decimal.Binary64

/-!
# JSON values

* `Json`: the values; an object is a list of members, so their order is part of it;
* `Fields`: the members of an object, with `get?`, `set` and `setDefault`;
* `Json.isBlank`: the values that say nothing;
* `Json.strings?`, `Json.keepStrings`: lists of texts.
-/

namespace UsageGraph

/-- **A JSON value.** Whole numbers are kept apart from doubles. -/
inductive Json where
  | null
  | bool (value : Bool)
  | int (value : Int)
  | real (value : Binary64)
  | str (value : String)
  | arr (items : List Json)
  | obj (members : List (String × Json))
  deriving Repr

instance : Inhabited Json := ⟨.null⟩

mutual

/-- Two values are the same, member by member. -/
def Json.same : Json → Json → Bool
  | .null, .null => true
  | .bool x, .bool y => x == y
  | .int x, .int y => x == y
  | .real x, .real y => x == y
  | .str x, .str y => x == y
  | .arr xs, .arr ys => Json.sameItems xs ys
  | .obj xs, .obj ys => Json.sameMembers xs ys
  | _, _ => false

/-- Two lists of values are the same. -/
def Json.sameItems : List Json → List Json → Bool
  | [], [] => true
  | x :: xs, y :: ys => Json.same x y && Json.sameItems xs ys
  | _, _ => false

/-- Two lists of members are the same. -/
def Json.sameMembers : List (String × Json) → List (String × Json) → Bool
  | [], [] => true
  | (k, x) :: xs, (l, y) :: ys => k == l && Json.same x y && Json.sameMembers xs ys
  | _, _ => false

end

mutual

theorem Json.same_iff : ∀ a b : Json, Json.same a b = true ↔ a = b
  | .arr xs, b => by
    cases b <;> simp [Json.same, Json.sameItems_iff xs]
  | .obj xs, b => by
    cases b <;> simp [Json.same, Json.sameMembers_iff xs]
  | .null, b => by cases b <;> simp [Json.same]
  | .bool _, b => by cases b <;> simp [Json.same]
  | .int _, b => by cases b <;> simp [Json.same]
  | .real _, b => by cases b <;> simp [Json.same]
  | .str _, b => by cases b <;> simp [Json.same]

theorem Json.sameItems_iff : ∀ xs ys : List Json, Json.sameItems xs ys = true ↔ xs = ys
  | [], ys => by cases ys <;> simp [Json.sameItems]
  | x :: xs, ys => by
    cases ys <;> simp [Json.sameItems, Json.same_iff x, Json.sameItems_iff xs]

theorem Json.sameMembers_iff :
    ∀ xs ys : List (String × Json), Json.sameMembers xs ys = true ↔ xs = ys
  | [], ys => by cases ys <;> simp [Json.sameMembers]
  | (k, x) :: xs, ys => by
    cases ys with
    | nil => simp [Json.sameMembers]
    | cons m ys =>
      obtain ⟨l, y⟩ := m
      simp [Json.sameMembers, Json.same_iff x, Json.sameMembers_iff xs]

end

instance : DecidableEq Json := fun a b => decidable_of_iff _ (Json.same_iff a b)

/-! ## Members -/

/-- The members of an object, in order. -/
abbrev Fields := List (String × Json)

namespace Fields

/-- The value of a member. -/
def get? (fields : Fields) (key : String) : Option Json := fields.lookup key

/-- The object has a member of this name. -/
def has (fields : Fields) (key : String) : Bool := fields.any (·.1 == key)

/-- The member takes the value: where it stands, or at the end when it is new. -/
def set (key : String) (value : Json) : Fields → Fields
  | [] => [(key, value)]
  | (k, v) :: rest => if k = key then (k, value) :: rest else (k, v) :: set key value rest

/-- The member takes the value unless it has one. -/
def setDefault (key : String) (value : Json) (fields : Fields) : Fields :=
  if fields.has key then fields else fields.set key value

/-- The object without the member. -/
def drop (key : String) (fields : Fields) : Fields := fields.filter (·.1 != key)

/-- The members in order of first occurrence, each with the value it was given last. -/
def ofPairs (pairs : List (String × Json)) : Fields :=
  pairs.foldl (fun fields p => fields.set p.1 p.2) []

theorem get?_set_self (key : String) (value : Json) (fields : Fields) :
    (fields.set key value).get? key = some value := by
  induction fields with
  | nil => simp [set, get?]
  | cons m rest ih =>
    obtain ⟨k, v⟩ := m
    by_cases h : k = key
    · simp [set, get?, h]
    · have h' : (key == k) = false := by simpa using fun e => h e.symm
      simpa [set, get?, List.lookup_cons, h, h'] using ih

theorem get?_set_of_ne {key other : String} (value : Json) (fields : Fields) (h : other ≠ key) :
    (fields.set key value).get? other = fields.get? other := by
  have h' : (other == key) = false := by simpa using h
  induction fields with
  | nil => simp [set, get?, List.lookup_cons, h']
  | cons m rest ih =>
    obtain ⟨k, v⟩ := m
    by_cases hk : k = key
    · simp [set, get?, List.lookup_cons, hk, h']
    · simp only [set, if_neg hk, get?, List.lookup_cons]
      split
      · rfl
      · exact ih

end Fields

namespace Json

/-! ## Views -/

/-- The value says nothing: it is absent, false, zero or empty. -/
def isBlank : Json → Bool
  | .null => true
  | .bool b => !b
  | .int n => n == 0
  | .real x => x.isZero
  | .str s => s == ""
  | .arr items => items.isEmpty
  | .obj members => members.isEmpty

/-- The text, of a text. -/
def text? : Json → Option String
  | .str s => some s
  | _ => none

/-- The members, of an object. -/
def fields? : Json → Option Fields
  | .obj members => some members
  | _ => none

/-- The texts, of a list that holds nothing else. -/
def strings? : Json → Option (List String)
  | .arr items => items.mapM text?
  | _ => none

/-- The texts that a list holds; none of any other value. -/
def keepStrings : Json → List String
  | .arr items => items.filterMap text?
  | _ => []

/-- A list of texts. -/
def ofStrings (texts : List String) : Json := .arr (texts.map .str)

/-- A natural number. -/
def ofNat (n : Nat) : Json := .int n

end Json

end UsageGraph
