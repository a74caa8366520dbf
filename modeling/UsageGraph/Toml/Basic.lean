import UsageGraph.Json.Basic
import UsageGraph.Toml.Fault

/-!
# TOML values

* `Value`: the values; a table is a list of members, so their order is part of it;
* `Step`, `Value.walk?`, `Value.changeAt`: a way into a value, and a change at its end;
* `Value.toJson`: the JSON value that stands for a value.
-/

namespace UsageGraph.Toml

/-- **A TOML value.** A date and a time of day stand for their own text. -/
inductive Value where
  | bool (value : Bool)
  | int (value : Int)
  | real (value : Binary64)
  | str (value : String)
  | date (text : String)
  | time (text : String)
  | arr (items : List Value)
  | table (members : List (String × Value))
  deriving Repr

instance : Inhabited Value := ⟨.table []⟩

/-- The types of values. -/
inductive Kind where
  | bool
  | int
  | real
  | str
  | date
  | time
  | arr
  | table
  deriving DecidableEq, Repr

/-- The type of a value. -/
def Value.kind : Value → Kind
  | .bool _ => .bool
  | .int _ => .int
  | .real _ => .real
  | .str _ => .str
  | .date _ => .date
  | .time _ => .time
  | .arr _ => .arr
  | .table _ => .table

/-- The members of a table, in order. -/
abbrev Members := List (String × Value)

namespace Members

/-- The table has a member of this name. -/
def has (members : Members) (key : String) : Bool := members.any (·.1 == key)

/-- The member takes the value: where it stands, or at the end when it is new. -/
def set (key : String) (value : Value) : Members → Members
  | [] => [(key, value)]
  | (k, v) :: rest => if k = key then (k, value) :: rest else (k, v) :: set key value rest

/-- The members in order of first occurrence, each with the value it was given last. -/
def ofPairs (pairs : List (String × Value)) : Members :=
  pairs.foldl (fun members p => set p.1 p.2 members) []

end Members

/-! ## Ways into values -/

/-- **A step into a value**: to a member of a table, or to the last item of an array. -/
inductive Step where
  | member (key : String)
  | last
  deriving DecidableEq, Repr

namespace Value

/-- The value that a step leads to. -/
def enter? : Value → Step → Option Value
  | .table members, .member key => members.lookup key
  | .arr items, .last => items.getLast?
  | _, _ => none

/-- **The value that steps lead to.** -/
def walk? (v : Value) (steps : List Step) : Option Value := steps.foldlM enter? v

/-- The value with another one where a step leads. -/
def putAt : Value → Step → Value → Value
  | .table members, .member key, w => .table (Members.set key w members)
  | .arr items, .last, w => .arr (items.dropLast ++ [w])
  | v, _, _ => v

/-- **The value changed where steps lead**, with what the change gives beside it. -/
def changeAt {α : Type} (change : Value → Reading (Value × α)) :
    Value → List Step → Reading (Value × α)
  | v, [] => change v
  | v, s :: ss =>
    match v.enter? s with
    | none => broken .noPlace
    | some w => do
      let (w, a) ← changeAt change w ss
      return (v.putAt s w, a)

/-! ## JSON -/

mutual

/-- **The JSON value that stands for a value.** JSON has no dates and no times of day; the truth stands
for them. -/
def toJson : Value → Json
  | .bool b => .bool b
  | .int n => .int n
  | .real x => .real x
  | .str s => .str s
  | .date _ | .time _ => .bool true
  | .arr items => .arr (itemsToJson items)
  | .table members => .obj (membersToJson members)

/-- The JSON values that stand for items. -/
def itemsToJson : List Value → List Json
  | [] => []
  | v :: rest => toJson v :: itemsToJson rest

/-- The JSON values that stand for members. -/
def membersToJson : List (String × Value) → List (String × Json)
  | [] => []
  | (k, v) :: rest => (k, toJson v) :: membersToJson rest

end

mutual

/-- A date or a time of day is in the value. -/
def hasMoment : Value → Bool
  | .date _ | .time _ => true
  | .arr items => itemsHaveMoment items
  | .table members => membersHaveMoment members
  | _ => false

/-- A date or a time of day is in one of the items. -/
def itemsHaveMoment : List Value → Bool
  | [] => false
  | v :: rest => hasMoment v || itemsHaveMoment rest

/-- A date or a time of day is in one of the members. -/
def membersHaveMoment : List (String × Value) → Bool
  | [] => false
  | (_, v) :: rest => hasMoment v || membersHaveMoment rest

end

end Value

end UsageGraph.Toml
