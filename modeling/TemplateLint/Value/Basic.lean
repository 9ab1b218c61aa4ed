import TemplateLint.Value.Binary64
/-!
# Values — what a settings file holds

Settings files, rule options and notes between a rule and its fixer hold
values of no fixed shape: nothing, truth values, whole and binary numbers,
strings, moments, lists and tables. A table keeps the order in which its
keys were written.
-/

namespace TemplateLint

/-- A day of the calendar. -/
structure Day where
  year : Nat
  month : Nat
  day : Nat
  deriving DecidableEq, Repr

/-- A time of day. -/
structure Clock where
  hour : Nat
  minute : Nat
  second : Nat
  microsecond : Nat
  deriving DecidableEq, Repr

/-- A day, a time of day, or both, then perhaps with minutes east of
Greenwich. -/
inductive Moment where
  | day (day : Day)
  | clock (clock : Clock)
  | instant (day : Day) (clock : Clock) (offset : Option Int)
  deriving DecidableEq, Repr

/-- A value of no fixed shape. -/
inductive Value where
  | null
  | bool (value : Bool)
  | int (value : Int)
  | float (value : Binary64)
  | str (value : String)
  | moment (value : Moment)
  | list (items : List Value)
  | table (fields : List (String × Value))
  deriving Repr, BEq, Inhabited

/-- The fields of a table, in the order they were written. -/
abbrev Table := List (String × Value)

namespace Table

/-- The value under a key. -/
def get? (t : Table) (key : String) : Option Value :=
  t.lookup key

/-- The keys of a table, in order. -/
def keys (t : Table) : List String :=
  t.map (·.1)

/-- The table with a key set: in place if it is there, else at the
end. -/
def put (t : Table) (key : String) (value : Value) : Table :=
  if t.any (·.1 == key) then t.map fun field => if field.1 == key then (key, value) else field
  else t ++ [(key, value)]

/-- A table overlaid key by key. -/
def overlay (t upper : Table) : Table :=
  upper.foldl (fun acc field => acc.put field.1 field.2) t

end Table

namespace Value

/-- A value that counts as yes: not nothing, not zero, not empty. -/
def isTruthy : Value → Bool
  | .null => false
  | .bool b => b
  | .int i => i ≠ 0
  | .float (.finite _ mantissa _) => mantissa ≠ 0
  | .float _ => true
  | .str s => s ≠ ""
  | .moment _ => true
  | .list items => !items.isEmpty
  | .table fields => !fields.isEmpty

/-- A value that is neither list nor table. -/
def isPlain : Value → Bool
  | .list _ | .table _ => false
  | _ => true

/-- The most digits that a whole number in base ten is read or written
with. -/
def mostDigits : Nat := 4300

/-- A whole number with too many digits to be written. -/
def isOversized : Value → Bool
  | .int i => Nat.pow 10 mostDigits ≤ i.natAbs
  | _ => false

/-- A moment. -/
def isMoment : Value → Bool
  | .moment _ => true
  | _ => false

mutual

/-- The values that hold no other values, at and below a value, in
order. -/
def leaves : Value → List Value
  | .list items => leavesOf items
  | .table fields => fieldLeaves fields
  | v => [v]

/-- The leaves of the items of a list. -/
def leavesOf : List Value → List Value
  | [] => []
  | v :: vs => leaves v ++ leavesOf vs

/-- The leaves of the fields of a table. -/
def fieldLeaves : List (String × Value) → List Value
  | [] => []
  | (_, v) :: fields => leaves v ++ fieldLeaves fields

end

mutual

/-- A value with every number that is whole, and every truth value, as a
whole number. -/
def canonical : Value → Value
  | .bool b => .int (if b then 1 else 0)
  | .float x => x.whole?.elim (.float x) .int
  | .list items => .list (canonicals items)
  | .table fields => .table (canonicalFields fields)
  | v => v

/-- The items of a list, each of them made canonical. -/
def canonicals : List Value → List Value
  | [] => []
  | v :: vs => canonical v :: canonicals vs

/-- The fields of a table, each of them made canonical. -/
def canonicalFields : List (String × Value) → List (String × Value)
  | [] => []
  | (key, v) :: fields => (key, canonical v) :: canonicalFields fields

end

/-- Two values are equal, in that numbers of all kinds are compared by
their size, and truth values are one and zero. -/
def alike (a b : Value) : Bool :=
  a.canonical == b.canonical

/-- The string of a string value. -/
def string? : Value → Option String
  | .str s => some s
  | _ => none

/-- The fields of a table value. -/
def table? : Value → Option Table
  | .table fields => some fields
  | _ => none

/-- The items of a list value. -/
def list? : Value → Option (List Value)
  | .list items => some items
  | _ => none

/-- The truth value of a truth value. -/
def bool? : Value → Option Bool
  | .bool b => some b
  | _ => none

/-- The number of a whole number. -/
def int? : Value → Option Int
  | .int i => some i
  | _ => none

/-- The strings of a list of strings. -/
def strings? (v : Value) : Option (List String) :=
  v.list?.bind fun items => items.mapM string?

/-- The items that a value is made up of: a string is made up of its
characters, and a table of its keys. -/
def parts? : Value → Option (List Value)
  | .list items => some items
  | .str s => some (s.toList.map fun c => .str (String.singleton c))
  | .table fields => some (fields.map fun field => .str field.1)
  | _ => none

/-- A list of strings. -/
def strings (items : List String) : Value :=
  .list (items.map .str)

/-- The value under a key of a table value. -/
def field? (v : Value) (key : String) : Option Value :=
  v.table?.bind fun fields => Table.get? fields key

end Value

end TemplateLint
