import TemplateLint.Toml.Scalar
/-!
# TOML — tables under construction

A document is built statement by statement. A part of it is a value that
is there for good, a table that later statements may add to, or a list of
tables of which the last may be added to. How a table came about says
what may still be done with it: one that was declared by a header is not
declared again, and one that a dotted key opened is closed with the
section it stands in.
-/

namespace TemplateLint

namespace Toml

/-- How a table came about. -/
inductive Mark where
  /-- It was named on the way to another. -/
  | implied
  /-- A dotted key in a section opened it. -/
  | dotted (part : Nat)
  /-- A header declared it. -/
  | declared
  deriving DecidableEq, Repr

/-- The table is closed to headers and dotted keys of a section. -/
def Mark.isClosed (part : Nat) : Mark → Bool
  | .implied => false
  | .dotted opened => opened ≠ part
  | .declared => true

/-- A part of a document under construction. -/
inductive Part where
  | value (value : Value)
  | table (mark : Mark) (fields : List (String × Part))
  | tables (earlier : List Value) (last : List (String × Part))

/-- Parts under their keys. -/
abbrev Parts := List (String × Part)

mutual

/-- The value that a part comes to. -/
def Part.toValue : Part → Value
  | .value v => v
  | .table _ fields => .table (toTable fields)
  | .tables earlier last => .list (earlier ++ [.table (toTable last)])

/-- The table that parts come to. -/
def toTable : List (String × Part) → List (String × Value)
  | [] => []
  | (key, part) :: fields => (key, part.toValue) :: toTable fields

end

namespace Parts

/-- The part under a key. -/
def get? (ps : Parts) (key : String) : Option Part :=
  ps.lookup key

/-- The parts with one set under a key: in place if the key is there, else
at the end. -/
def put (ps : Parts) (key : String) (part : Part) : Parts :=
  if ps.any (·.1 == key) then ps.map fun p => if p.1 == key then (key, part) else p
  else ps ++ [(key, part)]

/-- A change to the table at the end of a path of headers. A table that is
not there is implied, and of a list of tables the last is meant. -/
def within (change : Parts → Option Parts) : List String → Parts → Option Parts
  | [], ps => change ps
  | key :: keys, ps =>
    match ps.get? key with
    | none => (within change keys []).map fun fields => ps.put key (.table .implied fields)
    | some (.table mark fields) =>
      (within change keys fields).map fun fields => ps.put key (.table mark fields)
    | some (.tables earlier last) =>
      (within change keys last).map fun last => ps.put key (.tables earlier last)
    | some (.value _) => none

/-- The table under a key, declared by a header of a section. -/
def declare (part : Nat) (key : String) (ps : Parts) : Option Parts :=
  match ps.get? key with
  | none => some (ps.put key (.table .declared []))
  | some (.table mark fields) =>
    if mark.isClosed part then none else some (ps.put key (.table .declared fields))
  | some _ => none

/-- One more table in the list of tables under a key. -/
def extend (key : String) (ps : Parts) : Option Parts :=
  match ps.get? key with
  | none => some (ps.put key (.tables [] []))
  | some (.tables earlier last) =>
    some (ps.put key (.tables (earlier ++ [.table (toTable last)]) []))
  | some _ => none

/-- A value under a dotted key, which opens tables in a section. -/
def assign (part : Nat) (v : Value) : List String → Parts → Option Parts
  | [], _ => none
  | [key], ps => if (ps.get? key).isSome then none else some (ps.put key (.value v))
  | key :: keys, ps =>
    match ps.get? key with
    | none => (assign part v keys []).map fun fields => ps.put key (.table (.dotted part) fields)
    | some (.table mark fields) =>
      if mark.isClosed part then none
      else (assign part v keys fields).map fun fields => ps.put key (.table (.dotted part) fields)
    | some _ => none

end Parts

/-- A statement of a document. -/
inductive Statement where
  /-- A header that declares a table. -/
  | header (key : List String)
  /-- A header that adds a table to a list. -/
  | item (key : List String)
  /-- A key and its value. -/
  | pair (key : List String) (value : Value)

/-- A document under construction: the section under way, the path of its
header, and the parts so far. -/
structure Draft where
  part : Nat := 0
  path : List String := []
  parts : Parts := []

/-- The draft after one more statement. -/
def Draft.add? (d : Draft) : Statement → Option Draft
  | .header key => do
    let part := d.part + 1
    let last ← key.getLast?
    let parts ← Parts.within (Parts.declare part last) key.dropLast d.parts
    return ⟨part, key, parts⟩
  | .item key => do
    let last ← key.getLast?
    let parts ← Parts.within (Parts.extend last) key.dropLast d.parts
    return ⟨d.part + 1, key, parts⟩
  | .pair key v => do
    let parts ← Parts.within (Parts.assign d.part v key) d.path d.parts
    return { d with parts }

/-- The table between braces that keys and values come to. -/
def inlineTable? (pairs : List (List String × Value)) : Option Table :=
  (pairs.foldlM (fun (ps : Parts) pair => Parts.assign 0 pair.2 pair.1 ps) []).map toTable

end Toml

end TemplateLint
