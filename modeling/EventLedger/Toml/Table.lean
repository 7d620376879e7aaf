import EventLedger.Toml.Value

/-!
# Tables of a TOML document

A document builds tables in three ways: by a header, by a key with points, or by being on the way
of a header to a deeper table. A header names each table once, and none that a key with points has
put a value into. A key with points leads only through tables that no header has named, or through
the table that an array of tables ends with, which it does not fill itself. What a value says is
closed.
-/
namespace EventLedger.Toml

/-- How a table came to be. -/
inductive Origin where
  /-- A header names it. -/
  | named
  /-- It is on the way of a header. -/
  | passed
  /-- A key with points made it or put a value into it. -/
  | dotted
  deriving DecidableEq, Repr

/-- What a key stands for while a document is read. -/
inductive Node where
  /-- A value, which is closed. -/
  | value (value : Value)
  /-- A table. -/
  | table (origin : Origin) (members : List (String × Node))
  /-- An array of tables: the closed ones, the latest first, and the one being filled. -/
  | tables (closed : List (List (String × Node))) (current : List (String × Node))

/-- Members of a table that is being filled. -/
abbrev Members := List (String × Node)

/-- Put a node behind a key, in place of the one there. -/
def put (key : String) (node : Node) : Members → Members
  | [] => [(key, node)]
  | member :: rest =>
    if member.1 = key then (key, node) :: rest else member :: put key node rest

/-- The origin of a table that a key with points leads to, where the key goes on with `rest`. -/
def Origin.reached (origin : Origin) (rest : List String) : Origin :=
  if rest.length = 1 then .dotted else origin

/-- Put a value behind a key with points. -/
def assign : (keys : List String) → Value → Members → Option Members
  | [], _, _ => none
  | [key], value, members =>
    match members.lookup key with
    | none => some (put key (.value value) members)
    | some _ => none
  | key :: keys, value, members =>
    match members.lookup key with
    | none => (assign keys value []).map fun inner => put key (.table .dotted inner) members
    | some (.table .named _) => none
    | some (.table origin inner) =>
      (assign keys value inner).map fun inner =>
        put key (.table (origin.reached keys) inner) members
    | some (.tables closed current) =>
      if keys.length = 1 then none
      else
        (assign keys value current).map fun current => put key (.tables closed current) members
    | some (.value _) => none

/-- Name a table by a header. -/
def openTable : (keys : List String) → Members → Option Members
  | [], _ => none
  | [key], members =>
    match members.lookup key with
    | none => some (put key (.table .named []) members)
    | some (.table .passed inner) => some (put key (.table .named inner) members)
    | some _ => none
  | key :: keys, members =>
    match members.lookup key with
    | none => (openTable keys []).map fun inner => put key (.table .passed inner) members
    | some (.table origin inner) =>
      (openTable keys inner).map fun inner => put key (.table origin inner) members
    | some (.tables closed current) =>
      (openTable keys current).map fun current => put key (.tables closed current) members
    | some (.value _) => none

/-- Add a table to an array of tables by a header. -/
def addTable : (keys : List String) → Members → Option Members
  | [], _ => none
  | [key], members =>
    match members.lookup key with
    | none => some (put key (.tables [] []) members)
    | some (.tables closed current) => some (put key (.tables (current :: closed) []) members)
    | some _ => none
  | key :: keys, members =>
    match members.lookup key with
    | none => (addTable keys []).map fun inner => put key (.table .passed inner) members
    | some (.table origin inner) =>
      (addTable keys inner).map fun inner => put key (.table origin inner) members
    | some (.tables closed current) =>
      (addTable keys current).map fun current => put key (.tables closed current) members
    | some (.value _) => none

/-- Put a value behind a key with points, in the table that the last header named. -/
def assignIn : (header keys : List String) → Value → Members → Option Members
  | [], keys, value, members => assign keys value members
  | name :: header, keys, value, members =>
    match members.lookup name with
    | some (.table origin inner) =>
      (assignIn header keys value inner).map fun inner => put name (.table origin inner) members
    | some (.tables closed current) =>
      (assignIn header keys value current).map fun current =>
        put name (.tables closed current) members
    | _ => none

mutual

/-- The value of a node. -/
def Node.toValue : Node → Value
  | .value value => value
  | .table _ members => .table (toValues members)
  | .tables closed current =>
    .array (closedValues closed [.table (toValues current)])

/-- The values of the members of a table. -/
def toValues : List (String × Node) → List (String × Value)
  | [] => []
  | (key, node) :: rest => (key, node.toValue) :: toValues rest

/-- The values of closed tables, the latest first, in front of later ones. -/
def closedValues : List (List (String × Node)) → List Value → List Value
  | [], later => later
  | members :: earlier, later => closedValues earlier (.table (toValues members) :: later)

end

end EventLedger.Toml
