/-!
# The tables of a TOML document

A TOML document is a tree of tables. Headers and dotted keys create the tables on their way, and
how a table came about decides what may still be added to it: a table that was only implied by
a header below it can get a header of its own, a table made by dotted keys can only grow by
dotted keys, and a table or array that was written as a value is closed.

* `Toml.descend` — goes down a path, making tables on the way.
* `TomlBuilder` — a document while its lines are read.
-/

namespace WidgetStage

/-- A TOML value, or a table of the document. -/
inductive Toml where
  | text (s : String)
  | integer (n : Int)
  | float (x : Float)
  | boolean (b : Bool)
  /-- A date, a time or both. -/
  | moment
  | array (items : List Toml)
  /-- A table that was written as a value. -/
  | closedTable (entries : List (String × Toml))
  /-- A table of the document: whether it was only implied, and whether dotted keys made it. -/
  | table (implied dotted : Bool) (entries : List (String × Toml))
  /-- The tables under a repeated header. -/
  | tables (items : List (List (String × Toml)))

namespace Toml

/-- Replaces the value of a key in place. -/
def replaceEntry (k : String) (v : Toml) (entries : List (String × Toml)) :
    List (String × Toml) :=
  entries.map fun e => if e.1 = k then (k, v) else e

/-- Takes a key away. -/
def eraseEntry (k : String) (entries : List (String × Toml)) : List (String × Toml) :=
  entries.filter fun e => e.1 ≠ k

/-- Goes down a path from a table and changes the table at its end. Missing tables are made;
they are dotted if the path is that of a dotted key. A path goes into the last table of a
repeated header. A dotted key does not enter a table that has a header. -/
def descend {β : Type} (dotted : Bool) (change : Toml → Option (β × Toml)) :
    List String → Toml → Option (β × Toml)
  | [], t => change t
  | k :: ks, .table i d entries =>
    match entries.lookup k with
    | none =>
      (descend dotted change ks (.table true dotted [])).map fun (b, v) =>
        (b, .table i d (entries ++ [(k, v)]))
    | some (.table i' d' inner) =>
      if dotted && !i' then none
      else
        (descend dotted change ks (.table i' d' inner)).map fun (b, v) =>
          (b, .table i d (replaceEntry k v entries))
    | some (.tables items) =>
      match items.getLast? with
      | none => none
      | some last =>
        match descend dotted change ks (.table false false last) with
        | some (b, .table _ _ last) =>
          some (b, .table i d (replaceEntry k (.tables (items.dropLast ++ [last])) entries))
        | _ => none
    | some _ => none
  | _ :: _, _ => none

/-- Adds a key to a table. A key that is already there is refused, and so is a plain key in a
table of dotted keys and the reverse. -/
def addKey (plain : Bool) (k : String) (v : Toml) : Toml → Option (Unit × Toml)
  | .table i d entries =>
    if d == plain then none
    else if (entries.lookup k).isSome then none
    else some ((), .table i d (entries ++ [(k, v)]))
  | _ => none

/-- Assigns a value to a key, which may be dotted: the path leads to the table of its last
part. -/
def assign (t : Toml) (path : List String) (k : String) (v : Toml) : Option Toml :=
  (descend true (addKey path.isEmpty k v) path t).map Prod.snd

/-- The entries of a table. -/
def entries : Toml → List (String × Toml)
  | .table _ _ es => es
  | .closedTable es => es
  | _ => []

/-- An added key is found in its table. -/
theorem lookup_of_addKey {plain : Bool} {k : String} {v : Toml} {t u : Toml}
    (h : addKey plain k v t = some ((), u)) : u.entries.lookup k = some v := by
  unfold addKey at h
  split at h
  · split at h
    · cases h
    · split at h
      · cases h
      · next hk =>
        cases h
        have hnone : List.lookup k _ = none := Option.not_isSome_iff_eq_none.1 hk
        simp [entries, List.lookup_append, hnone]
  · cases h

end Toml

/-- A document while its lines are read: the tables that are finished, and the one that lines
are added to, with its path and whether its header may be repeated. -/
structure TomlBuilder where
  root : Toml
  current : Toml
  path : List String
  repeated : Bool

namespace TomlBuilder

/-- A document without lines. -/
def start : TomlBuilder :=
  ⟨.table false false [], .table false false [], [], false⟩

/-- Appends a table to those of a repeated header. -/
def pushTable (k : String) (entries : List (String × Toml)) : Toml → Option (Unit × Toml)
  | .table i d es =>
    match es.lookup k with
    | none => some ((), .table i d (es ++ [(k, .tables [entries])]))
    | some (.tables items) =>
      some ((), .table i d (Toml.replaceEntry k (.tables (items ++ [entries])) es))
    | some _ => none
  | _ => none

/-- Puts a table in its place, which may be held by an implied table. -/
def placeTable (k : String) (t : Toml) : Toml → Option (Unit × Toml)
  | .table i d es =>
    match es.lookup k with
    | none => some ((), .table i d (es ++ [(k, t)]))
    | some (.table true _ _) => some ((), .table i d (Toml.replaceEntry k t es))
    | some _ => none
  | _ => none

/-- Moves the current table into the document. -/
def finish (b : TomlBuilder) : Option Toml :=
  match b.path.getLast? with
  | none => some b.current
  | some k =>
    let place : Toml → Option (Unit × Toml) :=
      if b.repeated then pushTable k b.current.entries else placeTable k b.current
    (Toml.descend false place b.path.dropLast b.root).map Prod.snd

/-- Takes an implied table out of its parent, so that its header can be read; any other thing
under the key is refused. -/
def takeImplied (k : String) : Toml → Option (List (String × Toml) × Toml)
  | .table i d es =>
    match es.lookup k with
    | none => some ([], .table i d es)
    | some (.table true false inner) => some (inner, .table i d (Toml.eraseEntry k es))
    | some _ => none
  | _ => none

/-- Makes sure that a key has room for one more table of a repeated header. -/
def takeRepeated (k : String) : Toml → Option (Unit × Toml)
  | .table i d es =>
    match es.lookup k with
    | none => some ((), .table i d es)
    | some (.tables _) => some ((), .table i d es)
    | some _ => none
  | _ => none

/-- Reads a header: lines are added to the table of this path from now on. -/
def header (b : TomlBuilder) (path : List String) : Option TomlBuilder :=
  match b.finish, path.getLast? with
  | some root, some k =>
    (Toml.descend false (takeImplied k) path.dropLast root).map fun (entries, root) =>
      ⟨root, .table false false entries, path, false⟩
  | _, _ => none

/-- Reads a header that may be repeated. -/
def repeatedHeader (b : TomlBuilder) (path : List String) : Option TomlBuilder :=
  match b.finish, path.getLast? with
  | some root, some k =>
    (Toml.descend false (takeRepeated k) path.dropLast root).map fun ((), root) =>
      ⟨root, .table false false [], path, true⟩
  | _, _ => none

/-- Reads an assignment. -/
def assign (b : TomlBuilder) (path : List String) (k : String) (v : Toml) : Option TomlBuilder :=
  (b.current.assign path k v).map fun t => { b with current := t }

end TomlBuilder

end WidgetStage
