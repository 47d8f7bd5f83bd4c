/-!
# TOML values

A document is a tree of tables. How a table came about decides who may add to it: a table written in
braces is closed, a table made by a dotted key takes further dotted keys, and a table that a header
only passes through may still get a header of its own.
-/

namespace ProxyLink.Toml

/-- How a table came about. -/
inductive Origin where
  /-- Written in braces. -/
  | inline
  /-- Named by a header. -/
  | header
  /-- Passed through by a header. -/
  | implied
  /-- Made by a dotted key. -/
  | dotted
  deriving DecidableEq

/-- A value. What a floating-point number or a point in time is, is of no interest here. -/
inductive Value where
  | string (text : String)
  | integer (n : Int)
  | float
  | boolean (b : Bool)
  | moment
  | array (elements : List Value)
  | table (origin : Origin) (members : List (String × Value))
  /-- Tables named by headers in double brackets, the last one first. -/
  | series (last : List (String × Value)) (others : List Value)

/-- The members of a table. -/
abbrev Members := List (String × Value)

namespace Members

/-- Members with the value of a key replaced, or with the key added. -/
def set (members : Members) (key : String) (value : Value) : Members :=
  match members with
  | [] => [(key, value)]
  | m :: rest => if m.1 = key then (key, value) :: rest else m :: set rest key value

/-- Changes the table at the end of a path of keys. Tables that the path lacks are made on the way;
`made` says what they are. A path goes through the last table of a series. A path of dotted keys
does not go through a table that has a header of its own. -/
def alter (made : Origin) (change : Origin → Members → Option Members) (origin : Origin)
    (members : Members) : (path : List String) → Option Members
  | [] => change origin members
  | key :: path =>
    match members.lookup key with
    | none => do
      let inner ← alter made change made [] path
      some (members.set key (.table made inner))
    | some (.table inner content) =>
      if inner = .inline ∨ (made = .dotted ∧ inner = .header) then none
      else do
        let content ← alter made change inner content path
        some (members.set key (.table inner content))
    | some (.series last others) => do
      let last ← alter made change .header last path
      some (members.set key (.series last others))
    | some _ => none

/-- Gives a key at the end of a path of dotted keys a value; refused when the key has one, and when
the path ends in a table that no dotted key has made. -/
def define (members : Members) (origin : Origin) (path : List String) (key : String)
    (value : Value) : Option Members :=
  members.alter .dotted (fun origin content =>
    if decide (origin = .dotted) == path.isEmpty then none
    else if (content.lookup key).isSome then none
    else some (content ++ [(key, value)])) origin path

/-- Makes the table of a header; refused when there is a value already, unless it is a table that
another header has only passed through. -/
def open? (members : Members) (path : List String) (key : String) : Option Members :=
  members.alter .implied (fun _ content =>
    match content.lookup key with
    | none => some (content ++ [(key, .table .header [])])
    | some (.table .implied inner) => some (content.set key (.table .header inner))
    | some _ => none) .header path

/-- Makes one more table of a series. -/
def extend? (members : Members) (path : List String) (key : String) : Option Members :=
  members.alter .implied (fun _ content =>
    match content.lookup key with
    | none => some (content ++ [(key, .series [] [])])
    | some (.series last others) =>
      some (content.set key (.series [] (.table .header last :: others)))
    | some _ => none) .header path

/-- Gives a key a value in the table that the last header names. -/
def assign (members : Members) (current : List String) (path : List String) (key : String)
    (value : Value) : Option Members :=
  members.alter .implied (fun origin content => define content origin path key value) .header
    current

end Members

end ProxyLink.Toml
