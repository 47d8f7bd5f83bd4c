import ProxyLink.LogFilter.FieldValue
import ProxyLink.Text.Alphanumeric
import ProxyLink.Text.Blank

/-!
# Directives of a log filter

A directive lets events through up to a threshold, if they come from a target, within a span, and
with a field. In writing it is `target[span{field=value}]=threshold`, and most of it may be left
out.
-/

namespace ProxyLink.LogFilter

/-- How much gets through: nothing, or events from the gravest ones up to the most detailed. -/
inductive Threshold where
  | off
  | error
  | warn
  | info
  | debug
  | trace
  deriving DecidableEq

namespace Threshold

/-- Every threshold, the least one first. -/
def all : List Threshold := [.off, .error, .warn, .info, .debug, .trace]

def name : Threshold → String
  | .off => "off"
  | .error => "error"
  | .warn => "warn"
  | .info => "info"
  | .debug => "debug"
  | .trace => "trace"

/-- The threshold with a given name, in letters of either case, or with a given number. -/
def ofText? (text : List Char) : Option Threshold :=
  match Decimal.unsigned? text with
  | some n => all[n]?
  | none =>
    let lower := String.ofList (text.map Char.toLower)
    all.find? fun threshold => threshold.name == lower

end Threshold

structure FieldRule where
  name : String
  value : Option FieldValue

namespace FieldRule

/-- The rule that a text describes: what stands behind a second equals sign does not count. -/
def ofText (text : List Char) : FieldRule :=
  match text.splitOn '=' with
  | name :: value :: _ => ⟨String.ofList name, some (FieldValue.ofText value)⟩
  | _ => ⟨String.ofList text, none⟩

def display (rule : FieldRule) : String :=
  match rule.value with
  | some value => rule.name ++ "=" ++ value.display
  | none => rule.name

/-- The order of rules: those without a value first, then by name and value. -/
def cmp (a b : FieldRule) : Ordering :=
  ((compare a.value.isSome b.value.isSome).then (compare a.name b.name)).then <|
    match a.value, b.value with
    | some a, some b => a.cmp b
    | _, _ => .eq

end FieldRule

structure Directive where
  target : Option String
  span : Option String
  field : Option FieldRule
  threshold : Threshold

namespace Directive

/-- Whether a directive can be decided without looking at spans and at the values of fields. -/
def isStatic (d : Directive) : Bool := d.span.isNone && (d.field.bind (·.value)).isNone

def isDynamic (d : Directive) : Bool := d.span.isSome || d.field.isSome

def display (d : Directive) : String :=
  let braced := match d.field with
    | some rule => "\x7b" ++ rule.display ++ "\x7d"
    | none => ""
  let inside := d.span.getD "" ++ braced
  let place := d.target.getD "" ++ (if d.isDynamic then "[" ++ inside ++ "]" else "")
  if d.target.isNone ∧ !d.isDynamic then d.threshold.name else place ++ "=" ++ d.threshold.name

/-- The order of directives, the least specific one first: by the length of the target, then by
whether there are a span and a field, and then by their texts. Thresholds do not count. -/
def cmp (a b : Directive) : Ordering :=
  let fields := match a.field, b.field with
    | some a, some b => a.cmp b
    | a, b => compare a.isSome b.isSome
  (compare (a.target.map String.utf8ByteSize) (b.target.map String.utf8ByteSize))
    |>.then (compare a.span.isSome b.span.isSome)
    |>.then (compare a.field.isSome b.field.isSome)
    |>.then (compare a.target b.target)
    |>.then (compare a.span b.span)
    |>.then fields

/-- The parts of a text before and behind the first character that satisfies `p`, with that
character. -/
def cut? (p : Char → Bool) (text : List Char) : Option (List Char × Char × List Char) :=
  match text.dropWhile fun c => !p c with
  | c :: rest => some (text.takeWhile fun c => !p c, c, rest)
  | [] => none

/-- What a directive lets through; everything, when it does not say. -/
def threshold? : List Char → Option Threshold
  | [] => some .trace
  | '=' :: [] => some .trace
  | '=' :: text => Threshold.ofText? text
  | _ => none

/-- A directive for a target; the text starts behind the opening bracket. -/
def ofBracket? (target : Option String) (text : List Char) : Option Directive := do
  match ← cut? (fun c => c == ']' || c == '\x7b') text with
  | (span, ']', rest) => some ⟨target, some (String.ofList span), none, ← threshold? rest⟩
  | (span, _, rest) =>
    let (field, _, rest) ← cut? (· == '\x7d') rest
    match field, rest with
    | [], _ => none
    | _, ']' :: rest =>
      let span := if span.isEmpty then none else some (String.ofList span)
      some ⟨target, span, some (FieldRule.ofText field), ← threshold? rest⟩
    | _, _ => none

/-- Whether a target may start with a character. -/
def startsTarget (c : Char) : Bool := c == '-' || c == ':' || c == '_' || Text.isAlphanumeric c

/-- The directive that a text describes, less the blanks around it. -/
def ofText? (text : List Char) : Option Directive :=
  match Text.trimBlanks text with
  | [] => none
  | '[' :: rest => ofBracket? none rest
  | c :: rest =>
    if startsTarget c then
      match cut? (fun c => c == '=' || c == '[') (c :: rest) with
      | some (target, '[', rest) => ofBracket? (some (String.ofList target)) rest
      | some (target, _, rest) =>
        (threshold? ('=' :: rest)).map (⟨some (String.ofList target), none, none, ·⟩)
      | none =>
        match Threshold.ofText? (c :: rest) with
        | some threshold => some ⟨none, none, none, threshold⟩
        | none => some ⟨some (String.ofList (c :: rest)), none, none, .trace⟩
    else none

end Directive

end ProxyLink.LogFilter
