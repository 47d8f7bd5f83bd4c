import ProxyLink.LogFilter.Directive

/-!
# Log filters

A filter is a set of directives, the most specific one first. Those that can be decided at once are
kept apart from those that have to look at spans and fields. The environment may give a filter.
-/

namespace ProxyLink

/-- A filter for the log. -/
structure LogFilter where
  /-- The directives that need no look at spans or at the values of fields. -/
  statics : List LogFilter.Directive
  /-- The directives that ask for a span or a field. -/
  dynamics : List LogFilter.Directive

namespace LogFilter

/-- Directives with one more, in its place; it replaces one that asks for the same. -/
def insert (directive : Directive) : List Directive → List Directive
  | [] => [directive]
  | d :: rest =>
    match directive.cmp d with
    | .gt => directive :: d :: rest
    | .eq => directive :: rest
    | .lt => d :: insert directive rest

/-- What a static directive asks for: the names of fields, but no value. -/
def withoutValue (d : Directive) : Directive :=
  { d with field := d.field.map fun rule => ⟨rule.name, none⟩ }

/-- The filter of some directives. A directive that only names a field is of both sorts. -/
def ofDirectives (directives : List Directive) : LogFilter :=
  let statics := directives.filter fun d => d.isStatic && !d.isDynamic
  let both := directives.filter fun d => d.isStatic && d.isDynamic
  let dynamics := directives.filter (·.isDynamic)
  ⟨((statics ++ both).map withoutValue).foldl (fun ds d => insert d ds) [],
    dynamics.foldl (fun ds d => insert d ds) []⟩

/-- The filter that a text describes: directives with commas between them. -/
def ofText? (text : String) : Option LogFilter :=
  let pieces := (text.toList.splitOn ',').filter (!·.isEmpty)
  (pieces.mapM Directive.ofText?).map ofDirectives

def display (f : LogFilter) : String :=
  ",".intercalate ((f.statics ++ f.dynamics).map Directive.display)

/-- The filter when no other is given, or when one is given that cannot be read. -/
def default : LogFilter := ofDirectives [⟨none, none, none, .debug⟩]

/-- The filter that two variables of the environment give; the second one counts only when the first
one is not set. -/
def ofEnvironment (own? general? : Option String) : LogFilter :=
  ((own? <|> general?).bind ofText?).getD default

end LogFilter

end ProxyLink
