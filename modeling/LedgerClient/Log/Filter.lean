import LedgerClient.Log.Directive
import LedgerClient.Log.Event

/-! # Log filters

A filter is a list of rules, the most specific first. The first rule that an event
falls under decides whether it passes; an event under no rule does not.
Directives for a span, or for values of fields, hold inside spans only and give no
rule.
-/

namespace LedgerClient

/-- A limit for the events of a target that have some fields. -/
structure LogRule where
  /-- What the target begins with. -/
  target : Option String
  fields : List String
  level : LogLevel
deriving DecidableEq

namespace LogRule

/-- The order of rules: longer targets first, then more fields, then the greater
target and the greater fields. -/
def order (a b : LogRule) : Ordering :=
  (compare (b.target.map String.utf8ByteSize) (a.target.map String.utf8ByteSize)).then <|
    (compare b.fields.length a.fields.length).then <|
      (compare b.target a.target).then (compare b.fields a.fields)

/-- Whether an event falls under a rule. -/
def covers (rule : LogRule) (event : LogEvent) : Bool :=
  let names := "message" :: event.fields.map Prod.fst
  let isUnder := fun target : String => target.toList.isPrefixOf event.target.toList
  rule.target.all isUnder && rule.fields.all names.contains

end LogRule

namespace LogDirective

/-- Whether a directive is for spans or fields, and not just for a target. -/
def isSpecial (directive : LogDirective) : Bool :=
  directive.span.isSome || !directive.fields.isEmpty

/-- The rule of a directive, if it holds outside spans. -/
def rule? (directive : LogDirective) : Option LogRule :=
  if directive.span.isNone && directive.fields.all (·.value.isNone) then
    some ⟨directive.target, directive.fields.map FieldPattern.name, directive.level⟩
  else none

end LogDirective

/-- Which events pass. -/
structure LogFilter where
  /-- The rules in order. -/
  rules : List LogRule
deriving DecidableEq

namespace LogFilter

/-- The filter without any directive: errors pass. -/
def standard : LogFilter := ⟨[⟨none, [], .error⟩]⟩

/-- Put a rule in its place; it replaces a rule for the same events. -/
def insert (rule : LogRule) : List LogRule → List LogRule
  | [] => [rule]
  | other :: rest =>
    match rule.order other with
    | .lt => rule :: other :: rest
    | .eq => rule :: rest
    | .gt => other :: insert rule rest

/-- The filter of some directives. Those for a target alone are taken first. -/
def ofDirectives (directives : List LogDirective) : LogFilter :=
  let (special, plain) := directives.partition LogDirective.isSpecial
  let rules := (plain ++ special).filterMap LogDirective.rule?
  if directives.isEmpty then standard else ⟨rules.foldl (fun sorted rule => insert rule sorted) []⟩

/-- The filter that a text spells: directives with commas between them, of which
empty ones are passed over. -/
def parse? (text : String) : Option LogFilter :=
  let pieces := (text.splitOn ",").filter (!·.isEmpty)
  (pieces.mapM LogDirective.parse?).map ofDirectives

/-- Whether an event passes. -/
def passes (filter : LogFilter) (event : LogEvent) : Bool :=
  match filter.rules.find? (·.covers event) with
  | some rule => rule.level.allows event.level
  | none => false

end LogFilter

end LedgerClient
