import LedgerClient.Text.Quoted

/-! # Values in diagnostics

A diagnostic shows a value by the name of its form and by its parts, which either
all have labels or all have none.
-/

namespace LedgerClient

/-- A part of a value, as text. -/
structure DiagnosticPart where
  /-- Empty for a part that is known by its place. -/
  label : String
  shown : String

/-- A value as its form and parts. -/
structure Diagnostic where
  form : String
  parts : List DiagnosticPart

namespace Diagnostic

/-- A form with no parts. -/
def plain (form : String) : Diagnostic := ⟨form, []⟩

/-- A form with one part that has no label. -/
def wrap (form shown : String) : Diagnostic := ⟨form, [⟨"", shown⟩]⟩

/-- A form with one part without a label, which is a number. -/
def number (form : String) (n : Nat) : Diagnostic := wrap form (toString n)

/-- A form with one part without a label, which is a text. -/
def text (form content : String) : Diagnostic := wrap form (Quoted.text content)

/-- One line for a value. -/
def render (diagnostic : Diagnostic) : String :=
  match diagnostic.parts with
  | [] => diagnostic.form
  | first :: rest =>
    let write := fun part : DiagnosticPart =>
      if part.label = "" then part.shown else part.label ++ ": " ++ part.shown
    let parts := ", ".intercalate ((first :: rest).map write)
    if first.label = "" then diagnostic.form ++ "(" ++ parts ++ ")"
    else diagnostic.form ++ " \x7b " ++ parts ++ " \x7d"

end Diagnostic

end LedgerClient
