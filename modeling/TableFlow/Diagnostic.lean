import TableFlow.Location

namespace TableFlow

inductive Severity where
  | error
  | warning
  | info
  | hint
deriving DecidableEq

def Severity.text : Severity → String
  | .error => "error"
  | .warning => "warning"
  | .info => "info"
  | .hint => "hint"

-- Tells gaps in what can be evaluated apart from faults in the data.
inductive DiagnosticCode where
  | arithmetic
  | unsupported
  | typeMismatch
  | invalidLiteral
  | missingVariable
  | other
deriving DecidableEq

def DiagnosticCode.text : DiagnosticCode → String
  | .arithmetic => "arithmetic"
  | .unsupported => "unsupported"
  | .typeMismatch => "type_mismatch"
  | .invalidLiteral => "invalid_literal"
  | .missingVariable => "missing_variable"
  | .other => "other"

-- A node of the program, or a property of it, or an element of that property.
structure Anchor where
  node : String
  location : Location
  property : Option String
  index : Option Nat
deriving DecidableEq

namespace Anchor

def ofNode (node : String) (location : Location) : Anchor := ⟨node, location, none, none⟩

def text (a : Anchor) : String :=
  a.node ++ " (" ++ a.location.text ++ ")" ++
    (match a.property with | some property => ", property `" ++ property ++ "`" | none => "") ++
    (match a.index with | some index => "[" ++ toString index ++ "]" | none => "")

end Anchor

structure Diagnostic where
  severity : Severity
  code : DiagnosticCode
  message : String
  anchor : Anchor
deriving DecidableEq

namespace Diagnostic

def error (code : DiagnosticCode) (message : String) (anchor : Anchor) : Diagnostic :=
  ⟨.error, code, message, anchor⟩

def text (d : Diagnostic) : String :=
  d.severity.text ++ "[" ++ d.code.text ++ "]: " ++ d.message ++ " at " ++ d.anchor.text

def isError (d : Diagnostic) : Bool := d.severity = .error

def errors (ds : List Diagnostic) : List Diagnostic := ds.filter isError

def hasErrors (ds : List Diagnostic) : Bool := ds.any isError

def hasCode (ds : List Diagnostic) (code : DiagnosticCode) : Bool := ds.any (·.code = code)

end Diagnostic

end TableFlow
