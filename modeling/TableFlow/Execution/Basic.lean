import TableFlow.Evaluation.Property
import TableFlow.Execution.Error

namespace TableFlow

inductive LogLevel where
  | debug
  | info
  | warning
  | error
deriving DecidableEq

def LogLevel.name : LogLevel → String
  | .debug => "debug"
  | .info => "info"
  | .warning => "warn"
  | .error => "error"

-- Where in an execution something is logged: the node and how deep it is nested.
structure Logger where
  context : String
  depth : Nat
deriving DecidableEq

structure LogEntry where
  level : LogLevel
  logger : Logger
  message : String
  anchor : Option Anchor
deriving DecidableEq

namespace Logger

def debug (l : Logger) (message : String) : LogEntry := ⟨.debug, l, message, none⟩

def info (l : Logger) (message : String) : LogEntry := ⟨.info, l, message, none⟩

def error (l : Logger) (message : String) : LogEntry := ⟨.error, l, message, none⟩

def errorAt (l : Logger) (message : String) (anchor : Anchor) : LogEntry :=
  ⟨.error, l, message, some anchor⟩

end Logger

structure Execution (α : Type) where
  log : List LogEntry
  result : Except Failure α

namespace Execution

variable {α β γ : Type}

protected def pure (a : α) : Execution α := ⟨[], .ok a⟩

protected def bind (x : Execution α) (f : α → Execution β) : Execution β :=
  match x.result with
  | .ok a => ⟨x.log ++ (f a).log, (f a).result⟩
  | .error failure => ⟨x.log, .error failure⟩

instance : Monad Execution where
  pure := Execution.pure
  bind := Execution.bind

theorem pure_bind (a : α) (f : α → Execution β) : (pure a : Execution α) >>= f = f a := by
  show Execution.bind (Execution.pure a) f = f a
  simp [Execution.bind, Execution.pure]

theorem bind_pure (x : Execution α) : x >>= pure = x := by
  show Execution.bind x Execution.pure = x
  obtain ⟨log, result⟩ := x
  cases result <;> simp [Execution.bind, Execution.pure]

theorem bind_assoc (x : Execution α) (f : α → Execution β) (g : β → Execution γ) :
    x >>= f >>= g = x >>= fun a => f a >>= g := by
  show Execution.bind (Execution.bind x f) g = Execution.bind x fun a => Execution.bind (f a) g
  obtain ⟨log, result⟩ := x
  cases result with
  | error failure => rfl
  | ok a =>
    simp only [Execution.bind]
    cases (f a).result <;> simp [List.append_assoc]

instance : LawfulMonad Execution :=
  LawfulMonad.mk' Execution (fun x => bind_pure x) pure_bind bind_assoc

def write (entries : List LogEntry) : Execution Unit := ⟨entries, .ok ()⟩

def fail (error : ExecutionError) : Execution α := ⟨[], .error (.error error)⟩

def violate (violation : Violation) : Execution α := ⟨[], .error (.violation violation)⟩

def ofTable : Except TableError α → Execution α
  | .ok a => pure a
  | .error error => fail (.table error)

def ofFormula : Except FormulaError α → Execution α
  | .ok a => pure a
  | .error error => fail (.formula error)

-- Logs the diagnostics of an outcome and goes on with its value.
def ofOutcome (logger : Logger) (outcome : Outcome α) : Execution (Option α) :=
  ⟨outcome.diagnostics.map fun d => logger.debug d.text, .ok outcome.value⟩

end Execution

end TableFlow
