import Transclude.Failure

/-!
A run of the pipeline: a log of what happened and, at its end, a result or a failure. The log of a
failed run ends where the failure occurred. A run that notes an overflow stops there, with neither;
its outcome is what it would have been with room for texts of any length.
-/

namespace Transclude

/-- The stages that a run passes through; they nest. -/
inductive Span where
  | processFile
  | processText
  | parse
  | applyRules
  | rule (name : String)
  deriving DecidableEq, Repr, Inhabited

def Span.name : Span → String
  | processFile => "process_file"
  | processText => "process_str"
  | parse => "parse"
  | applyRules => "apply_rules"
  | rule name => name

/-- What a run takes note of. -/
inductive Note where
  | opened (path : Path)
  | settingsFile (path : Path)
  | processing
  | rawParameter (value : String)
  | fileBlock (file : String) (target : Path) (skip : Option Nat)
  | regionBlock (file : String) (target : Path) (name : String) (skip : Option Nat)
  | region (name : String)
  | indentStep (step : Nat)
  /-- A text was asked for that is longer than a text can be. -/
  | overflow
  deriving DecidableEq, Repr, Inhabited

/-- A note with the stages in which it was taken, the outermost first. -/
structure LogEntry where
  spans : List Span
  note : Note
  deriving DecidableEq, Repr, Inhabited

structure Run (α : Type) where
  log : List LogEntry
  outcome : Except Failure α

namespace Run

variable {α β : Type}

instance : Monad Run where
  pure value := ⟨[], .ok value⟩
  bind run next :=
    match run.outcome with
    | .error failure => ⟨run.log, .error failure⟩
    | .ok value =>
      let after := next value
      ⟨run.log ++ after.log, after.outcome⟩

def fail (failure : Failure) : Run α := ⟨[], .error failure⟩

def note (note : Note) : Run Unit := ⟨[⟨[], note⟩], .ok ()⟩

/-- A step that takes no notes. -/
def ofExcept (outcome : Except Failure α) : Run α := ⟨[], outcome⟩

/-- A run as a stage of another. -/
def within (span : Span) (run : Run α) : Run α :=
  { run with log := run.log.map fun entry => { entry with spans := span :: entry.spans } }

def opened (run : Run α) : List Path :=
  run.log.filterMap fun entry =>
    match entry.note with
    | .opened path => some path
    | _ => none

def overflows (run : Run α) : Bool := run.log.any fun entry => entry.note = .overflow

/-- The outcome of a run that is not stopped by an overflow. -/
def result? (run : Run α) : Option (Except Failure α) :=
  if run.overflows then none else some run.outcome

end Run

end Transclude
