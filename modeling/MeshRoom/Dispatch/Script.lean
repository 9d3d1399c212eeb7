import MeshRoom.Dispatch

/-!
# Scripted handlers

Handlers that are laid down as data. Each logs its calls under a label, and then succeeds, fails, or
registers another one.
-/

namespace MeshRoom

open Json

/-- What a scripted handler does after logging its call. -/
inductive ScriptStep where
  | succeed
  | fail (message : String)
  | spawn (task : String)
deriving DecidableEq, Repr

/-- A handler laid down as data. -/
structure Script where
  label : String
  step : ScriptStep := .succeed
deriving DecidableEq, Repr

/-- An entry of the log: a handler was called, or a module began or finished initialising. -/
inductive LogEntry where
  | called (label : String) (parameters : Value)
  | began (label : String)
  | finished (label : String)
deriving DecidableEq

namespace Script

/-- The handler that a script registers, which only logs. -/
def offspring (s : Script) : Script := { label := s.label ++ "+" }

/-- What a script answers. -/
def reply (s : Script) : Reply Script :=
  match s.step with
  | .succeed => {}
  | .fail message => { result := .error (.refusal message) }
  | .spawn task => { registers := [(task, s.offspring)] }

/-- Run a script. -/
def run (s : Script) (parameters : Value) (log : List LogEntry) : Reply Script × List LogEntry :=
  (s.reply, log ++ [.called s.label parameters])

end Script

end MeshRoom
