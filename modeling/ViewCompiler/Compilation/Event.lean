import ViewCompiler.Hook

/-!
# Events

A compilation is seen from outside as a list of events: it logs a record, or it
reaches a point that hooks watch.  Hooks are observers of that list.  Nothing
that they do goes back into it, but a hook that raises what is not caught cuts
it off.
-/

namespace ViewCompiler

inductive Event where
  | logged (record : LogRecord)
  | reached (point : HookPoint) (payload : Payload)

def Event.ofLog (log : Log) : List Event :=
  log.map logged

/-- What observing events leaves: the hooks, their calls, all records with those
of failing hooks between them, and what cut the events off. -/
structure Observation where
  hooks : Hooks
  calls : List HookCall := []
  log : Log := []
  ended : Option Raised := none

namespace Hooks

/-- Run the hooks of every point that is reached. -/
def observe : Hooks → List Event → Observation
  | hooks, [] => { hooks }
  | hooks, .logged record :: rest =>
    let others := observe hooks rest
    { others with log := record :: others.log }
  | hooks, .reached point payload :: rest =>
    let execution := hooks.execute point payload
    let others :=
      if execution.ended.isSome then
        { hooks := execution.hooks, ended := execution.ended }
      else observe execution.hooks rest
    { others with
      calls := execution.calls ++ others.calls
      log := execution.log ++ others.log }

end Hooks

end ViewCompiler
