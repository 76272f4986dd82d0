import ViewCompiler.Hook
import Mathlib.Data.List.Induction

/-!
# The hooks of a manager over time

Hooks are registered, by themselves or as the methods of a plugin, they are
cleared, and they are run.  A hook that runs may register further hooks, itself
included, and clear all of them, those that are still to run at the same point
included.

The ledger of a manager lists what has changed: every registration that went
through, and every clearing, also those made by hooks that were run.  What a hook
changes, how it leaves the payload and how it ends is its own affair and does
not depend on what is registered.  So the ledger can be kept without the manager,
and the hooks of a point are always those of the ledger since its last clearing.

Three things can go wrong.  An attempt that is refused changes nothing.  A plugin
with an attribute that raises has registered those before it.  A hook that raises
what is not caught ends the run, and the hooks after it are not called.
-/

namespace ViewCompiler

/-- A change of the registered hooks. -/
inductive Change where
  | added (point : HookPoint) (hook : Hook)
  | cleared

namespace Change

def isCleared : Change → Bool
  | added _ _ => false
  | cleared => true

/-- The hook that a change adds at a point. -/
def hookAt? (point : HookPoint) : Change → Option Hook
  | added target hook => if target = point then some hook else none
  | cleared => none

/-- The change that an attempt to register a hook amounts to. -/
def ofAttempt (value : Value) (hook : Hook) : Except HookError Change :=
  match hook.inertType?, HookPoint.ofValue? value with
  | some type, _ => .error (.notCallable value type)
  | none, none => .error (.unknownPoint value)
  | none, some point => .ok (.added point hook)

/-- The change that the attribute for a point amounts to: it is added if it is
there and can be called. -/
def ofAttribute? (attributes : Entries Hooks.Attribute) (point : HookPoint) :
    Option Change :=
  match Entries.get? attributes point.name with
  | some (.ok hook) =>
    if hook.inertType? = none then some (.added point hook) else none
  | _ => none

/-- The changes after the last clearing. -/
def sinceCleared (changes : List Change) : List Change :=
  (changes.reverse.takeWhile fun change => !change.isCleared).reverse

/-- The hooks that were added at a point since the last clearing. -/
def standing (changes : List Change) (point : HookPoint) : List Hook :=
  (sinceCleared changes).filterMap (hookAt? point)

end Change

/-- What a hook does when it is called: what it changes, the payload that it
leaves, and how it ends. -/
structure Conduct where
  changes : List Change := []
  payload : Payload
  outcome : Hooks.Outcome

namespace Conduct

def escaped? (conduct : Conduct) : Option Raised :=
  match conduct.outcome with
  | .escaped raised => some raised
  | _ => none

def answer? (conduct : Conduct) : Option Datum :=
  match conduct.outcome with
  | .answered datum => some datum
  | _ => none

def reason? (conduct : Conduct) : Option String :=
  match conduct.outcome with
  | .failed reason => some reason
  | _ => none

end Conduct

def HookAction.conduct : HookAction → Payload → Conduct
  | .answer datum, payload => { payload, outcome := .answered datum }
  | .fail reason, payload => { payload, outcome := .failed reason }
  | .escape raised, payload => { payload, outcome := .escaped raised }
  | .read next, payload => (next payload).conduct payload
  | .set key datum next, payload => next.conduct (Entries.set payload key datum)
  | .register point hook refused next, payload =>
    match Change.ofAttempt point hook with
    | .error error => (refused error).conduct payload
    | .ok change =>
      let rest := next.conduct payload
      { rest with changes := change :: rest.changes }
  | .clear next, payload =>
    let rest := next.conduct payload
    { rest with changes := .cleared :: rest.changes }

section Conduct

variable (functions : String → HookFunction)

def Hook.conduct : Hook → Payload → Conduct
  | .inert _, payload => { payload, outcome := .answered (.value .null) }
  | .function name, payload => (functions name).action.conduct payload

/-- The calls of hooks in order, each with the payload that it is handed: the
first one gets the given payload, and every other one what the one before has
left.  A hook that raises what is not caught is the last one. -/
def handed : List Hook → Payload → List (Hook × Payload)
  | [], _ => []
  | hook :: rest, payload =>
    let conduct := hook.conduct functions payload
    (hook, payload) ::
      if conduct.escaped?.isSome then [] else handed rest conduct.payload

def leftPayload : List Hook → Payload → Payload
  | [], payload => payload
  | hook :: rest, payload =>
    let conduct := hook.conduct functions payload
    if conduct.escaped?.isSome then conduct.payload
    else leftPayload rest conduct.payload

/-- What ends the calls before their time. -/
def endedBy? (hooks : List Hook) (payload : Payload) : Option Raised :=
  (handed functions hooks payload).findSome? fun call =>
    (call.1.conduct functions call.2).escaped?

theorem map_fst_handed_isPrefix (hooks : List Hook) (payload : Payload) :
    (handed functions hooks payload).map Prod.fst <+: hooks := by
  induction hooks generalizing payload with
  | nil => exact List.prefix_refl _
  | cons hook rest ih =>
      rw [handed, List.map_cons, List.cons_prefix_cons]
      refine ⟨rfl, ?_⟩
      split
      · exact List.nil_prefix
      · exact ih _

variable {functions}

theorem map_fst_handed {hooks : List Hook} {payload : Payload}
    (hended : endedBy? functions hooks payload = none) :
    (handed functions hooks payload).map Prod.fst = hooks := by
  induction hooks generalizing payload with
  | nil => rfl
  | cons hook rest ih =>
      rw [endedBy?, handed, List.findSome?_cons] at hended
      rw [handed, List.map_cons]
      cases hescaped : (hook.conduct functions payload).escaped? with
      | some raised => simp [hescaped] at hended
      | none =>
          simp only [hescaped, Option.isSome_none, Bool.false_eq_true,
            if_false] at hended ⊢
          rw [ih hended]

/-- What ends the calls is raised by the last of them. -/
theorem exists_last_of_endedBy? {hooks : List Hook} {payload : Payload}
    {raised : Raised}
    (hended : endedBy? functions hooks payload = some raised) :
    ∃ before last, handed functions hooks payload = before ++ [last] ∧
      (∀ call ∈ before, (call.1.conduct functions call.2).escaped? = none) ∧
      (last.1.conduct functions last.2).escaped? = some raised := by
  induction hooks generalizing payload with
  | nil => contradiction
  | cons hook rest ih =>
      rw [endedBy?, handed, List.findSome?_cons] at hended
      rw [handed]
      cases hescaped : (hook.conduct functions payload).escaped? with
      | some other =>
          simp only [hescaped, Option.some.injEq] at hended
          obtain rfl := hended
          exact ⟨[], (hook, payload), by simp, by simp, hescaped⟩
      | none =>
          simp only [hescaped, Option.isSome_none, Bool.false_eq_true,
            if_false] at hended ⊢
          obtain ⟨before, last, hcalls, hbefore, hlast⟩ := ih hended
          rw [hcalls]
          exact ⟨(hook, payload) :: before, last, rfl,
            List.forall_mem_cons.mpr ⟨hescaped, hbefore⟩, hlast⟩

end Conduct

namespace Hooks

def change (hooks : Hooks) : Change → Hooks
  | .added point hook => hooks.add point hook
  | .cleared => hooks.clear

def changeAll (hooks : Hooks) (changes : List Change) : Hooks :=
  changes.foldl change hooks

theorem changeAll_append (hooks : Hooks) (first second : List Change) :
    hooks.changeAll (first ++ second) =
      (hooks.changeAll first).changeAll second :=
  List.foldl_append

/-- What functions do is not changed by what is registered. -/
@[simp] theorem functions_changeAll (hooks : Hooks) (changes : List Change) :
    (hooks.changeAll changes).functions = hooks.functions := by
  induction changes generalizing hooks with
  | nil => rfl
  | cons change rest ih =>
      have hstep : (hooks.change change).functions = hooks.functions := by
        cases change <;> rfl
      exact (ih (hooks.change change)).trans hstep

/-! ## What calls change -/

theorem register_eq (hooks : Hooks) (value : Value) (hook : Hook) :
    hooks.register value hook =
      (Change.ofAttempt value hook).map hooks.change := by
  unfold register Change.ofAttempt point
  cases hook.inertType? with
  | some type => rfl
  | none =>
      cases HookPoint.ofValue? value with
      | none => rfl
      | some point => rfl

theorem act_eq (action : HookAction) (hooks : Hooks) (payload : Payload) :
    act action hooks payload =
      { hooks := hooks.changeAll (action.conduct payload).changes
        payload := (action.conduct payload).payload
        outcome := (action.conduct payload).outcome } := by
  induction action generalizing hooks payload with
  | answer datum => rfl
  | fail reason => rfl
  | escape raised => rfl
  | read next ih =>
      -- A hook reads the payload only, so it acts alike with any hooks registered.
      rw [act, HookAction.conduct]
      exact ih payload hooks payload
  | set key datum next ih =>
      rw [act, HookAction.conduct]
      exact ih hooks (Entries.set payload key datum)
  | register point hook refused next ihrefused ih =>
      rw [act, HookAction.conduct, register_eq]
      cases Change.ofAttempt point hook with
      | error error => exact ihrefused error hooks payload
      | ok change => exact ih (hooks.change change) payload
  | clear next ih =>
      rw [act, HookAction.conduct]
      exact ih hooks.clear payload

theorem call_eq (hooks : Hooks) (payload : Payload) (hook : Hook) :
    call hooks payload hook =
      let conduct := hook.conduct hooks.functions payload
      { hooks := hooks.changeAll conduct.changes
        payload := conduct.payload
        outcome := conduct.outcome } := by
  cases hook with
  | inert value => rfl
  | function name => exact act_eq (hooks.functions name).action hooks payload

/-- The record of a call that failed, if it did. -/
def callRecord? (functions : String → HookFunction) (point : HookPoint)
    (call : Hook × Payload) : Option LogRecord :=
  (call.1.conduct functions call.2).reason?.map (failureRecord point)

/-- The hooks of a list are called whatever those before them have registered or
cleared, up to one that raises what is not caught. -/
theorem callAll_eq (point : HookPoint) (list : List Hook) (hooks : Hooks)
    (payload : Payload) :
    callAll point list hooks payload =
      let calls := handed hooks.functions list payload
      { hooks := hooks.changeAll (calls.flatMap
          fun call => (call.1.conduct hooks.functions call.2).changes)
        payload := leftPayload hooks.functions list payload
        answers := calls.filterMap
          fun call => (call.1.conduct hooks.functions call.2).answer?
        calls := calls.flatMap fun call => hooks.noted call.1 call.2
        log := calls.filterMap (callRecord? hooks.functions point)
        ended := endedBy? hooks.functions list payload } := by
  induction list generalizing hooks payload with
  | nil => rfl
  | cons hook rest ih =>
      have hnoted : ∀ changes, (hooks.changeAll changes).noted =
          hooks.noted := by
        intro changes
        funext hook payload
        cases hook with
        | inert value => rfl
        | function name => simp only [noted, functions_changeAll]
      rw [callAll, call_eq, ih]
      simp only [handed, leftPayload, endedBy?, functions_changeAll, hnoted,
        List.flatMap_cons, List.filterMap_cons, List.findSome?_cons,
        changeAll_append]
      have hrecord : callRecord? hooks.functions point (hook, payload) =
          (hook.conduct hooks.functions payload).reason?.map
            (failureRecord point) := rfl
      rw [hrecord]
      cases hook.conduct hooks.functions payload with
      | mk changes left outcome =>
          cases outcome with
          | answered datum => rfl
          | failed reason => rfl
          | escaped raised =>
              simp [Conduct.escaped?, Conduct.answer?, Conduct.reason?,
                changeAll]

theorem functions_execute (hooks : Hooks) (point : HookPoint)
    (payload : Payload) :
    (hooks.execute point payload).hooks.functions = hooks.functions := by
  rw [execute, callAll_eq]
  exact functions_changeAll hooks _

/-- No function raises what is not caught, whatever it is handed. -/
def Tame (hooks : Hooks) : Prop :=
  ∀ name payload,
    ((hooks.functions name).action.conduct payload).escaped? = none

theorem tame_empty : Tame {} := fun _ _ => rfl

theorem exists_escape_of_execute {hooks : Hooks} {point : HookPoint}
    {payload : Payload} {raised : Raised}
    (hended : (hooks.execute point payload).ended = some raised) :
    ∃ name payload,
      ((hooks.functions name).action.conduct payload).escaped? =
        some raised := by
  rw [execute, callAll_eq] at hended
  obtain ⟨others, ⟨hook, left⟩, hcalls, hothers, hlast⟩ :=
    exists_last_of_endedBy? hended
  cases hook with
  | inert value => contradiction
  | function name => exact ⟨name, left, hlast⟩

end Hooks

/-! ## The hooks that a ledger leaves -/

namespace Change

theorem standing_append_added (changes : List Change) (added : HookPoint)
    (hook : Hook) (point : HookPoint) :
    standing (changes ++ [.added added hook]) point =
      standing changes point ++ if added = point then [hook] else [] := by
  have hsince : sinceCleared (changes ++ [.added added hook]) =
      sinceCleared changes ++ [.added added hook] := by
    simp [sinceCleared, isCleared]
  rw [standing, hsince, List.filterMap_append]
  by_cases hpoint : added = point
  · simp [standing, hookAt?, hpoint]
  · simp [standing, hookAt?, hpoint]

theorem standing_append_cleared (changes : List Change) (point : HookPoint) :
    standing (changes ++ [.cleared]) point = [] := by
  simp [standing, sinceCleared, isCleared]

end Change

namespace Hooks

theorem hooksAt_add (hooks : Hooks) (added : HookPoint) (hook : Hook)
    (point : HookPoint) :
    (hooks.add added hook).hooksAt point =
      hooks.hooksAt point ++ if added = point then [hook] else [] := by
  by_cases hpoint : added = point
  · simp [hooksAt, add, hpoint]
  · simp [hooksAt, add, hpoint]

/-- The hooks of a new manager after changes. -/
theorem hooksAt_changeAll (functions : String → HookFunction)
    (changes : List Change) (point : HookPoint) :
    (changeAll { functions } changes).hooksAt point =
      Change.standing changes point := by
  induction changes using List.reverseRecOn with
  | nil => rfl
  | append_singleton changes change ih =>
      rw [changeAll_append]
      cases change with
      | added added hook =>
          rw [Change.standing_append_added, ← ih]
          exact hooksAt_add _ added hook point
      | cleared =>
          rw [Change.standing_append_cleared]
          rfl

/-- What reading the attribute for a point raises. -/
def raisedBy? (attributes : Entries Attribute) (point : HookPoint) :
    Option Raised :=
  match Entries.get? attributes point.name with
  | some (.error raised) => some raised
  | _ => none

/-- The points before the first one whose attribute raises. -/
def readPoints (attributes : Entries Attribute) (points : List HookPoint) :
    List HookPoint :=
  points.takeWhile fun point => (raisedBy? attributes point).isNone

theorem readPoints_cons (attributes : Entries Attribute) (point : HookPoint)
    (rest : List HookPoint) :
    readPoints attributes (point :: rest) =
      if (raisedBy? attributes point).isNone then
        point :: readPoints attributes rest
      else [] :=
  List.takeWhile_cons

theorem registerPoints_eq (attributes : Entries Attribute)
    (points : List HookPoint) (hooks : Hooks) (count : Nat) :
    let changes := (readPoints attributes points).filterMap
      (Change.ofAttribute? attributes)
    (registerPoints attributes points hooks count).1 =
        hooks.changeAll changes ∧
      (registerPoints attributes points hooks count).2 =
        (points.findSome? (raisedBy? attributes)).elim
          (.ok (count + changes.length)) .error := by
  induction points generalizing hooks count with
  | nil => exact ⟨rfl, rfl⟩
  | cons point rest ih =>
      rw [registerPoints]
      simp only [readPoints_cons, List.findSome?_cons]
      cases hgiven : Entries.get? attributes point.name with
      | none =>
          have hraised : raisedBy? attributes point = none := by
            rw [raisedBy?, hgiven]
          have hchange : Change.ofAttribute? attributes point = none := by
            rw [Change.ofAttribute?, hgiven]
          simpa [hraised, hchange, List.filterMap_cons] using ih hooks count
      | some given =>
          cases given with
          | error raised =>
              have hraised : raisedBy? attributes point = some raised := by
                rw [raisedBy?, hgiven]
              simp [hraised, changeAll]
          | ok hook =>
              have hraised : raisedBy? attributes point = none := by
                rw [raisedBy?, hgiven]
              cases htype : hook.inertType? with
              | none =>
                  have hchange : Change.ofAttribute? attributes point =
                      some (.added point hook) := by
                    simp [Change.ofAttribute?, hgiven, htype]
                  obtain ⟨hhooks, hcount⟩ :=
                    ih (hooks.add point hook) (count + 1)
                  rw [Nat.add_right_comm, Nat.add_assoc] at hcount
                  simp only [htype, hraised, hchange, List.filterMap_cons,
                    Option.isNone_none, if_true, List.length_cons]
                  exact ⟨hhooks, hcount⟩
              | some type =>
                  have hchange : Change.ofAttribute? attributes point =
                      none := by
                    simp [Change.ofAttribute?, hgiven, htype]
                  simpa [htype, hraised, hchange, List.filterMap_cons] using
                    ih hooks count

/-! ## Operations -/

inductive Operation where
  | register (point : Value) (hook : Hook)
  | plugin (attributes : Entries Attribute)
  | clear
  | execute (point : Value) (payload : Payload)

/-- Why an operation does not end well. -/
inductive Trouble where
  | refused (error : HookError)
  | raised (raised : Raised)

/-- The hooks after an operation, and what is wrong with it. -/
def attempt (hooks : Hooks) : Operation → Hooks × Option Trouble
  | .register point hook =>
    match hooks.register point hook with
    | .ok registered => (registered, none)
    | .error error => (hooks, some (.refused error))
  | .plugin attributes =>
    match hooks.registerPlugin attributes with
    | (registered, .ok _) => (registered, none)
    | (registered, .error raised) => (registered, some (.raised raised))
  | .clear => (hooks.clear, none)
  | .execute value payload =>
    match point value with
    | .ok point =>
      let execution := hooks.execute point payload
      (execution.hooks, execution.ended.map .raised)
    | .error error => (hooks, some (.refused error))

section Ledger

variable (functions : String → HookFunction)

/-- The hooks after operations on a new manager, those that went wrong
included. -/
def perform (operations : List Operation) : Hooks :=
  operations.foldl (fun hooks operation => (hooks.attempt operation).1)
    { functions }

namespace Operation

/-- The changes that an operation adds to a ledger, and what is wrong with it. -/
def effect (ledger : List Change) : Operation → List Change × Option Trouble
  | register value hook =>
    match Change.ofAttempt value hook with
    | .ok change => ([change], none)
    | .error error => ([], some (.refused error))
  | plugin attributes =>
    ((readPoints attributes HookPoint.all).filterMap
        (Change.ofAttribute? attributes),
      (HookPoint.all.findSome? (raisedBy? attributes)).map .raised)
  | clear => ([.cleared], none)
  | execute value payload =>
    match point value with
    | .ok point =>
      let hooks := Change.standing ledger point
      ((handed functions hooks payload).flatMap
          fun call => (call.1.conduct functions call.2).changes,
        (endedBy? functions hooks payload).map .raised)
    | .error error => ([], some (.refused error))

def ledger (operations : List Operation) : List Change :=
  operations.foldl
    (fun ledger operation => ledger ++ (operation.effect functions ledger).1) []

end Operation

/-- An operation changes the manager as it changes the ledger, and the same is
wrong with it. -/
theorem attempt_changeAll (ledger : List Change) (operation : Operation) :
    (changeAll { functions } ledger).attempt operation =
      (changeAll { functions }
          (ledger ++ (operation.effect functions ledger).1),
        (operation.effect functions ledger).2) := by
  cases operation with
  | register value hook =>
      rw [attempt, Operation.effect, register_eq]
      cases Change.ofAttempt value hook with
      | error error => simp [Except.map]
      | ok change => simp [Except.map, changeAll]
  | plugin attributes =>
      obtain ⟨hhooks, hcount⟩ := registerPoints_eq attributes HookPoint.all
        (changeAll { functions } ledger) 0
      rw [attempt, Operation.effect, changeAll_append, ← hhooks, registerPlugin]
      cases hraised : HookPoint.all.findSome? (raisedBy? attributes) with
      | none =>
          rw [hraised] at hcount
          rw [← Prod.eta (registerPoints _ _ _ _), hcount]
          rfl
      | some raised =>
          rw [hraised] at hcount
          rw [← Prod.eta (registerPoints _ _ _ _), hcount]
          rfl
  | clear =>
      rw [attempt, Operation.effect, changeAll_append]
      rfl
  | execute value payload =>
      rw [attempt, Operation.effect]
      cases point value with
      | error error => simp
      | ok point =>
          simp only [execute, callAll_eq, hooksAt_changeAll,
            functions_changeAll, changeAll_append]

theorem perform_append_singleton (operations : List Operation)
    (operation : Operation) :
    perform functions (operations ++ [operation]) =
      ((perform functions operations).attempt operation).1 := by
  simp [perform]

theorem ledger_append_singleton (operations : List Operation)
    (operation : Operation) :
    Operation.ledger functions (operations ++ [operation]) =
      Operation.ledger functions operations ++
        (operation.effect functions
          (Operation.ledger functions operations)).1 := by
  simp [Operation.ledger]

/-- The manager is at every time what its ledger leaves of a new one. -/
theorem perform_eq_changeAll (operations : List Operation) :
    perform functions operations =
      changeAll { functions } (Operation.ledger functions operations) := by
  induction operations using List.reverseRecOn with
  | nil => rfl
  | append_singleton operations operation ih =>
      rw [perform_append_singleton, ledger_append_singleton, ih,
        attempt_changeAll]

/-- An operation that is refused changes nothing. -/
theorem effect_fst_of_refused {ledger : List Change} {operation : Operation}
    {error : HookError}
    (hrefused : (operation.effect functions ledger).2 =
      some (.refused error)) :
    (operation.effect functions ledger).1 = [] := by
  cases operation with
  | register value hook =>
      rw [Operation.effect] at hrefused ⊢
      cases hattempt : Change.ofAttempt value hook with
      | error error => rfl
      | ok change => simp [hattempt] at hrefused
  | plugin attributes =>
      rw [Operation.effect] at hrefused
      cases hraised : HookPoint.all.findSome? (raisedBy? attributes) with
      | none => simp [hraised] at hrefused
      | some raised => simp [hraised] at hrefused
  | clear => simp [Operation.effect] at hrefused
  | execute value payload =>
      rw [Operation.effect] at hrefused ⊢
      cases hpoint : point value with
      | error error => rfl
      | ok point => simp [hpoint] at hrefused

end Ledger

/-- A hook that clears all hooks, registers itself again and fails does not keep
the next one from being called; one that raises what is not caught does. -/
example :
    let point : Value := .text "after_output"
    let functions : String → HookFunction := fun name =>
      { id := .text name
        action :=
          if name = "saboteur" then
            .clear (.register point (.function "saboteur")
              (fun _ => .fail "refused") (.fail "cleared"))
          else if name = "exit" then .escape ⟨"SystemExit", "3"⟩
          else .set "seen" (.text "yes") (.answer (.text "done")) }
    let hooks := perform functions
      [.register point (.function "saboteur"),
        .register (.text "before_output") (.function "saboteur"),
        .register point (.inert (.int 5)),
        .plugin [("after_output", .ok (.function "watcher"))],
        .register point (.function "exit"),
        .register point (.function "late")]
    let execution := hooks.execute .afterOutput []
    execution.calls.map (fun call => call.id.display) =
        ["saboteur", "watcher", "exit"] ∧
      execution.answers.map (fun answer => answer.summary.display) =
        ["done"] ∧
      execution.ended = some ⟨"SystemExit", "3"⟩ ∧
      (execution.hooks.hooksAt .afterOutput).map
          (fun hook => (execution.hooks.idOf hook).display) =
        ["saboteur"] := by
  decide +kernel

end Hooks
end ViewCompiler
