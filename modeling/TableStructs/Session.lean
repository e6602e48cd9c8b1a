import TableStructs.Tool

/-!
Sessions: steps one after the other on one workspace. A step that fails leaves what it did, and the
next one still runs.
-/
namespace TableStructs.Session

/-- What can be done in a session. -/
inductive Step
  | write (path : Text) (bytes : List UInt8)
  | makeDirectory (path : Text)
  | read (path : Text)
  /-- Replaces the environment; remembered settings stay. -/
  | setEnvironment (env : Environment)
  | forgetSettings
  | call (tool : Text) (arguments : Json.Members)
  | convertFile (input output : Json.Value) (tagged : Bool)

/-- What a step gives. -/
inductive Answer
  | done
  | content (entry : Option Entry)
  | reply (r : Reply)
  | source (go : Text)

/-- Runs a step. -/
def Step.run (c : Converter) : Step → Action Answer
  | write path bytes => do
    Action.writeBytes path bytes
    return .done
  | makeDirectory path => do
    let path ← Action.usablePath path
    let files ← Action.ofFiles ((← get).files.makeDirectory path)
    modify fun w => { w with files }
    return .done
  | read path => return .content ((← get).files.look path)
  | setEnvironment env => do
    modify fun w => { w with environment := env }
    return .done
  | forgetSettings => do
    Action.forgetSettings
    return .done
  | call tool arguments => return .reply (← Tool.call c tool arguments)
  | convertFile input output tagged => return .source (← c.convertFile input output tagged)

/-- What a step came to, and what it logged. -/
structure Outcome (α : Type) where
  result : Except Failure α
  log : List Log.Record

/-- Runs an action on a workspace with an empty log. -/
def observe {α : Type} (a : Action α) (w : Workspace) : Outcome α × Workspace :=
  match a.run { w with log := [] } with
  | .ok result w => ({ result := .ok result, log := w.log }, w)
  | .error e w => ({ result := .error e, log := w.log }, w)

/-- The outcomes of steps, and the workspace that they leave. -/
def run (c : Converter) (w : Workspace) : List Step → List (Outcome Answer) × Workspace
  | [] => ([], w)
  | step :: rest =>
    let (outcome, w) := observe (step.run c) w
    let (outcomes, w) := run c w rest
    (outcome :: outcomes, w)

/-- Steps are run from the workspace that those before them leave. -/
theorem run_append (c : Converter) (w : Workspace) (a b : List Step) :
    run c w (a ++ b) =
      ((run c w a).1 ++ (run c (run c w a).2 b).1, (run c (run c w a).2 b).2) := by
  induction a generalizing w with
  | nil => rfl
  | cons step rest ih => simp [run, ih]

end TableStructs.Session
