/-
  ReviewRota — sessions.

  A session is a desk over time: its clock, its store and the draws to come.
  Steps follow each other.  A step may first move the clock, replace the draws,
  give itself another deadline or have one call to the store go wrong; then it
  does one action.

  * `Action` is what a step does, `Reply` what that yields, and `Site` what does
    not change from step to step;
  * `Session` is the state between two steps, `Cue` what a step arranges first;
  * `Session.act` does an action as a step: it gives the outcome, the scene that
    the action left, and the next state.
-/
import ReviewRota.Command.Run
import ReviewRota.Store.Access

namespace ReviewRota

/-! ## Actions -/

/-- What a step does: it lets time pass; it makes a request to the service or
    straight to the desk; it asks for a transition; it sends a request to the web
    application; it runs a command line; or it makes a call to the store. -/
inductive Action where
  | wait
  | service (request : Request Argument)
  | desk (request : Request Argument)
  | moveTo (pull : Argument) (target : Status)
  | web (request : Http.Incoming)
  | command (args : List String)
  | access (call : Access)

/-- What an action yields. -/
inductive Reply where
  | nothing
  | answer (a : Answer)
  | pull (view : PullView)
  | response (r : Http.Response)
  | ending (e : Command.Ending)
  | stored (r : Access.Result)
  deriving Repr

/-- What surrounds a session: the settings of its service and web application,
    the correlation id of requests that bring none, and what command lines are
    surrounded by. -/
structure Site where
  settings : Settings := {}
  fresh : String := ""
  world : Command.World := {}
  deriving Inhabited

/-- A request of the web application, which the first one sets up. -/
def Http.visit (site : Site) (serving : Bool) (r : Incoming) : Op Response := do
  if !serving then setUp site.settings.web.corsOrigins
  serve site.settings.web.corsOrigins site.fresh r

/-- What an action does. -/
def Action.work (site : Site) (serving : Bool) : Action → Op Reply
  | wait => return .nothing
  | service r => .answer <$> Service.perform r
  | desk r => .answer <$> Desk.performAny r
  | moveTo pull target => .pull <$> Desk.moveAny pull target
  | web r => .response <$> Http.visit site serving r
  | command args => .ending <$> Command.run site.world args
  | access a => .stored <$> a.perform

/-- The action is a request of the web application. -/
def Action.isWeb : Action → Bool
  | web _ => true
  | _ => false

/-! ## Steps -/

/-- What a step arranges before it acts. -/
structure Cue where
  clock : Option Moment := none
  advance : Binary := .zero
  draws : Option (List Draw) := none
  deadline : Option Binary := none
  fault : Option Fault := none
  deriving Repr

instance : Inhabited Cue := ⟨{}⟩

/-- The state between two steps; `serving` tells whether the web application has
    been set up. -/
structure Session where
  clock : Moment
  store : Store := {}
  draws : List Draw := []
  serving : Bool := false
  deriving Repr

namespace Session

/-- The session with its clock and its draws as a step wants them. -/
def arranged (s : Session) (cue : Cue) : Session :=
  { s with
    clock := (cue.clock.getD s.clock).advance cue.advance
    draws := cue.draws.getD s.draws }

/-- The conditions of a step. -/
def conditions (s : Session) (engine : Settings.Engine) (cue : Cue) : Conditions where
  now := (s.arranged cue).clock
  settings := { engine with timeoutSeconds := cue.deadline.getD engine.timeoutSeconds }
  fault := cue.fault

/-- The scene that a step begins with. -/
def scene (s : Session) (cue : Cue) : Scene :=
  { store := s.store, generator := ⟨(s.arranged cue).draws, 0⟩ }

/-- The state after a step that left the given scene. -/
def after (s : Session) (cue : Cue) (scene : Scene) : Session :=
  { s.arranged cue with store := scene.store, draws := scene.generator.draws }

/-- An action as a step. -/
def act (site : Site) (s : Session) (cue : Cue) (a : Action) :
    Except Failure Reply × Scene × Session :=
  let (outcome, scene) :=
    (a.work site s.serving).outcome (s.conditions site.settings.engine cue) (s.scene cue)
  (outcome, scene, { s.after cue scene with serving := s.serving || a.isWeb })

end Session

end ReviewRota
