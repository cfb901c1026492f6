import ShaderVariants.Configuration.Storage
import ShaderVariants.Watcher.Watch

/-!
Watching the configuration file and the files of a shader.

The system notifies of changes in the watched directories; `Watcher.receive` turns a notification
into messages.  Of one file's notifications only those count that come at least the debounce
interval after the last one that counted.
-/
namespace ShaderVariants

inductive WatchEvent where
  | configurationChanged (configuration : Configuration)
  | shaderChanged (path : Path)
  | failed (error : ConfigurationError)
deriving DecidableEq, Repr

/-- The files that are watched, the watches that notifications come from, and when a notification
of each path last counted. -/
structure Watcher where
  configurationFile? : Option Path
  shaderPaths : List Path
  debounce : Nat
  watches : List Watch
  counted : List (Path × Nat) := []
deriving DecidableEq, Repr

namespace Watcher

/-- Starts to watch a configuration file and shader files.  Paths that exist are made canonical;
the others stay as they are, and no notification will ever name them.  The watches are taken to be
set up; `WatchMode.iterateWith` is a turn of the loop where they may be refused. -/
def new (files : FileSystem) (configurationFile? : Option Path) (shaderPaths : List Path)
    (debounce : Nat) : Watcher :=
  let configurationFile? := configurationFile?.map files.canonical
  let shaderPaths := shaderPaths.map files.canonical
  { configurationFile?, shaderPaths, debounce,
    watches := Watch.around files (configurationFile?.toList ++ shaderPaths) }

def isConfiguration (watcher : Watcher) (path : Path) : Bool :=
  watcher.configurationFile?.any path.agrees

def isShader (watcher : Watcher) (path : Path) : Bool :=
  watcher.shaderPaths.any path.agrees

def lastCounted? (watcher : Watcher) (path : Path) : Option Nat :=
  (watcher.counted.find? (fun entry => entry.1.agrees path)).map (·.2)

def isTooSoon (watcher : Watcher) (now : Nat) (path : Path) : Bool :=
  (watcher.lastCounted? path).any fun last => now - last < watcher.debounce

/-- The message about a changed file; the configuration file is read again at once. -/
def message (watcher : Watcher) (files : FileSystem) (path : Path) : WatchEvent :=
  if watcher.isConfiguration path then
    match Configuration.loadFrom files path with
    | .ok configuration => .configurationChanged configuration
    | .error error => .failed error
  else .shaderChanged path

def receivePath (watcher : Watcher) (now : Nat) (files : FileSystem) (path : Path) :
    Watcher × List WatchEvent :=
  if !watcher.isConfiguration path && !watcher.isShader path then (watcher, [])
  else if watcher.isTooSoon now path then (watcher, [])
  else
    let others := watcher.counted.filter (fun entry => !entry.1.agrees path)
    ({ watcher with counted := (path, now) :: others }, [watcher.message files path])

def receivePaths (watcher : Watcher) (now : Nat) (files : FileSystem) :
    List Path → Watcher × List WatchEvent
  | [] => (watcher, [])
  | path :: paths =>
      let (watcher, events) := watcher.receivePath now files path
      let (watcher, later) := receivePaths watcher now files paths
      (watcher, events ++ later)

/-- Handles a notification that arrives at time `now`.  A failure of the notification service is no
notification; its message says nothing about a file. -/
def receive (watcher : Watcher) (now : Nat) (files : FileSystem) (notification : Notification) :
    Watcher × List WatchEvent :=
  if notification.kind.isRelevant then watcher.receivePaths now files notification.paths
  else (watcher, [])

/-- Handles notifications in order, each with its time of arrival. -/
def receiveAll (watcher : Watcher) (files : FileSystem) :
    List (Nat × Notification) → Watcher × List WatchEvent
  | [] => (watcher, [])
  | (now, notification) :: rest =>
      let (watcher, events) := watcher.receive now files notification
      let (watcher, later) := receiveAll watcher files rest
      (watcher, events ++ later)

/-- The watcher and its messages after an edit at time `now` that makes the files `after` out of the
files `before`. -/
def observe (watcher : Watcher) (now : Nat) (before after : FileSystem) (edit : Edit) :
    Watcher × List WatchEvent :=
  let notifications := Watch.notifications watcher.watches before edit
  let (watcher, events) := watcher.receiveAll after (notifications.map fun notification =>
    (now, notification))
  ({ watcher with watches := Watch.follow watcher.watches before edit }, events)

theorem receiveAll_append (watcher : Watcher) (files : FileSystem)
    (first second : List (Nat × Notification)) :
    watcher.receiveAll files (first ++ second) =
      let (watcher, events) := watcher.receiveAll files first
      let (watcher, later) := watcher.receiveAll files second
      (watcher, events ++ later) := by
  induction first generalizing watcher with
  | nil => rfl
  | cons head rest ih => simp [receiveAll, ih, List.append_assoc]

end Watcher

end ShaderVariants
