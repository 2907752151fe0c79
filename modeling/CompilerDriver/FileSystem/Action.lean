import CompilerDriver.FileSystem.Update

/-!
# File actions

Changes to a file system as data: each is one request of a user or of a tool, done or refused. A
refused action leaves the files as they are, except that directories made on the way stay, and that
a directory which cannot be removed is empty.
-/

namespace CompilerDriver

/-- One change to the files. -/
inductive FileAction where
  | write (path : Path) (text : Bytes) (executable : Bool)
  | makeDirectories (path : Path)
  | link (path target : Path)
  | rename (path target : Path)
  | copy (path target : Path)
  | remove (path : Path)
  | enter (path : Path)
deriving DecidableEq, Repr

namespace FileAction

/-- The action with each of its paths changed by `f`. -/
def mapPaths (f : Path → Path) : FileAction → FileAction
  | write path text executable => write (f path) text executable
  | makeDirectories path => makeDirectories (f path)
  | link path target => link (f path) (f target)
  | rename path target => rename (f path) (f target)
  | copy path target => copy (f path) (f target)
  | remove path => remove (f path)
  | enter path => enter (f path)

/-- Whether a request was done, and the files afterwards. -/
def settle (fs : FileSystem) : Except Cause FileSystem → Bool × FileSystem
  | .ok fs => (true, fs)
  | .error _ => (false, fs)

/-- Does an action, if the operating system lets it. -/
def apply (fs : FileSystem) : FileAction → Bool × FileSystem
  | write path text executable => settle fs (fs.write path text executable)
  | makeDirectories path =>
    match fs.makeDirectories path with
    | (.ok (), fs) => (true, fs)
    | (.error _, fs) => (false, fs)
  | link path target => settle fs (fs.link path target)
  | rename path target => settle fs (fs.rename path target)
  | copy path target => settle fs (fs.copy path target)
  | remove path =>
    match fs.remove path with
    | (.ok (), fs) => (true, fs)
    | (.error _, fs) => (false, fs)
  | enter path => settle fs (fs.enter path)

/-- Does some actions in order. -/
def applyAll (fs : FileSystem) (actions : List FileAction) : List Bool × FileSystem :=
  actions.foldl (fun (done, fs) action =>
    let (ok, fs) := action.apply fs
    (done ++ [ok], fs)) ([], fs)

end FileAction

end CompilerDriver
