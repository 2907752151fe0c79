import CompilerDriver.FileSystem.Basic
import CompilerDriver.Process.Executable
import CompilerDriver.Utility.All

/-!
# The installed system

The directories, devices and programs that are there before anything is done: the shell and the
utilities, the devices that a script may name, and the search path that finds the programs.
-/

namespace CompilerDriver.Installation

/-- The location of an absolute path without links. -/
def locationOf (path : String) : Location :=
  ((Path.ofString path).segments.filter fun s => s ≠ []).reverse

/-- The directories of the system. -/
def directories : List String :=
  ["/usr", "/usr/bin", "/usr/sbin", "/usr/lib", "/usr/share", "/usr/include", "/usr/local",
    "/usr/local/bin", "/usr/local/sbin", "/usr/local/lib", "/dev", "/dev/fd", "/tmp", "/etc", "/home",
    "/root", "/opt", "/mnt", "/media", "/proc", "/run", "/srv", "/sys", "/var", "/var/tmp",
    "/var/lib", "/var/log"]

/-- The links of the system. -/
def links : List (String × String) :=
  [("/bin", "usr/bin"), ("/sbin", "usr/sbin"), ("/lib", "usr/lib")]

/-- The devices of the system. The first ten descriptors can be named. -/
def devices : List (String × Device) :=
  [("/dev/null", .null), ("/dev/full", .full), ("/dev/zero", .zeros),
    ("/dev/stdin", .descriptor 0), ("/dev/stdout", .descriptor 1), ("/dev/stderr", .descriptor 2)] ++
  (List.range 10).map fun n => (s!"/dev/fd/{n}", .descriptor n)

/-- The programs of the system: under which name each is found, and what it is. -/
def programs : List (String × String) :=
  [("sh", "sh"), ("dash", "sh")] ++ Utility.all.map fun utility => (utility.name, utility.name)

/-- What is there to begin with, as nodes. -/
def nodes : List (Location × Node) :=
  directories.map (fun path => (locationOf path, .directory)) ++
  links.map (fun (path, target) => (locationOf path, .link (Path.ofString target))) ++
  devices.map (fun (path, device) => (locationOf path, .device device)) ++
  programs.map fun (name, program) =>
    (Bytes.ofString name :: locationOf "/usr/bin", .file (Executable.image program) .executable)

/-- The files of the system, for a process that works in the root. -/
def files : FileSystem :=
  nodes.foldl (fun fs (l, node) => fs.put l node) { entries := [], cwd := [] }

/-- The search path that finds the programs. -/
def searchPath : Bytes :=
  Bytes.ofString "/usr/local/sbin:/usr/local/bin:/usr/sbin:/usr/bin:/sbin:/bin"

end CompilerDriver.Installation
