import Curfew.Host.World

/-!
# A freshly installed system

The files that every world starts with (**`Installation.files`**), and the environment of its
supervisor (**`Installation.environment`**).
-/

namespace Curfew.Host.Installation

open Text (Raw)

/-- The place that an absolute path names. -/
def at_ (path : String) : Place := Files.names (Bytes.ofString path)

def directories : List String :=
  ["/usr", "/usr/local", "/usr/local/sbin", "/usr/local/bin", "/usr/sbin", "/usr/bin", "/dev",
   "/etc", "/tmp", "/root", "/home", "/var", "/var/tmp", "/proc", "/proc/self", "/proc/self/fd"]

def links : List (String × String) :=
  [("/bin", "usr/bin"), ("/sbin", "usr/sbin"), ("/dev/stdin", "/proc/self/fd/0"),
   ("/dev/stdout", "/proc/self/fd/1"), ("/dev/stderr", "/proc/self/fd/2"),
   ("/dev/fd", "/proc/self/fd")]

def devices : List (String × Device) :=
  [("/dev/null", .null), ("/dev/zero", .zero), ("/dev/full", .full)]

def users : String := "root:x:0:0:root:/root:/bin/bash\n"

def files : Files :=
  ⟨directories.map (fun path => (at_ path, Node.directory)) ++
    links.map (fun (path, target) => (at_ path, Node.link (Bytes.ofString target))) ++
    devices.map (fun (path, d) => (at_ path, Node.device d)) ++
    Image.programNames.map (fun name => (at_ ("/usr/bin/" ++ name), Node.program name)) ++
    [(at_ "/etc/passwd", Node.file (Bytes.ofString users) 0o644)]⟩

def environment : List (Raw × Raw) :=
  [("PATH", "/usr/local/sbin:/usr/local/bin:/usr/sbin:/usr/bin:/sbin:/bin"), ("HOME", "/root"),
   ("TMPDIR", "/tmp")]

end Curfew.Host.Installation
