import IdentityDocs.Script.Program

/-!
# What is installed

Before a script runs, the file system holds the directories of the system, the programs, and a device
that is always empty.
-/

namespace IdentityDocs.Script

/-- The location of a path. -/
def placeOf (path : String) : Location := (Path.ofText path).names

/-- The directories of the system. -/
def systemDirectories : List String :=
  ["/bin", "/boot", "/dev", "/etc", "/home", "/lib", "/lib64", "/media", "/mnt", "/opt", "/proc",
   "/root", "/run", "/sbin", "/srv", "/sys", "/tmp", "/usr", "/usr/bin", "/usr/lib", "/usr/local",
   "/usr/local/bin", "/usr/local/sbin", "/usr/sbin", "/usr/share", "/var", "/var/lib", "/var/log",
   "/var/tmp"]

/-- The directories that programs are in. -/
def programDirectories : List String := ["/bin/", "/usr/bin/"]

/-- The file system before anything was done. -/
def installed : FileSystem :=
  { nodes :=
      systemDirectories.map (fun path => (placeOf path, .directory)) ++
        (placeOf "/dev/null", .file [] .void) ::
        programDirectories.flatMap fun directory =>
          programs.map fun (name, _) => (placeOf (directory ++ name), .file [] .program)
    current := [] }

end IdentityDocs.Script
