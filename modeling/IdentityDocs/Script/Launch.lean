import IdentityDocs.Image.PnmCodec
import IdentityDocs.Platform
import IdentityDocs.Script.Program

/-!
# A platform of scripts

A platform on which every command is a script, or a small utility, that is interpreted. A command is
a name or a path. A name is looked for in the directories of programs. What it leads to has to be a
program or a script that names its interpreter in its first line. The command has nothing to read,
and what it writes is gathered.
-/

namespace IdentityDocs.Script

/-- The state in which a launched program begins. -/
def firstShell (files : FileSystem) : Shell :=
  let process := 1001
  { machine :=
      { files
        streams := #[.void, .gathered [], .gathered []]
        nextProcess := process + 1
        alive := [process] }
    process
    main := process
    parent := 1000
    name := []
    arguments := []
    handles := [(0, ⟨0, true, false⟩), (1, ⟨1, false, true⟩), (2, ⟨2, false, true⟩)] }

/-- Runs a program to its end. A program that runs for longer than anybody waits is killed. -/
def Program.answer (program : Program) (l : Launch) (files : FileSystem) : Launched :=
  let answer (ending : Ending) (s : Shell) : Launched :=
    { output := toBytes (s.machine.gathered 1)
      complaint := toBytes (s.machine.gathered 2)
      ending
      files := { s.machine.files with current := files.current } }
  match (runInstead (engine maxNesting) program l).run (firstShell files) with
  | .ok status s => answer (.exited status) s
  | .error (.killed signal) s => answer (.killed signal) s
  | .error _ s => answer (.killed 9) s

/-- The path that a command stands for. -/
def commandPath (files : FileSystem) (command : Bytes) : Except FileError Bytes :=
  if command = [] then .error .notFound
  else if command.contains '/' then .ok command
  else if FileSystem.maxNameLength < command.length then .error .nameTooLong
  else searchPath files defaultPath command

/-- Launches a command. -/
def launch : Launcher := fun files command args => do
  let command := ofText command
  let args := args.map ofBytes
  if (command :: args).any (·.contains '\x00') then throw .nulInArgument
  let path ← commandPath files command
  let (program, l) ← programFor files maxInterpreters
    { path, name := command, args, environment := [("PATH".toList, defaultPath)] }
  return program.answer l files

/-- The platform: its images are portable anymaps, and its tasks are numbered as they come. -/
def platform : Platform := { launch, copier := Pnm.copier, tickets := fun i => i + 1 }

end IdentityDocs.Script
