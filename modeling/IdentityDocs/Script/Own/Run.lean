import IdentityDocs.Script.Condition
import IdentityDocs.Script.Own.Directories
import IdentityDocs.Script.Own.Flow
import IdentityDocs.Script.Own.Names
import IdentityDocs.Script.Own.Processes
import IdentityDocs.Script.Printing

/-!
# Running the commands of the shell itself

While such a command runs, its name stands in complaints. A command whose output could not be
written fails. The errors of a special command end the script.
-/

namespace IdentityDocs.Script

/-- What a command of the shell itself does with its arguments. -/
def perform (self : Engine) (mode : Mode) : Own → List Bytes → Exec Nat
  | .alias, args => setAliases args
  | .background, args => moveAside args
  | .bracket, args => test true args
  | .changeDirectory, args => changeDirectory args
  | .command, args => describeCommand args
  | .dot, args => runFile self args
  | .echo, args => echo args
  | .evaluate, args => evaluate self mode args
  | .exec, args => exec self args
  | .exit, args => leaveProcess args
  | .exportNames, args => declareNames false args
  | .fail, _ => return 1
  | .foreground, args => moveAside args
  | .getOptions, args => getOptions args
  | .goOn, args => leaveLoops true args
  | .hash, args => lookUpAll args
  | .jobs, args => listAside args
  | .kill, args => kill args
  | .leaveLoop, args => leaveLoops false args
  | .ownNames, args => ownNames args
  | .nothing, _ => return 0
  | .printDirectory, args => printDirectory args
  | .printFormat, args => print args
  | .protectNames, args => declareNames true args
  | .readLine, args => readLine args
  | .giveBack, args => giveBack args
  | .set, args => changeSettings args
  | .shift, args => shift args
  | .succeed, _ => return 0
  | .test, args => test false args
  | .times, _ => showTimes
  | .trap, args => setActions args
  | .type, args => describeAll args
  | .ulimit, _ => showLimit
  | .umask, args => setMask args
  | .unalias, args => removeAliases args
  | .unset, args => unset args
  | .wait, args => waitFor args

/-- Runs a command of the shell itself. An error passes on if `special`. -/
def Own.run (self : Engine) (mode : Mode) (special : Bool) (name : Bytes) (c : Own)
    (args : List Bytes) : Exec Unit := do
  let speaker := (← get).speaker
  modify fun s => { s with speaker := some name }
  let finish : Exec Unit := modify fun s => { s with speaker, lost := false }
  tryCatch (do
    let status ← perform self mode c args
    flush
    let lost := (← get).lost
    if lost then warn (((← get).speaker.getD []) ++ ofText ": I/O error")
    modify fun s => { s with status := if lost then status ||| 1 else status }
    finish) fun halt => do
      flush
      finish
      if halt ≠ .fault || special then throw halt

end IdentityDocs.Script
