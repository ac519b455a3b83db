import TableClasses.Diff.Text
import TableClasses.Files.Access
import TableClasses.Output.Options
import TableClasses.Report.Run

/-!
# Writing generated classes

A generated class is written to its file, or only looked at in a dry run. A file that exists is
kept unless writing is forced. Where printing is asked for, the content is printed, or how it
differs from the file that is there. Whatever keeps a class from being written is recorded with it
and ends nothing.
-/

namespace TableClasses.Output

open Files

/-- What became of a file. -/
inductive Outcome where
  | created
  | overwritten
  /-- A dry run: the file would be written. -/
  | ready
  /-- The file exists and is kept. -/
  | skipped
  | failed
  deriving DecidableEq, Repr

namespace Outcome

def name : Outcome → String
  | created => "created"
  | overwritten => "overwritten"
  | ready => "ready"
  | skipped => "skipped"
  | failed => "failed"

def isWritten : Outcome → Bool
  | created => true
  | overwritten => true
  | _ => false

end Outcome

/-- The record of one file. -/
structure Entry where
  path : String
  outcome : Outcome
  /-- What kept the file from being written in a run that writes. -/
  fault : Option WriteFault := none
  /-- What was printed. -/
  printed : String := ""
  deriving DecidableEq, Repr

namespace Options

variable {m : Type → Type} [Monad m] [Access m]

/-- The content, or how it differs from the text at its path. -/
def preview (path content : String) : m String := do
  match ← readText path with
  | .ok existing => return path ++ "\n" ++ Diff.render existing content
  | .error _ => return path ++ "\n" ++ content

/-- The record of a file that is kept. -/
def keep (o : Options) (path : String) : Warned (Outcome × Option WriteFault) :=
  if o.dryRun then do
    warn (.needsForce path)
    return (.skipped, none)
  else do
    let fault := WriteFault.present path
    warn (.notWritten fault)
    return (.skipped, some fault)

/-- The record of a file after an attempt to write it. -/
def attempted (path : String) (present : Bool) :
    Except Fault Unit → Warned (Outcome × Option WriteFault)
  | .ok () => pure (if present then .overwritten else .created, none)
  | .error cause => do
    let fault := WriteFault.failed path cause
    warn (.notWritten fault)
    return (.failed, some fault)

/-- Writes the content of a class, or records why it is not written. -/
def write (o : Options) (className content : String) : Reporting m Entry := do
  let path := o.pathOf className
  let present ← (Access.present path : m Bool)
  let printed ← if o.print then (preview path content : m String) else pure ""
  let (outcome, fault) ←
    if present && !o.force then o.keep path
    else if o.dryRun then pure (.ready, none)
    else do
      let result ← (Access.write path content : m (Except Fault Unit))
      attempted path present result
  return { path, outcome, fault, printed }

end Options

end TableClasses.Output
