import SemanticVersion.Error

/-!
# What a command prints, and how it ends

A command prints lines on two streams and ends with an exit status, unless a failure that it does
not expect ends it.  Reports are put together from the end: what is printed first is put in front of
the report of what follows.

* `Report` — the lines on both streams and the `Ending`.
* `Ending.status` — the exit status.
* `Report.printing`, `Report.warning` — a report with lines in front.
-/

namespace SemanticVersion

/-- How a command ends. -/
inductive Ending where
  /-- With an exit status. -/
  | exited (status : Nat)
  /-- With a failure that the command does not expect. -/
  | aborted (error : Error)

/-- The exit status.  A failure that a command does not expect counts as an error like any other. -/
def Ending.status : Ending → Nat
  | .exited status => status
  | .aborted _ => 1

/-- What a command prints, and how it ends. -/
structure Report where
  /-- The lines on the standard output. -/
  out : List String := []
  /-- The lines on the standard error stream. -/
  err : List String := []
  /-- How the command ends. -/
  ending : Ending

namespace Report

/-- Nothing is printed, and all is well. -/
def done : Report where
  ending := .exited 0

/-- Nothing is printed, and something is wrong. -/
def failed : Report where
  ending := .exited 1

/-- Nothing is printed, and a failure ends the command. -/
def aborted (error : Error) : Report where
  ending := .aborted error

/-- Prints lines on the standard output first. -/
def printing (lines : List String) (report : Report) : Report :=
  { report with out := lines ++ report.out }

/-- Prints lines on the standard error stream first. -/
def warning (lines : List String) (report : Report) : Report :=
  { report with err := lines ++ report.err }

@[simp] theorem out_printing (lines : List String) (report : Report) :
    (report.printing lines).out = lines ++ report.out := rfl

@[simp] theorem ending_printing (lines : List String) (report : Report) :
    (report.printing lines).ending = report.ending := rfl

@[simp] theorem out_warning (lines : List String) (report : Report) :
    (report.warning lines).out = report.out := rfl

@[simp] theorem ending_warning (lines : List String) (report : Report) :
    (report.warning lines).ending = report.ending := rfl

/-- Ends with status 1 where the report would end well. -/
def butFailed (report : Report) : Report :=
  match report.ending with
  | .exited _ => { report with ending := .exited 1 }
  | .aborted _ => report

/-- Lines as they are printed, each with a line feed behind it. -/
def printed (lines : List String) : String :=
  String.join (lines.map (· ++ "\n"))

end Report

end SemanticVersion
