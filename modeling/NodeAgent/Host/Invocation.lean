/-
This file defines invocations of programs and how they end. An invocation is shown without its
environment, because access to a repository is handed over there.
-/

import NodeAgent.Failure
import NodeAgent.Table
import NodeAgent.Text.Octets

namespace NodeAgent

/-- A program to run, its arguments, and the variables that it finds besides the agent's own. -/
structure Invocation where
  program : String
  arguments : List String
  environment : Table String
deriving DecidableEq, Inhabited

/-- A fault of the operating system, by its number, or a null character in a path or in an
invocation, which never reaches the system. -/
inductive SystemFault where
  | numbered (number : Nat)
  | nullInPath
  | nullInInvocation
deriving DecidableEq, Inhabited

/-- What a program left when it ended; without a status it was killed. -/
structure Output where
  status : Option Int
  stdout : List UInt8
  stderr : List UInt8
deriving DecidableEq, Inhabited

/-- How an invocation with a time limit went. -/
inductive Outcome where
  | ended (output : Output)
  | unstarted (fault : SystemFault)
  | overdue
deriving DecidableEq

namespace SystemFault

/-- The meaning of fault numbers. -/
def meanings : List (Nat × String) :=
  [(1, "Operation not permitted"), (2, "No such file or directory"), (5, "Input/output error"),
   (7, "Argument list too long"), (8, "Exec format error"), (10, "No child processes"),
   (11, "Resource temporarily unavailable"), (12, "Cannot allocate memory"),
   (13, "Permission denied"), (16, "Device or resource busy"), (17, "File exists"),
   (20, "Not a directory"), (21, "Is a directory"), (22, "Invalid argument"),
   (23, "Too many open files in system"), (24, "Too many open files"), (26, "Text file busy"),
   (28, "No space left on device"), (30, "Read-only file system"), (36, "File name too long"),
   (40, "Too many levels of symbolic links")]

/-- The wording of a fault. -/
def text : SystemFault → String
  | numbered number =>
    let meaning := match meanings.find? (·.1 = number) with
      | some (_, meaning) => meaning
      | none => s!"Unknown error {number}"
    s!"{meaning} (os error {number})"
  | nullInPath => "file name contained an unexpected NUL byte"
  | nullInInvocation => "nul byte found in provided data"

instance : ToString SystemFault := ⟨text⟩

end SystemFault

namespace Invocation

/-- The name and the value under which a program finds a variable. They are handed on as one text
with a sign of equality between them, so a name ends at its first such sign. -/
def found (name value : String) : String × String :=
  let (before, after) := (name.toList ++ '=' :: value.toList).span (· ≠ '=')
  (String.ofList before, String.ofList after.tail)

/-- An invocation that adds nothing to the environment. -/
def plain (program : String) (arguments : List String) : Invocation :=
  ⟨program, arguments, .empty⟩

/-- The command line, for messages. -/
def text (invocation : Invocation) : String :=
  String.intercalate " " (invocation.program :: invocation.arguments)

/-- Whether a null character stands anywhere in an invocation. -/
def holdsNull (invocation : Invocation) : Bool :=
  let environment := invocation.environment
  (invocation.program :: invocation.arguments ++ environment.keys ++ environment.values).any
    fun words => words.toList.contains '\x00'

/-- The variables as the program finds them. They are handed on in the order of the table, and two
of them can be found under one name: the program is taken for a reader that lets the later of the
two win. Which of them wins is left to each program; one that looks up the first, as `getenv` does,
finds the earlier. -/
def variablesFound (invocation : Invocation) : Table String :=
  .ofList (invocation.environment.entries.map fun (name, value) => found name value)

end Invocation

namespace Output

/-- Whether the program ended as it should. -/
def succeeded (output : Output) : Bool := output.status = some 0

/-- What was written to both outputs, for messages: the parts that are not blank, each without its
blank ends, on lines of their own. -/
def combined (output : Output) : String :=
  let parts := [Text.trim (Text.lossy output.stdout), Text.trim (Text.lossy output.stderr)]
  String.intercalate "\n" (parts.filter (· ≠ ""))

/-- The output of a program that has to succeed. -/
def checked (invocation : Invocation) (output : Output) : Except Failure Output :=
  if output.succeeded then .ok output
  else .error (.backend invocation.text output.status output.combined)

end Output

namespace Outcome

/-- The output of an invocation, whatever its status. It fails only where the program could not be
started or took longer than its limit, which is in milliseconds. -/
def output (invocation : Invocation) (limit : Nat) : Outcome → Except Failure Output
  | ended output => .ok output
  | unstarted fault =>
    .error (.backend invocation.text none s!"failed to spawn {invocation.program}: {fault}")
  | overdue => .error (.timeout invocation.text (limit / 1000))

end Outcome

end NodeAgent
