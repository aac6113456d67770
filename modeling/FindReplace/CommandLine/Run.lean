import FindReplace.CommandLine.Files
import FindReplace.CommandLine.Help
import FindReplace.CommandLine.Options
import FindReplace.Replace
import FindReplace.Text.Newline

/-!
A run of the command line. The words are made out, the input is read, the matches are replaced, and
the result is written. The output file is opened last, so a run that does not get there changes no
file. What a verbose run prints is kept apart from the result: it goes to the error stream unless
the result goes to a file.

The line ends of a file are read as newlines. Those of standard input stay as they are, unless the
host opens it like a file. Both are taken to be decoded strictly as UTF-8; a host whose locale lets
malformed bytes of standard input through is not covered. On reading a pattern the host may remark
on it, for example on a bracket inside a set, and does so on the error stream.
-/
namespace FindReplace.CommandLine

open Text.Utf8 (Bytes)

/-- A failure that no part of the program answers. -/
inductive Uncaught
  | openFault (name : String) (f : OpenFault)
  | malformed (m : Text.Utf8.Malformed)
  | fault (f : Fault)
  deriving DecidableEq, Repr

inductive Ending
  | exit (code : Nat)
  | uncaught (u : Uncaught)
  deriving DecidableEq, Repr

def genericError : Nat := 1

def usageErrorCode : Nat := 2

/-- What a run leaves on its streams, and how it ends. -/
structure Report where
  ending : Ending
  stdout : String
  stderr : String
  deriving DecidableEq, Repr

/-- Templates call nothing. -/
def noHost : Host Empty Unit := ⟨fun k => nomatch k⟩

def givenValue : Given → Value Empty
  | some s => .text s
  | none => .list []

def limitValue : Option Int → Value Empty
  | some n => .int n
  | none => .null

namespace Stop

def report : Stop → Report
  | .help => ⟨.exit 0, helpText, ""⟩
  | .version => ⟨.exit 0, versionText, ""⟩
  | .fault f => ⟨.exit usageErrorCode, "", usageError f.message⟩

end Stop

/-- What a host does with the line ends of standard input. -/
inductive LineEnds
  | kept
  | translated
  deriving DecidableEq, Repr

def LineEnds.read : LineEnds → List Char → List Char
  | .kept, cs => cs
  | .translated, cs => Text.readNewlines cs

/-- The streams of a host, by what it does with line ends and what it remarks on a pattern text. -/
structure Console where
  lineEnds : LineEnds
  remarks : String → String

/-- What has become of the input: the bytes, or why the file could not be opened. -/
abbrev Input := Except OpenFault Bytes

/-- The text of the characters that were read. -/
def Request.text (r : Request) (ends : LineEnds) (cs : List Char) : String :=
  match r.file with
  | some _ => String.ofList (Text.readNewlines cs)
  | none => String.ofList (ends.read cs)

/-- The text to be searched, or the report of a run that ends without it. -/
def Request.subject (r : Request) (ends : LineEnds) (input : Input) : Except Report String :=
  match input with
  | .error f =>
    let name := r.file.getD ""
    match f with
    | .missing =>
      .error ⟨.exit usageErrorCode, "", "error: argument `" ++ name ++ "`: file not found\n"⟩
    | f => .error ⟨.uncaught (.openFault name f), "", ""⟩
  | .ok bytes =>
    match Text.Utf8.decode bytes with
    | .error m => .error ⟨.uncaught (.malformed m), "", ""⟩
    | .ok cs => .ok (r.text ends cs)

section
variable [Text.CharacterNames]

/-- The call that a request asks for, verbose or not. -/
def Request.call (r : Request) (verbose : Bool) (subject : String) : Outcome Unit :=
  FindReplace.replace noHost verbose true (.text subject) (givenValue r.pattern)
    (givenValue r.replacement) (limitValue r.limit) ()

def Request.replace (r : Request) (subject : String) : Outcome Unit := r.call r.verbose subject

end

/-- A run that has its result, if there is a file to be written. -/
structure Writing where
  name : String
  content : String
  printed : String
  deriving DecidableEq, Repr

/-- The report of a run that had its text, but could not replace in it. -/
def Request.failure (r : Request) (f : Fault) (printed : String) : Report :=
  let (out, err) := if r.output.isSome then (printed, "") else ("", printed)
  match f.evaluation? with
  | some e =>
    ⟨.exit genericError, out, err ++ "error: " ++ e.cls.kind ++ ": " ++ e.message ++ "\n"⟩
  | none => ⟨.uncaught (.fault f), out, err⟩

/-- The work after reading: a report, or a file to be written. -/
def Request.work [Text.CharacterNames] (r : Request) (subject : String) : Except Report Writing :=
  let o := r.replace subject
  let printed := renderPasses o.printed
  match o.result, r.output with
  | .error f, _ => .error (r.failure f printed)
  | .ok result, none => .error ⟨.exit 0, result, printed⟩
  | .ok result, some name => .ok ⟨name, result, printed⟩

/-- The report of a run that has tried to write its file. -/
def Writing.report (w : Writing) (written : Except OpenFault Unit) : Report :=
  match written with
  | .ok () => ⟨.exit 0, w.printed ++ "success: wrote to `" ++ w.name ++ "`\n", ""⟩
  | .error .nullByte => ⟨.uncaught (.openFault w.name .nullByte), w.printed, ""⟩
  | .error _ =>
    ⟨.exit genericError, w.printed, "error: cannot write to `" ++ w.name ++ "`\n"⟩

/-- What the host remarks on the pattern of a request. An empty text is refused unread. -/
def Console.remarksOn (c : Console) (r : Request) : String :=
  match r.pattern with
  | some p => if p.isEmpty then "" else c.remarks p
  | none => ""

/-- The report of a run, with what was remarked before. -/
def Report.after (report : Report) (remarks : String) : Report :=
  { report with stderr := remarks ++ report.stderr }

@[simp] theorem Report.stdout_after (report : Report) (remarks : String) :
    (report.after remarks).stdout = report.stdout := rfl

/-- A host: its files and its streams. -/
structure Machine (δ : Type) extends Disk δ, Console

section
variable {δ : Type}

/-- The input of a request: a file, or standard input. -/
def Request.input (r : Request) (d : Disk δ) (stdin : Bytes) (files : δ) : Input :=
  match r.file with
  | some name => d.read files name
  | none => .ok stdin

/-- The end of a run that has its result: the file is written. -/
def Disk.save (d : Disk δ) (files : δ) (w : Writing) : Report × δ :=
  match d.write files w.name (Text.Utf8.encode w.content) with
  | .ok files => (w.report (.ok ()), files)
  | .error f => (w.report (.error f), files)

/-- The run of a request that has its text. -/
def Machine.runRead [Text.CharacterNames] (m : Machine δ) (r : Request) (subject : String)
    (files : δ) : Report × δ :=
  let o :=
    match r.work subject with
    | .error report => (report, files)
    | .ok w => m.save files w
  (o.1.after (m.remarksOn r), o.2)

def Machine.run [Text.CharacterNames] (m : Machine δ) (words : List String) (stdin : Bytes)
    (files : δ) : Report × δ :=
  match readWords words with
  | .error stop => (stop.report, files)
  | .ok r =>
    match r.subject m.lineEnds (r.input m.toDisk stdin files) with
    | .error report => (report, files)
    | .ok subject => m.runRead r subject files

end

def FileStore.machine (c : Console) : Machine FileStore := ⟨FileStore.disk, c⟩

/-- A run on a store of files. -/
def Console.run [Text.CharacterNames] (c : Console) (words : List String) (stdin : Bytes)
    (files : FileStore) : Report × FileStore :=
  (FileStore.machine c).run words stdin files

/-- Standard input is opened like a file, and there are no remarks. -/
def Console.plain : Console := ⟨.translated, fun _ => ""⟩

def run [Text.CharacterNames] (words : List String) (stdin : Bytes) (files : FileStore) :
    Report × FileStore :=
  Console.plain.run words stdin files

/-- What a failure says. -/
def Uncaught.message : Uncaught → String
  | .openFault name f => f.message name
  | .malformed m => m.message
  | .fault f => f.message

end FindReplace.CommandLine
