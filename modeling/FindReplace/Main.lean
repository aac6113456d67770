import FindReplace.CommandLine.Run

/-!
The command line as a program: it reads and writes files and streams, and leaves all else to
`FindReplace.CommandLine`. Standard input is taken as it is. No remarks are made on patterns, and no
character is known by a name.
-/
namespace FindReplace.CommandLine

partial def readAll (s : IO.FS.Stream) (done : ByteArray) : IO ByteArray := do
  let part ← s.read 65536
  if part.isEmpty then return done else readAll s (done ++ part)

/-- The number by which the system names the fault that a file is a directory. -/
def directoryCode : UInt32 := 21

/-- Why a file could not be opened. -/
def openFault : IO.Error → OpenFault
  | .noFileOrDirectory .. => .missing
  | .invalidArgument .. => .nameTooLong
  | .inappropriateType _ code _ => if code = directoryCode then .isDirectory else .notDirectory
  | _ => .denied

def readFile (name : String) : IO Input := do
  if name.toList.contains '\x00' then return .error .nullByte
  try return .ok (← IO.FS.readBinFile name).toList
  catch e => return .error (openFault e)

def writeFile (w : Writing) : IO (Except OpenFault Unit) := do
  if w.name.toList.contains '\x00' then return .error .nullByte
  try
    IO.FS.writeBinFile w.name ⟨(Text.Utf8.encode w.content).toArray⟩
    return .ok ()
  catch e => return .error (openFault e)

def conclude (r : Report) : IO UInt32 := do
  IO.print r.stdout
  IO.eprint r.stderr
  match r.ending with
  | .exit code => return UInt32.ofNat code
  | .uncaught u =>
    IO.eprintln u.message
    return UInt32.ofNat genericError

def console : Console := ⟨.kept, fun _ => ""⟩

def runWords (words : List String) : IO UInt32 := do
  match readWords words with
  | .error stop => conclude stop.report
  | .ok r =>
    let input ←
      match r.file with
      | some name => readFile name
      | none => do
        let bytes ← readAll (← IO.getStdin) ByteArray.empty
        pure (.ok bytes.toList)
    match r.subject console.lineEnds input with
    | .error report => conclude report
    | .ok subject =>
      let report ←
        match r.work subject with
        | .error report => pure report
        | .ok w => pure (w.report (← writeFile w))
      conclude (report.after (console.remarksOn r))

end FindReplace.CommandLine

def main (words : List String) : IO UInt32 := FindReplace.CommandLine.runWords words
