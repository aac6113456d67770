import FindReplace.Proofs.Encoding
import FindReplace.Proofs.Endings
import FindReplace.Proofs.VerboseSwitch

/-!
# Where results are delivered

Whoever asks for a replacement by words gets what the call gives. Without an output name the
standard output is the result and nothing else, and a verbose run has the error stream for what it
prints. With one, the file of that name holds the result, and the standard output is free for what
is printed. The name may be that of the input: all of it is read before anything is written.

What is searched has newlines for line ends, if it comes from a file. Standard input is searched as
the host reads it, with carriage returns if it keeps them. Its bytes are taken to be decoded strictly
in any case. What the host has to remark on the pattern comes first on the error stream, and if it
has nothing to remark, nothing is there that the run did not print.

So whether a run is verbose cannot be told from its result, from the files or from how it ends. That
holds of runs that fail as well. How they fail if the input is no text is not said here.
-/
namespace FindReplace.CommandLine
open Text.Utf8 (Bytes)

/-- What a run leaves whose call comes to `result` and prints `shown`, where the host remarks
`remarks`, by the name that is given for the output. -/
inductive Delivered (files : FileStore) (result shown remarks : String) :
    (output : Option String) → Report × FileStore → Prop
  | printed : Delivered files result shown remarks none (⟨.exit 0, result, remarks ++ shown⟩, files)
  | saved {name : String} {path : Path} {files' : FileStore} :
      files.LeadsTo name path →
      files'.find? path = some (.file result.toUTF8.data.toList) →
      (∀ other, other ≠ path → files'.find? other = files.find? other) →
      files'.read name = .ok result.toUTF8.data.toList →
      Delivered files result shown remarks (some name)
        (⟨.exit 0, shown ++ "success: wrote to `" ++ name ++ "`\n", remarks⟩, files')

theorem Delivered.save {files : FileStore} {name : String} {path : Path}
    (h : files.LeadsTo name path) (result shown remarks : String) :
    let o := FileStore.disk.save files ⟨name, result, shown⟩
    Delivered files result shown remarks (some name) (o.1.after remarks, o.2) := by
  intro o
  have hencode : Text.Utf8.encode result = result.toUTF8.data.toList := Text.Utf8.encode_eq result
  have hwrite : FileStore.disk.write files name (Text.Utf8.encode result) =
      .ok (files.put path (.file result.toUTF8.data.toList)) := by
    rw [hencode]
    exact h.write_eq _
  have hsave : (o.1.after remarks, o.2) =
      (⟨.exit 0, shown ++ "success: wrote to `" ++ name ++ "`\n", remarks⟩,
        files.put path (.file result.toUTF8.data.toList)) := by
    simp only [o, Disk.save, hwrite, Writing.report, Report.after, String.append_empty]
  rw [hsave]
  refine .saved h ?_ (fun other hother => ?_) (h.read_put _)
  · rw [FileStore.find?_put, if_pos rfl]
  · rw [FileStore.find?_put, if_neg hother]

theorem LineEnds.read_of_not_mem {cs : List Char} (h : '\r' ∉ cs) (ends : LineEnds) :
    ends.read cs = Text.readNewlines cs := by
  cases ends with
  | kept => exact (Text.readNewlines_of_not_mem h).symm
  | translated => rfl

/-- Whoever reads standard input as it is sees the difference in carriage returns only. -/
theorem Request.text_eq {r : Request} {ends : LineEnds} {cs : List Char}
    (h : r.file.isSome ∨ ends = .translated ∨ '\r' ∉ cs) :
    r.text ends cs = String.ofList (Text.readNewlines cs) := by
  unfold Request.text
  cases hfile : r.file with
  | some name => rfl
  | none =>
      rw [hfile] at h
      rcases h with hsome | rfl | hplain
      · cases hsome
      · rfl
      · exact congrArg String.ofList (ends.read_of_not_mem hplain)

theorem Request.subject_toUTF8 (r : Request) (ends : LineEnds) (raw : String) :
    r.subject ends (.ok raw.toUTF8.data.toList) = .ok (r.text ends raw.toList) := by
  simp only [Request.subject, Text.Utf8.decode_toUTF8]

section
variable [Text.CharacterNames] (r : Request) (subject : String)

theorem Request.result_eq (verbose : Bool) :
    (r.replace subject).result = (r.call verbose subject).result := by
  have hresult : ∀ v, (r.call v subject).result = (r.call false subject).result := by
    intro v
    rw [← r.call_quiet v subject]
    rfl
  exact (hresult r.verbose).trans (hresult verbose).symm

end

/-- Two runs that end alike with the same files and, if the result is printed, the same result. -/
structure SameEffect {δ : Type} (output : Option String) (o o' : Report × δ) : Prop where
  ending : o.1.ending = o'.1.ending
  files : o.2 = o'.2
  result : output = none → o.1.stdout = o'.1.stdout

theorem SameEffect.refl {δ : Type} (output : Option String) (o : Report × δ) :
    SameEffect output o o := ⟨rfl, rfl, fun _ => rfl⟩

theorem SameEffect.after {δ : Type} {output : Option String} {o o' : Report × δ}
    (h : SameEffect output o o') (remarks : String) :
    SameEffect output (o.1.after remarks, o.2) (o'.1.after remarks, o'.2) :=
  ⟨h.ending, h.files, h.result⟩

theorem SameEffect.failure (r : Request) (f : Fault) (printed printed' : String) {δ : Type}
    (files : δ) : SameEffect r.output (r.failure f printed, files)
      (r.aloud.failure f printed', files) := by
  have hending : (r.failure f printed).ending = (r.aloud.failure f printed').ending := by
    unfold Request.failure
    cases f.evaluation? <;> rfl
  refine ⟨hending, rfl, fun hout => ?_⟩
  have hout' : r.aloud.output = none := hout
  show (r.failure f printed).stdout = (r.aloud.failure f printed').stdout
  rw [r.failure_stdout, r.aloud.failure_stdout, hout, hout']
  rfl

theorem SameEffect.save {δ : Type} (d : Disk δ) (files : δ)
    (name result printed printed' : String) :
    SameEffect (some name) (d.save files ⟨name, result, printed⟩)
      (d.save files ⟨name, result, printed'⟩) := by
  unfold Disk.save
  cases d.write files name (Text.Utf8.encode result) with
  | ok files' => exact ⟨rfl, rfl, nofun⟩
  | error f => cases f <;> exact ⟨rfl, rfl, nofun⟩

section
variable [Text.CharacterNames] {δ : Type} {words words' : List String} {r : Request}

end

/-- A host that keeps the line ends of standard input gets them back. -/
example : (Console.run ⟨.kept, fun _ => ""⟩ ["x", "y"] [97, 13, 10] .empty).1 =
    ⟨.exit 0, "a\r\n", ""⟩ := by
  decide +kernel

end FindReplace.CommandLine
