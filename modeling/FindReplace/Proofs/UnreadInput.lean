import FindReplace.Proofs.Decoding
import FindReplace.Proofs.Endings

/-!
# Input that is no text

A run whose words are made out ends at its input if that is no text: if the file cannot be opened
under its name, or if the bytes of the file or of standard input are those of no text. Nothing has
been printed or written by then. Only one of these failures is told to the user as a mistake on the
command line, that there is no file of the name. The others leave the program unanswered: a
directory, a name that the host refuses, and bytes that are malformed, wherever they come from. A
host that decodes standard input less strictly than files would let the latter pass; it is left out.
-/
namespace FindReplace.CommandLine
open Text.Utf8 (Bytes)

/-- The file cannot be opened, or its bytes are those of no text. -/
def NoText (input : Input) : Prop := ∀ text : String, input ≠ .ok text.toUTF8.data.toList

/-- A mistake on the command line is told on the error stream, and on no other. -/
structure Report.IsUsageError (report : Report) : Prop where
  ending : report.ending = .exit 2
  stdout : report.stdout = ""
  stderr : ∃ text, report.stderr = "error: " ++ text ++ "\n"

/-- What is reported of an input that is no text, by what is wrong with it. -/
inductive Unread (file : Option String) : Input → Report → Prop
  | missing {name : String} : file = some name → Unread file (.error .missing)
      ⟨.exit 2, "", "error: " ++ ("argument `" ++ name ++ "`: file not found") ++ "\n"⟩
  | closed {name : String} {f : OpenFault} : file = some name → f ≠ .missing →
      Unread file (.error f) ⟨.uncaught (.openFault name f), "", ""⟩
  | malformed {bytes : Bytes} {m : Text.Utf8.Malformed} : Text.Utf8.decode bytes = .error m →
      Unread file (.ok bytes) ⟨.uncaught (.malformed m), "", ""⟩

theorem exists_malformed {bytes : Bytes} (h : NoText (.ok bytes)) :
    ∃ m, Text.Utf8.decode bytes = .error m := by
  cases hdecode : Text.Utf8.decode bytes with
  | error m => exact ⟨m, rfl⟩
  | ok cs => exact absurd (congrArg Except.ok (Text.Utf8.decode_eq_ok.1 hdecode)) (h _)

section
variable {δ : Type} {d : Disk δ} {stdin : Bytes} {files : δ} {r : Request}

theorem Request.file_of_input_error {f : OpenFault} (h : r.input d stdin files = .error f) :
    ∃ name, r.file = some name := by
  unfold Request.input at h
  cases hfile : r.file with
  | none =>
      rw [hfile] at h
      cases h
  | some name => exact ⟨name, rfl⟩

theorem Request.subject_of_noText (ends : LineEnds) (h : NoText (r.input d stdin files)) :
    ∃ report, r.subject ends (r.input d stdin files) = .error report ∧
      Unread r.file (r.input d stdin files) report := by
  cases hinput : r.input d stdin files with
  | error f =>
      obtain ⟨name, hname⟩ := r.file_of_input_error hinput
      by_cases hf : f = .missing
      · subst hf
        refine ⟨_, ?_, .missing hname⟩
        simp only [Request.subject, hname, Option.getD_some, String.append_assoc]
        rfl
      · refine ⟨_, ?_, .closed hname hf⟩
        simp only [Request.subject, hname, Option.getD_some]
  | ok bytes =>
      obtain ⟨m, hm⟩ := exists_malformed (hinput ▸ h)
      refine ⟨_, ?_, .malformed hm⟩
      simp only [Request.subject, hm]

end

section
variable {file : Option String} {input : Input} {report : Report}

theorem Unread.isUsageError_iff (h : Unread file input report) :
    report.IsUsageError ↔ input = .error .missing := by
  cases h with
  | missing _ => exact ⟨fun _ => rfl, fun _ => ⟨rfl, rfl, _, rfl⟩⟩
  | closed _ hf =>
      constructor
      · rintro ⟨hending, -, -⟩
        cases hending
      · intro hmissing
        exact absurd (Except.error.inj hmissing) hf
  | malformed _ =>
      constructor
      · rintro ⟨hending, -, -⟩
        cases hending
      · intro hmissing
        cases hmissing

theorem Unread.eq_uncaught (h : Unread file input report) (hne : input ≠ .error .missing) :
    ∃ u, report = ⟨.uncaught u, "", ""⟩ := by
  cases h with
  | missing _ => exact absurd rfl hne
  | closed _ _ => exact ⟨_, rfl⟩
  | malformed _ => exact ⟨_, rfl⟩

end

/-- A run whose input is no text changes no file and reports what is wrong. It tells it as a mistake
on the command line exactly if there is no file of the name; otherwise it ends unanswered. -/
theorem run_of_noText [Text.CharacterNames] {δ : Type} (m : Machine δ) {words : List String}
    {r : Request} (hwords : readWords words = .ok r) (stdin : Bytes) (files : δ)
    (h : NoText (r.input m.toDisk stdin files)) :
    let o := m.run words stdin files
    o.2 = files ∧ Unread r.file (r.input m.toDisk stdin files) o.1 ∧
      (o.1.IsUsageError ↔ r.input m.toDisk stdin files = .error .missing) ∧
      (r.input m.toDisk stdin files ≠ .error .missing → ∃ u, o.1 = ⟨.uncaught u, "", ""⟩) := by
  intro o
  obtain ⟨report, htext, unread⟩ := r.subject_of_noText m.lineEnds h
  have ho : o = (report, files) := run_of_unread hwords htext
  rw [ho]
  exact ⟨rfl, unread, unread.isUsageError_iff, unread.eq_uncaught⟩

/-- Standard input with a byte that begins no character. -/
theorem run_of_noText_stdin :
    let words := ["a", "b"]
    let r : Request := ⟨some "a", some "b", none, none, none, false⟩
    let m := FileStore.machine .plain
    let o := m.run words [97, 0xFF] .empty
    (readWords words = .ok r ∧ NoText (r.input m.toDisk [97, 0xFF] .empty)) ∧
      o.2 = .empty ∧ o.1 = ⟨.uncaught (.malformed ⟨1, 2, 0xFF, .invalidStart⟩), "", ""⟩ ∧
        ¬o.1.IsUsageError := by
  intro words r m o
  have hwords : readWords words = .ok r := rfl
  have hinput : NoText (r.input m.toDisk [97, 0xFF] .empty) := by
    intro text heq
    have hbytes : ([97, 0xFF] : Bytes) = text.toUTF8.data.toList := Except.ok.inj heq
    have hdecode := Text.Utf8.decode_toUTF8 text
    rw [← hbytes] at hdecode
    cases hdecode
  obtain ⟨hfiles, unread, husage, -⟩ := run_of_noText m hwords [97, 0xFF] .empty hinput
  refine ⟨⟨hwords, hinput⟩, hfiles, rfl, ?_⟩
  rw [husage]
  exact nofun

/-- A directory is named as the input, and the run ends unanswered. -/
theorem directory_not_isUsageError :
    let words := ["a", "b", "d"]
    let r : Request := ⟨some "a", some "b", some "d", none, none, false⟩
    let files : FileStore := ⟨[(["d"], .directory)]⟩
    readWords words = .ok r ∧ NoText (r.input FileStore.disk [] files) ∧
      (run words [] files).1.ending = .uncaught (.openFault "d" .isDirectory) ∧
      ¬(run words [] files).1.IsUsageError := by
  intro words r files
  have hending : (run words [] files).1.ending = .uncaught (.openFault "d" .isDirectory) := rfl
  refine ⟨rfl, fun _ => nofun, hending, ?_⟩
  rintro ⟨husage, -, -⟩
  rw [hending] at husage
  cases husage

end FindReplace.CommandLine
