import FindReplace.CommandLine.Run
import FindReplace.Proofs.Files
import FindReplace.Proofs.Printing

/-!
# How runs of the command line end

A run goes through the same stages whatever it is asked for: the words are made out, the input is
read as a text, matches are replaced in it, and the result is printed or saved. Each stage can be
the last. `Ends` lists what a run leaves in each case, and there are no other cases, whatever the
host does with names, with line ends of standard input and with patterns it remarks on. Saving is
the only stage that writes, and no stage comes after it that could fail, so a run that does not
succeed leaves all files as they were.

Why a stage fails is said where it is about that stage; here it only counts that it does. A host may
refuse any name, but is taken not to fail in the midst of writing, and to decode standard input as
strictly as files.
-/
namespace FindReplace.CommandLine
open Text.Utf8 (Bytes)

variable {δ : Type}

theorem Request.stdout_of_subject {r : Request} {ends : LineEnds} {input : Input}
    {report : Report} (h : r.subject ends input = .error report) : report.stdout = "" := by
  unfold Request.subject at h
  split at h
  · split at h
    · cases h
      rfl
    · cases h
      rfl
  · split at h
    · cases h
      rfl
    · cases h

theorem Request.failure_stdout (r : Request) (f : Fault) (printed : String) :
    (r.failure f printed).stdout = if r.output.isSome then printed else "" := by
  unfold Request.failure
  cases r.output.isSome with
  | false => cases f.evaluation? <;> rfl
  | true => cases f.evaluation? <;> rfl

theorem Writing.report_stdout_of_error (w : Writing) (f : OpenFault) :
    (w.report (.error f)).stdout = w.printed := by
  cases f <;> rfl

section
variable [Text.CharacterNames]

def Request.shown (r : Request) (subject : String) : String :=
  renderPasses (r.replace subject).printed

theorem Request.call_quiet (r : Request) (verbose : Bool) (subject : String) :
    (r.call verbose subject).quiet = r.call false subject :=
  replace_quiet noHost verbose true (.text subject) (givenValue r.pattern)
    (givenValue r.replacement) (limitValue r.limit) ()

theorem Request.shown_of_not_verbose {r : Request} (h : r.verbose = false) (subject : String) :
    r.shown subject = "" := by
  have hprinted : (r.replace subject).printed = [] := by
    rw [Request.replace, h, ← r.call_quiet false subject]
    rfl
  rw [Request.shown, hprinted, renderPasses]

/-- The words ask for `r`, and the input for it is the text `subject`. -/
structure Reads (m : Machine δ) (words : List String) (stdin : Bytes) (files : δ) (r : Request)
    (subject : String) : Prop where
  request : readWords words = .ok r
  text : r.subject m.lineEnds (r.input m.toDisk stdin files) = .ok subject

section
variable {m : Machine δ} {words : List String} {stdin : Bytes} {files : δ} {r : Request}
variable {subject result name : String} {f : Fault} {stop : Stop} {report : Report}

theorem run_of_stop (h : readWords words = .error stop) :
    m.run words stdin files = (stop.report, files) := by
  rw [Machine.run, h]

theorem run_of_unread (hr : readWords words = .ok r)
    (h : r.subject m.lineEnds (r.input m.toDisk stdin files) = .error report) :
    m.run words stdin files = (report, files) := by
  simp only [Machine.run, hr, h]

theorem Reads.run_eq (h : Reads m words stdin files r subject) :
    m.run words stdin files = m.runRead r subject files := by
  simp only [Machine.run, h.request, h.text]

theorem Reads.run_of_error (h : Reads m words stdin files r subject)
    (hresult : (r.replace subject).result = .error f) :
    m.run words stdin files = ((r.failure f (r.shown subject)).after (m.remarksOn r), files) := by
  simp only [h.run_eq, Machine.runRead, Request.work, hresult, Request.shown]

theorem Reads.run_of_printed (h : Reads m words stdin files r subject)
    (hresult : (r.replace subject).result = .ok result) (hout : r.output = none) :
    m.run words stdin files =
      (Report.after ⟨.exit 0, result, r.shown subject⟩ (m.remarksOn r), files) := by
  simp only [h.run_eq, Machine.runRead, Request.work, hresult, hout, Request.shown]

theorem Reads.run_of_saved (h : Reads m words stdin files r subject)
    (hresult : (r.replace subject).result = .ok result) (hout : r.output = some name) :
    m.run words stdin files =
      ((m.save files ⟨name, result, r.shown subject⟩).1.after (m.remarksOn r),
        (m.save files ⟨name, result, r.shown subject⟩).2) := by
  simp only [h.run_eq, Machine.runRead, Request.work, hresult, hout, Request.shown]

end

/-- What runs leave: a report, and the files. -/
inductive Ends (m : Machine δ) (words : List String) (stdin : Bytes) (files : δ) :
    Report × δ → Prop
  | stopped {stop : Stop} :
      readWords words = .error stop → Ends m words stdin files (stop.report, files)
  | unread {r : Request} {report : Report} :
      readWords words = .ok r →
      r.subject m.lineEnds (r.input m.toDisk stdin files) = .error report →
      Ends m words stdin files (report, files)
  | failed {r : Request} {subject : String} {f : Fault} :
      Reads m words stdin files r subject → (r.replace subject).result = .error f →
      Ends m words stdin files ((r.failure f (r.shown subject)).after (m.remarksOn r), files)
  | printed {r : Request} {subject result : String} :
      Reads m words stdin files r subject → (r.replace subject).result = .ok result →
      r.output = none → Ends m words stdin files
        (Report.after ⟨.exit 0, result, r.shown subject⟩ (m.remarksOn r), files)
  | refused {r : Request} {subject result name : String} {f : OpenFault} :
      Reads m words stdin files r subject → (r.replace subject).result = .ok result →
      r.output = some name → m.write files name (Text.Utf8.encode result) = .error f →
      Ends m words stdin files
        ((Writing.report ⟨name, result, r.shown subject⟩ (.error f)).after (m.remarksOn r), files)
  | saved {r : Request} {subject result name : String} {files' : δ} :
      Reads m words stdin files r subject → (r.replace subject).result = .ok result →
      r.output = some name → m.write files name (Text.Utf8.encode result) = .ok files' →
      Ends m words stdin files
        ((Writing.report ⟨name, result, r.shown subject⟩ (.ok ())).after (m.remarksOn r), files')

theorem run_ends (m : Machine δ) (words : List String) (stdin : Bytes) (files : δ) :
    Ends m words stdin files (m.run words stdin files) := by
  cases hwords : readWords words with
  | error stop =>
      rw [run_of_stop hwords]
      exact .stopped hwords
  | ok r =>
      cases htext : r.subject m.lineEnds (r.input m.toDisk stdin files) with
      | error report =>
          rw [run_of_unread hwords htext]
          exact .unread hwords htext
      | ok subject =>
          have hreads : Reads m words stdin files r subject := ⟨hwords, htext⟩
          cases hresult : (r.replace subject).result with
          | error f =>
              rw [hreads.run_of_error hresult]
              exact .failed hreads hresult
          | ok result =>
              cases hout : r.output with
              | none =>
                  rw [hreads.run_of_printed hresult hout]
                  exact .printed hreads hresult hout
              | some name =>
                  rw [hreads.run_of_saved hresult hout, Disk.save]
                  cases hwrite : m.write files name (Text.Utf8.encode result) with
                  | error f => exact .refused hreads hresult hout hwrite
                  | ok files' => exact .saved hreads hresult hout hwrite

/-- What the standard output of a run that does not succeed can hold: nothing, or the blocks that
were asked for while the result was to go to a file. -/
inductive LeftOnStdout (m : Machine δ) (words : List String) (stdin : Bytes) (files : δ) :
    String → Prop
  | nothing : LeftOnStdout m words stdin files ""
  | blocks {r : Request} {subject : String} :
      Reads m words stdin files r subject → r.output.isSome = true → r.verbose = true →
      LeftOnStdout m words stdin files (r.shown subject)

section
variable {m : Machine δ} {words : List String} {stdin : Bytes} {files : δ} {o : Report × δ}

theorem Reads.leftOnStdout {r : Request} {subject : String}
    (h : Reads m words stdin files r subject) (hout : r.output.isSome = true) :
    LeftOnStdout m words stdin files (r.shown subject) := by
  cases hverbose : r.verbose with
  | false =>
      rw [r.shown_of_not_verbose hverbose subject]
      exact .nothing
  | true => exact .blocks h hout hverbose

/-- A run that does not succeed has not come to writing. -/
theorem Ends.of_ne_exit_zero (h : Ends m words stdin files o) (hne : o.1.ending ≠ .exit 0) :
    o.2 = files ∧ LeftOnStdout m words stdin files o.1.stdout := by
  cases h with
  | @stopped stop _ =>
      refine ⟨rfl, ?_⟩
      cases stop with
      | help => exact absurd rfl hne
      | version => exact absurd rfl hne
      | fault f => exact .nothing
  | unread _ htext =>
      refine ⟨rfl, ?_⟩
      rw [Request.stdout_of_subject htext]
      exact .nothing
  | @failed r subject f hreads _ =>
      refine ⟨rfl, ?_⟩
      rw [Report.stdout_after, r.failure_stdout]
      split
      · next hout => exact hreads.leftOnStdout hout
      · exact .nothing
  | printed _ _ _ => exact absurd rfl hne
  | @refused r subject result name f hreads _ hout _ =>
      refine ⟨rfl, ?_⟩
      rw [Report.stdout_after, Writing.report_stdout_of_error]
      exact hreads.leftOnStdout (by rw [hout]; rfl)
  | saved _ _ _ _ => exact absurd rfl hne

/-- A run writes at most once, to the name given for the output. -/
theorem Ends.changes (h : Ends m words stdin files o) :
    o.2 = files ∨ ∃ r name content, readWords words = .ok r ∧ r.output = some name ∧
      m.write files name content = .ok o.2 := by
  cases h with
  | stopped _ => exact .inl rfl
  | unread _ _ => exact .inl rfl
  | failed _ _ => exact .inl rfl
  | printed _ _ _ => exact .inl rfl
  | refused _ _ _ _ => exact .inl rfl
  | saved hreads _ hout hwrite => exact .inr ⟨_, _, _, hreads.request, hout, hwrite⟩

end

/-- Runs on any host. One that does not succeed changes no file, and one that does changes at most
what it writes under the name given for the output; in a store of files, that is one place. -/
theorem run_keeps_files (m : Machine δ) (words : List String) (stdin : Bytes) (files : δ) :
    let o := m.run words stdin files
    (o.1.ending ≠ .exit 0 → o.2 = files ∧ LeftOnStdout m words stdin files o.1.stdout) ∧
    (o.2 = files ∨ ∃ r name content, readWords words = .ok r ∧ r.output = some name ∧
      m.write files name content = .ok o.2) ∧
    ∀ (c : Console) (store : FileStore) (path : Path),
      (c.run words stdin store).2.find? path ≠ store.find? path →
      ∃ r name, readWords words = .ok r ∧ r.output = some name ∧ store.LeadsTo name path := by
  intro o
  have hends : Ends m words stdin files o := run_ends m words stdin files
  refine ⟨hends.of_ne_exit_zero, hends.changes, fun c store path hchanged => ?_⟩
  have hstore : Ends (FileStore.machine c) words stdin store (c.run words stdin store) :=
    run_ends (FileStore.machine c) words stdin store
  obtain hsame | ⟨r, name, content, hwords, hout, hwrite⟩ := hstore.changes
  · exact absurd (by rw [hsame]) hchanged
  · obtain ⟨target, hleads, hput⟩ := FileStore.write_eq_ok.1 hwrite
    by_cases htarget : path = target
    · exact ⟨r, name, hwords, hout, htarget ▸ hleads⟩
    · have hkept : (c.run words stdin store).2.find? path = store.find? path := by
        rw [hput, FileStore.find?_put, if_neg htarget]
      exact absurd hkept hchanged

end

/-- The result cannot be written over a directory, and the blocks are there all the same. -/
theorem run_keeps_files_directory :
    let words := ["-x", "-l", "1", "a", "b", "f", "-o", "d"]
    let files : FileStore := ⟨[(["f"], .file [97]), (["d"], .directory)]⟩
    let m := FileStore.machine .plain
    let o := m.run words [] files
    (o.1.ending = .exit 1 ∧ o.1.stdout = Pass.render ⟨"a", .ofLimit 1 1, "a", "b"⟩) ∧
      o.2 = files ∧ LeftOnStdout m words [] files o.1.stdout := by
  intro words files m o
  have hending : o.1.ending = .exit 1 := by decide +kernel
  have hstdout : o.1.stdout = Pass.render ⟨"a", .ofLimit 1 1, "a", "b"⟩ := by decide +kernel
  have hne : o.1.ending ≠ .exit 0 := by
    rw [hending]
    exact nofun
  exact ⟨⟨hending, hstdout⟩, (run_keeps_files m words [] files).1 hne⟩

end FindReplace.CommandLine
