import FindReplace.Proofs.Delivery
import FindReplace.Proofs.Provenance
import FindReplace.Proofs.Refusals

/-!
# Replacing in place

A file can be the input of a run and its output. Bounded runs of that kind compose through the file
as they do in one process, although what is read is not always what was written: line ends are
changed on reading and not on writing. They are changed at most once. What a run reads has no
carriage return, a template without one puts none in, and a text without one is read as it was
written.

The file may go by any names that lead to it, and another one in each run. Files whose bytes are no
text are left aside, and so are templates with carriage returns, for which runs need not compose.
-/
namespace FindReplace.CommandLine
open Text.Utf8 (Bytes)

/-- The words ask for at most `limit` replacements in the file at `path`. Whether the run is verbose
is left open. -/
def AsksInPlace (files : FileStore) (path : Path) (pattern template : String) (limit : Nat)
    (words : List String) : Prop :=
  ∃ name output verbose,
    readWords words =
      .ok ⟨some pattern, some template, some name, some limit, some output, verbose⟩ ∧
    files.LeadsTo name path ∧ files.LeadsTo output path

/-- The file at `path` has a text that runs read as it is. -/
structure Settled (files : FileStore) (path : Path) (text : String) : Prop where
  file : files.find? path = some (.file text.toUTF8.data.toList)
  plain : '\r' ∉ text.toList
  read : ∀ name, files.LeadsTo name path →
    ∀ (r : Request) (ends : LineEnds), r.subject ends (files.read name) = .ok text

def Rewrites (r : Regex) (template : String) (limit : Nat) (before after : String) : Prop :=
  (replaceUpTo noHost false r (.template template) limit limit before ()).result = .ok after

section
variable {r : Regex} {template before mid after : String} {m n limit : Nat}

theorem Rewrites.add (h : Rewrites r template m before mid) (h' : Rewrites r template n mid after) :
    Rewrites r template (m + n) before after := by
  have hadd := replaceUpTo_add noHost false r (.template template) m n (m + n) m n before ()
  rw [Outcome.andThen_of_ok h] at hadd
  exact hadd.result.symm.trans h'

theorem Rewrites.unique (h : Rewrites r template limit before mid)
    (h' : Rewrites r template limit before after) : mid = after := by
  rw [Rewrites, h] at h'
  exact Except.ok.inj h'

theorem Rewrites.plain (h : Rewrites r template limit before after)
    (hbefore : '\r' ∉ before.toList) (htemplate : '\r' ∉ template.toList) :
    '\r' ∉ after.toList := by
  have hover : ∀ s : String, '\r' ∉ s.toList ↔ Over (· ≠ '\r') s := fun s =>
    ⟨fun hs c hc heq => hs (heq ▸ hc), fun hs hc => hs _ hc rfl⟩
  exact (hover after).2 (((hover before).1 hbefore).replaceUpTo ((hover template).1 htemplate) h)

end

section
variable {files : FileStore} {path : Path} {pattern template text raw : String} {limit : Nat}
variable {words : List String} {r : Regex}

theorem AsksInPlace.put (h : AsksInPlace files path pattern template limit words)
    (content : Bytes) :
    AsksInPlace (files.put path (.file content)) path pattern template limit words := by
  obtain ⟨name, output, verbose, hwords, hname, houtput⟩ := h
  exact ⟨name, output, verbose, hwords, hname.put content, houtput.put content⟩

theorem settled_put (files : FileStore) (path : Path) (h : '\r' ∉ text.toList) :
    Settled (files.put path (.file text.toUTF8.data.toList)) path text := by
  have hfile : (files.put path (.file text.toUTF8.data.toList)).find? path =
      some (.file text.toUTF8.data.toList) := by
    rw [FileStore.find?_put, if_pos rfl]
  refine ⟨hfile, h, fun name hname request ends => ?_⟩
  rw [hname.read_eq hfile, request.subject_toUTF8, Request.text_eq (.inr (.inr h)),
    Text.readNewlines_of_not_mem h, String.ofList_toList]

/-- A run in place succeeds, and leaves in the file what its replacements make of the text that the
file held. -/
theorem run_in_place [Text.CharacterNames] (c : Console)
    (h : AsksInPlace files path pattern template limit words)
    (hr : patternOf (.text pattern : Value Empty) = .ok r) (htemplate : '\r' ∉ template.toList)
    (hfile : files.find? path = some (.file raw.toUTF8.data.toList)) (stdin : Bytes) :
    ∃ after, Rewrites r template limit (String.ofList (Text.readNewlines raw.toList)) after ∧
      '\r' ∉ after.toList ∧ (c.run words stdin files).1.ending = .exit 0 ∧
        (c.run words stdin files).2 = files.put path (.file after.toUTF8.data.toList) := by
  obtain ⟨name, output, verbose, hwords, hname, houtput⟩ := h
  let request : Request :=
    ⟨some pattern, some template, some name, some limit, some output, verbose⟩
  let before := String.ofList (Text.readNewlines raw.toList)
  obtain ⟨after, printed, hrun⟩ :=
    replaceUpTo_template noHost false r template limit limit before ()
  have hrewrites : Rewrites r template limit before after := by rw [Rewrites, hrun]
  have hcall : (request.call false before).result = .ok after := by
    rw [← hrewrites]
    exact congrArg Outcome.result
      (replace_eq_replaceUpTo noHost false true hr rfl before limit ())
  have hreads : Reads (FileStore.machine c) words stdin files request before := by
    refine ⟨hwords, ?_⟩
    change request.subject c.lineEnds (files.read name) = .ok before
    rw [hname.read_eq hfile]
    exact request.subject_toUTF8 c.lineEnds raw
  have hwrite : FileStore.disk.write files output (Text.Utf8.encode after) =
      .ok (files.put path (.file after.toUTF8.data.toList)) := by
    rw [Text.Utf8.encode_eq]
    exact houtput.write_eq _
  have hsaved := hreads.run_of_saved ((request.result_eq before false).trans hcall) rfl
  have hsave : (FileStore.machine c).save files ⟨output, after, request.shown before⟩ =
      (Writing.report ⟨output, after, request.shown before⟩ (.ok ()),
        files.put path (.file after.toUTF8.data.toList)) := by
    simp only [Disk.save, FileStore.machine, hwrite]
  rw [hsave] at hsaved
  have hbefore : '\r' ∉ before.toList := by
    rw [String.toList_ofList]
    exact Text.not_mem_readNewlines _
  refine ⟨after, hrewrites, hrewrites.plain hbefore htemplate, ?_, ?_⟩
  · rw [Console.run, hsaved]
    rfl
  · rw [Console.run, hsaved]

end

/-- Two runs in place, one after the other, come to the same as one whose limit is the sum of
theirs: all succeed and leave the same files. What a run leaves in the file is read as it is by the
next one, whatever line ends the file had at first. -/
theorem run_in_place_add [Text.CharacterNames] (c : Console) {files : FileStore} {path : Path}
    {pattern template raw : String} {m n : Nat} {first second single : List String} {r : Regex}
    (hfirst : AsksInPlace files path pattern template m first)
    (hsecond : AsksInPlace files path pattern template n second)
    (hsingle : AsksInPlace files path pattern template (m + n) single)
    (hr : patternOf (.text pattern : Value Empty) = .ok r) (htemplate : '\r' ∉ template.toList)
    (hfile : files.find? path = some (.file raw.toUTF8.data.toList))
    (stdin stdin' stdin'' : Bytes) :
    let o := c.run first stdin files
    let o' := c.run second stdin' o.2
    let o'' := c.run single stdin'' files
    (o.1.ending = .exit 0 ∧ o'.1.ending = .exit 0 ∧ o''.1.ending = .exit 0) ∧ o'.2 = o''.2 ∧
      (∃ text, Settled o.2 path text) ∧ ∃ text, Settled o''.2 path text := by
  intro o o' o''
  obtain ⟨mid, hmid, hplain, hending, hfiles⟩ := run_in_place c hfirst hr htemplate hfile stdin
  obtain ⟨last, hlast, hplain', hending', hfiles'⟩ :=
    run_in_place c (hsecond.put mid.toUTF8.data.toList) hr htemplate
      (settled_put files path hplain).file stdin'
  obtain ⟨whole, hwhole, hplain'', hending'', hfiles''⟩ :=
    run_in_place c hsingle hr htemplate hfile stdin''
  rw [Text.readNewlines_of_not_mem hplain, String.ofList_toList] at hlast
  have hsame : last = whole := (hmid.add hlast).unique hwhole
  rw [← hfiles] at hending' hfiles'
  refine ⟨⟨hending, hending', hending''⟩, ?_, ⟨mid, ?_⟩, ⟨whole, ?_⟩⟩
  · rw [hfiles', hfiles'', hfiles, FileStore.put_put, hsame]
  · rw [hfiles]
    exact settled_put files path hplain
  · rw [hfiles'']
    exact settled_put files path hplain''

/-- All kinds of line ends, and a match that is found again in what was put in its place. The second
run has another name for the file. -/
theorem run_in_place_add_line_ends :
    let files : FileStore := ⟨[(["f"], .file "a\r\na\ra".toUTF8.data.toList)]⟩
    let first := ["-l", "1", "a", "$0b", "f", "-o", "f"]
    let second := ["-x", "-l", "1", "a", "$0b", "./f", "-o", "f"]
    let single := ["-l", "2", "a", "$0b", "f", "-o", "f"]
    let r : Regex := ⟨"a", .seq (.test (.one 97 false ⟨false, false⟩)) .empty, 0, []⟩
    let o := run first [] files
    let o' := run second [] o.2
    let o'' := run single [] files
    (AsksInPlace files ["f"] "a" "$0b" 1 first ∧ AsksInPlace files ["f"] "a" "$0b" 1 second ∧
      AsksInPlace files ["f"] "a" "$0b" (1 + 1) single ∧
      patternOf (.text "a" : Value Empty) = .ok r ∧ '\r' ∉ "$0b".toList ∧
      files.find? ["f"] = some (.file "a\r\na\ra".toUTF8.data.toList)) ∧
    (o.1.ending = .exit 0 ∧ o'.1.ending = .exit 0 ∧ o''.1.ending = .exit 0) ∧ o'.2 = o''.2 ∧
      (∃ text, Settled o.2 ["f"] text) ∧ ∃ text, Settled o''.2 ["f"] text := by
  intro files first second single r o o' o''
  have hname : files.LeadsTo "f" ["f"] := ⟨_, rfl, rfl⟩
  have hname' : files.LeadsTo "./f" ["f"] := ⟨_, rfl, rfl⟩
  have hfirst : AsksInPlace files ["f"] "a" "$0b" 1 first := ⟨_, _, false, rfl, hname, hname⟩
  have hsecond : AsksInPlace files ["f"] "a" "$0b" 1 second := ⟨_, _, true, rfl, hname', hname⟩
  have hsingle : AsksInPlace files ["f"] "a" "$0b" (1 + 1) single :=
    ⟨_, _, false, rfl, hname, hname⟩
  have hr : patternOf (.text "a" : Value Empty) = .ok r := rfl
  have htemplate : '\r' ∉ "$0b".toList := by decide
  have hfile : files.find? ["f"] = some (.file "a\r\na\ra".toUTF8.data.toList) := rfl
  exact ⟨⟨hfirst, hsecond, hsingle, hr, htemplate, hfile⟩,
    run_in_place_add .plain hfirst hsecond hsingle hr htemplate hfile [] [] []⟩

end FindReplace.CommandLine
