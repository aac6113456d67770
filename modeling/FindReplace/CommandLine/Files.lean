import FindReplace.Text.Utf8

/-!
Files by name. A store knows files with their bytes and directories; a name is followed part by part
from the directory that the store stands for. What lies outside of that directory is not known, and
counts as missing.
-/
namespace FindReplace.CommandLine

open Text (quoted)
open Text.Utf8 (Bytes)

/-- The parts of a name, from the directory of the store on. -/
abbrev Path := List String

inductive Entry
  | file (content : Bytes)
  | directory
  deriving DecidableEq, Repr

structure FileStore where
  entries : List (Path × Entry)
  deriving DecidableEq, Repr

/-- Why a name cannot be opened. -/
inductive OpenFault
  | missing
  | isDirectory
  | notDirectory
  | nameTooLong
  | nullByte
  | denied
  deriving DecidableEq, Repr

def OpenFault.message (name : String) : OpenFault → String
  | .missing => "[Errno 2] No such file or directory: " ++ quoted name
  | .isDirectory => "[Errno 21] Is a directory: " ++ quoted name
  | .notDirectory => "[Errno 20] Not a directory: " ++ quoted name
  | .nameTooLong => "[Errno 36] File name too long: " ++ quoted name
  | .nullByte => "embedded null byte"
  | .denied => "[Errno 13] Permission denied: " ++ quoted name

/-- Where a name leads. -/
inductive Place
  | directory
  | file (path : Path) (content : Bytes)
  | vacant (path : Path)
  deriving DecidableEq, Repr

namespace FileStore

def empty : FileStore := ⟨[]⟩

def find? (s : FileStore) (p : Path) : Option Entry := s.entries.lookup p

/-- The longest part of a name, in bytes. -/
def maxPart : Nat := 255

/-- The longest name, in bytes. -/
def maxName : Nat := 4095

/-- Follows the parts of a name from the directory `base`. -/
def follow (s : FileStore) (base : Path) : List String → Except OpenFault Place
  | [] => .ok .directory
  | part :: rest =>
    if part.isEmpty || part == "." then s.follow base rest
    else if part == ".." then
      if base.isEmpty then if rest.isEmpty then .ok .directory else .error .missing
      else s.follow base.dropLast rest
    else if maxPart < part.utf8ByteSize then .error .nameTooLong
    else
      let path := base ++ [part]
      match s.find? path with
      | some .directory => s.follow path rest
      | some (.file content) =>
        if rest.isEmpty then .ok (.file path content) else .error .notDirectory
      | none => if rest.isEmpty then .ok (.vacant path) else .error .missing

/-- The parts between the slashes of a name. -/
def parts (name : String) : List String :=
  let (current, others) := name.toList.foldr
    (fun c (current, others) =>
      if c = '/' then ([], String.ofList current :: others) else (c :: current, others))
    ([], [])
  String.ofList current :: others

def place (s : FileStore) (name : String) : Except OpenFault Place :=
  if name.toList.contains '\x00' then .error .nullByte
  else if maxName < name.utf8ByteSize then .error .nameTooLong
  else
    match parts name with
    | [""] => .error .missing
    | "" :: rest => if rest.all String.isEmpty then .ok .directory else .error .missing
    | parts => s.follow [] parts

def read (s : FileStore) (name : String) : Except OpenFault Bytes :=
  match s.place name with
  | .error f => .error f
  | .ok .directory => .error .isDirectory
  | .ok (.file _ content) => .ok content
  | .ok (.vacant _) => .error .missing

/-- The store with an entry put in, in place of one that is there. -/
def put (s : FileStore) (p : Path) (e : Entry) : FileStore :=
  if (s.find? p).isSome then ⟨s.entries.map fun x => if x.1 = p then (p, e) else x⟩
  else ⟨s.entries ++ [(p, e)]⟩

theorem lookup_map_put (entries : List (Path × Entry)) (p q : Path) (e : Entry) :
    (entries.map fun x => if x.1 = p then (p, e) else x).lookup q =
      if q = p then (entries.lookup p).map fun _ => e else entries.lookup q := by
  induction entries with
  | nil => simp
  | cons x rest ih =>
    obtain ⟨a, b⟩ := x
    rw [List.map_cons, List.lookup_cons, List.lookup_cons]
    by_cases ha : a = p
    · subst ha
      by_cases hq : q = a
      · simp [hq]
      · rw [if_neg hq] at ih ⊢
        simp only [if_true, List.lookup_cons, beq_eq_false_iff_ne.mpr hq]
        exact ih
    · by_cases hq : q = a
      · subst hq
        simp [ha]
      · rw [if_neg ha, List.lookup_cons]
        simp only [beq_eq_false_iff_ne.mpr hq, beq_eq_false_iff_ne.mpr (Ne.symm ha)]
        exact ih

@[simp] theorem find?_put (s : FileStore) (p q : Path) (e : Entry) :
    (s.put p e).find? q = if q = p then some e else s.find? q := by
  unfold put find?
  split
  · next h =>
    rw [lookup_map_put]
    obtain ⟨old, hold⟩ := Option.isSome_iff_exists.mp h
    simp [hold]
  · next h =>
    rw [List.lookup_append, List.lookup_cons, List.lookup_nil]
    by_cases hq : q = p
    · subst hq
      simp [Option.not_isSome_iff_eq_none.mp h]
    · simp [hq, beq_eq_false_iff_ne.mpr hq]

def write (s : FileStore) (name : String) (content : Bytes) : Except OpenFault FileStore :=
  match s.place name with
  | .error f => .error f
  | .ok .directory => .error .isDirectory
  | .ok (.file path _) => .ok (s.put path (.file content))
  | .ok (.vacant path) => .ok (s.put path (.file content))

end FileStore

/-- How names are read and written on a host. A write that fails changes nothing; one that does not
gives the files as they are then. -/
structure Disk (δ : Type) where
  read : δ → String → Except OpenFault Bytes
  write : δ → String → Bytes → Except OpenFault δ

def FileStore.disk : Disk FileStore := ⟨FileStore.read, FileStore.write⟩

end FindReplace.CommandLine
