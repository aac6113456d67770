import FindReplace.CommandLine.Files

/-!
# What writing a file changes

A name leads to one place. Writing puts a file there and touches nothing else, and the name leads to
the same place afterwards, so reading it gives what was written. For this it counts that the parts
of a name before the last lead through directories only: the place written to is none of them.

Two names that lead to one place are not told apart: what is said is about places.
-/
namespace FindReplace.CommandLine
open Text.Utf8 (Bytes)

def Place.path? : Place → Option Path
  | .directory => none
  | .file path _ => some path
  | .vacant path => some path

namespace FileStore

/-- The name leads to a file or to where one can be put. -/
def LeadsTo (s : FileStore) (name : String) (path : Path) : Prop :=
  ∃ place, s.place name = .ok place ∧ place.path? = some path

section
variable {s : FileStore} {base path : Path} {part : String} {rest : List String} {place : Place}

theorem follow_name (s : FileStore) (base : Path) (rest : List String)
    (hpart : ¬(part.isEmpty || part == ".") = true) (hup : ¬(part == "..") = true)
    (hlong : ¬maxPart < part.utf8ByteSize) :
    s.follow base (part :: rest) =
      match s.find? (base ++ [part]) with
      | some .directory => s.follow (base ++ [part]) rest
      | some (.file content) =>
        if rest.isEmpty then .ok (.file (base ++ [part]) content) else .error .notDirectory
      | none => if rest.isEmpty then .ok (.vacant (base ++ [part])) else .error .missing := by
  rw [follow, if_neg hpart, if_neg hup]
  exact if_neg hlong

theorem find?_of_follow (h : s.follow base rest = .ok place) (hpath : place.path? = some path) :
    s.find? path ≠ some .directory := by
  fun_induction follow s base rest with
  | case1 base => cases h; cases hpath
  | case2 base part rest hpart ih => exact ih h
  | case3 base part rest hpart hup hbase hrest => cases h; cases hpath
  | case4 base part rest hpart hup hbase hrest => cases h
  | case5 base part rest hpart hup hbase ih => exact ih h
  | case6 base part rest hpart hup hlong => cases h
  | case7 base part rest hpart hup hlong next hfind ih => exact ih h
  | case8 base part rest hpart hup hlong next content hfind hrest =>
      cases h
      rw [← Option.some.inj hpath, hfind]
      exact nofun
  | case9 base part rest hpart hup hlong next content hfind hrest => cases h
  | case10 base part rest hpart hup hlong next hfind hrest =>
      cases h
      rw [← Option.some.inj hpath, hfind]
      exact nofun
  | case11 base part rest hpart hup hlong next hfind hrest => cases h

theorem eq_file_of_follow (h : s.follow base rest = .ok place) (hpath : place.path? = some path)
    {content : Bytes} (hfile : s.find? path = some (.file content)) :
    place = .file path content := by
  fun_induction follow s base rest with
  | case1 base => cases h; cases hpath
  | case2 base part rest hpart ih => exact ih h
  | case3 base part rest hpart hup hbase hrest => cases h; cases hpath
  | case4 base part rest hpart hup hbase hrest => cases h
  | case5 base part rest hpart hup hbase ih => exact ih h
  | case6 base part rest hpart hup hlong => cases h
  | case7 base part rest hpart hup hlong next hfind ih => exact ih h
  | case8 base part rest hpart hup hlong next found hfind hrest =>
      cases h
      have hnext : next = path := Option.some.inj hpath
      subst hnext
      rw [hfind] at hfile
      cases hfile
      rfl
  | case9 base part rest hpart hup hlong next found hfind hrest => cases h
  | case10 base part rest hpart hup hlong next hfind hrest =>
      cases h
      have hnext : next = path := Option.some.inj hpath
      subst hnext
      rw [hfind] at hfile
      cases hfile
  | case11 base part rest hpart hup hlong next hfind hrest => cases h

/-- After a file is put where the parts lead, they lead to that file. -/
theorem follow_put (h : s.follow base rest = .ok place) (hpath : place.path? = some path)
    (content : Bytes) :
    (s.put path (.file content)).follow base rest = .ok (.file path content) := by
  have hfree := find?_of_follow h hpath
  fun_induction follow s base rest with
  | case1 base => cases h; cases hpath
  | case2 base part rest hpart ih =>
      rw [follow, if_pos hpart]
      exact ih h
  | case3 base part rest hpart hup hbase hrest => cases h; cases hpath
  | case4 base part rest hpart hup hbase hrest => cases h
  | case5 base part rest hpart hup hbase ih =>
      rw [follow, if_neg hpart, if_pos hup, if_neg hbase]
      exact ih h
  | case6 base part rest hpart hup hlong => cases h
  | case7 base part rest hpart hup hlong next hfind ih =>
      have hother : next ≠ path := fun heq => hfree (heq ▸ hfind)
      have hkept : (s.put path (.file content)).find? (base ++ [part]) = some .directory := by
        rw [find?_put, if_neg hother]
        exact hfind
      rw [follow_name _ base rest hpart hup hlong, hkept]
      exact ih h
  | case8 base part rest hpart hup hlong next old hfind hrest =>
      cases h
      have hlast : base ++ [part] = path := Option.some.inj hpath
      rw [follow_name _ base rest hpart hup hlong, hlast, find?_put, if_pos rfl]
      exact if_pos hrest
  | case9 base part rest hpart hup hlong next old hfind hrest => cases h
  | case10 base part rest hpart hup hlong next hfind hrest =>
      cases h
      have hlast : base ++ [part] = path := Option.some.inj hpath
      rw [follow_name _ base rest hpart hup hlong, hlast, find?_put, if_pos rfl]
      exact if_pos hrest
  | case11 base part rest hpart hup hlong next hfind hrest => cases h

end

section
variable {s s' : FileStore} {name : String} {path : Path} {content : Bytes} {place : Place}

/-- A name that leads to a place for a file is followed part by part, in every store. -/
theorem place_eq_follow (h : s.place name = .ok place) (hpath : place.path? = some path) :
    ∃ parts, ∀ other : FileStore, other.place name = other.follow [] parts := by
  unfold FileStore.place at h ⊢
  by_cases hnull : name.toList.contains '\x00' = true
  · rw [if_pos hnull] at h
    cases h
  · rw [if_neg hnull] at h
    by_cases hlong : maxName < name.utf8ByteSize
    · rw [if_pos hlong] at h
      cases h
    · rw [if_neg hlong] at h
      simp only [if_neg hnull, if_neg hlong]
      split at h
      · cases h
      · split at h
        · cases h
          cases hpath
        · cases h
      · exact ⟨_, fun _ => rfl⟩

theorem LeadsTo.place_put (h : s.LeadsTo name path) (content : Bytes) :
    (s.put path (.file content)).place name = .ok (.file path content) := by
  obtain ⟨place, hplace, hpath⟩ := h
  obtain ⟨parts, hparts⟩ := place_eq_follow hplace hpath
  rw [hparts] at hplace ⊢
  exact follow_put hplace hpath content

/-- A name that can be written to leads to one place, and there the file is put. -/
theorem write_eq_ok : s.write name content = .ok s' ↔
    ∃ path, s.LeadsTo name path ∧ s' = s.put path (.file content) := by
  unfold write LeadsTo
  cases s.place name with
  | error f => simp
  | ok place => cases place <;> simp [Place.path?, eq_comm]

theorem LeadsTo.write_eq (h : s.LeadsTo name path) (content : Bytes) :
    s.write name content = .ok (s.put path (.file content)) := write_eq_ok.2 ⟨path, h, rfl⟩

theorem LeadsTo.read_put (h : s.LeadsTo name path) (content : Bytes) :
    (s.put path (.file content)).read name = .ok content := by
  rw [read, h.place_put content]

theorem LeadsTo.put (h : s.LeadsTo name path) (content : Bytes) :
    (s.put path (.file content)).LeadsTo name path := ⟨_, h.place_put content, rfl⟩

theorem LeadsTo.read_eq (h : s.LeadsTo name path) (hfile : s.find? path = some (.file content)) :
    s.read name = .ok content := by
  obtain ⟨place, hplace, hpath⟩ := h
  obtain ⟨parts, hparts⟩ := place_eq_follow hplace hpath
  rw [hparts] at hplace
  rw [read, hparts, hplace, eq_file_of_follow hplace hpath hfile]

end

theorem put_of_isSome {s : FileStore} {p : Path} (h : (s.find? p).isSome) (e : Entry) :
    s.put p e = ⟨s.entries.map fun x => if x.1 = p then (p, e) else x⟩ := if_pos h

theorem put_of_none {s : FileStore} {p : Path} (h : s.find? p = none) (e : Entry) :
    s.put p e = ⟨s.entries ++ [(p, e)]⟩ := by
  rw [put, h]
  rfl

theorem put_put (s : FileStore) (p : Path) (e e' : Entry) :
    (s.put p e).put p e' = s.put p e' := by
  have hthere : ((s.put p e).find? p).isSome := by
    rw [find?_put, if_pos rfl]
    rfl
  rw [put_of_isSome hthere]
  cases h : s.find? p with
  | some old =>
      have hsome : (s.find? p).isSome := Option.isSome_of_eq_some h
      rw [put_of_isSome hsome, put_of_isSome hsome]
      refine congrArg FileStore.mk ((List.map_map ..).trans (List.map_congr_left fun x _ => ?_))
      by_cases hx : x.1 = p <;> simp [hx]
  | none =>
      have hother : ∀ x ∈ s.entries, (if x.1 = p then (p, e') else x) = x := by
        intro x hx
        have hne : p ≠ x.1 := by simpa using List.lookup_eq_none_iff.1 h x hx
        exact if_neg hne.symm
      rw [put_of_none h, put_of_none h, List.map_append, List.map_congr_left hother, List.map_id']
      simp

end FileStore

end FindReplace.CommandLine
