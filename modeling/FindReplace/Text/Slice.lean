/-!
Parts of a text by position. A text being searched is an array of its characters; the parts that are
cut from it are strings again.
-/
namespace FindReplace.Text

def chars (s : String) : Array Char := s.toList.toArray

/-- The characters from position `i` up to, not including, position `j`. -/
def slice (text : Array Char) (i j : Nat) : String := String.ofList (text.extract i j).toList

theorem slice_append_slice {text : Array Char} {i j k : Nat} (hij : i ≤ j) (hjk : j ≤ k) :
    slice text i j ++ slice text j k = slice text i k := by
  rw [slice, slice, slice, ← String.ofList_append, ← Array.toList_append,
    Array.extract_append_extract, Nat.min_eq_left hij, Nat.max_eq_right hjk]

theorem slice_all (s : String) : slice (chars s) 0 (chars s).size = s := by
  simp [slice, chars]

theorem length_slice {text : Array Char} {i j : Nat} (h : j ≤ text.size) :
    (slice text i j).length = j - i := by
  simp only [slice, String.length_ofList, Array.length_toList, Array.size_extract,
    Nat.min_eq_left h]

@[simp] theorem toList_chars (s : String) : (chars s).toList = s.toList := rfl

theorem slice_eq_take_drop (text : Array Char) (i j : Nat) :
    slice text i j = String.ofList ((text.toList.drop i).take (j - i)) := by
  rw [slice, Array.toList_extract, List.extract_eq_take_drop]

theorem slice_to_end (text : Array Char) (i : Nat) :
    slice text i text.size = String.ofList (text.toList.drop i) := by
  have hlength : (text.toList.drop i).length ≤ text.size - i := by simp
  rw [slice_eq_take_drop, List.take_of_length_le hlength]

@[simp] theorem slice_append_left (a b : String) : slice (chars (a ++ b)) 0 a.length = a := by
  simp [slice_eq_take_drop, ← String.length_toList]

@[simp] theorem slice_append_right (a b : String) :
    slice (chars (a ++ b)) a.length (chars (a ++ b)).size = b := by
  simp [slice_to_end, ← String.length_toList]

end FindReplace.Text
