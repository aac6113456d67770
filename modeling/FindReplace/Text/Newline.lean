/-!
Line ends. A text is read with every line end as a newline: a carriage return, and a carriage return
with the newline after it.
-/
namespace FindReplace.Text

def readNewlines : List Char → List Char
  | [] => []
  | '\r' :: '\n' :: rest => '\n' :: readNewlines rest
  | c :: rest => (if c = '\r' then '\n' else c) :: readNewlines rest

theorem not_mem_readNewlines (s : List Char) : '\r' ∉ readNewlines s := by
  fun_induction readNewlines s with
  | case1 => simp
  | case2 rest ih => simpa using ih
  | case3 c rest _ ih =>
    rw [List.mem_cons, not_or]
    refine ⟨?_, ih⟩
    split
    · decide
    · next h => exact fun hc => h hc.symm

theorem readNewlines_of_not_mem {s : List Char} (h : '\r' ∉ s) : readNewlines s = s := by
  fun_induction readNewlines s with
  | case1 => rfl
  | case2 rest _ => simp at h
  | case3 c rest _ ih =>
    rw [List.mem_cons, not_or] at h
    rw [if_neg fun hc => h.1 hc.symm, ih h.2]

end FindReplace.Text
