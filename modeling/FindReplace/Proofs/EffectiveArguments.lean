import FindReplace.Proofs.Invocation
import Mathlib.Data.List.GetD

/-!
# The effective arguments as a list

What a call makes of its arguments is a view of one list: the context value, if it is used, and the
arguments given. Counting and looking up by an index, which shifts the index when the context value
is in front, agree with that list at every index, negative ones included.

The context value is used only where a required argument is left out. So with it in front there are
never more arguments than required ones, and never more than a signature allows. This is about any
signature, also one that no text writes.
-/
namespace FindReplace

variable {κ : Type}

namespace Signature

theorem required_eq (sig : Signature) :
    sig.required = (sig.parameters.filter fun p => '?' ∉ p.modifiers).length := by
  unfold required
  congr 2
  funext p
  simp [Parameter.isOptional]

theorem required_le (sig : Signature) : sig.required ≤ sig.parameters.length :=
  List.length_filter_le _ _

theorem required_le_maximum {sig : Signature} {most : Nat} (h : sig.maximum = some most) :
    sig.required ≤ most := by
  unfold maximum at h
  split at h
  · cases h
  · cases h
    exact sig.required_le

theorem takesContext_iff {sig : Signature} {given : Nat} :
    sig.takesContext given = true ↔
      (∃ p, sig.parameters.head? = some p ∧ '-' ∈ p.modifiers) ∧ given < sig.required := by
  unfold takesContext
  cases sig.parameters with
  | nil => simp
  | cons p ps => simp [Parameter.usesContext]

end Signature

namespace Arguments

theorem isNoContext_iff {v : Value κ} : isNoContext v = true ↔ v = .sentinel .noContext := by
  unfold isNoContext
  split <;> simp_all

theorem contextUsed_resolve_iff {sig : Signature} {given : List (Value κ)} {context : Value κ} :
    (resolve sig given context).contextUsed = true ↔
      context ≠ .sentinel .noContext ∧ sig.takesContext given.length = true := by
  rw [resolve, Bool.and_eq_true, Bool.not_eq_true', Bool.eq_false_iff, Ne, isNoContext_iff]

theorem atIndex_of_neg (given : List (Value κ)) {i : Int} (h : i < 0) :
    atIndex given i = .sentinel .missing := by
  obtain ⟨n, rfl⟩ := Int.eq_negSucc_of_lt_zero h
  rfl

theorem get_of_neg (a : Arguments κ) {i : Int} (h : i < 0) : a.get i = .sentinel .missing := by
  unfold get
  split
  · rw [if_neg (Int.ne_of_lt h)]
    exact atIndex_of_neg _ (by omega)
  · exact atIndex_of_neg _ h

theorem get_of_length_le (a : Arguments κ) {i : Int} (h : (a.toList.length : Int) ≤ i) :
    a.get i = .sentinel .missing := by
  obtain ⟨n, rfl⟩ := Int.eq_ofNat_of_zero_le (a := i) (by omega)
  rw [get_natCast]
  exact List.getD_eq_default _ _ (by omega)

theorem get_of_lt (a : Arguments κ) {n : Nat} (h : n < a.toList.length) :
    a.get n = a.toList[n] := by
  rw [get_natCast]
  exact List.getD_eq_getElem _ _ h

/-- The context value stands in for a required argument. -/
theorem count_le_required {sig : Signature} {given : List (Value κ)} {context : Value κ}
    (h : (resolve sig given context).contextUsed = true) :
    (resolve sig given context).count ≤ sig.required := by
  have hfew := (Signature.takesContext_iff.1 (contextUsed_resolve_iff.1 h).2).2
  rw [count, if_pos h]
  exact hfew

/-- The arguments of a call are a view of one list, whatever the signature, the arguments given and
the context value. -/
theorem resolve_views (sig : Signature) (given : List (Value κ)) (context : Value κ) :
    let a := resolve sig given context
    (a.contextUsed = true ↔ context ≠ .sentinel .noContext ∧
        (∃ p, sig.parameters.head? = some p ∧ '-' ∈ p.modifiers) ∧
        given.length < (sig.parameters.filter fun p => '?' ∉ p.modifiers).length) ∧
      a.toList = (if a.contextUsed then context :: given else given) ∧
      a.count = a.toList.length ∧ a.given.length = given.length ∧
      (∀ (n : Nat) (hn : n < a.toList.length), a.get n = a.toList[n]) ∧
      (∀ i : Int, i < 0 ∨ (a.toList.length : Int) ≤ i → a.get i = .sentinel .missing) ∧
      (a.contextUsed = true →
        a.count ≤ sig.required ∧ ∀ most, sig.maximum = some most → a.count ≤ most) := by
  intro a
  refine ⟨?_, rfl, a.length_toList.symm, rfl, fun n hn => a.get_of_lt hn, ?_, ?_⟩
  · rw [contextUsed_resolve_iff, Signature.takesContext_iff, Signature.required_eq]
  · intro i hi
    cases hi with
    | inl hneg => exact a.get_of_neg hneg
    | inr hlength => exact a.get_of_length_le hlength
  · intro hused
    have hcount := count_le_required hused
    constructor
    · exact hcount
    · intro most hmost
      exact Nat.le_trans hcount (Signature.required_le_maximum hmost)

end Arguments

end FindReplace
