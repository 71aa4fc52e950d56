import ControlSurface.Label

/- Names made unique by a number. A stem that is taken gets the least number from one on
   that makes it free. Parameters are named so among all parameters, nodes of the panel
   among their siblings. The name found is never one that is taken (`fresh_not_mem`),
   because the numbered names differ from each other and outnumber the taken ones. -/
namespace ControlSurface.Naming

/-- A stem with a number behind it. -/
def numbered (stem : String) (i : Nat) : String := stem ++ toString i

/-- The first free name among the stem with `i`, `i + 1`, and so on. Among `fuel` numbers more
    than there are taken names one is free. -/
def firstFree (taken : List String) (stem : String) : Nat → Nat → String
  | 0, i => numbered stem i
  | fuel + 1, i =>
    if taken.contains (numbered stem i) then firstFree taken stem fuel (i + 1)
    else numbered stem i

/-- The stem itself where it is free, else the stem with the least number that makes it free. -/
def fresh (taken : List String) (stem : String) : String :=
  if taken.contains stem then firstFree taken stem taken.length 1 else stem

theorem numbered_inj {stem : String} {i j : Nat} (h : numbered stem i = numbered stem j) :
    i = j := by
  have hd : Nat.toDigits 10 i = Nat.toDigits 10 j := by
    simpa [numbered, Nat.toString_eq_repr] using congrArg String.toList h
  simpa using congrArg (fun ds => Nat.ofDigitChars 10 ds 0) hd

/-- The search stops at the least number whose name is free, or where the numbers end. -/
theorem firstFree_eq_numbered (taken : List String) (stem : String) (fuel i : Nat) :
    ∃ j, i ≤ j ∧ j ≤ i + fuel ∧ firstFree taken stem fuel i = numbered stem j ∧
      (∀ k, i ≤ k → k < j → numbered stem k ∈ taken) ∧
      (j < i + fuel → numbered stem j ∉ taken) := by
  induction fuel generalizing i with
  | zero => exact ⟨i, by omega, by omega, rfl, by omega, by omega⟩
  | succ fuel ih =>
    by_cases hi : numbered stem i ∈ taken
    · obtain ⟨j, hij, hj, he, hbelow, hfree⟩ := ih (i + 1)
      refine ⟨j, by omega, by omega, ?_, fun k hk hkj => ?_, fun h => hfree (by omega)⟩
      · simp [firstFree, hi, he]
      · by_cases hik : k = i
        · exact hik ▸ hi
        · exact hbelow k (by omega) hkj
    · exact ⟨i, by omega, by omega, by simp [firstFree, hi], by omega, fun _ => hi⟩

/-- Numbered names that are all taken are no more than there are taken names. -/
theorem le_length_of_numbered_mem (stem : String) (i n : Nat) (taken : List String)
    (h : ∀ k, i ≤ k → k < i + n → numbered stem k ∈ taken) : n ≤ taken.length := by
  induction n generalizing taken with
  | zero => exact Nat.zero_le _
  | succ n ih =>
    have hlast : numbered stem (i + n) ∈ taken := h (i + n) (by omega) (by omega)
    have hrest := ih (taken.erase (numbered stem (i + n))) fun k hk hkn =>
      (List.mem_erase_of_ne fun he => by have := numbered_inj he; omega).2
        (h k hk (by omega))
    have hpos := List.length_pos_of_mem hlast
    rw [List.length_erase_of_mem hlast] at hrest
    omega

theorem fresh_not_mem (taken : List String) (stem : String) : fresh taken stem ∉ taken := by
  by_cases hs : stem ∈ taken
  · obtain ⟨j, hj, hle, he, hbelow, hfree⟩ := firstFree_eq_numbered taken stem taken.length 1
    have hfresh : fresh taken stem = numbered stem j := by simp [fresh, hs, he]
    rw [hfresh]
    intro hmem
    by_cases hlt : j < 1 + taken.length
    · exact hfree hlt hmem
    · have := le_length_of_numbered_mem stem 1 (taken.length + 1) taken fun k hk hkn => by
        by_cases hkj : k = j
        · exact hkj ▸ hmem
        · exact hbelow k hk (by omega)
      omega
  · simp [fresh, hs]

/-- The parameter names that are handed out or set aside. -/
structure Allocator where
  used : List String
deriving Repr, DecidableEq

namespace Allocator

/-- Nothing is used. -/
def empty : Allocator := ⟨[]⟩

/-- Whether a name is used. -/
def contains (a : Allocator) (name : String) : Bool := a.used.contains name

/-- Names are set aside. -/
def reserve (a : Allocator) (names : List String) : Allocator := ⟨names ++ a.used⟩

/-- The name for a label, which is used from then on. -/
def allocate (a : Allocator) (label : String) : String × Allocator :=
  let name := fresh a.used (Label.parameterStem label)
  (name, ⟨name :: a.used⟩)

end Allocator

end ControlSurface.Naming
