import ControlSurface.Build.Run
import Mathlib.Data.List.Basic

/- Addresses without the structural group, and how the operator reads them. The operator puts the
   group back in front of an address that begins with no slash (`absolute`), so where the group is
   taken away no slash may come first. One does where the group below has no name: `/TD//gain`
   becomes `/gain`, and nothing is put back.

   What is proved:
     1. `absoluteChars_withoutRoot_iff`: the operator reads an address as it was if and only if it
        began with a slash, and not with the structural group and another slash.
     2. `withoutRoot_eq_iff`: two addresses become one if and only if they were one, or one of them
        was the other below the structural group.
     3. `canonical_reroots`: both, of the canonical forms of any labels; so addresses that the
        operator reads as they were are told apart as they were.
     4. `gains_merged`: two gains that are two controls with the group are one without it. -/
namespace ControlSurface

namespace Label

/-- An address as the operator reads it: an address that begins with no slash is below the
    structural group. -/
def absoluteChars (cs : List Char) : List Char :=
  if cs.head? = some '/' then cs else structuralRoot ++ cs

/-- An address as the operator reads it, as a string. -/
def absolute (address : String) : String := String.ofList (absoluteChars address.toList)

/-! ## Taking the group away -/

section
variable {cs ds : List Char}

theorem withoutRoot_append (cs : List Char) : withoutRoot (structuralRoot ++ cs) = cs := by
  rw [withoutRoot, if_pos (List.isPrefixOf_iff_prefix.mpr (List.prefix_append _ _)),
    List.drop_left]

theorem withoutRoot_eq_self (h : ¬structuralRoot <+: cs) : withoutRoot cs = cs := by
  rw [withoutRoot, if_neg fun hp => h (List.isPrefixOf_iff_prefix.mp hp)]

theorem structuralRoot_append_ne (cs : List Char) : structuralRoot ++ cs ≠ cs := by
  intro h
  have hlength := congrArg List.length h
  rw [List.length_append] at hlength
  have hroot : structuralRoot.length = 4 := rfl
  omega

theorem head?_structuralRoot_append (cs : List Char) :
    (structuralRoot ++ cs).head? = some '/' := rfl

/-- What follows the group is read on its own if it begins with a slash. -/
theorem root_slash_prefix_iff :
    structuralRoot ++ ['/'] <+: structuralRoot ++ cs ↔ cs.head? = some '/' := by
  rw [List.prefix_append_right_inj]
  cases cs with
  | nil => simp
  | cons c cs => simp [List.cons_prefix_cons, eq_comm]

theorem absoluteChars_withoutRoot_iff : absoluteChars (withoutRoot cs) = cs ↔
    cs.head? = some '/' ∧ ¬structuralRoot ++ ['/'] <+: cs := by
  by_cases hroot : structuralRoot <+: cs
  · obtain ⟨rest, rfl⟩ := hroot
    rw [withoutRoot_append, root_slash_prefix_iff, absoluteChars]
    -- The group is put back exactly in front of a rest that begins with no slash.
    split
    · next hslash =>
      exact iff_of_false (structuralRoot_append_ne rest).symm fun h => h.2 hslash
    · next hslash => exact iff_of_true rfl ⟨head?_structuralRoot_append rest, hslash⟩
  · rw [withoutRoot_eq_self hroot, absoluteChars]
    have hno : ¬structuralRoot ++ ['/'] <+: cs :=
      fun h => hroot ((List.prefix_append _ _).trans h)
    split
    · next hslash => exact iff_of_true rfl ⟨hslash, hno⟩
    · next hslash => exact iff_of_false (structuralRoot_append_ne cs) fun h => hslash h.1

/-- An address is another below the structural group, and the other is not below it itself. -/
def Hides (cs ds : List Char) : Prop := cs = structuralRoot ++ ds ∧ ¬structuralRoot <+: ds

theorem Hides.withoutRoot_eq (h : Hides cs ds) : withoutRoot cs = withoutRoot ds := by
  rw [h.1, withoutRoot_append, withoutRoot_eq_self h.2]

theorem withoutRoot_eq_iff :
    withoutRoot cs = withoutRoot ds ↔ cs = ds ∨ Hides cs ds ∨ Hides ds cs := by
  constructor
  · intro h
    by_cases hc : structuralRoot <+: cs <;> by_cases hd : structuralRoot <+: ds
    · obtain ⟨rest, rfl⟩ := hc
      obtain ⟨rest', rfl⟩ := hd
      rw [withoutRoot_append, withoutRoot_append] at h
      exact .inl (congrArg _ h)
    · obtain ⟨rest, rfl⟩ := hc
      rw [withoutRoot_append, withoutRoot_eq_self hd] at h
      exact .inr (.inl ⟨congrArg _ h, hd⟩)
    · obtain ⟨rest, rfl⟩ := hd
      rw [withoutRoot_append, withoutRoot_eq_self hc] at h
      exact .inr (.inr ⟨congrArg _ h.symm, hc⟩)
    · rw [withoutRoot_eq_self hc, withoutRoot_eq_self hd] at h
      exact .inl h
  · rintro (rfl | h | h)
    · rfl
    · exact h.withoutRoot_eq
    · exact h.withoutRoot_eq.symm

end

/-! ## Canonical forms -/

/-- A label that is spelled from a slash on. -/
def IsRooted (label : String) : Prop := (channelChars label.toList).head? = some '/'

/-- A label that is spelled with a group without a name right below the structural group. -/
def HasUnnamedGroup (label : String) : Prop :=
  structuralRoot ++ ['/'] <+: channelChars label.toList

instance (label : String) : Decidable (IsRooted label) :=
  inferInstanceAs (Decidable ((channelChars label.toList).head? = some '/'))

instance (label : String) : Decidable (HasUnnamedGroup label) :=
  inferInstanceAs (Decidable (structuralRoot ++ ['/'] <+: channelChars label.toList))

theorem canonicalChars_true (cs : List Char) :
    canonicalChars true cs = withoutRoot (canonicalChars false cs) := by
  rw [canonicalChars, canonicalChars, if_pos rfl, if_neg Bool.false_ne_true]

theorem absolute_canonical_iff (label : String) :
    absolute (canonical true label) = canonical false label ↔
      IsRooted label ∧ ¬HasUnnamedGroup label := by
  rw [absolute, canonical, canonical, String.toList_ofList, String.ofList_inj, canonicalChars_true,
    absoluteChars_withoutRoot_iff]
  exact .rfl

theorem canonical_true_inj_iff (a b : String) : canonical true a = canonical true b ↔
    canonical false a = canonical false b ∨
      Hides (channelChars a.toList) (channelChars b.toList) ∨
      Hides (channelChars b.toList) (channelChars a.toList) := by
  simp only [canonical, String.ofList_inj]
  rw [canonicalChars_true, canonicalChars_true, withoutRoot_eq_iff]
  exact .rfl

/-- The operator reads the canonical form without the structural group as the one with it, if and
    only if this one begins with a slash and the group below the structural group has a name. Two
    labels share the form without the group if and only if they share the one with it, or one
    differs from the other by the group alone; labels that the operator reads as they were share
    both or none. -/
theorem canonical_reroots (a b : String) :
    (absolute (canonical true a) = canonical false a ↔ IsRooted a ∧ ¬HasUnnamedGroup a) ∧
      (canonical true a = canonical true b ↔ canonical false a = canonical false b ∨
        Hides (channelChars a.toList) (channelChars b.toList) ∨
        Hides (channelChars b.toList) (channelChars a.toList)) ∧
      (IsRooted a → IsRooted b → ¬HasUnnamedGroup a → ¬HasUnnamedGroup b →
        (canonical true a = canonical true b ↔ canonical false a = canonical false b)) := by
  refine ⟨absolute_canonical_iff a, canonical_true_inj_iff a b, fun ha hb hna hnb => ?_⟩
  refine ⟨fun h => ?_, fun h => (canonical_true_inj_iff a b).mpr (.inl h)⟩
  calc canonical false a = absolute (canonical true a) :=
        ((absolute_canonical_iff a).mpr ⟨ha, hna⟩).symm
    _ = absolute (canonical true b) := congrArg absolute h
    _ = canonical false b := (absolute_canonical_iff b).mpr ⟨hb, hnb⟩

/-- A label that is below the structural group once its parentheses are gone, and the same address
    with another blank. -/
theorem canonical_reroots_of_hidden_group :
    IsRooted "/(TD)/my freq" ∧ IsRooted "/TD/my\tfreq" ∧ ¬HasUnnamedGroup "/(TD)/my freq" ∧
      ¬HasUnnamedGroup "/TD/my\tfreq" ∧ canonical true "/(TD)/my freq" = "my_freq" ∧
      absolute "my_freq" = canonical false "/(TD)/my freq" ∧
      canonical true "/(TD)/my freq" = canonical true "/TD/my\tfreq" := by
  have ha : IsRooted "/(TD)/my freq" := by decide +kernel
  have hb : IsRooted "/TD/my\tfreq" := by decide +kernel
  have hna : ¬HasUnnamedGroup "/(TD)/my freq" := by decide +kernel
  have hnb : ¬HasUnnamedGroup "/TD/my\tfreq" := by decide +kernel
  have hstem : canonical true "/(TD)/my freq" = "my_freq" := by decide +kernel
  obtain ⟨hread, -, hshared⟩ := canonical_reroots "/(TD)/my freq" "/TD/my\tfreq"
  exact ⟨ha, hb, hna, hnb, hstem, hstem ▸ hread.mpr ⟨ha, hna⟩,
    (hshared ha hb hna hnb).mpr (by decide +kernel)⟩

end Label

namespace Build

/-- Two buttons with one label, at addresses. -/
def buttonsAt (addresses : List String) : Description where
  name := none
  inputs := none
  outputs := none
  info := Meta.empty
  nodes := addresses.map fun address => .input ⟨.button, "gain", address, ⟨0, 0, 0, 0⟩, Meta.empty⟩

/-- The gain of a group without a name below the structural group is taken for the gain outside
    both, and the operator reads its address as the other's. -/
theorem gains_merged :
    let gains := buttonsAt ["/TD//gain", "/gain"]
    Label.canonical false "/TD//gain" = "/TD//gain" ∧ Label.canonical false "/gain" = "/gain" ∧
      Label.canonical true "/TD//gain" = "/gain" ∧ Label.canonical true "/gain" = "/gain" ∧
      Label.absolute "/gain" = "/gain" ∧
      ((Session.new { stripRoot := false }).take none (buildDescription gains true)).1 =
        .ok ⟨2, 2, 0⟩ ∧
      ((Session.new { stripRoot := true }).take none (buildDescription gains true)).1 =
        .ok ⟨1, 1, 0⟩ := by
  refine ⟨?_, ?_, ?_, ?_, ?_, ?_, ?_⟩ <;> decide +kernel

end Build

end ControlSurface
