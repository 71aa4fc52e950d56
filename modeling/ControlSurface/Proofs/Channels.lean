import ControlSurface.Description.Xml
import ControlSurface.Proofs.FirstVoice
import ControlSurface.Proofs.Rerooting

/- Channel names along a path. A channel name is made of a whole address as it is made of each
   label on it, since no run of blanks goes across a slash and no slash comes or goes. What is
   proved:
     1. `channelChars_eq_self_iff` — the labels that are channel names already are those without
        parentheses and blanks; a channel name is one of them, so it is its own channel name.
     2. `channelChars_joinSegments` and `segments_channelChars` — the channel name of a path is the
        path of channel names, and is cut at slashes where the path was.
     3. `segments_withoutRoot` — the structural group is the first two segments of an address.
     4. `channelName_segmentwise` — the canonical address of a control is made of the channel names
        of the labels above it, and these, cut at slashes, are what the voice filter finds there. A
        label with a slash is more than one segment (`slash_divides_label`). -/
namespace ControlSurface

namespace Label

open Text

/-! ## Channel names -/

/-- A text without parentheses and blanks. -/
def IsPlain (cs : List Char) : Prop := ∀ c ∈ cs, c ≠ '(' ∧ c ≠ ')' ∧ isBlank c = false

theorem channelChars_isPlain (cs : List Char) : IsPlain (channelChars cs) := by
  intro c hc
  rcases mem_collapseFrom hc with rfl | ⟨hold, hblank⟩
  · decide
  · have hkept := of_decide_eq_true (List.mem_filter.mp hold).2
    exact ⟨hkept.1, hkept.2, hblank⟩

theorem IsPlain.channelChars_eq {cs : List Char} (h : IsPlain cs) : channelChars cs = cs := by
  have hall : cs.filter (fun c => c ≠ '(' ∧ c ≠ ')') = cs :=
    List.filter_eq_self.mpr fun c hc => decide_eq_true ⟨(h c hc).1, (h c hc).2.1⟩
  rw [channelChars, hall]
  exact collapseFrom_of_no_blank '_' false fun c hc => (h c hc).2.2

theorem channelChars_eq_self_iff (cs : List Char) : channelChars cs = cs ↔ IsPlain cs :=
  ⟨fun h => h ▸ channelChars_isPlain cs, IsPlain.channelChars_eq⟩

theorem slash_mem_channelChars_iff (cs : List Char) : '/' ∈ channelChars cs ↔ '/' ∈ cs := by
  rw [channelChars, collapse, mem_collapseFrom_iff (by decide) (by decide), List.mem_filter]
  exact and_iff_left (by decide)

theorem channelChars_joinSegments (parts : List (List Char)) :
    channelChars (joinSegments '/' parts) = joinSegments '/' (parts.map channelChars) := by
  induction parts with
  | nil => rfl
  | cons s ss ih =>
    cases ss with
    | nil => rfl
    | cons t ts =>
      rw [joinSegments_cons_cons, channelChars_append_slash, ih]
      rfl

/-- The channel name of a text is cut at slashes where the text is. -/
theorem segments_channelChars (cs : List Char) :
    segments '/' (channelChars cs) = (segments '/' cs).map channelChars := by
  have hslash : ∀ s ∈ (segments '/' cs).map channelChars, '/' ∉ s := by
    intro s hs
    obtain ⟨t, ht, rfl⟩ := List.mem_map.mp hs
    rw [slash_mem_channelChars_iff]
    exact mark_not_mem_of_mem_segments ht
  have hne : (segments '/' cs).map channelChars ≠ [] :=
    fun h => segments_ne_nil '/' cs (List.map_eq_nil_iff.mp h)
  calc segments '/' (channelChars cs)
      = segments '/' (channelChars (joinSegments '/' (segments '/' cs))) := by
        rw [joinSegments_segments]
    _ = (segments '/' cs).map channelChars := by
        rw [channelChars_joinSegments, segments_joinSegments hne hslash]

theorem toList_channelName (label : String) :
    (channelName label).toList = channelChars label.toList := String.toList_ofList

theorem channelName_intercalate (parts : List String) :
    channelName ("/".intercalate parts) = "/".intercalate (parts.map channelName) := by
  have hnames : (parts.map channelName).map String.toList =
      (parts.map String.toList).map channelChars := by
    rw [List.map_map, List.map_map]
    exact List.map_congr_left fun p _ => toList_channelName p
  rw [← String.toList_inj, toList_channelName, toList_intercalate_slash, toList_intercalate_slash,
    hnames, channelChars_joinSegments]

theorem channelName_eq_self_iff (label : String) :
    channelName label = label ↔ IsPlain label.toList := by
  rw [← String.toList_inj, toList_channelName, channelChars_eq_self_iff]

theorem channelName_channelName (label : String) :
    channelName (channelName label) = channelName label := by
  rw [channelName_eq_self_iff, toList_channelName]
  exact channelChars_isPlain _

/-! ## The structural group -/

/-- The segments of an address without the structural group: the slash before the group and the
    one behind it make it the second of three segments or more, behind an empty one. -/
def belowRoot : List (List Char) → List (List Char)
  | [] :: ['T', 'D'] :: s :: ss => s :: ss
  | ss => ss

theorem segments_structuralRoot_append (cs : List Char) :
    segments '/' (structuralRoot ++ cs) = [] :: ['T', 'D'] :: segments '/' cs := by
  have hroot : structuralRoot ++ cs = [] ++ '/' :: (['T', 'D'] ++ '/' :: cs) := rfl
  rw [hroot, segments_append_cons (by decide), segments_append_cons (by decide)]

theorem segments_withoutRoot (cs : List Char) :
    segments '/' (withoutRoot cs) = belowRoot (segments '/' cs) := by
  by_cases hroot : structuralRoot <+: cs
  · obtain ⟨rest, rfl⟩ := hroot
    rw [withoutRoot_append, segments_structuralRoot_append]
    cases h : segments '/' rest with
    | nil => exact absurd h (segments_ne_nil '/' rest)
    | cons s ss => rfl
  · rw [withoutRoot_eq_self hroot]
    unfold belowRoot
    split
    · next s ss h =>
      -- Joined again, such segments begin with the group.
      have hcs : cs = joinSegments '/' ([] :: ['T', 'D'] :: s :: ss) := by
        rw [← h, joinSegments_segments]
      exact absurd ⟨joinSegments '/' (s :: ss), hcs.symm⟩ hroot
    · rfl

/-- The segments of labels, one label after another. -/
def pieces (labels : List String) : List (List Char) :=
  labels.flatMap fun label => segments '/' label.toList

/-- Labels are their own segments as long as none of them has a slash. -/
theorem pieces_eq_iff (labels : List String) :
    pieces labels = labels.map String.toList ↔ ∀ label ∈ labels, '/' ∉ label.toList := by
  constructor
  · intro h label hlabel
    have hpiece : label.toList ∈ pieces labels := h ▸ List.mem_map_of_mem hlabel
    obtain ⟨l, -, hl⟩ := List.mem_flatMap.mp hpiece
    exact mark_not_mem_of_mem_segments hl
  · intro h
    rw [pieces, List.flatMap_congr fun l hl => segments_of_not_mem (h l hl)]
    exact List.flatMap_pure_eq_map String.toList labels

/-- The channel names of labels are cut at slashes where the labels are. -/
theorem pieces_map_channelName (labels : List String) :
    pieces (labels.map channelName) = (pieces labels).map channelChars := by
  rw [pieces, pieces, List.flatMap_map, List.map_flatMap]
  exact List.flatMap_congr fun l _ => by rw [toList_channelName, segments_channelChars]

theorem canonical_eq (strip : Bool) (address : String) : canonical strip address =
    if strip then relative (channelName address) else channelName address := by
  cases strip with
  | false => rfl
  | true => rw [if_pos rfl, relative, toList_channelName]; rfl

end Label

/-! ## Addresses of controls -/

namespace Description.Xml

open Label Text

theorem addressOf_eq_intercalate_cons (path : List String) (label : String) :
    addressOf path label = "/".intercalate ("" :: (path ++ [label])) := by
  have hlabel : path ++ [label] ≠ [] := by simp
  obtain ⟨l, ls, hls⟩ := List.exists_cons_of_ne_nil hlabel
  rw [addressOf_eq_intercalate, hls, String.intercalate_cons_cons, String.empty_append]

theorem channelName_addressOf (path : List String) (label : String) :
    channelName (addressOf path label) = addressOf (path.map channelName) (channelName label) := by
  rw [addressOf_eq_intercalate_cons, addressOf_eq_intercalate_cons, channelName_intercalate,
    List.map_cons, List.map_append]
  rfl

theorem segments_addressOf (path : List String) (label : String) :
    segments '/' (addressOf path label).toList = [] :: pieces (path ++ [label]) := by
  have hne : ("" :: (path ++ [label])).map String.toList ≠ [] := by simp
  rw [addressOf_eq_intercalate_cons, toList_intercalate_slash, segments_joinSegments_flatMap '/' hne,
    List.flatMap_map]
  rfl

end Description.Xml

/-! ## What the voice filter sees -/

namespace Voice

open Label Text

/-- The filter takes an address for a path of labels: it cuts the address into them, the name that
    it looks at is the last of them, and the twin that it looks for has the same labels, with the
    first voice among them. -/
structure Sees (address : String) (labels : List (List Char)) : Prop where
  path : path address = labels
  name : lastSegment '/' address.toList = (labels.getLast?).getD []
  twin : canonical? address =
    (canonicalSegments labels).map fun ss => String.ofList (joinSegments '/' ss)

theorem Sees.of_path {address : String} {labels : List (List Char)}
    (h : Voice.path address = labels) : Sees address labels := by
  subst h
  exact ⟨rfl, rfl, Option.map_map ..⟩

/-- The labels of an address that stay when the structural group is taken away, or all of them. -/
def kept (strip : Bool) (labels : List (List Char)) : List (List Char) :=
  if strip then belowRoot labels else labels

theorem path_canonical (strip : Bool) (address : String) :
    path (canonical strip address) = kept strip ((path address).map channelChars) := by
  rw [path, path, canonical, String.toList_ofList]
  cases strip with
  | false => exact segments_channelChars _
  | true =>
    rw [kept, if_pos rfl, ← segments_channelChars, ← segments_withoutRoot]
    rfl

theorem path_canonical_addressOf (strip : Bool) (groups : List String) (label : String) :
    path (canonical strip (Description.Xml.addressOf groups label)) =
      kept strip ([] :: pieces ((groups ++ [label]).map channelName)) := by
  rw [path_canonical, path, Description.Xml.segments_addressOf, pieces_map_channelName]
  rfl

end Voice

namespace Label

open Description.Xml (addressOf)

/-- The channel name of a path is the path of channel names; a label is its own channel name if and
    only if it has no parenthesis and no blank, and a channel name is. So the canonical address of a
    control is made of the channel names of the labels on its path, and the voice filter sees the
    segments of these, whether the address is given or made of the labels: the labels
    themselves if and only if none of them has a slash. -/
theorem channelName_segmentwise :
    (∀ parts, channelName ("/".intercalate parts) = "/".intercalate (parts.map channelName)) ∧
      (∀ label, channelName (channelName label) = channelName label) ∧
      (∀ label, channelName label = label ↔ IsPlain label.toList) ∧
      (∀ strip groups label, canonical strip (addressOf groups label) =
        if strip then relative (addressOf (groups.map channelName) (channelName label))
        else addressOf (groups.map channelName) (channelName label)) ∧
      (∀ strip groups label, Voice.Sees (canonical strip (addressOf groups label))
        (Voice.kept strip ([] :: pieces ((groups ++ [label]).map channelName)))) ∧
      (∀ strip address, Voice.Sees (canonical strip address)
        (Voice.kept strip ((Voice.path address).map channelChars))) ∧
      ∀ labels : List String, pieces (labels.map channelName) =
        (labels.map channelName).map String.toList ↔ ∀ label ∈ labels, '/' ∉ label.toList := by
  refine ⟨channelName_intercalate, channelName_channelName, channelName_eq_self_iff,
    fun strip groups label => ?_, fun strip groups label => ?_, fun strip address => ?_,
    fun labels => ?_⟩
  · rw [canonical_eq, Description.Xml.channelName_addressOf]
  · exact .of_path (Voice.path_canonical_addressOf strip groups label)
  · exact .of_path (Voice.path_canonical strip address)
  · rw [pieces_eq_iff]
    simp only [List.forall_mem_map, toList_channelName, slash_mem_channelChars_iff]

/-- A button in a group, with the address that the labels make. -/
def buttonIn (group label : String) : Description where
  name := none
  inputs := none
  outputs := none
  info := Meta.empty
  nodes := [.group .vertical group Meta.empty
    [.input ⟨.button, label, addressOf [group] label, ⟨0, 0, 0, 0⟩, Meta.empty⟩]]

/-- A button whose label has a slash is seen under two labels, and left out for the last of them,
    which is not its own. Without the slash it is built. -/
theorem slash_divides_label :
    let address := canonical true (addressOf ["synth"] "stop/Panic")
    channelName "stop/Panic" = "stop/Panic" ∧
      Voice.path address = ["".toList, "synth".toList, "stop".toList, "Panic".toList] ∧
      (channelName "stop/Panic").toList ∉ Voice.path address ∧
      Voice.Filter.idle.check address = some .reserved ∧
      ((Build.Session.new {}).take none
        (Build.buildDescription (buttonIn "synth" "stop/Panic") true)).1 = .ok ⟨0, 0, 1⟩ ∧
      ((Build.Session.new {}).take none
        (Build.buildDescription (buttonIn "synth" "stop Panic") true)).1 = .ok ⟨1, 1, 0⟩ := by
  refine ⟨?_, ?_, ?_, ?_, ?_, ?_⟩ <;> decide +kernel

end Label

end ControlSurface
