import ControlSurface.Config
import ControlSurface.Text.Segments

/- Which leaves a build leaves out. One control is kept by the operator for itself; with
   voices grouped, the controls that notes drive are left out; with voices apart, a control
   of the shared voices is left out if the first voice has it too. -/
namespace ControlSurface.Voice

/-- Why a leaf is left out. -/
inductive Skip where
  | reserved
  | groupedVoice
  | duplicate
deriving Repr, DecidableEq

/-- The control that the operator keeps for itself. -/
def panic : List Char := ['P', 'a', 'n', 'i', 'c']

/-- The controls that notes drive, in lower case. -/
def noteControls : List (List Char) :=
  [['g', 'a', 't', 'e'], ['g', 'a', 'i', 'n'], ['n', 'o', 't', 'e'], ['f', 'r', 'e', 'q']]

/-- The segment that holds all voices of a polyphonic group. -/
def polyphonic : List Char := ['P', 'o', 'l', 'y', 'p', 'h', 'o', 'n', 'i', 'c']

/-- The segment of the voices that share their controls. -/
def voices : List Char := ['V', 'o', 'i', 'c', 'e', 's']

/-- The segment of the first voice. -/
def firstVoice : List Char := ['V', 'o', 'i', 'c', 'e', '1']

/-- The segments with the first voice in place of the shared voices, at the first place where
    those follow a polyphonic group and something follows them; none if nothing follows there,
    or if there is no such place. -/
def canonicalSegments : List (List Char) → Option (List (List Char))
  | [] => none
  | [_] => none
  | a :: b :: rest =>
    if a = polyphonic ∧ b = voices then
      if rest = [] then none else some (a :: firstVoice :: rest)
    else (canonicalSegments (b :: rest)).map (a :: ·)

/-- The address of the same control in the first voice. -/
def canonicalChars (address : List Char) : Option (List Char) :=
  (canonicalSegments (Text.segments '/' address)).map (Text.joinSegments '/')

/-- The address of the same control in the first voice, as a string. -/
def canonical? (address : String) : Option String :=
  (canonicalChars address.toList).map String.ofList

/-- What a build knows of voices: how they are treated, and the addresses of all leaves. -/
structure Filter where
  polyphony : Bool
  groupVoices : Bool
  addresses : List String
deriving Repr, DecidableEq

/-- The filter that lets every leaf through but the reserved one. -/
def Filter.idle : Filter := ⟨false, false, []⟩

/-- The filter of a configuration for the canonical addresses of a description. -/
def Filter.ofConfig (c : Config) (addresses : List String) : Filter :=
  ⟨c.polyphony, c.groupVoices, addresses⟩

/-- Whether a control is driven by notes, whatever the case of its name. -/
def isNoteControl (name : List Char) : Bool := noteControls.contains (name.map Char.toLower)

/-- Why the leaf of a canonical address is left out, if it is. -/
def Filter.check (f : Filter) (address : String) : Option Skip :=
  let name := Text.lastSegment '/' address.toList
  if name = panic then some .reserved
  else if f.polyphony && f.groupVoices && isNoteControl name then some .groupedVoice
  else if f.polyphony && !f.groupVoices then
    match canonical? address with
    | some twin => if f.addresses.contains twin then some .duplicate else none
    | none => none
  else none

end ControlSurface.Voice
