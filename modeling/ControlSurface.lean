import ControlSurface.Main
import ControlSurface.Proofs.Refusal
import ControlSurface.Proofs.Shown
import ControlSurface.Proofs.Completion
import ControlSurface.Proofs.Independence
import ControlSurface.Proofs.Erasure
import ControlSurface.Proofs.Survival
import ControlSurface.Proofs.Tabs
import ControlSurface.Proofs.Creations
import ControlSurface.Proofs.Pruning
import ControlSurface.Proofs.FirstVoice
import ControlSurface.Proofs.RoutingIndex
import ControlSurface.Proofs.Writes
import ControlSurface.Proofs.Failure
import ControlSurface.Proofs.StaleRoutes
import ControlSurface.Proofs.RoutedInputs
import ControlSurface.Proofs.Headers
import ControlSurface.Proofs.Formats
import ControlSurface.Proofs.Decoding
import ControlSurface.Proofs.Lines
import ControlSurface.Proofs.Positions
import ControlSurface.Proofs.Sequencer
import ControlSurface.Proofs.Resolution
import ControlSurface.Proofs.Allocation
import ControlSurface.Proofs.Menus
import ControlSurface.Proofs.SharedWidgets
import ControlSurface.Proofs.Uprooting
import ControlSurface.Proofs.Alphabet
import ControlSurface.Proofs.Rerooting
import ControlSurface.Proofs.Options
import ControlSurface.Proofs.Paths
import ControlSurface.Proofs.Conversion
import ControlSurface.Proofs.Channels
