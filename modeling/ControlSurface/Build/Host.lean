import ControlSurface.Panel.Tree
import ControlSurface.Parameter.Pages
import ControlSurface.Routing

/- What a build works on: the operator's pages of parameters, its panel and its routing
   table. A build changes pages and panel by calls, each of which the host may refuse; the
   routing table takes every change. -/
namespace ControlSurface.Build

/-- The hosts of a build. -/
structure Hosts where
  pages : Pages
  panel : Panel.Tree
  routes : RoutingTable
deriving DecidableEq

/-- Hosts that nothing was done to. -/
def Hosts.empty : Hosts := ⟨Pages.empty, Panel.Tree.empty, RoutingTable.empty⟩

/-- A change of the pages or of the panel. -/
inductive Call where
  | resetPage (page : String)
  | appendParameter (page : String) (parameter : Parameter)
  | clearPanel
  | create (parent : Nat) (spec : Panel.Spec)
  | bind (node : Nat) (binding : Panel.Binding)
  | assign (node : Nat) (key value : String)
  | destroy (node : Nat)
deriving DecidableEq

/-- Carries out a call. The answer is the id of the node that was created; other calls answer
    with the root. -/
def Call.perform (h : Hosts) : Call → Except HostFault (Nat × Hosts)
  | resetPage page => .ok (Panel.Tree.root, { h with pages := h.pages.reset page })
  | appendParameter page p =>
    (h.pages.append page p).map fun pages => (Panel.Tree.root, { h with pages := pages })
  | clearPanel => .ok (Panel.Tree.root, { h with panel := h.panel.clear })
  | create parent spec =>
    (h.panel.create parent spec).map fun (id, panel) => (id, { h with panel := panel })
  | bind node b =>
    (h.panel.bind node b).map fun panel => (Panel.Tree.root, { h with panel := panel })
  | assign node key value =>
    (h.panel.assign node key value).map fun panel => (Panel.Tree.root, { h with panel := panel })
  | destroy node =>
    (h.panel.destroy node).map fun panel => (Panel.Tree.root, { h with panel := panel })

/-- Carries out calls one after the other, as long as none is refused. -/
def Call.performAll (h : Hosts) : List Call → Except HostFault Hosts
  | [] => .ok h
  | c :: cs =>
    match c.perform h with
    | .ok (_, h) => performAll h cs
    | .error e => .error e

end ControlSurface.Build
