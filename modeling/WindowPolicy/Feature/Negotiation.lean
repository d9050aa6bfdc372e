/-
# WindowPolicy.Feature.Negotiation — which features a window has

Features are granted on request, and a granted feature displaces those it conflicts
with: the latest request wins. The layer itself may force a feature and pin it; a request
that conflicts with a pin is turned down and changes nothing.

* `Verdict`, `Negotiation.verdict`: the answer to a request, decided before it is acted on;
* `Negotiation.request`, `force`, `unpin`: the changes;
* `Negotiation.Op`, `apply`, `run`: the same as data, for histories.
-/
import WindowPolicy.Note

namespace WindowPolicy

set_option autoImplicit false

/-- A set of features once a feature has displaced its conflicts. -/
def Features.adopt (s : Features) (f : Feature) : Features := (s \ f.conflicts) ∪ .only f

/-- The features of a window. -/
structure Negotiation where
  /-- The features that were requested. -/
  requested : Features
  /-- The features that this layer enforces. -/
  enforced : Features
  /-- The features that requests cannot displace. -/
  pinned : Features
deriving DecidableEq

/-- The answer to a request for a feature. -/
inductive Verdict where
  | unknown (id : Int32)
  | blocked (feature : Feature) (pins : Features)
  | granted (feature : Feature) (cleared : Features)
deriving DecidableEq

namespace Verdict

/-- The feature was granted. One that was not may be there all the same. -/
def accepted : Verdict → Bool
  | granted .. => true
  | _ => false

def notes : Verdict → List Note
  | unknown id => [.unknownFeature id]
  | blocked feature pins => [.requestBlocked feature pins]
  | granted feature cleared =>
      (if feature.isDeprecated then [.deprecatedFeature feature] else [])
        ++ if cleared = ∅ then [] else [.conflictsCleared feature cleared]

end Verdict

namespace Negotiation

/-- The defaults without their conflicts: of two features that exclude each other the one
with the higher number stays. Bits that are no feature are dropped. -/
def seed (defaults : Features) : Features := defaults.toList.foldl Features.adopt ∅

/-- The negotiation that opens with the given defaults. -/
def ofDefaults (defaults : Features) : Negotiation :=
  { requested := seed defaults, enforced := seed defaults, pinned := ∅ }

def seedNotes (defaults : Features) : List Note :=
  if seed defaults = defaults then [] else [.defaultsSeeded defaults (seed defaults)]

variable (n : Negotiation)

/-- The feature was requested. -/
def has (f : Feature) : Bool := n.requested.has f

/-- The feature takes its place in both sets. -/
def adopt (f : Feature) : Negotiation :=
  { n with requested := n.requested.adopt f, enforced := n.enforced.adopt f }

/-- How a request for a feature is answered. -/
def verdict (f : Feature) : Verdict :=
  let pins := f.conflicts ∩ n.pinned
  if pins = ∅ then .granted f (f.conflicts ∩ n.requested) else .blocked f pins

/-- How a request for a feature number is answered. -/
def verdictOfId (id : Int32) : Verdict :=
  match Feature.ofId? id with
  | some f => n.verdict f
  | none => .unknown id

/-- Acts on an answer. -/
def follow : Verdict → Negotiation
  | .granted f _ => n.adopt f
  | _ => n

/-- A request for a feature. -/
def request (f : Feature) : Negotiation := n.follow (n.verdict f)

/-- A request for a feature number. -/
def requestId (id : Int32) : Negotiation := n.follow (n.verdictOfId id)

/-- The feature takes its place whatever is pinned, and is pinned itself. -/
def force (f : Feature) : Negotiation :=
  { n.adopt f with pinned := n.pinned ∪ .only f }

/-- The feature may be displaced again; it stays until it is. -/
def unpin (f : Feature) : Negotiation := { n with pinned := n.pinned \ .only f }

/-- Every change that a negotiation goes through. -/
inductive Op where
  | request (feature : Feature)
  | requestId (id : Int32)
  | force (feature : Feature)
  | unpin (feature : Feature)
deriving DecidableEq

/-- One change. -/
def apply : Op → Negotiation
  | .request f => n.request f
  | .requestId id => n.requestId id
  | .force f => n.force f
  | .unpin f => n.unpin f

/-- Changes from first to last. -/
def run (ops : List Op) : Negotiation := ops.foldl apply n

end Negotiation

end WindowPolicy
