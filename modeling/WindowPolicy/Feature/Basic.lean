/-
# WindowPolicy.Feature.Basic — optional chrome of a window

A feature is a part or a behaviour of a window that its owner may ask for. Features that
would fill the same area exclude each other; the relation is symmetric.

* `Feature.conflicts`: the features that a feature excludes;
* `Features`: sets of features, as words with one bit per feature number;
* `Features.toList`: the members, by ascending number.
-/
import WindowPolicy.Flag.Text

namespace WindowPolicy

set_option autoImplicit false

/-- Optional chrome and behaviour. -/
inductive Feature where
  | optionsPanel
  | noTitle
  | progress
  | leftIcon
  | rightIcon
  | indeterminateProgress
  | contextMenu
  | customTitle
  | actionBar
  | actionBarOverlay
  | actionModeOverlay
  | swipeToDismiss
  | contentTransitions
  | activityTransitions
deriving DecidableEq, Repr

namespace Feature

/-- Every feature, by ascending number. -/
def all : List Feature :=
  [optionsPanel, noTitle, progress, leftIcon, rightIcon, indeterminateProgress, contextMenu,
   customTitle, actionBar, actionBarOverlay, actionModeOverlay, swipeToDismiss,
   contentTransitions, activityTransitions]

/-- The number under which a feature is requested, and the position of its bit. -/
def id : Feature → Nat
  | optionsPanel => 0
  | noTitle => 1
  | progress => 2
  | leftIcon => 3
  | rightIcon => 4
  | indeterminateProgress => 5
  | contextMenu => 6
  | customTitle => 7
  | actionBar => 8
  | actionBarOverlay => 9
  | actionModeOverlay => 10
  | swipeToDismiss => 11
  | contentTransitions => 12
  | activityTransitions => 13

/-- The name of a feature on its own. -/
def name : Feature → String
  | optionsPanel => "OptionsPanel"
  | noTitle => "NoTitle"
  | progress => "Progress"
  | leftIcon => "LeftIcon"
  | rightIcon => "RightIcon"
  | indeterminateProgress => "IndeterminateProgress"
  | contextMenu => "ContextMenu"
  | customTitle => "CustomTitle"
  | actionBar => "ActionBar"
  | actionBarOverlay => "ActionBarOverlay"
  | actionModeOverlay => "ActionModeOverlay"
  | swipeToDismiss => "SwipeToDismiss"
  | contentTransitions => "ContentTransitions"
  | activityTransitions => "ActivityTransitions"

/-- The name of a feature's bit in a set. -/
def flagName : Feature → String
  | optionsPanel => "OPTIONS_PANEL"
  | noTitle => "NO_TITLE"
  | progress => "PROGRESS"
  | leftIcon => "LEFT_ICON"
  | rightIcon => "RIGHT_ICON"
  | indeterminateProgress => "INDETERMINATE_PROGRESS"
  | contextMenu => "CONTEXT_MENU"
  | customTitle => "CUSTOM_TITLE"
  | actionBar => "ACTION_BAR"
  | actionBarOverlay => "ACTION_BAR_OVERLAY"
  | actionModeOverlay => "ACTION_MODE_OVERLAY"
  | swipeToDismiss => "SWIPE_TO_DISMISS"
  | contentTransitions => "CONTENT_TRANSITIONS"
  | activityTransitions => "ACTIVITY_TRANSITIONS"

/-- The largest feature number. -/
def maxId : Nat := 13

/-- The feature with a number. -/
def ofId? (id : Int32) : Option Feature := all.find? fun f => (f.id : Int) = id.toInt

/-- Features that are still recognised and no longer do anything. -/
def isDeprecated : Feature → Bool
  | progress | indeterminateProgress | swipeToDismiss => true
  | _ => false

/-- The feature with its number. -/
def describe (f : Feature) : String := f.name ++ "(" ++ toString f.id ++ ")"

/-- The names of the bits in a set of features. -/
def vocabulary : Vocabulary where
  title := "FeatureSet"
  names := all.map fun f => (f.flagName, f.id)

end Feature

/-- A set of features. -/
abbrev Features := FlagSet Feature.vocabulary

namespace Features

/-- The set with one feature. -/
def only (f : Feature) : Features := .single f.id

/-- The set of the features in a list. -/
def ofList (fs : List Feature) : Features := fs.foldl (fun s f => s ∪ only f) ∅

/-- The feature belongs to the set. -/
def has (s : Features) (f : Feature) : Bool := s.hasBit f.id

/-- The members by ascending number. Bits that are no feature are passed over. -/
def toList (s : Features) : List Feature := Feature.all.filter s.has

/-- What a window has unless its context says otherwise. -/
def standard : Features := ofList [.optionsPanel, .contextMenu]

/-- The features that draw in the title area or take it away. -/
def titleArea : Features :=
  ofList [.noTitle, .progress, .leftIcon, .rightIcon, .indeterminateProgress, .actionBar,
    .actionBarOverlay, .swipeToDismiss]

end Features

/-- The features that cannot be present together with a feature. A custom title takes the
whole title area; an action bar needs a title. -/
def Feature.conflicts : Feature → Features
  | .customTitle => .titleArea
  | .noTitle => .ofList [.customTitle, .actionBar]
  | .actionBar => .ofList [.customTitle, .noTitle]
  | .progress | .leftIcon | .rightIcon | .indeterminateProgress | .actionBarOverlay
  | .swipeToDismiss => .only .customTitle
  | .optionsPanel | .contextMenu | .actionModeOverlay | .contentTransitions
  | .activityTransitions => ∅

/-- Numbers tell features apart. -/
theorem Feature.id_injective {f g : Feature} (h : f.id = g.id) : f = g := by
  cases f <;> cases g <;> first | rfl | exact absurd h (by decide)

/-- Every feature is listed. -/
theorem Feature.mem_all (f : Feature) : f ∈ Feature.all := by cases f <;> decide

/-- A number names the feature that has it, and no other. -/
theorem Feature.ofId?_eq_some_iff {id : Int32} {f : Feature} :
    Feature.ofId? id = some f ↔ id.toInt = f.id := by
  unfold Feature.ofId?
  constructor
  · intro found
    have number := List.find?_some found
    exact (of_decide_eq_true number).symm
  · intro same
    cases found : Feature.all.find? fun f => (f.id : Int) = id.toInt with
    | none =>
        have missed := List.find?_eq_none.mp found f f.mem_all
        exact absurd (decide_eq_true same.symm) missed
    | some g =>
        have number := List.find?_some found
        have named : (g.id : Int) = id.toInt := of_decide_eq_true number
        exact congrArg some (Feature.id_injective (by omega))

/-- The members of a set are listed. -/
theorem Features.mem_toList {s : Features} {f : Feature} : f ∈ s.toList ↔ s.has f = true := by
  simp [Features.toList, Feature.mem_all]

theorem Features.toList_ascending (s : Features) :
    s.toList.Pairwise fun f g => f.id < g.id := by
  have all : Feature.all.Pairwise fun f g => f.id < g.id := by decide
  exact all.filter s.has

/-- Exclusion is mutual. -/
theorem Feature.conflicts_symm (f g : Feature) : f.conflicts.has g = g.conflicts.has f := by
  cases f <;> cases g <;> decide

end WindowPolicy
