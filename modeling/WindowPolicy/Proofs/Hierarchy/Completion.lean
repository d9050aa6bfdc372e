/-
# WindowPolicy.Proofs.Hierarchy.Completion — the rules by which a record is completed

A record is completed from its type code, from the window that owns it and, for one of the
three categories, from the container of that window, if it is still there. Which token and
which title a record ends up with is told here by rules, each for one case and each on its
own: a record either brings what is asked for, or exactly one other rule applies to it.

* `Offers`, `Tokened`, `Titled`: the token that its owner has for a record, and the token and
  the title that it ends up with;
* `completes`, `Completes.unique`: records are completed by the rules, which leave no choice;
* `complete_follows_rules`: the answer, and the record that the caller holds.
-/
import WindowPolicy.Proofs.Attributes.TypeCode
import WindowPolicy.Proofs.Hierarchy.Atomicity

namespace WindowPolicy

set_option autoImplicit false

namespace Hierarchy

variable {κ : Type} {t : Hierarchy κ} {w : Window κ} {attached : Option Token}
  {a b b' : Attributes} {c c' : Category}

/-! ## Rules -/

/-- The token that a window has for records of a category. Its decor surface, if it has one, has
the token `attached`. -/
inductive Offers (t : Hierarchy κ) (w : Window κ) (attached : Option Token) :
    Category → Option Token → Prop
  /-- A sub-window belongs to the decor of its owner. -/
  | decorated {surface : κ} (decor : w.decor = some surface) :
      Offers t w attached .subWindow attached
  | bare (decor : w.decor = none) : Offers t w attached .subWindow none
  | independent : Offers t w attached .system none
  /-- The token of the container, if it has one. The owner's own does not take its place. -/
  | contained {h : WindowId} {host : Window κ} (inside : w.container = some h)
      (hosting : t.get? h = some host) : Offers t w attached .application host.appToken
  | topLevel (outside : w.container = none) : Offers t w attached .application w.appToken
  /-- A container that is gone counts as none. -/
  | orphaned {h : WindowId} (inside : w.container = some h) (gone : t.get? h = none) :
      Offers t w attached .application w.appToken

/-- The token of a record that the window owns. -/
inductive Tokened (t : Hierarchy κ) (w : Window κ) (attached : Option Token) (a : Attributes)
    (c : Category) : Option Token → Prop
  | brought {token : Token} (present : a.token = some token) :
      Tokened t w attached a c (some token)
  | offered {token : Option Token} (absent : a.token = none)
      (offers : Offers t w attached c token) : Tokened t w attached a c token

/-- The title of a record that the window owns. -/
inductive Titled (w : Window κ) (a : Attributes) : Category → String → Prop
  | brought {c : Category} (present : a.title ≠ "") : Titled w a c a.title
  | untitled (absent : a.title = "") : Titled w a .application ""
  | headed {c : Category} {head : String} (absent : a.title = "") (made : a.type.Heads c head)
      (nameless : w.appName = "") : Titled w a c head
  | signed {c : Category} {head : String} (absent : a.title = "") (made : a.type.Heads c head)
      (named : w.appName ≠ "") : Titled w a c (head ++ ":" ++ w.appName)

/-- The record `b` is `a` completed on behalf of a window. -/
structure Completes (t : Hierarchy κ) (w : Window κ) (attached : Option Token) (a : Attributes)
    (c : Category) (b : Attributes) : Prop where
  category : a.type.Falls c
  token : Tokened t w attached a c b.token
  title : Titled w a c b.title
  /-- Nothing else is written. -/
  rest : b = { a with token := b.token, title := b.title }

theorem Offers.unique {token token' : Option Token} (first : Offers t w attached c token)
    (second : Offers t w attached c token') : token = token' := by
  cases first <;> cases second <;> simp_all

theorem Tokened.unique {token token' : Option Token} (first : Tokened t w attached a c token)
    (second : Tokened t w attached a c token') : token = token' := by
  cases first with
  | brought present =>
      cases second with
      | brought present' => exact present.symm.trans present'
      | offered absent => cases present.symm.trans absent
  | offered absent offers =>
      cases second with
      | brought present => cases present.symm.trans absent
      | offered _ offers' => exact offers.unique offers'

theorem Titled.unique {title title' : String} (first : Titled w a c title)
    (second : Titled w a c title') : title = title' := by
  cases first with
  | brought present =>
      cases second with
      | brought => rfl
      | untitled absent | headed absent | signed absent => exact absurd absent present
  | untitled absent =>
      cases second with
      | brought present => exact absurd absent present
      | untitled => rfl
      | headed _ made | signed _ made => cases made
  | headed absent made nameless =>
      cases second with
      | brought present => exact absurd absent present
      | untitled => cases made
      | headed _ made' => exact made.unique made'
      | signed _ _ named => exact absurd nameless named
  | signed absent made named =>
      cases second with
      | brought present => exact absurd absent present
      | untitled => cases made
      | headed _ _ nameless => exact absurd nameless named
      | signed _ made' => rw [made.unique made']

/-- The rules leave no choice. -/
theorem Completes.unique (first : Completes t w attached a c b)
    (second : Completes t w attached a c' b') : c = c' ∧ b = b' := by
  obtain rfl := first.category.unique second.category
  refine ⟨rfl, ?_⟩
  rw [first.rest, second.rest, first.token.unique second.token, first.title.unique second.title]

/-! ## Completion -/

theorem offers (c : Category) :
    Offers t w attached c ((w.owner (t.containerOf w) attached).tokenFor c) := by
  cases c with
  | subWindow =>
      show Offers t w attached .subWindow (w.decor.bind fun _ => attached)
      cases decor : w.decor with
      | none => exact .bare decor
      | some surface => exact .decorated decor
  | system => exact .independent
  | application =>
      show Offers t w attached .application (((t.containerOf w).map (·.appToken)).getD w.appToken)
      unfold containerOf
      cases inside : w.container with
      | none => exact .topLevel inside
      | some h =>
          rw [Option.bind_some]
          cases hosting : t.get? h with
          | none => exact .orphaned inside hosting
          | some host => exact .contained inside hosting

theorem tokened_completion :
    Tokened t w attached a a.type.category (t.completion w a attached).token := by
  have offers : Offers t w attached a.type.category _ := offers a.type.category
  change Tokened t w attached a a.type.category
    (a.token.or ((w.owner (t.containerOf w) attached).tokenFor a.type.category))
  cases brought : a.token with
  | some token => exact .brought brought
  | none => exact .offered brought offers

theorem titled_completion :
    Titled w a a.type.category (t.completion w a attached).title := by
  change Titled w a a.type.category (if a.hasTitle then a.title else
    (a.type.baseTitle?.map (withAppName · w.appName)).getD "")
  by_cases absent : a.title = ""
  · have made := a.type.heads rfl
    have untitled : ¬a.hasTitle = true := by simp [Attributes.hasTitle, absent]
    rw [if_neg untitled]
    cases base : a.type.baseTitle? with
    | none =>
        simp only [base] at made
        rw [made]
        exact .untitled absent
    | some head =>
        simp only [base] at made
        show Titled w a a.type.category (withAppName head w.appName)
        unfold withAppName
        split
        · rename_i nameless
          exact .headed absent made nameless
        · rename_i named
          exact .signed absent made named
  · have present : a.hasTitle = true := by simp [Attributes.hasTitle, absent]
    rw [if_pos present]
    exact .brought absent

/-- Records are completed by the rules. -/
theorem completes :
    Completes t w attached a a.type.category (t.completion w a attached) where
  category := a.type.falls
  token := tokened_completion
  title := titled_completion
  rest := rfl

/-- A record is completed by the rules whenever its owner is there, whatever token the decor
surface has by then: the answer and the record that the caller holds are the one that they allow,
and nothing else happens. -/
theorem complete_follows_rules {id : WindowId} (named : t.get? id = some w) (a : Attributes)
    (attached : Option Token) :
    (t.complete id a attached).Traceless t ∧
      ∃ c b, (t.complete id a attached).answer = .ok (c, b) ∧
        (t.completeStepwise id attached).run a = .ok c b ∧
        ∀ c' b', Completes t w attached a c' b' ↔ c' = c ∧ b' = b := by
  have answer : (t.complete id a attached).answer =
      .ok (a.type.category, t.completion w a attached) := by
    simp [complete, live, named]
  refine ⟨complete_traceless id a attached, a.type.category, t.completion w a attached, answer, ?_,
    fun c' b' => ?_⟩
  · rw [completeStepwise_run, answer]
  · constructor
    · intro follows
      exact follows.unique completes
    · rintro ⟨rfl, rfl⟩
      exact completes

/-- A tenant with a decor in a container, under a token of its own. -/
def sublet : List (Op Unit) :=
  [.insert (.create () ∅), .insert (.create () ∅),
   .window ⟨0, 1⟩ (.bindTo ⟨none, some ⟨9⟩, "landlord", false⟩ none),
   .window ⟨1, 1⟩ (.bindTo ⟨none, some ⟨42⟩, "tenant", false⟩ none),
   .window ⟨1, 1⟩ (.decor (some ())), .setContainer ⟨1, 1⟩ (some ⟨0, 1⟩)]

/-- An application window takes the token of the container while it is there, and that of the
tenant once the container has left. A sub-window takes the token that the decor has by then, and
is titled. -/
theorem complete_follows_rules_sublet :
    let t := empty.run sublet
    let left := t.run [.remove ⟨0, 1⟩]
    let panel : Attributes := { type := ⟨1002⟩ }
    let titled := { panel with title := "SubPanel:tenant" }
    ∃ w x, t.get? ⟨1, 1⟩ = some w ∧ left.get? ⟨1, 1⟩ = some x ∧
      Completes t w none {} .application { token := some ⟨9⟩ } ∧
      Completes left x none {} .application { token := some ⟨42⟩ } ∧
      Completes t w none panel .subWindow titled ∧
      Completes t w (some ⟨99⟩) panel .subWindow { titled with token := some ⟨99⟩ } := by
  intro t left panel titled
  obtain ⟨w, named⟩ : ∃ w, t.get? ⟨1, 1⟩ = some w := ⟨_, rfl⟩
  obtain ⟨x, stayed⟩ : ∃ x, left.get? ⟨1, 1⟩ = some x := ⟨_, rfl⟩
  refine ⟨w, x, named, stayed, ?_, ?_, ?_, ?_⟩
  · obtain ⟨-, c, b, answer, -, rules⟩ := complete_follows_rules named {} none
    cases answer
    exact (rules _ _).mpr ⟨rfl, rfl⟩
  · obtain ⟨-, c, b, answer, -, rules⟩ := complete_follows_rules stayed {} none
    cases answer
    exact (rules _ _).mpr ⟨rfl, rfl⟩
  · obtain ⟨-, c, b, answer, -, rules⟩ := complete_follows_rules named panel none
    cases answer
    exact (rules _ _).mpr ⟨rfl, by decide⟩
  · obtain ⟨-, c, b, answer, -, rules⟩ := complete_follows_rules named panel (some ⟨99⟩)
    cases answer
    exact (rules _ _).mpr ⟨rfl, by decide⟩

end Hierarchy

end WindowPolicy
