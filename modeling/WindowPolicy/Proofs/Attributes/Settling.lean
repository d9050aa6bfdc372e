/-
# WindowPolicy.Proofs.Attributes.Settling — a record that is completed again and again

A record may be completed more than once, each time for another owner. What it lacks it takes
from the first owner that has it, and keeps whatever later owners have. The title is settled by
the first owner, since every owner has one for a record that takes titles at all. The token
stays open until an owner has one: an owner without a token leaves the next one its turn.

* `Owner.Offers`, `FirstOffer`: the token that an owner has, and the first one among owners;
* `Entitled`, `Settled`: the title, and the record that owners come to;
* `text_ne_empty`, `title_completeFor_ne_empty`: a title that is made is not empty;
* `token_completedFor`, `title_completedFor`: token and title after any owners;
* `completion_settles`: what owners come to, which later owners and old ones leave as it is.
-/
import WindowPolicy.Proofs.Attributes.TypeCode

namespace WindowPolicy

set_option autoImplicit false

variable {a b : Attributes} {o : Owner} {owners : List Owner} {c : Category} {token : Token}

/-! ## Owners -/

/-- The owner has a token for records of a category. -/
inductive Owner.Offers (o : Owner) : Category → Token → Prop
  | decorated {token : Token} (attached : o.decorToken = some token) : Offers o .subWindow token
  /-- In a container that has a token. A container without one offers none. -/
  | contained {token : Token} (inside : o.container = some (some token)) :
      Offers o .application token
  | topLevel {token : Token} (outside : o.container = none) (own : o.appToken = some token) :
      Offers o .application token

theorem Owner.tokenFor_eq_some_iff : o.tokenFor c = some token ↔ o.Offers c token := by
  constructor
  · intro has
    cases c with
    | subWindow => exact .decorated has
    | system => cases has
    | application =>
        change o.container.getD o.appToken = some token at has
        cases inside : o.container with
        | none =>
            rw [inside] at has
            exact .topLevel inside has
        | some offered =>
            rw [inside] at has
            exact .contained (inside.trans (congrArg some has))
  · intro offers
    cases offers with
    | decorated attached => exact attached
    | contained inside => simp [tokenFor, inside]
    | topLevel outside own => simp [tokenFor, outside, own]

/-- The token is that of the first owner that has one. -/
def FirstOffer (owners : List Owner) (c : Category) (token : Token) : Prop :=
  ∃ before o after, owners = before ++ o :: after ∧ o.Offers c token ∧
    ∀ p ∈ before, ∀ other, ¬p.Offers c other

theorem findSome?_tokenFor_eq_some_iff :
    owners.findSome? (·.tokenFor c) = some token ↔ FirstOffer owners c token := by
  simp only [List.findSome?_eq_some_iff, Owner.tokenFor_eq_some_iff, FirstOffer,
    Option.eq_none_iff_forall_ne_some, ne_eq]

/-! ## Rules -/

/-- The title of a record that has gone through owners. -/
inductive Entitled (owners : List Owner) (a : Attributes) : String → Prop
  | brought (present : a.title ≠ "") : Entitled owners a a.title
  | unowned (absent : a.title = "") (ownerless : owners = []) : Entitled owners a ""
  | untitled (absent : a.title = "") (falls : a.type.Falls .application) : Entitled owners a ""
  | headed {o : Owner} {rest : List Owner} {c : Category} {head : String} (absent : a.title = "")
      (first : owners = o :: rest) (falls : a.type.Falls c) (made : a.type.Heads c head)
      (nameless : o.appName = "") : Entitled owners a head
  /-- Only the first owner signs the title. -/
  | signed {o : Owner} {rest : List Owner} {c : Category} {head : String} (absent : a.title = "")
      (first : owners = o :: rest) (falls : a.type.Falls c) (made : a.type.Heads c head)
      (named : o.appName ≠ "") : Entitled owners a (head ++ ":" ++ o.appName)

/-- The record `b` is what `a` comes to that has gone through owners. -/
structure Settled (owners : List Owner) (a b : Attributes) : Prop where
  token_iff : ∀ token, b.token = some token ↔
    a.token = some token ∨ a.token = none ∧ ∃ c, a.type.Falls c ∧ FirstOffer owners c token
  title : Entitled owners a b.title
  /-- Nothing else is written. -/
  rest : b = { a with token := b.token, title := b.title }

/-! ## Titles -/

theorem TypeCode.text_ne_empty (code : TypeCode) : code.text ≠ "" := by
  have digits (n : Nat) : n.repr ≠ "" := by
    intro empty
    have positive : 0 < n.repr.length := Nat.length_repr_pos
    rw [empty] at positive
    exact absurd positive (by decide)
  change code.toInt.repr ≠ ""
  cases code.toInt with
  | ofNat n => exact digits n
  | negSucc n => simp [Int.repr]

/-- A title that a code makes is not empty. -/
theorem TypeCode.Heads.ne_empty {code : TypeCode} {head : String} (made : code.Heads c head) :
    head ≠ "" := by
  cases made with
  | named listed =>
      intro empty
      simp [empty, subWindowNames] at listed
  | numbered => exact code.text_ne_empty
  | system => simp

namespace Attributes

/-- The first owner gives the record its title. -/
theorem entitled_completeFor (a : Attributes) (o : Owner) (rest : List Owner) :
    Entitled (o :: rest) a (a.completeFor o).title := by
  change Entitled (o :: rest) a
    (if a.hasTitle then a.title else (a.type.baseTitle?.map (withAppName · o.appName)).getD "")
  by_cases absent : a.title = ""
  · have falls := a.type.falls
    have made := a.type.heads rfl
    have untitled : ¬a.hasTitle = true := by simp [hasTitle, absent]
    rw [if_neg untitled]
    cases base : a.type.baseTitle? with
    | none =>
        simp only [base] at made
        rw [made] at falls
        exact .untitled absent falls
    | some head =>
        simp only [base] at made
        show Entitled (o :: rest) a (withAppName head o.appName)
        unfold withAppName
        split
        · rename_i nameless
          exact .headed absent rfl falls made nameless
        · rename_i named
          exact .signed absent rfl falls made named
  · have present : a.hasTitle = true := by simp [hasTitle, absent]
    rw [if_pos present]
    exact .brought absent

/-- There is a title, or the record takes none. -/
def TitleSettled (a : Attributes) : Prop := a.title ≠ "" ∨ a.type.category = .application

/-- One owner is enough to settle the title. -/
theorem titleSettled_completeFor (a : Attributes) (o : Owner) : (a.completeFor o).TitleSettled := by
  have entitled := a.entitled_completeFor o []
  generalize same : (a.completeFor o).title = title at entitled
  unfold TitleSettled
  rw [same]
  cases entitled with
  | brought present => exact Or.inl present
  | unowned _ ownerless => cases ownerless
  | untitled _ falls => exact Or.inr (a.type.falls.unique falls)
  | headed _ _ _ made => exact Or.inl made.ne_empty
  | signed => exact Or.inl (by simp)

theorem TitleSettled.title_completeFor (settled : a.TitleSettled) (o : Owner) :
    (a.completeFor o).title = a.title := by
  change (if a.hasTitle then a.title else _) = a.title
  rcases settled with present | application
  · exact if_pos (by simp [hasTitle, present])
  · by_cases absent : a.title = ""
    · simp [hasTitle, absent, TypeCode.baseTitle?, application]
    · exact if_pos (by simp [hasTitle, absent])

/-! ## Any number of owners -/

/-- The record that owners come to, from the first one to the last. -/
def completedFor (a : Attributes) (owners : List Owner) : Attributes := owners.foldl completeFor a

theorem completedFor_append (owners later : List Owner) :
    a.completedFor (owners ++ later) = (a.completedFor owners).completedFor later :=
  List.foldl_append

theorem type_completedFor (owners : List Owner) : (a.completedFor owners).type = a.type := by
  induction owners generalizing a with
  | nil => rfl
  | cons o rest ih => exact ih (a := a.completeFor o)

/-- Owners write nothing but the token and the title. -/
theorem completedFor_eq (owners : List Owner) :
    a.completedFor owners =
      { a with
        token := (a.completedFor owners).token
        title := (a.completedFor owners).title } := by
  induction owners generalizing a with
  | nil => rfl
  | cons o rest ih => exact ih (a := a.completeFor o)

/-- The token that the record brings stays, or else the first one that an owner has. -/
theorem token_completedFor (owners : List Owner) :
    (a.completedFor owners).token =
      a.token.or (owners.findSome? (·.tokenFor a.type.category)) := by
  induction owners generalizing a with
  | nil => exact Option.or_none.symm
  | cons o rest ih =>
      have later := ih (a := a.completeFor o)
      change ((a.completeFor o).completedFor rest).token = _
      rw [later]
      change (a.token.or (o.tokenFor a.type.category)).or _ = _
      rw [Option.or_assoc, List.findSome?_cons]
      cases o.tokenFor a.type.category <;> rfl

theorem TitleSettled.title_completedFor (settled : a.TitleSettled) (owners : List Owner) :
    (a.completedFor owners).title = a.title := by
  induction owners generalizing a with
  | nil => rfl
  | cons o rest ih =>
      have still := ih (a.titleSettled_completeFor o)
      exact still.trans (settled.title_completeFor o)

/-- The title is settled by the first owner. -/
theorem title_completedFor_cons (a : Attributes) (o : Owner) (rest : List Owner) :
    (a.completedFor (o :: rest)).title = (a.completeFor o).title :=
  (a.titleSettled_completeFor o).title_completedFor rest

theorem titleSettled_completedFor {owners : List Owner} (owned : owners ≠ []) :
    (a.completedFor owners).TitleSettled := by
  cases owners with
  | nil => exact absurd rfl owned
  | cons o rest =>
      unfold TitleSettled
      rw [title_completedFor_cons, type_completedFor]
      exact a.titleSettled_completeFor o

theorem settled_completedFor (a : Attributes) (owners : List Owner) :
    Settled owners a (a.completedFor owners) where
  token_iff token := by
    rw [token_completedFor, Option.or_eq_some_iff, findSome?_tokenFor_eq_some_iff]
    refine or_congr_right (and_congr_right fun _ => ?_)
    constructor
    · exact fun first => ⟨_, a.type.falls, first⟩
    · rintro ⟨c, falls, first⟩
      rwa [a.type.falls.unique falls]
  title := by
    cases owners with
    | nil =>
        by_cases absent : a.title = ""
        · rw [show (a.completedFor []).title = "" from absent]
          exact .unowned absent rfl
        · exact .brought absent
    | cons o rest =>
        rw [title_completedFor_cons]
        exact a.entitled_completeFor o rest
  rest := completedFor_eq owners

/-- An owner that the record has gone through has nothing more for it. -/
theorem completeFor_of_mem {o : Owner} (member : o ∈ owners) :
    (a.completedFor owners).completeFor o = a.completedFor owners := by
  have settled := titleSettled_completedFor (a := a) (List.ne_nil_of_mem member)
  have title := settled.title_completeFor o
  have token : (a.completedFor owners).token.or
      (o.tokenFor (a.completedFor owners).type.category) = (a.completedFor owners).token := by
    rw [type_completedFor, token_completedFor]
    cases a.token with
    | some token => rfl
    | none =>
        cases first : owners.findSome? (·.tokenFor a.type.category) with
        | some token => rfl
        | none => exact List.findSome?_eq_none_iff.mp first o member
  change ({ a.completedFor owners with
    token := (a.completedFor owners).token.or
      (o.tokenFor (a.completedFor owners).type.category)
    title := ((a.completedFor owners).completeFor o).title } : Attributes) = _
  rw [title, token]

/-- Whatever owners a record goes through, its title is settled by the first of them and its
token by the first that has one. Neither later owners nor old ones change what is settled. -/
theorem completion_settles (a : Attributes) (owners : List Owner) :
    Settled owners a (a.completedFor owners) ∧
    (∀ later token, (a.completedFor owners).token = some token →
      (a.completedFor (owners ++ later)).token = some token) ∧
    (∀ later, owners ≠ [] →
      (a.completedFor (owners ++ later)).title = (a.completedFor owners).title) ∧
    ∀ o ∈ owners, (a.completedFor owners).completeFor o = a.completedFor owners := by
  refine ⟨settled_completedFor a owners, fun later token present => ?_, fun later owned => ?_,
    fun o member => completeFor_of_mem member⟩
  · rw [completedFor_append, token_completedFor, present]
    rfl
  · rw [completedFor_append]
    exact (titleSettled_completedFor owned).title_completedFor later

/-- A panel goes from an owner without a decor to one with a decor, and to another one. -/
theorem completion_settles_passedOn :
    let bare : Owner := ⟨"bare", some ⟨1⟩, none, none⟩
    let owners : List Owner := [bare, ⟨"second", none, none, some ⟨2⟩⟩]
    let later : List Owner := [⟨"third", none, none, some ⟨3⟩⟩]
    let panel : Attributes := { type := ⟨1000⟩ }
    owners ≠ [] ∧ bare ∈ owners ∧
      (panel.completedFor owners).completeFor bare = panel.completedFor owners ∧
      panel.completedFor (owners ++ later) =
        { panel with token := some ⟨2⟩, title := "Panel:bare" } := by
  intro bare owners later panel
  have owned : owners ≠ [] := List.cons_ne_nil _ _
  have member : bare ∈ owners := List.mem_cons_self
  obtain ⟨-, token, title, again⟩ := panel.completion_settles owners
  obtain ⟨settled, -⟩ := panel.completion_settles (owners ++ later)
  refine ⟨owned, member, again bare member, ?_⟩
  rw [settled.rest, token later ⟨2⟩ rfl, title later owned]
  rfl

end Attributes

end WindowPolicy
