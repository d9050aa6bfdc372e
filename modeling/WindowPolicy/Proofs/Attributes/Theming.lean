/-
# WindowPolicy.Proofs.Attributes.Theming — the last theme stands

A theme marks nothing as set explicitly, looks at no value that another theme left, and writes
every value that is not marked. So it takes the place of the theme before it altogether, and
nothing tells which themes came earlier, whatever else was done to the attributes in between.
There is one exception. A format that is set explicitly keeps later themes from supplying the
default format, so that the theme before it leaves its default behind.

* `applyTheme_apply_applyTheme`: one operation between two themes;
* `theme_absorbed`: any number of operations that choose no format between two themes;
* `Window.run_applyTheme`: a window that applies its theme again and again;
* `last_theme_stands`: themes in a row.
-/
import WindowPolicy.Proofs.Attributes.Explicit
import WindowPolicy.Proofs.Window.Operation

namespace WindowPolicy

set_option autoImplicit false

namespace Layers

variable {l : Layers} {ops : List Op}

/-- The operation sets a format explicitly. -/
def Op.choosesFormat : Op → Bool
  | .edit (.format f) => f ≠ .unknown
  | _ => false

theorem applyTheme_applyTheme (a b : Theme) :
    (l.applyTheme a).applyTheme b = l.applyTheme b := by
  -- What a theme writes hangs on the four marks alone.
  obtain ⟨current, formatSet, dimSet, softInputSet, defaultFormat, forced, close, closeSet⟩ := l
  cases formatSet <;> cases dimSet <;> cases softInputSet <;> cases closeSet <;> rfl

theorem applyTheme_apply_applyTheme {op : Op} (free : op.choosesFormat = false) (a b : Theme) :
    ((l.applyTheme a).apply op).applyTheme b = (l.apply op).applyTheme b := by
  obtain ⟨current, formatSet, dimSet, softInputSet, defaultFormat, forced, close, closeSet⟩ := l
  cases formatSet <;> cases dimSet <;> cases softInputSet <;> cases closeSet
  all_goals
    cases op with
    | edit e =>
        cases e with
        | format f =>
            -- The format that is given back is the default, which the later theme writes.
            obtain rfl : f = .unknown := by simpa [Op.choosesFormat] using free
            rfl
        | _ => rfl
    | _ => rfl

/-- Nothing is left of a theme after a later one, unless a format was chosen in between. -/
theorem theme_absorbed (free : ∀ op ∈ ops, op.choosesFormat = false) (a b : Theme) :
    ((l.applyTheme a).run ops).applyTheme b = (l.run ops).applyTheme b := by
  induction ops generalizing l a with
  | nil => exact applyTheme_applyTheme a b
  | cons op ops ih =>
      have later : ∀ op ∈ ops, op.choosesFormat = false := fun op member =>
        free op (List.mem_cons_of_mem _ member)
      -- The later theme may as well come right after the operation, too.
      calc
        (((l.applyTheme a).apply op).run ops).applyTheme b
        _ = ((((l.applyTheme a).apply op).applyTheme b).run ops).applyTheme b := (ih later b).symm
        _ = (((l.apply op).applyTheme b).run ops).applyTheme b := by
            rw [applyTheme_apply_applyTheme (free op List.mem_cons_self)]
        _ = ((l.apply op).run ops).applyTheme b := ih later b

/-- A format that is chosen in between keeps the default of the earlier theme. -/
example :
    let chosen (l : Layers) := l.apply (.edit (.format .rgb565))
    ((chosen (({} : Layers).applyTheme { format := .translucent })).applyTheme {}).defaultFormat =
        .translucent ∧
      ((chosen {}).applyTheme {}).defaultFormat = .solid := by
  decide

theorem run_themes (themes : List Theme) (last : Theme) :
    l.run ((themes ++ [last]).map .theme) = l.applyTheme last := by
  have free : ∀ op ∈ themes.map Op.theme, op.choosesFormat = false := by
    simp [Op.choosesFormat]
  induction themes with
  | nil => rfl
  | cons theme themes ih =>
      rw [List.map_append, List.map_singleton, run_snoc] at ih ⊢
      have later : ∀ op ∈ themes.map Op.theme, op.choosesFormat = false := fun op member =>
        free op (List.mem_cons_of_mem _ member)
      exact (theme_absorbed later theme last).trans (ih later)

end Layers

namespace Window

variable {κ : Type} {w : Window κ}

/-- A window that has applied its theme is left as it is when it applies it again, whatever its
context would answer by then. -/
theorem applyTheme_applyTheme_state (a b : Theme) :
    ((w.step (.applyTheme a)).state.step (.applyTheme b)).state =
      (w.step (.applyTheme a)).state := by
  rw [step_state, step_state]
  cases gone : w.destroyed with
  | true => simp [Op.refusable, gone]
  | false => simp [Op.refusable, changed, gone, Layers.applyTheme_applyTheme]

theorem run_applyTheme (first : Theme) (later : List Theme) :
    w.run ((first :: later).map .applyTheme) = (w.step (.applyTheme first)).state := by
  induction later generalizing w first with
  | nil => rfl
  | cons theme later ih =>
      exact (ih theme).trans (applyTheme_applyTheme_state first theme)

end Window

/-- From every state a theme takes the place of the theme before it, so that applying a theme
twice is applying it once, and of any number of themes only the last one counts. A window, which
knows one theme only, is as if it had applied it once. -/
theorem last_theme_stands {κ : Type} :
    (∀ (l : Layers) (a b : Theme), (l.applyTheme a).applyTheme b = l.applyTheme b) ∧
    (∀ (l : Layers) (a : Theme), (l.applyTheme a).applyTheme a = l.applyTheme a) ∧
    (∀ (l : Layers) (themes : List Theme) (last : Theme),
      l.run ((themes ++ [last]).map .theme) = l.applyTheme last) ∧
    ∀ (w : Window κ) (first : Theme) (later : List Theme),
      w.run ((first :: later).map .applyTheme) = (w.step (.applyTheme first)).state :=
  ⟨fun _ => Layers.applyTheme_applyTheme, fun _ a => Layers.applyTheme_applyTheme a a,
    fun _ => Layers.run_themes, fun _ => Window.run_applyTheme⟩

/-- A dim amount is set explicitly before two themes that differ in every part. The other values
are those of the later one, while a window stays with the first answer of its context. -/
theorem last_theme_stands_dusk :
    let l := ({} : Layers).apply (.edit (.dim .one))
    let themed := l.run ([{}, Layers.dusk].map .theme)
    let w := Window.create () ∅
    themed = l.applyTheme Layers.dusk ∧
    (themed.current.format = .translucent ∧ themed.defaultFormat = .translucent ∧
      themed.current.softInput = ⟨.hidden, .pan⟩ ∧ themed.closeOnTouchOutside = true) ∧
    themed.current.dim = .one ∧
    w.run ([{}, Layers.dusk].map .applyTheme) = (w.step (.applyTheme {})).state := by
  intro l themed w
  obtain ⟨-, -, row, window⟩ := last_theme_stands (κ := Unit)
  have last : themed = l.applyTheme Layers.dusk := row l [{}] Layers.dusk
  refine ⟨last, ?_, ?_, window w {} [Layers.dusk]⟩
  · rw [last]
    exact ⟨rfl, rfl, rfl, rfl⟩
  · rw [last]
    rfl

end WindowPolicy
