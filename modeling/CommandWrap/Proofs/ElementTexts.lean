import CommandWrap.Invocation.Render

/-!
# Texts of elements

A value is shown by one text, its canonical one, whether it is the value of a flag or an element of a list
(`elementText_eq_canonical`).  The entries of maps show it too, unless the value is a member of an enumeration of texts
that is shown in another way than by its text (`entryText_eq_canonical_iff`).  The enumeration of the shapes is one whose
members are.
-/
namespace CommandWrap

namespace Value

/-- An element of a list is shown by its canonical text. -/
theorem elementText_eq_canonical (v : Value) : v.elementText = v.canonical := by
  cases v <;> rfl

/-- **A value shows its text** if it is no member of an enumeration that shows its members in another way. -/
def ShowsText (v : Value) : Prop :=
  ∀ m, v = .textMember m → m.shown = m.text

theorem entryText_eq_canonical_iff {v : Value} : v.entryText = v.canonical ↔ v.ShowsText := by
  cases v with
  | textMember m => simp [entryText, canonical, ShowsText]
  | _ => simp [entryText, canonical, display, ShowsText]

end Value

namespace Render

/-- A present value is rendered in the shape that is named. -/
theorem flag_word (name : String) (s : Shape) {v : Value} (hv : v ≠ .none) : flag name s.word v = shaped name s v := by
  rw [flag, Shape.ofWord?_word]
  exact hv

theorem flag_single (name : String) {v : Value} (hv : v ≠ .none) :
    flag name "single" v = .ok [long name ++ "=" ++ v.canonical] :=
  flag_word name .single hv

theorem flag_list (name : String) (items : List Value) :
    flag name "list" (.list items) = .ok (items.flatMap fun v => [long name, v.canonical]) := by
  have hword : flag name "list" (.list items) = .ok (items.flatMap fun v => [long name, v.elementText]) :=
    flag_word name .list nofun
  simpa only [Value.elementText_eq_canonical] using hword

theorem flag_map (name : String) (entries : List (Value × Value)) :
    flag name "map" (.map entries) =
      .ok (entries.flatMap fun e => [long name, e.1.display ++ "=" ++ e.2.entryText]) :=
  flag_word name .map nofun

/-- Arguments in pairs agree if the second ones do. -/
theorem flatMap_pair_inj {α : Type} (first : String) {text text' : α → String} {entries : List α} :
    (entries.flatMap fun e => [first, text e]) = (entries.flatMap fun e => [first, text' e]) ↔
      ∀ e ∈ entries, text e = text' e := by
  induction entries with
  | nil => simp
  | cons e rest ih => simp [ih]

/-- **One text in all shapes.**  A flag shows a value, and each element of a list, by its canonical text.  It shows the
values of a map so exactly if they show their texts. -/
theorem elements_canonical (name : String) :
    (∀ v : Value, v ≠ .none → flag name "single" v = .ok [long name ++ "=" ++ v.canonical]) ∧
    (∀ items : List Value, flag name "list" (.list items) = .ok (items.flatMap fun v => [long name, v.canonical])) ∧
    ∀ entries : List (String × Value),
      flag name "map" (.map (entries.map fun e => (.text e.1, e.2))) =
          .ok (entries.flatMap fun e => [long name, e.1 ++ "=" ++ e.2.canonical]) ↔
        ∀ e ∈ entries, e.2.ShowsText := by
  refine ⟨fun v hv => flag_single name hv, flag_list name, fun entries => ?_⟩
  rw [flag_map, List.flatMap_map, Except.ok.injEq, flatMap_pair_inj]
  refine forall₂_congr fun e _ => ?_
  rw [← Value.entryText_eq_canonical_iff]
  exact String.append_right_inj _

/-- The shape of lists is one text alone and in a list, and another in a map. -/
theorem elements_canonical_shape :
    flag "l" "single" (.shape .list) = .ok ["--l=list"] ∧
    flag "l" "list" (.list [.shape .list]) = .ok ["--l", "list"] ∧
    flag "l" "map" (.map [(.text "k", .shape .list)]) ≠ .ok ["--l", "k=list"] := by
  obtain ⟨hsingle, hlist, hmap⟩ := elements_canonical "l"
  refine ⟨hsingle (.shape .list) nofun, hlist [.shape .list], fun h => ?_⟩
  have hshows : (Value.shape .list).ShowsText := (hmap [("k", .shape .list)]).mp h ("k", .shape .list) (by simp)
  exact absurd (hshows _ rfl) (by decide)

end Render

end CommandWrap
