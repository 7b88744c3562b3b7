import BookLookup.Json.Reader
import BookLookup.Metrics.Exposition

/-!
# Metrics are no JSON

Whatever has been counted, the text of the metrics is empty or begins with a
comment. Neither is a JSON text.
-/

namespace BookLookup

/-- A text that begins with a number sign is no JSON. -/
theorem Json.read?_eq_none
    {text : String}
    (begins : text.toList.head? = some '#') :
    Json.read? text = none := by
  obtain ⟨rest, isText⟩ := List.head?_eq_some_iff.mp begins
  have noNumber : number? (some '#' :: rest.map some) = none := rfl
  have noValue (steps : Nat) :
      value? (steps + 1) (some '#' :: rest.map some) = none := by
    rw [value?]
    exact noNumber
  rw [read?, readUnits?, isText, List.map_cons, noValue]

namespace Exposition

/-- The first of some lines, if there is one, is a comment. -/
def Commented (lines : List String) : Prop :=
  ∀ line, lines.head? = some line -> line.toList.head? = some '#'

/-- Lines behind lines that are commented are commented with them. -/
theorem Commented.append
    {front back : List String}
    (frontCommented : Commented front)
    (backCommented : Commented back) :
    Commented (front ++ back) := by
  cases front with
  | nil => exact backCommented
  | cons first others => exact frontCommented

/-- A family is commented. -/
theorem commented_family
    {α : Type}
    (name help type : String)
    (series : Series α)
    (lines : List String × α -> List String) :
    Commented (family name help type series lines) := by
  unfold family
  split
  · exact nofun
  · intro line isFirst
    obtain rfl := Option.some.inj isFirst
    simp

theorem commented_lines (registry : Registry) :
    Commented (lines registry) := by
  unfold lines counters
  repeat' apply Commented.append
  all_goals apply commented_family

/-- The text of the metrics is no JSON. -/
theorem read?_render (registry : Registry) :
    Json.read? (render registry) = none := by
  have commented := commented_lines registry
  rw [render]
  generalize lines registry = all at commented ⊢
  cases all with
  | nil => rfl
  | cons first others =>
      apply Json.read?_eq_none
      obtain ⟨rest, isFirst⟩ := List.head?_eq_some_iff.mp (commented first rfl)
      rw [List.map_cons, String.join_cons]
      simp [isFirst]

end Exposition
end BookLookup
