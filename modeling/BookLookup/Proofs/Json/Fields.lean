import BookLookup.Json.Fields
import BookLookup.Proofs.Elementwise
import Mathlib.Data.List.Perm.Basic

/-!
# Fields among the members of an object

A field finds the value of the only member that has its name, or nothing if no
member has. It fails exactly if its name is given twice. Only the members that
have the name of a field matter, and their order does not.
-/

namespace BookLookup
namespace Json

variable {members others : List (String × Json)} {name : String}

/-! ## What fields find -/

/-- A field finds the value of the only member with its name, or nothing. -/
inductive Finds
    (members : List (String × Json))
    (name : String) : Option Json -> Prop where
  | absent (notNamed : ∀ member ∈ members, member.1 ≠ name) :
      Finds members name none
  | once
      {front back : List (String × Json)}
      {value : Json}
      (shape : members = front ++ (name, value) :: back)
      (notBefore : ∀ member ∈ front, member.1 ≠ name)
      (notBehind : ∀ member ∈ back, member.1 ≠ name) :
      Finds members name (some value)

/-- No value has a name that no member has. -/
theorem valuesNamed_eq_nil_iff :
    valuesNamed [name] members = [] ↔ ∀ member ∈ members, member.1 ≠ name := by
  simp [valuesNamed, List.filter_eq_nil_iff]

/-- One value has a name that one member has. -/
theorem valuesNamed_eq_singleton_iff {value : Json} :
    valuesNamed [name] members = [value] ↔
      ∃ front back, members = front ++ (name, value) :: back ∧
        (∀ member ∈ front, member.1 ≠ name) ∧
        ∀ member ∈ back, member.1 ≠ name := by
  unfold valuesNamed
  rw [List.map_eq_singleton_iff]
  constructor
  · rintro ⟨member, only, rfl⟩
    obtain ⟨front, back, shape, notBefore, named, notBehind⟩ :=
      List.filter_eq_cons_iff.mp only
    obtain rfl : member.1 = name := by
      simpa using named
    exact ⟨front, back, shape, by simpa using notBefore,
      valuesNamed_eq_nil_iff.mp (List.map_eq_nil_iff.mpr notBehind)⟩
  · rintro ⟨front, back, shape, notBefore, notBehind⟩
    refine ⟨(name, value), List.filter_eq_cons_iff.mpr
      ⟨front, back, shape, by simpa using notBefore, by simp, ?_⟩, rfl⟩
    exact List.map_eq_nil_iff.mp (valuesNamed_eq_nil_iff.mpr notBehind)

/-- What the values of a name give is what its field finds. -/
theorem soleValue?_eq_some_iff {found : Option Json} :
    soleValue? (valuesNamed [name] members) = some found ↔
      Finds members name found := by
  constructor
  · intro sole
    match values : valuesNamed [name] members with
    | [] =>
        rw [values] at sole
        obtain rfl := Option.some.inj sole
        exact .absent (valuesNamed_eq_nil_iff.mp values)
    | [value] =>
        rw [values] at sole
        obtain rfl := Option.some.inj sole
        obtain ⟨front, back, shape, notBefore, notBehind⟩ :=
          valuesNamed_eq_singleton_iff.mp values
        exact .once shape notBefore notBehind
    | _ :: _ :: _ =>
        rw [values] at sole
        cases sole
  · intro finds
    cases finds with
    | absent notNamed =>
        rw [valuesNamed_eq_nil_iff.mpr notNamed]
        rfl
    | once shape notBefore notBehind =>
        rw [valuesNamed_eq_singleton_iff.mpr
          ⟨_, _, shape, notBefore, notBehind⟩]
        rfl

/-- As many values have a name as members. -/
theorem length_valuesNamed :
    (valuesNamed [name] members).length =
      (members.map Prod.fst).count name := by
  rw [valuesNamed, List.length_map, List.count_eq_countP, List.countP_map,
    List.countP_eq_length_filter]
  congr 2
  funext member
  rw [Function.comp_apply, List.contains_cons, List.contains_nil, Bool.or_false]

/-- A field that finds something finds what every member with its name has. -/
theorem Finds.eq_some_of_mem
    {found : Option Json}
    (finds : Finds members name found)
    {member : String × Json}
    (inMembers : member ∈ members)
    (named : member.1 = name) :
    found = some member.2 := by
  cases finds with
  | absent notNamed => exact absurd named (notNamed member inMembers)
  | once shape notBefore notBehind =>
      rw [shape] at inMembers
      rcases List.mem_append.mp inMembers with before | here | behind
      · exact absurd named (notBefore member before)
      · rfl
      · exact absurd named (notBehind member (by assumption))

/-- A field finds something acceptable exactly if its name is not given twice and
every member with the name has an acceptable value. -/
theorem exists_finds_and_iff
    {Accepts : Option Json -> Prop}
    (absent : Accepts none) :
    (∃ found, Finds members name found ∧ Accepts found) ↔
      (members.map Prod.fst).count name ≤ 1 ∧
        ∀ member ∈ members, member.1 = name -> Accepts (some member.2) := by
  rw [← length_valuesNamed]
  constructor
  · rintro ⟨found, finds, accepts⟩
    refine ⟨?_, fun member inMembers named =>
      finds.eq_some_of_mem inMembers named ▸ accepts⟩
    have sole := soleValue?_eq_some_iff.mpr finds
    match values : valuesNamed [name] members with
    | [] => exact Nat.zero_le 1
    | [_] => exact Nat.le_refl 1
    | _ :: _ :: _ =>
        rw [values] at sole
        cases sole
  · rintro ⟨notTwice, everyAccepted⟩
    match values : valuesNamed [name] members with
    | [] => exact ⟨none, .absent (valuesNamed_eq_nil_iff.mp values), absent⟩
    | [value] =>
        obtain ⟨front, back, rfl, notBefore, notBehind⟩ :=
          valuesNamed_eq_singleton_iff.mp values
        exact ⟨some value, .once rfl notBefore notBehind,
          everyAccepted (name, value) (by simp) rfl⟩
    | _ :: _ :: _ =>
        rw [values] at notTwice
        simp at notTwice

/-! ## Which members matter -/

/-- Values in another order give the same. -/
theorem soleValue?_perm
    {values rearranged : List Json}
    (perm : values.Perm rearranged) :
    soleValue? values = soleValue? rearranged := by
  match values, rearranged, perm.length_eq with
  | [], [], _ => rfl
  | [value], [other], _ =>
      obtain rfl : value = other := by
        simpa using perm.singleton_eq
      rfl
  | _ :: _ :: _, _ :: _ :: _, _ => rfl

/-- A member has the name of a declared field. -/
def isDeclared
    (declared : List (List String))
    (member : String × Json) : Bool :=
  declared.flatten.contains member.1

/-- Objects have the same fields if they have the same members with declared
names, in whatever order. -/
theorem fields?_object_perm
    {declared : List (List String)}
    (perm : (members.filter (isDeclared declared)).Perm
      (others.filter (isDeclared declared))) :
    fields? declared (.object members) = fields? declared (.object others) := by
  have each : ∀ names ∈ declared,
      soleValue? (valuesNamed names members) =
        soleValue? (valuesNamed names others) := by
    intro names inDeclared
    have kept (all : List (String × Json)) :
        (all.filter (isDeclared declared)).filter
            (fun member => names.contains member.1) =
          all.filter fun member => names.contains member.1 := by
      rw [List.filter_filter]
      refine List.filter_congr fun member _ => ?_
      simp only [isDeclared, List.contains_eq_mem, List.mem_flatten,
        Bool.and_eq_left_iff_imp, decide_eq_true_eq]
      exact fun named => ⟨names, inDeclared, named⟩
    refine soleValue?_perm (.map Prod.snd ?_)
    rw [← kept members, ← kept others]
    exact perm.filter _
  exact Elementwise.mapM_congr each

end Json
end BookLookup
