import Mathlib.Data.List.Nodup
import ValidatorAlarm.Json.Record

/-!
# What a record makes of its fields

The fields of an object are put into the declared places one after the other.  In the end every place
holds what the object gives to the name of the place, wherever that stands among the fields; and the
object is refused if it gives two values to a declared name, or has a name that cannot be read.
-/
namespace ValidatorAlarm.Json

/-- The values that fields give to a name. -/
def given (name : String) (fields : List (Raw × Json)) : List Json :=
  fields.filterMap fun field => if field.1.read? = some name then some field.2 else none

variable {declared : List String} {fields : List (Raw × Json)}

theorem given_cons_self {raw : Raw} {name : String} (h : raw.read? = some name) (value : Json) :
    given name ((raw, value) :: fields) = value :: given name fields := by
  simp [given, h]

theorem given_cons_of_ne {raw : Raw} {name other : String} (h : raw.read? = some name)
    (hne : other ≠ name) (value : Json) :
    given other ((raw, value) :: fields) = given other fields := by
  simp [given, h, Ne.symm hne]

/-- The values held for some names, with one more. -/
def hold (places : String → Option Json) (name : String) (value : Json) (other : String) : Option Json :=
  if other = name then some value else places other

/-- Whether a value is still among the fields or held in its place already, it is the same for the name. -/
theorem given_hold {raw : Raw} {name : String} (h : raw.read? = some name) {places : String → Option Json}
    (hfree : places name = none) (value : Json) (other : String) :
    (given other ((raw, value) :: fields)).length + (places other).toList.length =
        (given other fields).length + (hold places name value other).toList.length ∧
      (places other).or (given other ((raw, value) :: fields)).head? =
        (hold places name value other).or (given other fields).head? := by
  unfold hold
  by_cases hother : other = name
  · subst hother
    simp [given_cons_self h, hfree]
  · rw [given_cons_of_ne h hother, if_neg hother]
    exact ⟨rfl, rfl⟩

/-- Filling the place of one name. -/
theorem set_places (hnodup : declared.Nodup) {name : String} {i : Nat}
    (hi : declared.idxOf? name = some i) (places : String → Option Json) (value : Json) :
    (declared.map places).set i (some value) = declared.map (hold places name value) := by
  obtain ⟨hlt, hname, -⟩ := List.idxOf?_eq_some_iff.mp hi
  apply List.ext_getElem
  · simp
  · intro j hj _
    have hj' : j < declared.length := by simpa using hj
    simp only [List.getElem_set, List.getElem_map, hold]
    by_cases hij : i = j
    · subst hij
      simp [hname]
    · have hother : declared[j] ≠ name := by
        intro h
        have hsame : declared[i] = declared[j] := by rw [hname, h]
        exact hij (hnodup.getElem_inj_iff.mp hsame)
      simp [hij, hother]

/-! ### One field -/

theorem placeFields_undeclared {raw : Raw} {name : String} (hread : raw.read? = some name)
    (hi : declared.idxOf? name = none) (value : Json) (places : List (Option Json)) :
    placeFields declared ((raw, value) :: fields) places = placeFields declared fields places := by
  simp [placeFields, hread, hi]

theorem placeFields_declared {raw : Raw} {name : String} (hread : raw.read? = some name)
    (hnodup : declared.Nodup) (hname : name ∈ declared) (value : Json) (places : String → Option Json) :
    placeFields declared ((raw, value) :: fields) (declared.map places) =
      if (places name).isNone then placeFields declared fields (declared.map (hold places name value))
      else none := by
  obtain ⟨i, hi⟩ : ∃ i, declared.idxOf? name = some i := by
    cases hi : declared.idxOf? name with
    | none => exact absurd hname (List.idxOf?_eq_none_iff.mp hi)
    | some i => exact ⟨i, rfl⟩
  obtain ⟨hlt, hat, -⟩ := List.idxOf?_eq_some_iff.mp hi
  have hplace : (declared.map places)[i]? = some (places name) := by
    rw [List.getElem?_map, List.getElem?_eq_getElem hlt, hat]
    rfl
  rw [← set_places hnodup hi]
  cases hfree : places name with
  | none =>
    rw [hfree] at hplace
    simp only [placeFields, hread, hi, hplace, Option.bind_eq_bind, Option.bind_some]
    rfl
  | some taken =>
    rw [hfree] at hplace
    simp only [placeFields, hread, hi, hplace, Option.bind_eq_bind, Option.bind_some]
    rfl

/-- **What the places hold in the end**: nothing is refused exactly if every name can be read and no
declared name gets a second value. -/
theorem placeFields_eq_some_iff (hnodup : declared.Nodup) (places : String → Option Json)
    {out : List (Option Json)} :
    placeFields declared fields (declared.map places) = some out ↔
      (∀ field ∈ fields, ∃ name, field.1.read? = some name) ∧
      (∀ name ∈ declared, (given name fields).length + (places name).toList.length ≤ 1) ∧
      out = declared.map fun name => (places name).or (given name fields).head? := by
  induction fields generalizing places with
  | nil =>
    have hone : ∀ name, (places name).toList.length ≤ 1 := by
      intro name
      cases places name <;> simp
    simp [placeFields, given, hone, eq_comm]
  | cons field fields ih =>
    obtain ⟨raw, value⟩ := field
    cases hread : raw.read? with
    | none => simp [placeFields, hread]
    | some name =>
      have hreadable : (∀ field ∈ (raw, value) :: fields, ∃ name, field.1.read? = some name) ↔
          ∀ field ∈ fields, ∃ name, field.1.read? = some name := by
        simp [hread]
      rw [hreadable]
      by_cases hname : name ∈ declared
      · rw [placeFields_declared hread hnodup hname]
        cases hfree : places name with
        | some taken =>
          -- the place is taken, so this is the second value
          refine iff_of_false (by simp) ?_
          rintro ⟨-, hone, -⟩
          have hsecond := hone name hname
          simp [given_cons_self hread, hfree] at hsecond
        | none =>
          have hhold := @given_hold fields raw name hread places hfree value
          rw [Option.isNone_none, if_pos rfl, ih]
          simp only [hhold]
      · have hgiven : ∀ other ∈ declared,
            given other ((raw, value) :: fields) = given other fields := by
          intro other hother
          refine given_cons_of_ne hread ?_ value
          rintro rfl
          exact hname hother
        have hplaces : (declared.map fun other =>
              (places other).or (given other ((raw, value) :: fields)).head?) =
            declared.map fun other => (places other).or (given other fields).head? := by
          refine List.map_congr_left fun other hother => ?_
          rw [hgiven other hother]
        rw [placeFields_undeclared hread (List.idxOf?_eq_none_iff.mpr hname), ih, hplaces]
        refine and_congr_right fun _ => and_congr_left fun _ => forall₂_congr fun other hother => ?_
        rw [hgiven other hother]

/-- An object is a record exactly if every name can be read and no declared name is given twice, and
then each declared name has the value that is given to it. -/
theorem record?_object (hnodup : declared.Nodup) {out : List (Option Json)} :
    record? declared (.object fields) = some out ↔
      (∀ field ∈ fields, ∃ name, field.1.read? = some name) ∧
      (∀ name ∈ declared, (given name fields).length ≤ 1) ∧
      out = declared.map fun name => (given name fields).head? := by
  have h := @placeFields_eq_some_iff declared fields hnodup (fun _ => none) out
  simpa [record?] using h

end ValidatorAlarm.Json
