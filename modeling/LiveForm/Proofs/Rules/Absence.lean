import LiveForm.Proofs.Json.Access
import LiveForm.Rules.Visibility

/-!
# Values that are not there

A value that is not there is meant to read as `null` in every condition. Where values are compared
as they are, by their truth or by their text, it does. A comparison by number takes it for no
number, which passes no comparison, while `null` is zero. So a condition that zero passes is the
only one that tells the two apart (`Condition.holds_null`).
-/

namespace LiveForm

namespace Binary64

theorem lt_nan (x : Binary64) : x.lt nan = false := by
  rw [lt, show nan.isNaN = true from rfl]
  simp

theorem nan_lt (x : Binary64) : nan.lt x = false := by
  rw [lt, show nan.isNaN = true from rfl]
  simp

end Binary64

/-- The comparison is by number, and zero passes it. -/
def Comparison.zeroPasses (comparison : Comparison) (other : Json) : Bool :=
  match comparison with
  | greaterThan => other.number.lt .zero
  | lessThan => Binary64.zero.lt other.number
  | _ => false

/-- A condition that zero passes. -/
def Condition.zeroPasses (c : Condition) : Bool := c.comparison.zeroPasses c.value

/-- To a comparison `null` is what no value is, unless zero passes it. -/
theorem Comparison.holds_some_null (comparison : Comparison) (other : Json) :
    comparison.holds (some .null) other =
      (comparison.holds none other || comparison.zeroPasses other) := by
  cases comparison with
  | greaterThan =>
    have hnone : greaterThan.holds none other = false := other.number.lt_nan
    rw [hnone, Bool.false_or]
    rfl
  | lessThan =>
    have hnone : lessThan.holds none other = false := other.number.nan_lt
    rw [hnone, Bool.false_or]
    rfl
  | _ => exact (Bool.or_false _).symm

/-- No value does not pass what zero passes. -/
theorem Comparison.holds_none_of_zeroPasses {comparison : Comparison} {other : Json}
    (h : comparison.zeroPasses other = true) : comparison.holds none other = false := by
  cases comparison with
  | greaterThan => exact other.number.lt_nan
  | lessThan => exact other.number.nan_lt
  | _ => cases h

/-- A condition on a value that is not there holds exactly if it holds of `null`, unless zero passes
it. Then it fails where there is no value, and holds of `null`. So a `null` that is put where nothing
is leaves every condition as it was, but for those that zero passes. -/
theorem Condition.holds_null {c : Condition} {without cleared : Json}
    (hwithout : without.get? c.field = none) (hcleared : cleared.get? c.field = some .null) :
    (c.holds without = c.holds cleared ↔ c.zeroPasses = false) ∧
    (c.zeroPasses = true → c.holds without = false ∧ c.holds cleared = true) ∧
    (without.Writable (segments c.field) → ∃ data, without.set? c.field .null = some data ∧
      (c.holds data = c.holds without ↔ c.zeroPasses = false)) := by
  have hnone : c.holds without = c.comparison.holds none c.value := by rw [holds, hwithout]
  have hnull {data : Json} (hdata : data.get? c.field = some .null) :
      c.holds data = (c.holds without || c.zeroPasses) := by
    rw [hnone, holds, hdata]
    exact c.comparison.holds_some_null c.value
  have hpassed (h : c.zeroPasses = true) : c.holds without = false :=
    hnone.trans (Comparison.holds_none_of_zeroPasses h)
  have hsame {data : Json} (hdata : data.get? c.field = some .null) :
      c.holds data = c.holds without ↔ c.zeroPasses = false := by
    rw [hnull hdata]
    cases hzero : c.zeroPasses with
    | false => simp
    | true => simp [hpassed hzero]
  refine ⟨eq_comm.trans (hsame hcleared), fun hzero => ⟨hpassed hzero, ?_⟩, fun hroom => ?_⟩
  · rw [hnull hcleared, hzero, Bool.or_true]
  · exact ⟨_, Json.set?_of_writable hroom .null, hsame (Json.get?_set_self without c.field .null)⟩

/-- Zero does not pass "more than 18", so that a missing age fails it as `null` does. -/
theorem holds_null_ofAge :
    let c : Condition := ⟨"age", .greaterThan, .ofNat 18⟩
    let without : Json := .obj [("name", .str "Ada")]
    let cleared : Json := .obj [("age", .null)]
    without.get? c.field = none ∧ cleared.get? c.field = some .null ∧
      without.Writable (segments c.field) ∧ c.holds without = c.holds cleared ∧
      ∃ data, without.set? c.field .null = some data ∧ c.holds data = c.holds without := by
  intro c without cleared
  have hroom : without.Writable (segments c.field) := (Json.isSome_write?_iff .null).mp (by decide)
  have hzero : c.zeroPasses = false := by decide
  have hwithout : without.get? c.field = none := by decide
  have hcleared : cleared.get? c.field = some .null := by decide
  obtain ⟨hsame, -, hput⟩ := Condition.holds_null hwithout hcleared
  obtain ⟨data, hdata, hholds⟩ := hput hroom
  exact ⟨hwithout, hcleared, hroom, hsame.mpr hzero, data, hdata, hholds.mpr hzero⟩

/-- Zero passes "less than 18". A missing age does not, and a `null` that is put there does. -/
theorem missing_is_not_null :
    let c : Condition := ⟨"age", .lessThan, .ofNat 18⟩
    (Json.obj []).get? c.field = none ∧
      (Json.obj []).set? c.field .null = some (.obj [("age", .null)]) ∧
      (Json.obj [("age", .null)]).get? c.field = some .null ∧
      c.holds (.obj []) = false ∧ c.holds (.obj [("age", .null)]) = true := by
  decide

end LiveForm
