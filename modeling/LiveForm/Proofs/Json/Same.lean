import LiveForm.Definition.Writing
import LiveForm.Json.Loose

/-!
# Values that are equal as data

Equality of the data takes both zeros for one number, and nothing else for the same that is
different (`Binary64.same_iff`). It passes from the parts of a value to the whole: members that are
the same make objects that are the same, and constraints that are the same make the same value for
the rules (`Constraints.same_toJson`). In the other direction, values that are the same have the
same members.
-/

namespace LiveForm

namespace Binary64

/-- Two numbers are the same if they are equal, or both zero. -/
theorem same_iff {x y : Binary64} :
    x.same y = true ↔ x.isNaN = false ∧ y.isNaN = false ∧
      (x = y ∨ x.isZero = true ∧ y.isZero = true) := by
  obtain ⟨nx, mx, hx⟩ := x
  obtain ⟨ny, my, hy⟩ := y
  simp only [same, Bool.and_eq_true, Bool.not_eq_true', beq_iff_eq, key, isZero, Binary64.mk.injEq,
    and_assoc]
  refine and_congr_right fun _ => and_congr_right fun _ => ?_
  cases nx <;> cases ny <;> simp <;> omega

/-- Numbers that are the same compare alike. -/
theorem lt_congr {x y : Binary64} (h : x.same y = true) (z : Binary64) :
    z.lt x = z.lt y ∧ x.lt z = y.lt z := by
  simp only [same, Bool.and_eq_true, Bool.not_eq_true', beq_iff_eq] at h
  obtain ⟨⟨hx, hy⟩, hkey⟩ := h
  simp only [lt, hx, hy, hkey, and_self]

/-- A text for people has one zero. -/
theorem plainText_congr {x y : Binary64} (h : x.same y = true) : x.plainText = y.plainText := by
  obtain ⟨-, -, rfl | ⟨hx, hy⟩⟩ := same_iff.mp h
  · rfl
  · obtain ⟨nx, mx, hmx⟩ := x
    obtain ⟨ny, my, hmy⟩ := y
    obtain rfl : mx = 0 := eq_of_beq hx
    obtain rfl : my = 0 := eq_of_beq hy
    cases nx <;> cases ny <;> rfl

end Binary64

namespace Number

/-- Numbers that are the same are equal, or both zero with a point. -/
theorem toBinary64_same {m n : Number} (h : m.same n = true) :
    m = n ∨ m.toBinary64.same n.toBinary64 = true := by
  cases m with
  | int m hm =>
    cases n with
    | int n hn =>
      obtain rfl : m = n := eq_of_beq h
      exact .inl rfl
    | float y hy => cases h
  | float x hx =>
    cases n with
    | int n hn => cases h
    | float y hy => exact .inr h

theorem natural?_congr {m n : Number} (h : m.same n = true) : m.natural? = n.natural? := by
  cases m with
  | int m hm =>
    cases n with
    | int n hn =>
      obtain rfl : m = n := eq_of_beq h
      rfl
    | float y hy => cases h
  | float x hx =>
    cases n with
    | int n hn => cases h
    | float y hy => rfl

end Number

namespace Json

/-- Two values that may not be there are both missing, or the same. -/
def SameIfAny (a b : Option Json) : Prop :=
  (a = none ∧ b = none) ∨ ∃ v w, a = some v ∧ b = some w ∧ v.same w = true

variable {v w : Json} {a b : Option Json} {ms ns ms' ns' : List (String × Json)}

theorem SameIfAny.isSome_eq (h : SameIfAny a b) : a.isSome = b.isSome := by
  rcases h with ⟨rfl, rfl⟩ | ⟨v, w, rfl, rfl, -⟩ <;> rfl

/-- Members that are the same are found alike. -/
theorem sameIfAny_find? (h : sameMembers ms ns = true) (key : String) :
    SameIfAny (Keyed.find? ms key) (Keyed.find? ns key) := by
  induction ms generalizing ns with
  | nil =>
    cases ns with
    | nil => exact .inl ⟨rfl, rfl⟩
    | cons n ns => cases h
  | cons m ms ih =>
    cases ns with
    | nil => cases h
    | cons n ns =>
      simp only [sameMembers, Bool.and_eq_true, beq_iff_eq] at h
      obtain ⟨⟨hkey, hvalue⟩, hrest⟩ := h
      simp only [Keyed.find?, hkey]
      split
      · exact .inr ⟨_, _, rfl, rfl, hvalue⟩
      · exact ih hrest

/-- Values that are the same have the same members. -/
theorem sameIfAny_member? (h : v.same w = true) (key : String) :
    SameIfAny (v.member? key) (w.member? key) := by
  cases v with
  | obj ms =>
    cases w with
    | obj ns => exact sameIfAny_find? (by simpa only [same] using h) key
    | _ => cases h
  | _ => cases w <;> first | exact .inl ⟨rfl, rfl⟩ | cases h

theorem sameMembers_append (h : sameMembers ms ns = true) (h' : sameMembers ms' ns' = true) :
    sameMembers (ms ++ ms') (ns ++ ns') = true := by
  induction ms generalizing ns with
  | nil =>
    cases ns with
    | nil => exact h'
    | cons n ns => cases h
  | cons m ms ih =>
    cases ns with
    | nil => cases h
    | cons n ns =>
      simp only [sameMembers, Bool.and_eq_true] at h
      simp only [List.cons_append, sameMembers, Bool.and_eq_true]
      exact ⟨h.1, ih h.2⟩

/-- Members that are written when they have a value are the same if their values are. -/
theorem sameMembers_memberIf (key : String) (h : SameIfAny a b) :
    sameMembers (memberIf key a) (memberIf key b) = true := by
  rcases h with ⟨rfl, rfl⟩ | ⟨v, w, rfl, rfl, hsame⟩
  · rfl
  · simp [memberIf, sameMembers, hsame]

theorem sameIfAny_self (a : Option Json) : SameIfAny a a := by
  cases a with
  | none => exact .inl ⟨rfl, rfl⟩
  | some v => exact .inr ⟨v, v, rfl, rfl, same_self v⟩

/-- Numbers that are the same are the same as values. -/
theorem ofBinary64_same {x y : Binary64} (h : x.same y = true) :
    (ofBinary64 x).same (ofBinary64 y) = true := by
  have hfinite : x.isFinite = y.isFinite := by
    obtain ⟨-, -, rfl | ⟨hx, hy⟩⟩ := Binary64.same_iff.mp h
    · rfl
    · simp only [Binary64.isZero, beq_iff_eq] at hx hy
      simp only [Binary64.isFinite, hx, hy]
  unfold ofBinary64 Number.ofBinary64?
  by_cases hx : x.isFinite = true
  · have hy : y.isFinite = true := hfinite ▸ hx
    simpa [hx, hy, same, Number.same] using h
  · have hy : ¬ y.isFinite = true := hfinite ▸ hx
    simp [hx, hy, same]

end Json

namespace Constraints

open Json (SameIfAny sameIfAny_self sameMembers_append sameMembers_memberIf)

variable {c d : Constraints}

/-- Bounds that are the same are the same as values. -/
theorem sameIfAny_bound {x y : Option Binary64} (h : sameBound x y = true) :
    SameIfAny (x.map Json.ofBinary64) (y.map Json.ofBinary64) := by
  cases x with
  | none =>
    cases y with
    | none => exact .inl ⟨rfl, rfl⟩
    | some y => cases h
  | some x =>
    cases y with
    | none => cases h
    | some y => exact .inr ⟨_, _, rfl, rfl, Json.ofBinary64_same h⟩

/-- Calls that are the same are the same as values. -/
theorem sameItems_calls {calls others : List RuleCall} (h : sameCalls calls others = true) :
    Json.sameItems (calls.map RuleCall.toJson) (others.map RuleCall.toJson) = true := by
  induction calls generalizing others with
  | nil =>
    cases others with
    | nil => rfl
    | cons other others => cases h
  | cons call calls ih =>
    cases others with
    | nil => cases h
    | cons other others =>
      simp only [sameCalls, Bool.and_eq_true, beq_iff_eq] at h
      obtain ⟨⟨hrule, hoptions⟩, hrest⟩ := h
      simp [Json.sameItems, Json.same, Json.sameMembers, RuleCall.toJson, hrule, hoptions, ih hrest]

/-- Constraints that are the same are equal but for their bounds and the options of their calls. -/
theorem parts_of_same (h : c.same d = true) :
    c.required = d.required ∧ c.minLength = d.minLength ∧ c.maxLength = d.maxLength ∧
      c.pattern = d.pattern ∧ sameBound c.min d.min = true ∧ sameBound c.max d.max = true ∧
      SameIfAny (c.customRules.map fun calls => .arr (calls.map RuleCall.toJson))
        (d.customRules.map fun calls => .arr (calls.map RuleCall.toJson)) := by
  simp only [same, Bool.and_eq_true, beq_iff_eq] at h
  obtain ⟨⟨⟨⟨⟨⟨hrequired, hminLength⟩, hmaxLength⟩, hpattern⟩, hmin⟩, hmax⟩, hcalls⟩ := h
  refine ⟨hrequired, hminLength, hmaxLength, hpattern, hmin, hmax, ?_⟩
  cases hc : c.customRules with
  | none =>
    cases hd : d.customRules with
    | none => exact .inl ⟨rfl, rfl⟩
    | some others => simp [hc, hd] at hcalls
  | some calls =>
    cases hd : d.customRules with
    | none => simp [hc, hd] at hcalls
    | some others =>
      rw [hc, hd] at hcalls
      refine .inr ⟨_, _, rfl, rfl, ?_⟩
      rw [Json.same]
      exact sameItems_calls hcalls

/-- Constraints that are the same are the same as values. -/
theorem same_toJson (h : c.same d = true) : c.toJson.same d.toJson = true := by
  obtain ⟨hrequired, hminLength, hmaxLength, hpattern, hmin, hmax, hcalls⟩ := parts_of_same h
  rw [toJson, toJson, Json.same, hrequired, hminLength, hmaxLength, hpattern]
  have hbound {x y : Option Binary64} (key : String) (hxy : sameBound x y = true) :=
    sameMembers_memberIf key (sameIfAny_bound hxy)
  have hself (key : String) (a : Option Json) := sameMembers_memberIf key (sameIfAny_self a)
  refine sameMembers_append (sameMembers_append (sameMembers_append (sameMembers_append
    (sameMembers_append (sameMembers_append ?_ (hbound _ hmax)) (hself _ _)) (hbound _ hmin))
    (hself _ _)) (hself _ _)) (hself _ _)
  exact sameMembers_memberIf _ hcalls

end Constraints

end LiveForm
