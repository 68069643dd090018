import LiveForm.Proofs.Json.Access

/-!
# Two writes, one after the other

What two writes leave is compared as a whole, level by level: `put_put_self` and `put_comm` are
about the segments of one value, `write_write` and `write_comm` about places. A write at a place
takes away all that an earlier write did from there on. Two writes at places that part leave the
same in either order, unless they part in an array at segments of which one alone is an index, or at
one item under two spellings of its index (`Apart`). `set_after_set` says both of dotted names.
-/

namespace LiveForm

namespace Keyed

variable {α : Type} {key other : String}

/-- The later of two values for one key stays. -/
theorem insert_insert_self (m : Keyed α) (key : String) (a b : α) :
    (m.insert key a).insert key b = m.insert key b := by
  induction m with
  | nil => simp [insert]
  | cons entry rest ih =>
    obtain ⟨k, v⟩ := entry
    by_cases hk : k = key
    · simp [insert, hk]
    · by_cases hlt : key < k
      · simp [insert, hk, hlt]
      · simp [insert, hk, hlt, ih]

private theorem insert_comm_of_lt (m : Keyed α) (h : key < other) (a b : α) :
    (m.insert key a).insert other b = (m.insert other b).insert key a := by
  have hne : key ≠ other := String.ne_of_lt h
  have hafter : ¬ other < key := String.lt_asymm h
  induction m with
  | nil => simp [insert, h, hne, hne.symm, hafter]
  | cons entry rest ih =>
    obtain ⟨k, v⟩ := entry
    by_cases hkey : k = key
    · subst hkey
      simp [insert, hne, hafter]
    · by_cases hbefore : key < k
      · by_cases hother : k = other
        · subst hother
          simp [insert, hkey, hne, hafter, h]
        · by_cases hlt : other < k
          · simp [insert, hkey, hother, hbefore, hlt, hne, hne.symm, hafter, h]
          · simp [insert, hkey, hother, hbefore, hlt, hne, hafter]
      · -- The key that comes first is not before `k`, so neither is the other.
        have hother : k ≠ other := fun heq => hbefore (heq ▸ h)
        have hlt : ¬ other < k := fun hlt => hbefore (String.lt_trans h hlt)
        simp [insert, hkey, hother, hbefore, hlt, ih]

/-- Values for two keys can be put in either order. -/
theorem insert_comm (m : Keyed α) (h : key ≠ other) (a b : α) :
    (m.insert key a).insert other b = (m.insert other b).insert key a := by
  by_cases hlt : key < other
  · exact insert_comm_of_lt m hlt a b
  · have hgt : other < key := String.not_le.mp fun hle =>
      h (String.le_antisymm hle (String.not_lt.mp hlt))
    exact (insert_comm_of_lt m hgt b a).symm

end Keyed

namespace Json

variable {v d : Json} {s t : String} {i j : Nat} {before p q rest : List String}

/-! ## One level -/

/-- The later of two items at one index stays. -/
theorem putItem_putItem_self (items : List Json) (i : Nat) (a b : Json) :
    putItem (putItem items i a) i b = putItem items i b := by
  apply List.ext_getElem?
  intro k
  simp only [getElem?_putItem, length_putItem]
  grind

/-- Items can be put at two indices in either order, with the same padding. -/
theorem putItem_comm (items : List Json) (h : i ≠ j) (a b : Json) :
    putItem (putItem items i a) j b = putItem (putItem items j b) i a := by
  apply List.ext_getElem?
  intro k
  simp only [getElem?_putItem, length_putItem]
  grind

/-- The later of two values under one segment stays. -/
theorem put_put_self (v : Json) (s : String) (a b : Json) :
    (v.put s a).put s b = v.put s b := by
  by_cases h : v.Takes s
  · obtain ⟨members, rfl⟩ | ⟨items, i, rfl, hi⟩ := h.cases
    · exact congrArg obj (Keyed.insert_insert_self members s a b)
    · rw [put_arr items hi, put_arr _ hi, put_arr items hi, putItem_putItem_self]
  · rw [put_of_not_takes h, put_of_not_takes h]
    exact congrArg obj (Keyed.insert_insert_self [] s a b)

/-- What is put under the segments in either order is the same: they differ, and in an array both
are indices, of two items, or none is. -/
def Apart (v : Json) (s t : String) : Prop :=
  s ≠ t ∧ ∀ items, v = .arr items →
    (index? s).isSome = (index? t).isSome ∧ ∀ i, index? s = some i → index? t ≠ some i

theorem Apart.symm (h : v.Apart s t) : v.Apart t s := by
  refine ⟨Ne.symm h.1, fun items hv => ?_⟩
  obtain ⟨hboth, hdiffer⟩ := h.2 items hv
  exact ⟨hboth.symm, fun i ht hs => hdiffer i hs ht⟩

/-- A value that takes something under one of two segments that are apart takes it under both. -/
theorem Apart.takes (h : v.Apart s t) (hs : v.Takes s) : v.Takes t := by
  obtain ⟨members, rfl⟩ | ⟨items, i, rfl, hi⟩ := hs.cases
  · exact takes_obj members t
  · have hboth := (h.2 items rfl).1
    rw [hi, Option.isSome_some] at hboth
    exact .inr hboth.symm

/-- A value takes something under both of two segments that are apart, as members or at two indices,
or under none. -/
theorem Apart.cases (h : v.Apart s t) :
    (∃ members, v = .obj members) ∨
      (∃ items i j, v = .arr items ∧ index? s = some i ∧ index? t = some j ∧ i ≠ j) ∨
      ¬ v.Takes s ∧ ¬ v.Takes t := by
  by_cases hs : v.Takes s
  · obtain hobj | ⟨items, i, rfl, hi⟩ := hs.cases
    · exact .inl hobj
    · obtain ⟨hboth, hdiffer⟩ := h.2 items rfl
      rw [hi, Option.isSome_some] at hboth
      obtain ⟨j, hj⟩ := Option.isSome_iff_exists.mp hboth.symm
      exact .inr (.inl ⟨items, i, j, rfl, hi, hj, fun heq => hdiffer i hi (heq ▸ hj)⟩)
  · exact .inr (.inr ⟨hs, fun ht => hs (h.symm.takes ht)⟩)

theorem put_comm (h : v.Apart s t) (a b : Json) : (v.put s a).put t b = (v.put t b).put s a := by
  obtain ⟨members, rfl⟩ | ⟨items, i, j, rfl, hi, hj, hne⟩ | ⟨hs, ht⟩ := h.cases
  · exact congrArg obj (Keyed.insert_comm members h.1 a b)
  · rw [put_arr items hi, put_arr _ hj, put_arr items hj, put_arr _ hi, putItem_comm items hne]
  · rw [put_of_not_takes hs, put_of_not_takes ht]
    exact congrArg obj (Keyed.insert_comm [] h.1 a b)

/-- What a write finds under a segment is not changed under another that is apart from it. -/
theorem under_put (h : v.Apart s t) (a : Json) : (v.put s a).under t = v.under t := by
  obtain ⟨members, rfl⟩ | ⟨items, i, j, rfl, hi, hj, hne⟩ | ⟨hs, ht⟩ := h.cases
  · rw [under, child?_put_of_obj members h.1, under]
  · have hother : index? t ≠ some i := fun heq => hne (Option.some.inj (heq.symm.trans hj))
    obtain ⟨⟨k, hk, hend, -⟩, hgap⟩ | ⟨-, hsame⟩ := child?_put_of_index items hi hother a
    · have hnone : (arr items).child? t = none := by
        rw [child?, hk, Option.bind_some, List.getElem?_eq_none hend]
      rw [under, hgap, under, hnone]
      rfl
    · rw [under, hsame, under]
  · rw [under, child?_put_of_not_takes hs h.1, under, child?_of_not_takes ht]

/-- Nothing that is put makes an array of what was none. -/
theorem indexIn?_put {a : Json} (h : (v.put s a).indexIn? t = some i) : v.indexIn? t = some i := by
  by_cases hs : v.Takes s
  · obtain ⟨members, rfl⟩ | ⟨items, k, rfl, hk⟩ := hs.cases
    · cases h
    · rw [put_arr items hk] at h
      exact h
  · rw [put_of_not_takes hs] at h
    cases h

/-! ## Places -/

theorem Writable.of_append (h : v.Writable (p ++ q)) : v.Writable p := by
  intro before segment after items hplace hat
  exact h before segment (after ++ q) items (by rw [hplace]; simp) hat

/-- There is room under the segment under which something was put, if there is in what was put. -/
theorem writable_put_self (h : v.Writable (s :: p)) {a : Json} (ha : a.Writable q) :
    (v.put s a).Writable (s :: q) := by
  refine writable_cons.mpr ⟨?_, ?_⟩
  · intro i hi
    exact (writable_cons.mp h).1 i (indexIn?_put hi)
  · rwa [under_put_self]

theorem writable_put (h : v.Apart s t) (hroom : v.Writable (t :: q)) (a : Json) :
    (v.put s a).Writable (t :: q) := by
  obtain ⟨hindex, hrest⟩ := writable_cons.mp hroom
  refine writable_cons.mpr ⟨?_, ?_⟩
  · intro i hi
    exact hindex i (indexIn?_put hi)
  · rwa [under_put h]

/-- Where a place can be written, a place before it can be written after that. -/
theorem writable_write_append (h : v.Writable (p ++ q)) (a : Json) :
    (v.write (p ++ q) a).Writable p := by
  induction p generalizing v with
  | nil => exact writable_nil _
  | cons s rest ih =>
    have hbefore : v.Writable (s :: rest) := h.of_append
    rw [List.cons_append] at h ⊢
    exact writable_put_self hbefore (ih (writable_cons.mp h).2)

/-- A write takes away what was written from its place on. -/
theorem write_write (v : Json) (p q : List String) (a b : Json) :
    (v.write (p ++ q) a).write p b = v.write p b := by
  induction p generalizing v with
  | nil => rfl
  | cons s rest ih =>
    rw [List.cons_append, write_cons, write_cons, write_cons, under_put_self, put_put_self, ih]

/-- A write leaves room for another one at a place that parts from its own. -/
theorem writable_write (hp : v.Writable (before ++ s :: p)) (hq : v.Writable (before ++ t :: q))
    (h : ((v.at? before).getD .null).Apart s t) (a : Json) :
    (v.write (before ++ s :: p) a).Writable (before ++ t :: q) := by
  induction before generalizing v with
  | nil => exact writable_put h hq _
  | cons first before ih =>
    rw [List.cons_append] at hp hq ⊢
    rw [← getD_at?_under] at h
    exact writable_put_self hq (ih (writable_cons.mp hp).2 (writable_cons.mp hq).2 h)

/-- Writes at places that part leave the same in either order. -/
theorem write_comm (h : ((v.at? before).getD .null).Apart s t) (p q : List String) (a b : Json) :
    (v.write (before ++ s :: p) a).write (before ++ t :: q) b =
      (v.write (before ++ t :: q) b).write (before ++ s :: p) a := by
  induction before generalizing v with
  | nil =>
    have happart : v.Apart s t := h
    simp only [List.nil_append, write_cons]
    rw [under_put happart, under_put happart.symm, put_comm happart]
  | cons first before ih =>
    rw [← getD_at?_under] at h
    -- Under the first segment each write finds what the other one put there.
    simp only [List.cons_append, write_cons, under_put_self, put_put_self]
    rw [ih h]

/-! ## Dotted names -/

/-- After a write at a dotted name that has a result, one at a name that it goes on from comes to
what this one alone comes to. Of two names that part and can be written, the writes come to the same
in either order, unless they part in an array, and one of the two segments alone is an index, or both
are the same. -/
theorem set_after_set {d : Json} {name : String} (hroom : d.Writable (segments name))
    (other : String) (new later : Json) :
    ∃ w, d.set? name new = some w ∧
    (segments other <+: segments name →
      ∃ z, w.set? other later = some z ∧ d.set? other later = some z) ∧
    ∀ before s p t q, segments name = before ++ s :: p → segments other = before ++ t :: q →
      s ≠ t → d.Writable (segments other) →
      (∀ items, d.at? before = some (.arr items) → (index? s).isSome = (index? t).isSome ∧
        ∀ i, index? s = some i → index? t ≠ some i) →
      ∃ x z, d.set? other later = some x ∧ w.set? other later = some z ∧
        x.set? name new = some z := by
  refine ⟨d.set name new, set?_of_writable hroom new, ?_, ?_⟩
  · rintro ⟨rest, hrest⟩
    rw [← hrest] at hroom
    have hafter : (d.set name new).Writable (segments other) := by
      rw [set, ← hrest]
      exact writable_write_append hroom new
    refine ⟨d.set other later, ?_, set?_of_writable hroom.of_append later⟩
    rw [set?_of_writable hafter, set, set, set, ← hrest, write_write]
  · intro before s p t q hname hother hne hroom' hitems
    have happart : ((d.at? before).getD .null).Apart s t := by
      refine ⟨hne, fun items hv => ?_⟩
      cases hat : d.at? before with
      | none => rw [hat] at hv; cases hv
      | some c =>
        rw [hat, Option.getD_some] at hv
        exact hitems items (hat.trans (congrArg some hv))
    have hx := set?_of_writable hroom' later
    have hcomm : (d.set name new).set other later = (d.set other later).set name new := by
      simp only [set, hname, hother]
      exact write_comm happart p q new later
    rw [hname] at hroom
    rw [hother] at hroom'
    have hafter := writable_write hroom hroom' happart new
    have hbefore := writable_write hroom' hroom happart.symm later
    rw [← hname, ← hother] at hafter hbefore
    refine ⟨d.set other later, (d.set name new).set other later, hx, set?_of_writable hafter later,
      ?_⟩
    rw [hcomm]
    exact set?_of_writable hbefore new

/-- Quantities in a third and a fifth row leave the same list in either order, also a note in place
of all rows after a quantity in one of them. -/
theorem set_after_set_stock :
    stock.Writable (segments "rows.4.qty") ∧ stock.Writable (segments "rows.2.qty") ∧
      (∃ w x z, stock.set? "rows.4.qty" (.ofNat 7) = some w ∧
        stock.set? "rows.2.qty" (.ofNat 5) = some x ∧
        w.set? "rows.2.qty" (.ofNat 5) = some z ∧ x.set? "rows.4.qty" (.ofNat 7) = some z) ∧
      ∃ w z, stock.set? "rows.4.qty" (.ofNat 7) = some w ∧
        w.set? "rows" (.str "none") = some z ∧ stock.set? "rows" (.str "none") = some z := by
  have hfifth : stock.Writable (segments "rows.4.qty") :=
    (isSome_write?_iff .null).mp (by decide)
  have hthird : stock.Writable (segments "rows.2.qty") :=
    (isSome_write?_iff .null).mp (by decide)
  obtain ⟨w, hw, -, hparting⟩ := set_after_set hfifth "rows.2.qty" (.ofNat 7) (.ofNat 5)
  obtain ⟨w', hw', hbelow, -⟩ := set_after_set hfifth "rows" (.ofNat 7) (.str "none")
  obtain ⟨z, hz⟩ := hbelow ⟨["4", "qty"], by decide⟩
  refine ⟨hfifth, hthird, ?_, w', z, hw', hz⟩
  obtain ⟨x, z, hx, hz, hsame⟩ := hparting ["rows"] "4" ["qty"] "2" ["qty"] (by decide) (by decide)
    (by decide) hthird fun items hitems => by
      refine ⟨by decide, ?_⟩
      intro i hfour htwo
      have hsame := Option.some.inj ((show index? "4" = some 4 by decide).symm.trans hfour)
      have hother := Option.some.inj ((show index? "2" = some 2 by decide).symm.trans htwo)
      omega
  exact ⟨w, x, z, hw, hx, hz, hsame⟩

end Json

end LiveForm
