import LiveForm.Proofs.Json.Access

/-!
# Room for what is written

A write goes down a place level by level. In an array that it meets it first makes room: an array
that ends before the index gets one item more than the index says, and that length is a word of 64
bits (`makeRoom`). Two things could stop it on the way, a length that is no word and an index that
is still beyond the end (`RoomFault`). `fill_stops_iff` says that the second never happens, that the
first happens only where an array is given the greatest index that there is, and that otherwise the
steps come to what `Json.set?` gives.
-/

namespace LiveForm.Json

variable {v : Json} {s : String} {i : Nat} {items grown : List Json} {place rest : List String}

/-! ## Room in an array -/

/-- Why there is no room for an item. -/
inductive RoomFault where
  /-- The length that the array needs is no word of 64 bits. -/
  | overflow
  /-- The array ends before the index. -/
  | outOfBounds
deriving DecidableEq

/-- One more, in a word of 64 bits. -/
def successor? (n : Nat) : Option Nat := if n + 1 < UInt64.size then some (n + 1) else none

/-- The items cut to a length, or filled up to it with `null`. -/
def resize (items : List Json) (length : Nat) : List Json :=
  items.take length ++ List.replicate (length - items.length) .null

/-- Items among which there is to be one at an index. -/
def makeRoom (items : List Json) (i : Nat) : Except RoomFault (List Json) :=
  if items.length ≤ i then
    match successor? i with
    | some length => .ok (resize items length)
    | none => .error .overflow
  else .ok items

theorem makeRoom_of_full (hend : items.length ≤ i) (hfull : UInt64.size ≤ i + 1) :
    makeRoom items i = .error .overflow := by
  rw [makeRoom, if_pos hend, successor?, if_neg (Nat.not_lt.mpr hfull)]

/-- Where there is room, the index is in the array after room was made, at the item that was there
or at `null`, and what is put there is put as in `putItem`. -/
theorem makeRoom_of_room (h : items.length ≤ i → i + 1 < UInt64.size) :
    ∃ grown, makeRoom items i = .ok grown ∧ grown[i]? = some (items[i]?.getD .null) ∧
      ∀ w, grown.set i w = putItem items i w := by
  by_cases hend : items.length ≤ i
  · -- The last of the new items is the one at the index.
    have hgap : resize items (i + 1) =
        (items ++ List.replicate (i - items.length) .null) ++ [.null] := by
      rw [resize, List.take_of_length_le (by omega), List.append_assoc, ← List.replicate_succ',
        Nat.sub_add_comm hend]
    have hlast : (items ++ List.replicate (i - items.length) Json.null).length = i := by
      rw [List.length_append, List.length_replicate]
      omega
    refine ⟨resize items (i + 1), ?_, ?_, ?_⟩
    · rw [makeRoom, if_pos hend, successor?, if_pos (h hend)]
    · rw [hgap, List.getElem?_append_right (Nat.le_of_eq hlast), hlast, Nat.sub_self,
        List.getElem?_eq_none hend]
      rfl
    · intro w
      rw [hgap, List.set_append_right _ _ (Nat.le_of_eq hlast), hlast, Nat.sub_self, putItem,
        if_neg (Nat.not_lt.mpr hend)]
      rfl
  · have hlt : i < items.length := Nat.not_le.mp hend
    refine ⟨items, if_neg hend, ?_, ?_⟩
    · rw [List.getElem?_eq_getElem hlt, Option.getD_some]
    · intro w
      rw [putItem, if_pos hlt]

/-! ## Room at a place -/

/-- Put a value at a place step by step, with room made in each array on the way. -/
def fill (v : Json) (place : List String) (new : Json) : Except RoomFault Json :=
  match place with
  | [] => .ok new
  | segment :: rest =>
    match v.indexIn? segment with
    | some i =>
      match makeRoom v.itemsOf i with
      | .error fault => .error fault
      | .ok items =>
        match items[i]? with
        | none => .error .outOfBounds
        | some below => (fill below rest new).map fun w => .arr (items.set i w)
    | none =>
      (fill ((Keyed.find? v.membersOf segment).getD .null) rest new).map fun w =>
        .obj (Keyed.insert v.membersOf segment w)

/-- A segment gives an array the greatest index there is, and the array ends before it, as every
array does whose length is a word. -/
def Full (v : Json) (segment : String) : Prop :=
  ∃ items, v = .arr items ∧ index? segment = some (UInt64.size - 1) ∧ items.length < UInt64.size

/-- Some array on the way is full. -/
def Exhausts (v : Json) (place : List String) : Prop :=
  ∃ before segment after w, place = before ++ segment :: after ∧ v.at? before = some w ∧
    w.Full segment

/-- An array that is full cannot be given the index. -/
theorem fill_of_full (h : v.Full s) (rest : List String) (new : Json) :
    v.fill (s :: rest) new = .error .overflow := by
  obtain ⟨items, rfl, hi, hlength⟩ := h
  rw [fill, show (Json.arr items).indexIn? s = some (UInt64.size - 1) from hi]
  simp only [itemsOf, makeRoom_of_full (Nat.le_sub_one_of_lt hlength) (by decide)]

/-- Where nothing is full, the index is in the array after room was made, and the steps go on under
it. -/
theorem fill_of_room (h : ¬ v.Full s) (rest : List String) (new : Json) :
    v.fill (s :: rest) new = ((v.under s).fill rest new).map (v.put s) := by
  cases hi : v.indexIn? s with
  | none => rw [fill, hi, under_of_key hi, put_of_key hi]
  | some i =>
    have hroom (hend : v.itemsOf.length ≤ i) : i + 1 < UInt64.size := by
      obtain ⟨items, rfl, hs⟩ := exists_of_indexIn? hi
      have hlt := index?_lt hs
      have hne : i ≠ UInt64.size - 1 := by
        rintro rfl
        exact h ⟨items, rfl, hs, Nat.lt_of_le_of_lt hend hlt⟩
      omega
    obtain ⟨grown, hgrown, hbelow, hset⟩ := makeRoom_of_room hroom
    rw [fill, hi, under_of_index hi, put_of_index hi]
    simp only [hgrown, hbelow, hset]

/-- A place exhausts a value at its first segment, or it exhausts what is under it. -/
theorem exhausts_cons : v.Exhausts (s :: rest) ↔ v.Full s ∨ (v.under s).Exhausts rest := by
  constructor
  · rintro ⟨before, segment, after, w, hplace, hat, hfull⟩
    cases before with
    | nil =>
      obtain ⟨rfl, rfl⟩ := List.cons.inj hplace
      cases hat
      exact .inl hfull
    | cons first before =>
      obtain ⟨rfl, hrest⟩ := List.cons.inj hplace
      obtain ⟨x, hx, hat⟩ := Option.bind_eq_some_iff.mp hat
      rw [← under_of_child? hx] at hat
      exact .inr ⟨before, segment, after, w, hrest, hat, hfull⟩
  · rintro (hfull | ⟨before, segment, after, w, rfl, hat, hfull⟩)
    · exact ⟨[], s, rest, v, rfl, rfl, hfull⟩
    · obtain ⟨items, rfl, hs, hlength⟩ := hfull
      exact ⟨s :: before, segment, after, _, rfl, at?_under_arr hat, items, rfl, hs, hlength⟩

theorem not_exhausts_nil (v : Json) : ¬ v.Exhausts [] := by
  rintro ⟨before, segment, after, w, hplace, -⟩
  exact absurd hplace.symm (by simp)

/-- The steps stop at a place that exhausts the value, for want of a word, and nowhere else. -/
theorem fill_eq_error_iff (new : Json) (fault : RoomFault) :
    v.fill place new = .error fault ↔ v.Exhausts place ∧ fault = .overflow := by
  induction place generalizing v with
  | nil => exact iff_of_false nofun fun h => not_exhausts_nil v h.1
  | cons s rest ih =>
    rw [exhausts_cons]
    by_cases hfull : v.Full s
    · rw [fill_of_full hfull, Except.error.injEq, and_iff_right (.inl hfull)]
      exact eq_comm
    · rw [fill_of_room hfull, or_iff_right hfull, ← ih]
      cases (v.under s).fill rest new with
      | error other => rfl
      | ok w => exact iff_of_false nofun nofun

/-- A place that can be written exhausts nothing. -/
theorem Writable.not_exhausts (h : v.Writable place) : ¬ v.Exhausts place := by
  rintro ⟨before, segment, after, w, hplace, hat, items, rfl, hindex, -⟩
  exact h before segment after items hplace hat hindex

/-- The steps come to what is written. -/
theorem fill_of_writable (h : v.Writable place) (new : Json) :
    v.fill place new = .ok (v.write place new) := by
  induction place generalizing v with
  | nil => rfl
  | cons s rest ih =>
    have hfull : ¬ v.Full s := fun hfull => h.not_exhausts (exhausts_cons.mpr (.inl hfull))
    rw [fill_of_room hfull, ih (writable_cons.mp h).2]
    rfl

/-- A write at a dotted name that makes room step by step never meets an index beyond the end of an
array. It stops exactly where an array on the way, whose length is a word as every length is, is
given the greatest index, because one more is no word of 64 bits. Where no array on the way is given
it, the steps come to an end, and to what is written. -/
theorem fill_stops_iff (v : Json) (name : String) (new : Json) :
    v.fill (segments name) new ≠ .error .outOfBounds ∧
    (v.fill (segments name) new = .error .overflow ↔
      ∃ before segment after items, segments name = before ++ segment :: after ∧
        v.at? before = some (.arr items) ∧ index? segment = some (UInt64.size - 1) ∧
        items.length < UInt64.size) ∧
    (v.Writable (segments name) →
      ∃ w, v.set? name new = some w ∧ v.fill (segments name) new = .ok w) := by
  refine ⟨?_, ?_, fun h => ⟨_, set?_of_writable h new, fill_of_writable h new⟩⟩
  · intro h
    exact absurd ((fill_eq_error_iff new _).mp h).2 nofun
  · rw [fill_eq_error_iff, and_iff_left rfl]
    constructor
    · rintro ⟨before, segment, after, w, hplace, hat, items, rfl, hindex, hlength⟩
      exact ⟨before, segment, after, items, hplace, hat, hindex, hlength⟩
    · rintro ⟨before, segment, after, items, hplace, hat, hindex, hlength⟩
      exact ⟨before, segment, after, _, hplace, hat, items, rfl, hindex, hlength⟩

/-- There is room for a quantity in the fifth row. -/
theorem fill_stops_iff_stock :
    stock.Writable (segments "rows.4.qty") ∧
      (∃ w, stock.set? "rows.4.qty" (.ofNat 7) = some w ∧
        stock.fill (segments "rows.4.qty") (.ofNat 7) = .ok w) ∧
      stock.fill (segments "rows.4.qty") (.ofNat 7) ≠ .error .outOfBounds := by
  have hroom : stock.Writable (segments "rows.4.qty") :=
    (isSome_write?_iff .null).mp (by decide)
  obtain ⟨hbounds, -, hwritten⟩ := fill_stops_iff stock "rows.4.qty" (.ofNat 7)
  exact ⟨hroom, hwritten hroom, hbounds⟩

/-- The greatest index is one that a name can have, and an array has no room for it. -/
theorem fill_greatest_index :
    index? "18446744073709551615" = some 18446744073709551615 ∧
      (Json.obj [("tags", .arr [])]).fill (segments "tags.18446744073709551615") (.str "x") =
        .error .overflow :=
  ⟨by decide, rfl⟩

end LiveForm.Json
