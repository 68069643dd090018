import LiveForm.Proofs.Json.Path

/-!
# What is read after a write

A write at a place puts something under one segment after the other. What is found under the
segments of one level afterwards say `child?_put_self`, `child?_put_of_obj`, `child?_put_of_index`
and `child?_put_of_not_takes`. `get?_after_set` says it of dotted names. Under the name that was
written, and under every name that goes on from there, the new value is read. A name that parts from
it reads what it read before, as long as the value where they part takes the segment (`Takes`); an
array is filled with `null` up to a new index. Anything else is replaced by an object, and nothing is
read beside the write.

A write has no result only where an array would need an item with the greatest index (`Writable`).
Everywhere else it leaves what `Json.write` says (`write?_eq_some_iff`).
-/

namespace LiveForm

namespace Text

theorem cut_append (separator : Char) (a b : List Char) :
    cut separator (a ++ separator :: b) = cut separator a ++ cut separator b := by
  induction a with
  | nil => simp [cut]
  | cons c rest ih =>
    rw [List.cons_append, cut, cut, ih]
    split
    · rfl
    · cases hrest : cut separator rest with
      | nil => exact absurd (by simp [pieces, hrest]) (pieces_ne_nil separator (String.ofList rest))
      | cons piece others => rfl

/-- The pieces of two texts with the separating character between them. -/
theorem pieces_append (separator : Char) (s t : String) :
    pieces separator (s ++ String.singleton separator ++ t) =
      pieces separator s ++ pieces separator t := by
  simp only [pieces, String.toList_append, String.toList_singleton, List.append_assoc,
    List.singleton_append, cut_append, List.map_append]

end Text

theorem index?_lt {segment : String} {i : Nat} (h : index? segment = some i) : i < UInt64.size := by
  simp only [index?, Option.ite_none_left_eq_some, Option.ite_none_right_eq_some,
    Option.some.injEq] at h
  obtain ⟨-, hlt, rfl⟩ := h
  exact hlt

namespace Json

variable {v w d : Json} {s t : String} {i j : Nat} {items : List Json}
  {place before after p q rest : List String}

/-! ## One level -/

/-- The value takes something under the segment without being replaced. -/
def Takes (v : Json) (segment : String) : Prop :=
  v.IsObject ∨ (v.indexIn? segment).isSome = true

/-- Only an array has items to pick, by an index. -/
theorem exists_of_indexIn? (h : v.indexIn? s = some i) :
    ∃ items, v = .arr items ∧ index? s = some i := by
  cases v with
  | arr items => exact ⟨items, rfl, h⟩
  | _ => cases h

theorem under_of_child? (h : v.child? s = some w) : v.under s = w := by
  rw [under, h, Option.getD_some]

theorem takes_obj (members : Keyed Json) (segment : String) : (Json.obj members).Takes segment :=
  .inl ⟨members, rfl⟩

theorem takes_arr (items : List Json) (h : index? s = some i) : (Json.arr items).Takes s :=
  .inr (congrArg Option.isSome h)

theorem not_takes_null (segment : String) : ¬ Json.null.Takes segment := by
  rintro (⟨members, hobj⟩ | hindex)
  · cases hobj
  · cases hindex

/-- A value that takes something under a segment is an object, or an array and the segment an
index. -/
theorem Takes.cases (h : v.Takes s) :
    (∃ members, v = .obj members) ∨ ∃ items i, v = .arr items ∧ index? s = some i := by
  obtain hobj | hindex := h
  · exact .inl hobj
  · obtain ⟨i, hi⟩ := Option.isSome_iff_exists.mp hindex
    obtain ⟨items, rfl, hi⟩ := exists_of_indexIn? hi
    exact .inr ⟨items, i, rfl, hi⟩

theorem put_arr (items : List Json) (h : index? s = some i) (w : Json) :
    (Json.arr items).put s w = .arr (putItem items i w) := by
  simp only [put, indexIn?, h, itemsOf]

theorem put_of_not_takes (h : ¬ v.Takes s) (w : Json) : v.put s w = .obj [(s, w)] := by
  have hindex : v.indexIn? s = none := by
    cases hv : v.indexIn? s with
    | none => rfl
    | some i => exact absurd (.inr (congrArg Option.isSome hv)) h
  have hmembers : v.membersOf = [] := by
    cases v with
    | obj members => exact absurd (takes_obj members s) h
    | _ => rfl
  simp only [put, hindex, hmembers, Keyed.insert]

theorem child?_of_not_takes (h : ¬ v.Takes s) : v.child? s = none := by
  cases v with
  | obj members => exact absurd (takes_obj members s) h
  | arr items =>
    cases hs : index? s with
    | none => simp only [child?, hs, Option.bind_none]
    | some i => exact absurd (takes_arr items hs) h
  | _ => rfl

/-! ### Items -/

theorem length_putItem (items : List Json) (i : Nat) (w : Json) :
    (putItem items i w).length = max items.length (i + 1) := by
  unfold putItem
  split
  · rw [List.length_set]
    omega
  · simp only [List.length_append, List.length_replicate, List.length_singleton]
    omega

/-- Where an item is put, it is found; the gap before it is `null`, and the others stay. -/
theorem getElem?_putItem (items : List Json) (i : Nat) (w : Json) (k : Nat) :
    (putItem items i w)[k]? =
      if k = i then some w
      else if items.length ≤ k ∧ k < i then some .null
      else items[k]? := by
  unfold putItem
  split
  · rename_i hi
    rw [List.getElem?_set]
    grind
  · rename_i hi
    by_cases hk : k < items.length
    · rw [List.append_assoc, List.getElem?_append_left hk]
      grind
    · rw [List.append_assoc, List.getElem?_append_right (by omega)]
      by_cases hgap : k < i
      · rw [List.getElem?_append_left (by rw [List.length_replicate]; omega),
          List.getElem?_replicate_of_lt (by omega)]
        grind
      · rw [List.getElem?_append_right (by rw [List.length_replicate]; omega),
          List.length_replicate, List.getElem?_singleton, List.getElem?_eq_none (by omega)]
        grind

/-! ### Reading what was put -/

theorem child?_put_self (v : Json) (s : String) (w : Json) : (v.put s w).child? s = some w := by
  by_cases h : v.Takes s
  · obtain ⟨members, rfl⟩ | ⟨items, i, rfl, hi⟩ := h.cases
    · exact Keyed.find?_insert_self members s w
    · rw [put_arr items hi, child?, hi, Option.bind_some, getElem?_putItem, if_pos rfl]
  · rw [put_of_not_takes h, child?, Keyed.find?, if_pos rfl]

theorem under_put_self (v : Json) (s : String) (w : Json) : (v.put s w).under s = w :=
  under_of_child? (v.child?_put_self s w)

theorem child?_put_of_obj (members : Keyed Json) (h : s ≠ t) (w : Json) :
    ((Json.obj members).put s w).child? t = (Json.obj members).child? t :=
  Keyed.find?_insert_of_ne members (Ne.symm h) w

/-- Beside an item that was put, the gap before it is `null`, and the others stay. -/
theorem child?_put_of_index (items : List Json) (hs : index? s = some i) (ht : index? t ≠ some i)
    (w : Json) :
    ((∃ j, index? t = some j ∧ items.length ≤ j ∧ j < i) ∧
        ((Json.arr items).put s w).child? t = some .null) ∨
      ((¬ ∃ j, index? t = some j ∧ items.length ≤ j ∧ j < i) ∧
        ((Json.arr items).put s w).child? t = (Json.arr items).child? t) := by
  rw [put_arr items hs, child?, child?]
  cases hj : index? t with
  | none =>
    refine .inr ⟨?_, rfl⟩
    rintro ⟨j, hnone, -⟩
    cases hnone
  | some j =>
    have hne : j ≠ i := fun heq => ht (heq ▸ hj)
    rw [Option.bind_some, Option.bind_some, getElem?_putItem, if_neg hne]
    by_cases hgap : items.length ≤ j ∧ j < i
    · exact .inl ⟨⟨j, rfl, hgap⟩, if_pos hgap⟩
    · refine .inr ⟨?_, if_neg hgap⟩
      rintro ⟨k, hk, hbounds⟩
      cases hk
      exact hgap hbounds

/-- Beside what replaced a value nothing is found. -/
theorem child?_put_of_not_takes (h : ¬ v.Takes s) (hne : s ≠ t) (w : Json) :
    (v.put s w).child? t = none := by
  rw [put_of_not_takes h, child?, Keyed.find?, if_neg hne, Keyed.find?_nil]

/-! ## Places -/

/-- No array on the way is given the greatest index: it would need one item more than a word of 64
bits can count. -/
def Writable (v : Json) (place : List String) : Prop :=
  ∀ before segment after items, place = before ++ segment :: after →
    v.at? before = some (.arr items) → index? segment ≠ some (UInt64.size - 1)

theorem at?_cons (v : Json) (s : String) (rest : List String) :
    v.at? (s :: rest) = (v.child? s).bind fun w => w.at? rest := rfl

theorem at?_append (v : Json) (p q : List String) :
    v.at? (p ++ q) = (v.at? p).bind fun w => w.at? q := by
  induction p generalizing v with
  | nil => rfl
  | cons s rest ih =>
    rw [List.cons_append, at?_cons, at?_cons, Option.bind_assoc]
    exact congrArg _ (funext fun w => ih w)

/-- Nothing is inside `null`. -/
theorem at?_null (s : String) (rest : List String) : Json.null.at? (s :: rest) = none := rfl

/-- What a write finds at a place below a segment is what it finds there from below. -/
theorem getD_at?_under (v : Json) (s : String) (rest : List String) :
    ((v.under s).at? rest).getD .null = (v.at? (s :: rest)).getD .null := by
  rw [at?_cons, under]
  cases v.child? s with
  | none => cases rest <;> rfl
  | some w => rfl

/-- An array that a write finds is one that is there. -/
theorem at?_under_arr (h : (v.under s).at? rest = some (.arr items)) :
    v.at? (s :: rest) = some (.arr items) := by
  have hfound := v.getD_at?_under s rest
  rw [h, Option.getD_some] at hfound
  cases hat : v.at? (s :: rest) with
  | none => rw [hat] at hfound; cases hfound
  | some w => rw [hat, Option.getD_some] at hfound; rw [hfound]

theorem writable_nil (v : Json) : v.Writable [] := by
  intro before segment after items hplace
  exact absurd hplace.symm (by simp)

/-- A place can be written, if there is room for its first segment and the rest can be written
there. -/
theorem writable_cons :
    v.Writable (s :: rest) ↔
      (∀ i, v.indexIn? s = some i → i + 1 < UInt64.size) ∧ (v.under s).Writable rest := by
  constructor
  · intro h
    refine ⟨?_, ?_⟩
    · intro i hi
      obtain ⟨items, rfl, hi⟩ := exists_of_indexIn? hi
      have hlt := index?_lt hi
      have hne : i ≠ UInt64.size - 1 := fun heq => h [] s rest items rfl rfl (heq ▸ hi)
      omega
    · intro before segment after items hplace hat
      exact h (s :: before) segment after items (by rw [hplace]; rfl) (at?_under_arr hat)
  · rintro ⟨hroom, hrest⟩ before segment after items hplace hat
    -- The array is the value itself, or it is found under the first segment.
    cases before with
    | nil =>
      obtain ⟨rfl, rfl⟩ := List.cons.inj hplace
      cases hat
      intro hmax
      have := hroom _ hmax
      omega
    | cons first before =>
      obtain ⟨rfl, hrest'⟩ := List.cons.inj hplace
      refine hrest before segment after items hrest' ?_
      obtain ⟨w, hw, hat⟩ := Option.bind_eq_some_iff.mp hat
      rw [under_of_child? hw]
      exact hat

theorem under_of_index (hi : v.indexIn? s = some i) : v.under s = v.itemsOf[i]?.getD .null := by
  obtain ⟨items, rfl, hs⟩ := exists_of_indexIn? hi
  rw [under, child?, hs, Option.bind_some, itemsOf]

theorem put_of_index (hi : v.indexIn? s = some i) :
    v.put s = fun w => .arr (putItem v.itemsOf i w) := by
  funext w
  rw [put, hi]

theorem under_of_key (hi : v.indexIn? s = none) :
    v.under s = (Keyed.find? v.membersOf s).getD .null := by
  cases v with
  | arr items =>
    rw [under, child?, show index? s = none from hi]
    rfl
  | _ => rfl

theorem put_of_key (hi : v.indexIn? s = none) :
    v.put s = fun w => .obj (Keyed.insert v.membersOf s w) := by
  funext w
  rw [put, hi]

/-- Into an array a write goes under an index, if there is room for it. -/
theorem write?_cons_of_index (hi : v.indexIn? s = some i) (rest : List String) (new : Json) :
    v.write? (s :: rest) new =
      if i + 1 < UInt64.size then ((v.under s).write? rest new).map (v.put s) else none := by
  rw [write?, hi, under_of_index hi, put_of_index hi]

/-- Otherwise it goes among members, of a new object if there is none. -/
theorem write?_cons_of_key (hi : v.indexIn? s = none) (rest : List String) (new : Json) :
    v.write? (s :: rest) new = ((v.under s).write? rest new).map (v.put s) := by
  rw [write?, hi, under_of_key hi, put_of_key hi]

/-- A write comes to its end exactly where there is room, with what it leaves. -/
theorem write?_eq_some_iff {new : Json} :
    v.write? place new = some w ↔ v.Writable place ∧ w = v.write place new := by
  induction place generalizing v w with
  | nil =>
    rw [write?, Option.some.injEq, and_iff_right v.writable_nil, eq_comm]
    rfl
  | cons s rest ih =>
    have hunder : ((v.under s).write? rest new).map (v.put s) = some w ↔
        (v.under s).Writable rest ∧ w = v.write (s :: rest) new := by
      rw [Option.map_eq_some_iff]
      constructor
      · rintro ⟨below, hbelow, rfl⟩
        obtain ⟨hrest, rfl⟩ := ih.mp hbelow
        exact ⟨hrest, rfl⟩
      · rintro ⟨hrest, rfl⟩
        exact ⟨_, ih.mpr ⟨hrest, rfl⟩, rfl⟩
    rw [writable_cons]
    cases hi : v.indexIn? s with
    | none =>
      have hroom : ∀ i, (none : Option Nat) = some i → i + 1 < UInt64.size := nofun
      rw [write?_cons_of_key hi, hunder, and_iff_right hroom]
    | some i =>
      have hroom : (∀ k, some i = some k → k + 1 < UInt64.size) ↔ i + 1 < UInt64.size := by
        simp only [Option.some.injEq, forall_eq']
      rw [write?_cons_of_index hi, hroom, and_assoc, ← hunder]
      split
      · rename_i hlt
        rw [and_iff_right hlt]
      · rename_i hfull
        exact iff_of_false nofun fun h => hfull h.1

theorem write?_of_writable (h : v.Writable place) (new : Json) :
    v.write? place new = some (v.write place new) :=
  write?_eq_some_iff.mpr ⟨h, rfl⟩

/-- A write has no result exactly where there is no room. -/
theorem isSome_write?_iff (new : Json) :
    (v.write? place new).isSome = true ↔ v.Writable place := by
  constructor
  · intro h
    obtain ⟨w, hw⟩ := Option.isSome_iff_exists.mp h
    exact (write?_eq_some_iff.mp hw).1
  · intro h
    rw [write?_of_writable h new, Option.isSome_some]

theorem set?_eq_some_iff {name : String} {new : Json} :
    v.set? name new = some w ↔ v.Writable (segments name) ∧ w = v.set name new :=
  write?_eq_some_iff

theorem set?_of_writable {name : String} (h : v.Writable (segments name)) (new : Json) :
    v.set? name new = some (v.set name new) :=
  write?_of_writable h new

/-! ## Reading after a write -/

/-- At the place that was written, and from there on, the new value is read. -/
theorem at?_write_append (v : Json) (p : List String) (new : Json) (q : List String) :
    (v.write p new).at? (p ++ q) = new.at? q := by
  induction p generalizing v with
  | nil => rfl
  | cons s rest ih =>
    rw [write_cons, List.cons_append, at?_cons, child?_put_self, Option.bind_some, ih]

/-- A place that parts from the one that was written leads to what is put under the segment there.
-/
theorem at?_write_parting (v : Json) (before : List String) (s : String) (p : List String)
    (new : Json) (t : String) (q : List String) :
    ∃ x, (v.write (before ++ s :: p) new).at? (before ++ t :: q) =
      (((v.at? before).getD .null).put s x).at? (t :: q) := by
  induction before generalizing v with
  | nil =>
    refine ⟨(v.under s).write p new, ?_⟩
    rw [List.nil_append, write_cons]
    rfl
  | cons first before ih =>
    obtain ⟨x, hx⟩ := ih (v.under first)
    refine ⟨x, ?_⟩
    rw [List.cons_append, write_cons, List.cons_append, at?_cons, child?_put_self,
      Option.bind_some, hx, getD_at?_under]

/-- Where the places part, an object keeps its other members. -/
theorem at?_write_of_obj {members : Keyed Json} (hat : v.at? before = some (.obj members))
    (hne : s ≠ t) (p : List String) (new : Json) (q : List String) :
    (v.write (before ++ s :: p) new).at? (before ++ t :: q) = v.at? (before ++ t :: q) := by
  obtain ⟨x, hx⟩ := at?_write_parting v before s p new t q
  rw [hx, at?_append v, hat, Option.getD_some, Option.bind_some, at?_cons, at?_cons,
    child?_put_of_obj members hne]

/-- Where the places part at two items of an array, the gap before a new item is `null`, and the
others stay. -/
theorem at?_write_of_index (hat : v.at? before = some (.arr items)) (hs : index? s = some i)
    (ht : index? t ≠ some i) (p : List String) (new : Json) (q : List String) :
    ((∃ j, index? t = some j ∧ items.length ≤ j ∧ j < i) →
        (v.write (before ++ s :: p) new).at? (before ++ t :: q) = Json.null.at? q) ∧
      ((¬ ∃ j, index? t = some j ∧ items.length ≤ j ∧ j < i) →
        (v.write (before ++ s :: p) new).at? (before ++ t :: q) = v.at? (before ++ t :: q)) := by
  obtain ⟨x, hx⟩ := at?_write_parting v before s p new t q
  rw [hx, at?_append v, hat, Option.getD_some, Option.bind_some, at?_cons, at?_cons]
  obtain ⟨hgap, hchild⟩ | ⟨hgap, hchild⟩ := child?_put_of_index items hs ht x
  · exact ⟨fun _ => by rw [hchild, Option.bind_some], fun hno => absurd hgap hno⟩
  · exact ⟨fun hyes => absurd hyes hgap, fun _ => by rw [hchild]⟩

/-- Where the places part and the value does not take the segment, or none is there, the write
leaves nothing beside it. -/
theorem at?_write_of_not_takes (hat : ∀ c, v.at? before = some c → ¬ c.Takes s) (hne : s ≠ t)
    (p : List String) (new : Json) (q : List String) :
    (v.write (before ++ s :: p) new).at? (before ++ t :: q) = none := by
  obtain ⟨x, hx⟩ := at?_write_parting v before s p new t q
  have htakes : ¬ ((v.at? before).getD .null).Takes s := by
    cases hc : v.at? before with
    | none => exact not_takes_null s
    | some c => exact hat c hc
  rw [hx, at?_cons, child?_put_of_not_takes htakes hne, Option.bind_none]

/-! ## Dotted names -/

theorem segments_append (name below : String) :
    segments (name ++ "." ++ below) = segments name ++ segments below :=
  Text.pieces_append '.' name below

/-- What is written at a dotted name is read there. -/
theorem get?_set_self (d : Json) (name : String) (new : Json) :
    (d.set name new).get? name = some new := by
  have hself := d.at?_write_append (segments name) new []
  rw [List.append_nil] at hself
  exact hself

/-- A write at a dotted name that gives no array on the way the greatest index has a result. Under
the name, and under what goes on from it, the new value is read. A name that parts from it at some
segment reads what it read before, if an object is there, and also if an array is there and the name
written has an index there that is not that of the other; only that a gap before the index written is
`null`. If something else is there, or nothing, the other name reads nothing. -/
theorem get?_after_set {d : Json} {name : String} (hroom : d.Writable (segments name))
    (new : Json) :
    ∃ w, d.set? name new = some w ∧
    (∀ other below, segments other = segments name ++ below → w.get? other = new.at? below) ∧
    w.get? name = some new ∧
    (∀ below, w.get? (name ++ "." ++ below) = new.get? below) ∧
    ∀ other before s p t q, segments name = before ++ s :: p →
      segments other = before ++ t :: q → s ≠ t →
      (∀ members, d.at? before = some (.obj members) → w.get? other = d.get? other) ∧
      (∀ items i, d.at? before = some (.arr items) → index? s = some i → index? t ≠ some i →
        ((∃ j, index? t = some j ∧ items.length ≤ j ∧ j < i) →
          w.get? other = if q = [] then some .null else none) ∧
        ((¬ ∃ j, index? t = some j ∧ items.length ≤ j ∧ j < i) → w.get? other = d.get? other)) ∧
      ((∀ c, d.at? before = some c → ¬ c.Takes s) → w.get? other = none) := by
  have hbelow (other : String) (below : List String)
      (hother : segments other = segments name ++ below) :
      (d.set name new).get? other = new.at? below := by
    rw [set, get?, hother, at?_write_append]
  refine ⟨d.set name new, set?_of_writable hroom new, hbelow,
    hbelow name [] (List.append_nil _).symm, ?_, ?_⟩
  · intro below
    exact hbelow _ _ (segments_append name below)
  · intro other before s p t q hname hother hne
    simp only [set, get?, hname, hother]
    refine ⟨?_, ?_, ?_⟩
    · intro members hat
      exact at?_write_of_obj hat hne p new q
    · intro items i hat hs ht
      obtain ⟨hgap, hsame⟩ := at?_write_of_index hat hs ht p new q
      refine ⟨fun hj => ?_, hsame⟩
      rw [hgap hj]
      cases q with
      | nil => rfl
      | cons first rest => exact at?_null first rest
    · intro hat
      exact at?_write_of_not_takes hat hne p new q

/-- A stock list: two rows with a quantity. -/
def stock : Json :=
  .obj [("rows", .arr [.obj [("qty", .ofNat 1)], .obj [("qty", .ofNat 2)]]), ("site", .str "A")]

/-- A quantity in the fifth row: two rows stay, a gap is filled with `null`, and the other member
stays. A room at the site takes the place of its text. -/
theorem get?_after_set_stock :
    stock.Writable (segments "rows.4.qty") ∧ stock.Writable (segments "site.room") ∧
      (∃ w, stock.set? "rows.4.qty" (.ofNat 7) = some w ∧
        w.get? "rows.4.qty" = some (.ofNat 7) ∧ w.get? "rows.1.qty" = stock.get? "rows.1.qty" ∧
        w.get? "rows.3" = some .null ∧ w.get? "site" = stock.get? "site") ∧
      ∃ w, stock.set? "site.room" (.str "B") = some w ∧ w.get? "site.hall" = none := by
  have hrows : stock.Writable (segments "rows.4.qty") :=
    (isSome_write?_iff .null).mp (by decide)
  have hsite : stock.Writable (segments "site.room") :=
    (isSome_write?_iff .null).mp (by decide)
  obtain ⟨counted, hcounted, -, hself, -, hbeside⟩ := get?_after_set hrows (.ofNat 7)
  obtain ⟨moved, hmoved, -, -, -, hreplaced⟩ := get?_after_set hsite (.str "B")
  refine ⟨hrows, hsite, ⟨counted, hcounted, hself, ?_, ?_, ?_⟩, moved, hmoved, ?_⟩
  · have hone : index? "1" = some 1 := by decide
    obtain ⟨-, hitems, -⟩ := hbeside "rows.1.qty" ["rows"] "4" ["qty"] "1" ["qty"]
      rfl rfl (by decide)
    apply (hitems _ 4 rfl (by decide) (by decide)).2
    rintro ⟨j, hj, hend, -⟩
    have hj : 1 = j := Option.some.inj (hone.symm.trans hj)
    have hend : 2 ≤ j := hend
    omega
  · obtain ⟨-, hitems, -⟩ := hbeside "rows.3" ["rows"] "4" ["qty"] "3" [] rfl rfl (by decide)
    apply (hitems _ 4 rfl (by decide) (by decide)).1
    exact ⟨3, by decide, Nat.le_succ 2, Nat.lt_succ_self 3⟩
  · obtain ⟨hmembers, -⟩ := hbeside "site" [] "rows" ["4", "qty"] "site" [] rfl rfl (by decide)
    exact hmembers _ rfl
  · obtain ⟨-, -, hnone⟩ := hreplaced "site.hall" ["site"] "room" [] "hall" [] rfl rfl (by decide)
    apply hnone
    intro c hc
    have htext : stock.at? ["site"] = some (.str "A") := rfl
    obtain rfl := Option.some.inj (htext.symm.trans hc)
    rintro (⟨members, hobj⟩ | hindex)
    · cases hobj
    · cases hindex

end Json

end LiveForm
