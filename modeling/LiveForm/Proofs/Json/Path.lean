import LiveForm.Json.Path

/-!
# Reading and writing at dotted names

A write puts something under one segment after the other. `Json.write` and `Json.set` say what it
leaves, whatever length the arrays then need; whether a write comes to its end is another question.

What a form holds is an object from the start, and no write changes that: a dotted name has at least
one segment, and on an object a segment is a member. A name without a dot is a single segment, so
that writing at such names one after the other builds the object of what is written (`foldl_set`).
-/

namespace LiveForm

namespace Text

theorem cut_of_not_mem {separator : Char} {cs : List Char} (h : separator ∉ cs) :
    cut separator cs = [cs] := by
  induction cs with
  | nil => rfl
  | cons c rest ih =>
    obtain ⟨hfirst, hrest⟩ := List.ne_and_not_mem_of_not_mem_cons h
    rw [cut, if_neg hfirst.symm, ih hrest]

/-- A text without the separating character is its only piece. -/
theorem pieces_of_not_mem {separator : Char} {s : String} (h : separator ∉ s.toList) :
    pieces separator s = [s] := by
  rw [pieces, cut_of_not_mem h, List.map_singleton, String.ofList_toList]

end Text

namespace Json

/-- Put a value under a segment: as an item of an array, if the segment is an index, and else as a
member. What is neither an array under an index nor an object is replaced by an object. -/
def put (v : Json) (segment : String) (w : Json) : Json :=
  match v.indexIn? segment with
  | some i => .arr (putItem v.itemsOf i w)
  | none => .obj (Keyed.insert v.membersOf segment w)

/-- What a write finds under a segment: `null` where nothing is. -/
def under (v : Json) (segment : String) : Json := (v.child? segment).getD .null

/-- What a value that is put at a place leaves there. -/
def write (v : Json) (place : List String) (new : Json) : Json :=
  match place with
  | [] => new
  | segment :: rest => v.put segment ((v.under segment).write rest new)

theorem write_cons (v : Json) (segment : String) (rest : List String) (new : Json) :
    v.write (segment :: rest) new = v.put segment ((v.under segment).write rest new) := rfl

/-- What a value that is put at a dotted name leaves there. -/
def set (v : Json) (name : String) (new : Json) : Json := v.write (segments name) new

/-- A value is an object. -/
def IsObject (v : Json) : Prop := ∃ members, v = .obj members

/-- A write at a place inside an object leaves an object. -/
theorem isObject_write {v : Json} (h : v.IsObject) {place : List String} (hplace : place ≠ [])
    (new : Json) : (v.write place new).IsObject := by
  obtain ⟨members, rfl⟩ := h
  cases place with
  | nil => exact absurd rfl hplace
  | cons segment rest => exact ⟨_, rfl⟩

/-- A write at a dotted name leaves an object. -/
theorem isObject_set {v : Json} (h : v.IsObject) (name : String) (new : Json) :
    (v.set name new).IsObject :=
  isObject_write h (segments_ne_nil name) new

/-- The empty object has nothing at any dotted name. -/
theorem get?_empty (name : String) : (Json.obj []).get? name = none := by
  rw [get?]
  cases h : segments name with
  | nil => exact absurd h (segments_ne_nil name)
  | cons segment rest => rfl

/-- Writing at a name without a dot puts the value among the members of an object. -/
theorem set_of_not_mem {name : String} (h : '.' ∉ name.toList) (members : Keyed Json)
    (new : Json) : (Json.obj members).set name new = .obj (Keyed.insert members name new) := by
  have hsegments : segments name = [name] := Text.pieces_of_not_mem h
  rw [set, hsegments]
  rfl

/-- Writing the members of an object one after the other, in their order, builds the object. -/
theorem foldl_set {m : Keyed Json} (hordered : m.Ordered)
    (hdots : ∀ entry ∈ m, '.' ∉ entry.1.toList) :
    m.foldl (fun v entry => v.set entry.1 entry.2) (Json.obj []) = .obj m := by
  suffices hfold : ∀ (rest : Keyed Json), (∀ entry ∈ rest, '.' ∉ entry.1.toList) →
      ∀ before : Keyed Json, rest.foldl (fun v entry => v.set entry.1 entry.2) (Json.obj before) =
        .obj (rest.foldl (fun m entry => Keyed.insert m entry.1 entry.2) before) by
    rw [hfold m hdots []]
    exact congrArg Json.obj (Keyed.ofPairs_of_ordered hordered)
  intro rest
  induction rest with
  | nil => exact fun _ _ => rfl
  | cons entry rest ih =>
    intro hdots before
    obtain ⟨hfirst, hrest⟩ := List.forall_mem_cons.mp hdots
    rw [List.foldl_cons, set_of_not_mem hfirst, ih hrest, List.foldl_cons]

end Json

end LiveForm
