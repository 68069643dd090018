/-!
# Maps with text keys

A `Keyed α` is a list of pairs in ascending order of the keys. Keys are compared by code point,
which is also the order of their UTF-8 bytes. The order belongs to the data: two maps with the
same entries are the same list, and whatever walks a map walks it in key order.

`find?_insert_self` and `find?_insert_of_ne` say what an insertion does to a look-up, and
`find?_erase_self` and `find?_erase_of_ne` what a removal does. They hold of any list of pairs; only
`Ordered` lists have one representative per map. `ordered_insert` says that an insertion keeps the
order, and `ordered_ofPairs` that whatever is built from pairs has it. What is found in it says
`find?_ofPairs`; in an ordered list it is what is there (`mem_iff_find?`).
-/

namespace LiveForm

/-- Pairs of a key and a value, in ascending order of the keys. -/
abbrev Keyed (α : Type) := List (String × α)

namespace Keyed

variable {α β : Type}

/-- The keys ascend strictly. -/
def Ordered (m : Keyed α) : Prop :=
  m.Pairwise fun a b => a.1 < b.1

/-- The value at a key. -/
def find? (m : Keyed α) (key : String) : Option α :=
  match m with
  | [] => none
  | (k, v) :: rest => if k = key then some v else find? rest key

/-- Whether a key has a value. -/
def contains (m : Keyed α) (key : String) : Bool :=
  (m.find? key).isSome

/-- Put a value at a key: in place of the value there, else between its neighbours. -/
def insert (m : Keyed α) (key : String) (value : α) : Keyed α :=
  match m with
  | [] => [(key, value)]
  | (k, v) :: rest =>
    if k = key then (key, value) :: rest
    else if key < k then (key, value) :: (k, v) :: rest
    else (k, v) :: insert rest key value

/-- Remove a key. -/
def erase (m : Keyed α) (key : String) : Keyed α :=
  m.filter fun entry => entry.1 ≠ key

/-- The map of a list of pairs. The last of several pairs with one key wins. -/
def ofPairs (pairs : List (String × α)) : Keyed α :=
  pairs.foldl (fun m entry => m.insert entry.1 entry.2) []

/-- The keys, in ascending order. -/
def keys (m : Keyed α) : List String :=
  m.map Prod.fst

@[simp] theorem find?_nil (key : String) : find? ([] : Keyed α) key = none := rfl

theorem find?_insert_self (m : Keyed α) (key : String) (value : α) :
    (m.insert key value).find? key = some value := by
  induction m with
  | nil => simp [insert, find?]
  | cons entry rest ih =>
    obtain ⟨k, v⟩ := entry
    by_cases hk : k = key
    · simp [insert, find?, hk]
    · by_cases hlt : key < k <;> simp [insert, find?, hk, hlt, ih]

theorem find?_insert_of_ne (m : Keyed α) {key other : String} (h : other ≠ key) (value : α) :
    (m.insert key value).find? other = m.find? other := by
  induction m with
  | nil => simp [insert, find?, Ne.symm h]
  | cons entry rest ih =>
    obtain ⟨k, v⟩ := entry
    by_cases hk : k = key
    · subst hk; simp [insert, find?, Ne.symm h]
    · by_cases hlt : key < k
      · simp [insert, find?, hk, hlt, Ne.symm h]
      · simp [insert, find?, hk, hlt, ih]

theorem find?_erase_self (m : Keyed α) (key : String) : (m.erase key).find? key = none := by
  induction m with
  | nil => rfl
  | cons entry rest ih =>
    obtain ⟨k, v⟩ := entry
    by_cases hk : k = key
    · simp_all [erase]
    · simp_all [erase, find?]

theorem find?_erase_of_ne (m : Keyed α) {key other : String} (h : other ≠ key) :
    (m.erase key).find? other = m.find? other := by
  induction m with
  | nil => rfl
  | cons entry rest ih =>
    obtain ⟨k, v⟩ := entry
    by_cases hk : k = key
    · subst hk
      simp_all [erase, find?, Ne.symm h]
    · simp_all [erase, find?]

/-- A key before all others has no value. -/
theorem find?_eq_none_of_lt {m : Keyed α} {key : String} (h : ∀ entry ∈ m, key < entry.1) :
    m.find? key = none := by
  induction m with
  | nil => rfl
  | cons entry rest ih =>
    have hlt : key < entry.1 := h entry List.mem_cons_self
    have hne : entry.1 ≠ key := fun heq => String.lt_irrefl key (heq ▸ hlt)
    rw [find?, if_neg hne]
    exact ih fun other hother => h other (List.mem_cons_of_mem _ hother)

/-- The entries of a map in order are what is found in it. -/
theorem mem_iff_find? {m : Keyed α} (h : m.Ordered) {key : String} {value : α} :
    (key, value) ∈ m ↔ m.find? key = some value := by
  induction m with
  | nil => exact iff_of_false List.not_mem_nil nofun
  | cons entry rest ih =>
    obtain ⟨k, v⟩ := entry
    obtain ⟨later, ordered⟩ := List.pairwise_cons.1 h
    rw [List.mem_cons, find?]
    by_cases hk : k = key
    · -- The key is in front, so that no entry behind it has the same key.
      subst hk
      have hrest : (k, value) ∉ rest := fun hmem => String.lt_irrefl k (later _ hmem)
      simp [hrest, eq_comm]
    · have hne : (key, value) ≠ (k, v) := fun heq => hk (congrArg Prod.fst heq).symm
      rw [if_neg hk, ← ih ordered]
      exact or_iff_right hne

theorem eq_or_mem_of_mem_insert {m : Keyed α} {key : String} {value : α} {entry : String × α}
    (h : entry ∈ m.insert key value) : entry = (key, value) ∨ entry ∈ m := by
  induction m with
  | nil => simp_all [insert]
  | cons first rest ih =>
    simp only [insert] at h
    split at h
    · grind
    · split at h <;> grind

/-- An insertion keeps the order. -/
theorem ordered_insert {m : Keyed α} (h : m.Ordered) (key : String) (value : α) :
    (m.insert key value).Ordered := by
  induction m with
  | nil => simp [Keyed.insert, Ordered]
  | cons first rest ih =>
    obtain ⟨later, ordered⟩ := List.pairwise_cons.1 h
    simp only [Keyed.insert]
    split
    · rename_i same
      subst same
      exact List.pairwise_cons.2 ⟨later, ordered⟩
    · rename_i different
      split
      · rename_i before
        refine List.pairwise_cons.2 ⟨fun entry member => ?_, h⟩
        rcases List.mem_cons.1 member with rfl | member
        · exact before
        · exact String.lt_trans before (later entry member)
      · rename_i notBefore
        refine List.pairwise_cons.2 ⟨fun entry member => ?_, ih ordered⟩
        rcases eq_or_mem_of_mem_insert member with rfl | member
        · exact Decidable.byContradiction fun notAfter =>
            different (String.le_antisymm (String.not_lt.1 notBefore) (String.not_lt.1 notAfter))
        · exact later entry member

/-- What is built from pairs is in order. -/
theorem ordered_ofPairs (pairs : List (String × α)) : (ofPairs pairs).Ordered := by
  suffices h : ∀ m : Keyed α, m.Ordered →
      (pairs.foldl (fun m entry => m.insert entry.1 entry.2) m).Ordered from
    h [] List.Pairwise.nil
  induction pairs with
  | nil => exact fun m h => h
  | cons entry rest ih => exact fun m h => ih _ (ordered_insert h entry.1 entry.2)

/-- What comes after all keys is put at the end. -/
theorem insert_of_last {m : Keyed α} {key : String} (h : ∀ entry ∈ m, entry.1 < key) (value : α) :
    m.insert key value = m ++ [(key, value)] := by
  induction m with
  | nil => rfl
  | cons entry rest ih =>
    have hlt : entry.1 < key := h entry List.mem_cons_self
    have hne : entry.1 ≠ key := fun heq => String.lt_irrefl key (heq ▸ hlt)
    rw [insert, if_neg hne, if_neg (String.lt_asymm hlt), List.cons_append,
      ih fun other hother => h other (List.mem_cons_of_mem _ hother)]

/-- A map in order is the map of its own pairs. -/
theorem ofPairs_of_ordered {m : Keyed α} (h : m.Ordered) : ofPairs m = m := by
  suffices hfold : ∀ (rest before : Keyed α), Ordered (before ++ rest) →
      rest.foldl (fun m entry => m.insert entry.1 entry.2) before = before ++ rest from
    hfold m [] h
  intro rest
  induction rest with
  | nil => exact fun before _ => (List.append_nil before).symm
  | cons entry rest ih =>
    intro before hordered
    have hlast : ∀ other ∈ before, other.1 < entry.1 := fun other hother =>
      (List.pairwise_append.mp hordered).2.2 other hother entry List.mem_cons_self
    rw [List.append_cons] at hordered ⊢
    rw [List.foldl_cons, insert_of_last hlast, ih _ hordered]

/-- Of several pairs with one key the last one counts. -/
theorem find?_ofPairs (pairs : List (String × α)) (key : String) :
    (ofPairs pairs).find? key =
      (pairs.reverse.find? fun entry => entry.1 == key).map Prod.snd := by
  suffices h : ∀ m : Keyed α,
      Keyed.find? (pairs.foldl (fun m entry => m.insert entry.1 entry.2) m) key =
        ((pairs.reverse.find? fun entry => entry.1 == key).map Prod.snd).or (m.find? key) by
    rw [ofPairs, h, find?_nil, Option.or_none]
  induction pairs with
  | nil => exact fun m => rfl
  | cons entry rest ih =>
    intro m
    rw [List.foldl_cons, ih, List.reverse_cons, List.find?_append]
    cases rest.reverse.find? fun entry => entry.1 == key with
    | some later => rfl
    | none =>
      by_cases hkey : entry.1 = key
      · subst hkey
        simp [find?_insert_self]
      · simp [hkey, find?_insert_of_ne m (Ne.symm hkey)]

end Keyed

end LiveForm
