import LiveForm.Json.Draft

/-!
# Values and their drafts

A value that was read has the members of each of its objects in order. A value whose objects are in
order is read back from its own draft, so nothing gets lost where a value is kept as it is.
-/

namespace LiveForm

namespace Json

theorem membersOrdered_iff {members : List (String × Json)} :
    MembersOrdered members ↔ ∀ entry ∈ members, entry.2.Ordered := by
  induction members with
  | nil => simp [MembersOrdered]
  | cons entry rest ih => simp [MembersOrdered, ih]

/-- An object of values in order is in order, in whatever order its members are given. -/
theorem ordered_ofMembers {members : List (String × Json)} (h : MembersOrdered members) :
    (ofMembers members).Ordered := by
  refine ⟨Keyed.ordered_ofPairs members, membersOrdered_iff.mpr ?_⟩
  suffices hfold : ∀ (rest : List (String × Json)) (m : Keyed Json),
      (∀ entry ∈ rest, entry.2.Ordered) → (∀ entry ∈ m, entry.2.Ordered) →
      ∀ entry ∈ rest.foldl (fun m entry => m.insert entry.1 entry.2) m, entry.2.Ordered from
    hfold members [] (membersOrdered_iff.mp h) nofun
  intro rest
  induction rest with
  | nil => exact fun m _ hm => hm
  | cons first rest ih =>
    intro m hrest hm
    refine ih _ (fun entry hentry => hrest entry (List.mem_cons_of_mem _ hentry)) ?_
    intro entry hentry
    rcases Keyed.eq_or_mem_of_mem_insert hentry with rfl | hmem
    · exact hrest first List.mem_cons_self
    · exact hm entry hmem

end Json

namespace Draft

mutual

/-- The value of a draft is in order. -/
theorem ordered_value? : (d : Draft) → {v : Json} → d.value? = some v → v.Ordered
  | .null, _, h | .bool _, _, h | .num _, _, h | .str _, _, h => by cases h; trivial
  | .arr items ending, _, h => by
    cases ending with
    | closed =>
      obtain ⟨values, hvalues, rfl⟩ := Option.map_eq_some_iff.mp h
      exact ordered_itemValues? items hvalues
    | broken => cases h
    | tooDeep => cases h
  | .obj members ending, _, h => by
    cases ending with
    | closed =>
      obtain ⟨values, hvalues, rfl⟩ := Option.map_eq_some_iff.mp h
      exact Json.ordered_ofMembers (ordered_memberValues? members hvalues)
    | broken => cases h
    | tooDeep => cases h

theorem ordered_itemValues? : (items : List Draft) → {values : List Json} →
    itemValues? items = some values → Json.ItemsOrdered values
  | [], _, h => by cases h; trivial
  | d :: rest, _, h => by
    obtain ⟨v, hv, h⟩ := Option.bind_eq_some_iff.mp h
    obtain ⟨values, hvalues, rfl⟩ := Option.map_eq_some_iff.mp h
    exact ⟨ordered_value? d hv, ordered_itemValues? rest hvalues⟩

theorem ordered_memberValues? : (members : List (Option String × Draft)) →
    {values : List (String × Json)} → memberValues? members = some values →
    Json.MembersOrdered values
  | [], _, h => by cases h; trivial
  | (some key, d) :: rest, _, h => by
    obtain ⟨v, hv, h⟩ := Option.bind_eq_some_iff.mp h
    obtain ⟨values, hvalues, rfl⟩ := Option.map_eq_some_iff.mp h
    exact ⟨ordered_value? d hv, ordered_memberValues? rest hvalues⟩
  | (none, _) :: _, _, h => nomatch h

end

mutual

/-- A value in order is the value of its draft. -/
theorem value?_ofJson : (v : Json) → v.Ordered → (ofJson v).value? = some v
  | .null, _ | .bool _, _ | .num _, _ | .str _, _ => rfl
  | .arr items, h => by rw [ofJson, value?, itemValues?_ofItems items h]; rfl
  | .obj members, h => by
    rw [ofJson, value?, memberValues?_ofMembers members h.2, Option.map_some, Json.ofMembers,
      Keyed.ofPairs_of_ordered h.1]

theorem itemValues?_ofItems : (items : List Json) → Json.ItemsOrdered items →
    itemValues? (ofItems items) = some items
  | [], _ => rfl
  | v :: rest, h => by
    rw [ofItems, itemValues?, value?_ofJson v h.1, itemValues?_ofItems rest h.2]
    rfl

theorem memberValues?_ofMembers : (members : List (String × Json)) → Json.MembersOrdered members →
    memberValues? (ofMembers members) = some members
  | [], _ => rfl
  | (key, v) :: rest, h => by
    rw [ofMembers, memberValues?, value?_ofJson v h.1, memberValues?_ofMembers rest h.2]
    rfl

end

end Draft

end LiveForm
