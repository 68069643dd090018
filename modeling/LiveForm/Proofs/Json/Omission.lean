import LiveForm.Proofs.Json.Shape
import Mathlib.Data.List.Find

/-!
# Structures with a member more or less

A structure may omit a member (`Record.Omits`) if it may be missing, and if `null` in its place
leaves the structure as it is. It is then read the same from a draft with that `null` and from one
without it (`Record.Omits.read`), and what is wrong with the one is wrong with the other.

Around such a structure there may be others. They are read from their members one by one, so one of
these may be exchanged for another draft that reads the same (`Record.read_member_congr` and
`Record.read_item_congr`), and so may an item of a list (`Draft.list_congr`).
-/

namespace LiveForm

variable {α β γ : Type}

/-! ## Members and items -/

namespace Record

variable {r : Record β α} {key : String} {v w : β}

/-- A member may be exchanged for one that is put in the same way. -/
theorem ofMembers_congr (hhas : r.has key = true) (hput : ∀ x, r.put key w x = r.put key v x)
    (before after : List (Option String × β)) (ending : Ending) :
    r.ofMembers (before ++ (some key, w) :: after) ending =
      r.ofMembers (before ++ (some key, v) :: after) ending := by
  have hmember (seen : List String) (x : α) :
      r.putMembers seen x ((some key, w) :: after) =
        r.putMembers seen x ((some key, v) :: after) := by
    rw [putMembers, putMembers, if_pos hhas, if_pos hhas, hput]
  rw [ofMembers, ofMembers, putMembers_append, putMembers_append]
  simp only [hmember]

theorem putItems_congr (hput : ∀ x, r.put key w x = r.put key v x) {may : Bool}
    {ending : Ending} {keys others : List (String × Bool)} {before : List β}
    (hlength : keys.length = before.length) (after : List β) (index : Nat) (x : α) :
    r.putItems ending index x (keys ++ (key, may) :: others) (before ++ w :: after) =
      r.putItems ending index x (keys ++ (key, may) :: others) (before ++ v :: after) := by
  induction before generalizing keys index x with
  | nil =>
    obtain rfl := List.length_eq_zero_iff.mp hlength
    rw [List.nil_append, List.nil_append, List.nil_append, putItems, putItems, hput]
  | cons item before ih =>
    cases keys with
    | nil => cases hlength
    | cons first keys =>
      rw [List.cons_append, List.cons_append, List.cons_append, putItems, putItems]
      split
      · exact ih (Nat.succ.inj hlength) _ _
      · rfl

/-- An item may be exchanged for one that is put in the same way as the member at its index. -/
theorem ofItems_congr (hput : ∀ x, r.put key w x = r.put key v x) {may : Bool}
    {keys others : List (String × Bool)} (hkeys : r.members = keys ++ (key, may) :: others)
    {before : List β} (hlength : keys.length = before.length) (after : List β) (ending : Ending) :
    r.ofItems (before ++ w :: after) ending = r.ofItems (before ++ v :: after) ending := by
  rw [ofItems, ofItems, hkeys, putItems_congr hput hlength]
  simp only [List.length_append, List.length_cons]

/-! ## Members that are null -/

/-- A member may be left out, and as `null` it leaves the structure as it is. `P` holds of the
structure as long as the member was not read. -/
structure Omits (r : Record β α) (key : String) (null : β) (P : α → Prop) : Prop where
  optional : ∀ m ∈ r.members, m.1 = key → m.2 = true
  skips : r.skips null = true
  start : P r.start
  put_null : ∀ x, P x → r.put key null x = .ok x
  put_other : ∀ other v x y, other ≠ key → P x → r.put other v x = .ok y → P y

/-- What was read is the same, whether or not one of the keys was seen. -/
inductive SameBut (key : String) :
    Except ShapeError (List String × α) → Except ShapeError (List String × α) → Prop
  | error (e : ShapeError) : SameBut key (.error e) (.error e)
  | ok (x : α) {seen more : List String} (h : ∀ k, k ≠ key → (k ∈ more ↔ k ∈ seen)) :
      SameBut key (.ok (seen, x)) (.ok (more, x))

theorem SameBut.refl (key : String) (read : Except ShapeError (List String × α)) :
    SameBut key read read := by
  cases read with
  | error e => exact .error e
  | ok pair => exact .ok pair.2 fun _ _ => Iff.rfl

theorem contains_congr {seen more : List String} {other : String}
    (h : other ∈ more ↔ other ∈ seen) : more.contains other = seen.contains other := by
  rw [Bool.eq_iff_iff, List.contains_iff_mem, List.contains_iff_mem, h]

/-- Whether a key was seen does not matter to members that have other keys. -/
theorem sameBut_putMembers {members : List (Option String × β)}
    (habsent : ∀ m ∈ members, m.1 ≠ some key) {seen more : List String}
    (hmore : ∀ k, k ≠ key → (k ∈ more ↔ k ∈ seen)) (x : α) :
    SameBut key (r.putMembers seen x members) (r.putMembers more x members) := by
  induction members generalizing seen more x with
  | nil => exact .ok x hmore
  | cons m rest ih =>
    obtain ⟨hfirst, hrest⟩ := List.forall_mem_cons.mp habsent
    obtain ⟨name, v⟩ := m
    cases name with
    | none => exact .error _
    | some other =>
      have hother : other ≠ key := fun h => hfirst (congrArg some h)
      rw [putMembers, putMembers, contains_congr (hmore other hother)]
      by_cases hhas : r.has other = true
      · rw [if_pos hhas, if_pos hhas]
        split
        · exact .error _
        · cases r.put other v x with
          | error e => exact .error e
          | ok next =>
            refine ih hrest (fun k hk => ?_) next
            rw [List.mem_cons, List.mem_cons, hmore k hk]
      · rw [if_neg hhas, if_neg hhas]
        split
        · exact ih hrest hmore x
        · exact .error _

variable {null : β} {P : α → Prop}

namespace Omits

/-- As long as members with other keys are read, the member was not. -/
theorem putMembers (h : r.Omits key null P) {members : List (Option String × β)}
    (habsent : ∀ m ∈ members, m.1 ≠ some key) {seen keys : List String} (hseen : key ∉ seen)
    {x y : α} (hx : P x) (hread : r.putMembers seen x members = .ok (keys, y)) :
    key ∉ keys ∧ P y := by
  fun_induction Record.putMembers r seen x members with
  | case1 seen x =>
    cases hread
    exact ⟨hseen, hx⟩
  | case2 => cases hread
  | case3 => cases hread
  | case4 seen x other v rest hhas _ next hput ih =>
    obtain ⟨hfirst, hrest⟩ := List.forall_mem_cons.mp habsent
    have hother : other ≠ key := fun heq => hfirst (congrArg some heq)
    have hunseen : key ∉ other :: seen := fun hmem =>
      (List.mem_cons.mp hmem).elim (fun heq => hother heq.symm) hseen
    exact ih hrest hunseen (h.put_other other v x next hother hx hput) hread
  | case5 => cases hread
  | case6 seen x other v rest hhas hskips ih =>
    exact ih (List.forall_mem_cons.mp habsent).2 hseen hx hread
  | case7 => cases hread

/-- The member as `null` changes nothing but that its key was seen. -/
theorem sameBut (h : r.Omits key null P) {before after : List (Option String × β)}
    (habsent : ∀ m ∈ before ++ after, m.1 ≠ some key) :
    SameBut key (r.putMembers [] r.start (before ++ after))
      (r.putMembers [] r.start (before ++ (some key, null) :: after)) := by
  obtain ⟨hbefore, hafter⟩ := List.forall_mem_append.mp habsent
  rw [putMembers_append, putMembers_append]
  cases hread : r.putMembers [] r.start before with
  | error e => exact .error e
  | ok pair =>
    obtain ⟨seen, x⟩ := pair
    obtain ⟨hseen, hx⟩ := h.putMembers hbefore List.not_mem_nil h.start hread
    simp only [Except.bind]
    rw [Record.putMembers]
    split
    · rw [if_neg fun hcontains => hseen (List.contains_iff_mem.mp hcontains), h.put_null x hx]
      refine sameBut_putMembers hafter (fun k hk => ?_) x
      rw [List.mem_cons, or_iff_right hk]
    · rw [if_pos h.skips]
      exact .refl key _

/-- What is missing does not depend on whether the key was seen. -/
theorem missing? (h : r.Omits key null P) {seen more : List String}
    (hmore : ∀ k, k ≠ key → (k ∈ more ↔ k ∈ seen)) : r.missing? more = r.missing? seen := by
  rw [Record.missing?, Record.missing?]
  refine congrArg (Option.map Prod.fst) (List.find?_congr fun m hm => ?_)
  by_cases hkey : m.1 = key
  · rw [h.optional m hm hkey]
    rfl
  · rw [contains_congr (hmore m.1 hkey)]

/-- A structure with the member as `null` is read like one without the member. -/
theorem ofMembers (h : r.Omits key null P) {before after : List (Option String × β)}
    (habsent : ∀ m ∈ before ++ after, m.1 ≠ some key) (ending : Ending) :
    r.ofMembers (before ++ (some key, null) :: after) ending =
      r.ofMembers (before ++ after) ending := by
  have hsame := h.sameBut habsent
  rw [Record.ofMembers, Record.ofMembers]
  generalize r.putMembers [] r.start (before ++ after) = left at hsame
  generalize r.putMembers [] r.start (before ++ (some key, null) :: after) = right at hsame
  cases hsame with
  | error e => rfl
  | ok x hmore =>
    simp only [bind, Except.bind]
    rw [h.missing? hmore]

end Omits

/-- A member that the structure does not have may be omitted. -/
theorem Omits.of_has (hhas : r.has key = false) (hskips : r.skips null = true)
    (hput : ∀ x, r.put key null x = .ok x) : r.Omits key null fun _ => True where
  optional m hm hkey := by
    have hfound : r.has key = true := List.any_eq_true.mpr ⟨m, hm, beq_iff_eq.mpr hkey⟩
    rw [hhas] at hfound
    cases hfound
  skips := hskips
  start := trivial
  put_null x _ := hput x
  put_other _ _ _ _ _ _ _ := trivial

/-- A member may be omitted if its part of the structure is `empty` at first, is `empty` as `null`,
and is left as it is by the other members. -/
theorem Omits.of_part (part : α → γ) (empty : γ)
    (hoptional : ∀ m ∈ r.members, m.1 = key → m.2 = true) (hskips : r.skips null = true)
    (hstart : part r.start = empty) (hnull : ∀ x, part x = empty → r.put key null x = .ok x)
    (hother : ∀ {other v x y}, r.put other v x = .ok y → other ≠ key → part y = part x) :
    r.Omits key null fun x => part x = empty where
  optional := hoptional
  skips := hskips
  start := hstart
  put_null := hnull
  put_other _ _ _ _ hkey hx hput := (hother hput hkey).trans hx

/-! ## Structures that are read from drafts -/

/-- Read the structure from a draft. `view` makes of a member's draft what the structure takes. -/
def read (r : Record β α) (view : Draft → β) : Draft → Except ShapeError α
  | .obj members ending => r.ofMembers (members.map fun m => (m.1, view m.2)) ending
  | .arr items ending => r.ofItems (items.map view) ending
  | d => .error (r.unexpected d)

theorem read_id (r : Record Draft α) (d : Draft) : r.read id d = r.ofDraft d := by
  cases d with
  | obj members ending => exact congrArg (r.ofMembers · ending) (List.map_id members)
  | arr items ending => exact congrArg (r.ofItems · ending) (List.map_id items)
  | _ => rfl

theorem ofDraft_congr {r : Record Draft α} {d e : Draft} (h : r.read id e = r.read id d) :
    r.ofDraft e = r.ofDraft d := by
  rwa [read_id, read_id] at h

variable {view : Draft → β} {d e : Draft}

theorem read_member_congr (hhas : r.has key = true)
    (hput : ∀ x, r.put key (view e) x = r.put key (view d) x)
    (before after : List (Option String × Draft)) (ending : Ending) :
    r.read view (.obj (before ++ (some key, e) :: after) ending) =
      r.read view (.obj (before ++ (some key, d) :: after) ending) := by
  simp only [read, List.map_append, List.map_cons]
  exact ofMembers_congr hhas hput _ _ ending

theorem read_item_congr (hput : ∀ x, r.put key (view e) x = r.put key (view d) x) {may : Bool}
    {keys others : List (String × Bool)} (hkeys : r.members = keys ++ (key, may) :: others)
    {before : List Draft} (hlength : keys.length = before.length) (after : List Draft)
    (ending : Ending) :
    r.read view (.arr (before ++ e :: after) ending) =
      r.read view (.arr (before ++ d :: after) ending) := by
  simp only [read, List.map_append, List.map_cons]
  exact ofItems_congr hput hkeys (hlength.trans (List.length_map view).symm) _ ending

theorem Omits.read (h : r.Omits key (view .null) P) {before after : List (Option String × Draft)}
    (habsent : ∀ m ∈ before ++ after, m.1 ≠ some key) (ending : Ending) :
    r.read view (.obj (before ++ (some key, .null) :: after) ending) =
      r.read view (.obj (before ++ after) ending) := by
  simp only [Record.read, List.map_append, List.map_cons]
  refine h.ofMembers (fun m hm => ?_) ending
  rw [← List.map_append] at hm
  obtain ⟨n, hn, rfl⟩ := List.mem_map.mp hm
  exact habsent n hn

end Record

/-- One item of a list may be exchanged for one that reads the same. -/
theorem Draft.list_congr {read : Draft → Except ShapeError α} {d e : Draft} (h : read e = read d)
    (before after : List Draft) (ending : Ending) :
    (Draft.arr (before ++ e :: after) ending).list read =
      (Draft.arr (before ++ d :: after) ending).list read := by
  simp only [Draft.list, List.mapM_append, List.mapM_cons, h]

theorem Draft.optional_congr {f g : Draft → Except ShapeError α} {d e : Draft} (hd : d ≠ .null)
    (he : e ≠ .null) (h : g e = f d) : e.optional g = d.optional f := by
  rw [optional, optional, h]
  · exact hd
  · exact he

end LiveForm
