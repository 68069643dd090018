import LiveForm.Json.Shape
import LiveForm.Proofs.Json.Draft
import LiveForm.Proofs.Json.Token

/-!
# Values read back from their texts

The text of a value is read as the draft of the value, with two exceptions. An array or an object
with more than `Draft.maxNesting` arrays and objects around and including it is emptied and marked,
and a number is what is read of its token. `Draft.ofJsonAt` says what the draft is at a level of
nesting, and `Draft.ofText_text` that it is what the reader finds, whatever the value.

So a value in order is read back from its text if its nesting is at most `Draft.maxNesting` and every
number inside is read back from its token (`Json.ofText?_text`), and one that is nested deeper is
not read at all (`Json.ofText?_text_deep`).
-/

namespace LiveForm

namespace Json

mutual

/-- The greatest number of arrays and objects inside one another. -/
def nesting : Json → Nat
  | .arr items => 1 + itemsNesting items
  | .obj members => 1 + membersNesting members
  | _ => 0

/-- The greatest nesting of the items. -/
def itemsNesting : List Json → Nat
  | [] => 0
  | v :: rest => max v.nesting (itemsNesting rest)

/-- The greatest nesting of the values of the members. -/
def membersNesting : List (String × Json) → Nat
  | [] => 0
  | (_, v) :: rest => max v.nesting (membersNesting rest)

end

mutual

/-- Every number inside is read back from its token. -/
def Exact : Json → Prop
  | .num n => n.Exact
  | .arr items => ItemsExact items
  | .obj members => MembersExact members
  | _ => True

/-- `Exact` for every item. -/
def ItemsExact : List Json → Prop
  | [] => True
  | v :: rest => v.Exact ∧ ItemsExact rest

/-- `Exact` for the value of every member. -/
def MembersExact : List (String × Json) → Prop
  | [] => True
  | (_, v) :: rest => v.Exact ∧ MembersExact rest

end

end Json

namespace Draft

mutual

/-- The draft of the text of a value with `level` arrays and objects around. -/
def ofJsonAt (level : Nat) : Json → Draft
  | .null => .null
  | .bool b => .bool b
  | .num n => ofNumber n
  | .str s => .str s
  | .arr items => makeArray (level + 1) (ofItemsAt (level + 1) items)
  | .obj members => makeObject (level + 1) (ofMembersAt (level + 1) members)

/-- The drafts of the items. -/
def ofItemsAt (level : Nat) : List Json → List Draft
  | [] => []
  | v :: rest => ofJsonAt level v :: ofItemsAt level rest

/-- The drafts of the members. -/
def ofMembersAt (level : Nat) : List (String × Json) → List (Option String × Draft)
  | [] => []
  | (key, v) :: rest => (some key, ofJsonAt level v) :: ofMembersAt level rest

end

theorem ofMembersAt_eq (level : Nat) (members : List (String × Json)) :
    ofMembersAt level members = members.map fun m => (some m.1, ofJsonAt level m.2) := by
  induction members with
  | nil => rfl
  | cons m rest ih => rw [ofMembersAt, List.map_cons, ih]

/-- What is nested too deep is no fault of the text, nor is a number that cannot be used. -/
theorem intact_ofJsonAt (level : Nat) (v : Json) : (ofJsonAt level v).intact = true := by
  cases v with
  | num n =>
    rw [ofJsonAt]
    rcases ofNumber_cases n with ⟨m, h⟩ | h
    · rw [h]
      rfl
    · rw [h]
      rfl
  | arr items =>
    rw [ofJsonAt, makeArray]
    split <;> rfl
  | obj members =>
    rw [ofJsonAt, makeObject]
    split <;> rfl
  | _ => rfl

/-! ## Strings -/

theorem hexValue?_control (n : Nat) (hn : n < 0x20) :
    Text.hexValue? ['0', '0', Json.hexDigit (n / 16), Json.hexDigit (n % 16)] = some n := by
  have hall : ∀ m < 0x20,
      Text.hexValue? ['0', '0', Json.hexDigit (m / 16), Json.hexDigit (m % 16)] = some m := by
    decide
  exact hall n hn

/-- A character of a string is read back from its escape. -/
theorem readString_escape (c : Char) (cs : List Char) :
    readString none (Json.escape c ++ cs) = (readString none cs).push c := by
  by_cases hletter : c ∈ ['"', '\\', '\n', '\r', '\t', '\x08', '\x0c']
  · simp only [List.mem_cons, List.not_mem_nil, or_false] at hletter
    rcases hletter with rfl | rfl | rfl | rfl | rfl | rfl | rfl <;> rfl
  · simp only [List.mem_cons, List.not_mem_nil, or_false, not_or] at hletter
    obtain ⟨hquote, hslash, hn, hr, ht, hb, hf⟩ := hletter
    by_cases hsmall : c.toNat < 0x20
    · have hhigh : ¬ isHighSurrogate c.toNat = true := by
        rw [isHighSurrogate, Bool.and_eq_true, decide_eq_true_eq]
        omega
      have hlow : ¬ isLowSurrogate c.toNat = true := by
        rw [isLowSurrogate, Bool.and_eq_true, decide_eq_true_eq]
        omega
      rw [Json.escape, if_neg hquote, if_neg hslash, if_neg hn, if_neg hr, if_neg ht, if_neg hb,
        if_neg hf, if_pos hsmall]
      simp only [List.cons_append, List.nil_append, readString, hexValue?_control _ hsmall,
        if_neg hhigh, if_neg hlow, Char.ofNat_toNat]
      rfl
    · rw [Json.escape, if_neg hquote, if_neg hslash, if_neg hn, if_neg hr, if_neg ht, if_neg hb,
        if_neg hf, if_neg hsmall, List.singleton_append, readString]
      · rw [if_neg hsmall]
        rfl
      · exact hquote
      · exact fun _ _ _ _ _ h _ => hslash h
      · exact fun _ _ h _ => hslash h

theorem readString_escapes (cs rest : List Char) :
    readString none (cs.flatMap Json.escape ++ '"' :: rest) = .text cs rest := by
  induction cs with
  | nil => rfl
  | cons c cs ih =>
    rw [List.flatMap_cons, List.append_assoc, readString_escape, ih]
    rfl

/-! ## Values -/

/-- The first character of a value. -/
def Starts (c : Char) : Prop := isSpace c = false ∧ c ≠ ']'

theorem starts_of_isDigit {c : Char} (h : c.isDigit = true) : Starts c := by
  refine ⟨isSpace_of_isDigit h, ?_⟩
  rintro rfl
  exact absurd h (by decide)

theorem exists_starts_signed (negative : Bool) {cs : List Char}
    (h : ∃ c rest, cs = c :: rest ∧ c.isDigit = true) :
    ∃ c rest, (if negative then ['-'] else []) ++ cs = c :: rest ∧ Starts c := by
  obtain ⟨c, rest, rfl, hdigit⟩ := h
  cases negative with
  | true => exact ⟨'-', c :: rest, rfl, rfl, by decide⟩
  | false => exact ⟨c, rest, rfl, starts_of_isDigit hdigit⟩

/-- No text of a value starts with a blank or with the end of an array. -/
theorem chars_starts (v : Json) : ∃ c rest, v.chars = c :: rest ∧ Starts c := by
  cases v with
  | null => exact ⟨'n', _, rfl, rfl, by decide⟩
  | bool b => cases b <;> exact ⟨_, _, rfl, rfl, by decide⟩
  | num n =>
    cases n with
    | int n fits =>
      obtain ⟨c, rest, hds⟩ := List.exists_cons_of_ne_nil
        (Nat.toDigits_ne_nil (n := n.natAbs) (b := 10))
      have hc := Text.digits_toDigits n.natAbs c (hds ▸ List.mem_cons_self)
      have hstart := exists_starts_signed (decide (n < 0)) ⟨c, rest, hds, hc⟩
      simp only [decide_eq_true_eq] at hstart
      exact hstart
    | float x finite =>
      rw [Json.chars, chars_float finite]
      exact exists_starts_signed _ (head_writeDecimal _)
  | str s => exact ⟨'"', _, rfl, rfl, by decide⟩
  | arr items => exact ⟨'[', _, rfl, rfl, by decide⟩
  | obj members => exact ⟨'\x7b', _, rfl, rfl, by decide⟩

theorem itemChars_starts (v : Json) (items : List Json) :
    ∃ c rest, Json.itemChars (v :: items) = c :: rest ∧ Starts c := by
  obtain ⟨c, rest, hchars, hstart⟩ := chars_starts v
  cases items with
  | nil => exact ⟨c, rest, hchars, hstart⟩
  | cons w items =>
    rw [Json.itemChars, hchars]
    · exact ⟨c, _, rfl, hstart⟩
    · exact nofun

mutual

/-- A value is read from its text, whatever is around it. -/
theorem readValue_chars : (v : Json) → ∀ {fuel : Nat} (level : Nat) {rest : List Char},
    Follows rest → 2 * v.chars.length ≤ fuel →
    readValue fuel level (v.chars ++ rest) = (ofJsonAt level v, rest)
  -- A text has at least one character, and each gives two of fuel: a value and a list of them read
  -- one each before a character is gone.
  | v, 0, level, rest, _, hfuel => by
    obtain ⟨c, cs, hchars, -⟩ := chars_starts v
    rw [hchars, List.length_cons] at hfuel
    omega
  | .null, fuel + 1, level, rest, _, _ => by
    show readValue (fuel + 1) level ('n' :: 'u' :: 'l' :: 'l' :: rest) = _
    rw [readValue]
    rfl
  | .bool true, fuel + 1, level, rest, _, _ => by
    show readValue (fuel + 1) level ('t' :: 'r' :: 'u' :: 'e' :: rest) = _
    rw [readValue]
    rfl
  | .bool false, fuel + 1, level, rest, _, _ => by
    show readValue (fuel + 1) level ('f' :: 'a' :: 'l' :: 's' :: 'e' :: rest) = _
    rw [readValue]
    rfl
  | .num n, fuel + 1, level, rest, hrest, _ => readValue_number n hrest fuel level
  | .str s, fuel + 1, level, rest, _, _ => by
    have hread := readString_escapes s.toList rest
    rw [Json.chars, Json.quote, List.cons_append, List.append_assoc, List.singleton_append,
      readValue, skipSpace_cons rfl]
    simp only [hread, String.ofList_toList]
    rfl
  | .arr [], fuel + 1, level, rest, _, _ => by
    show readValue (fuel + 1) level ('[' :: ']' :: rest) = _
    rw [readValue]
    rfl
  | .arr (v :: items), fuel + 1, level, rest, _, hfuel => by
    obtain ⟨c, cs, hchars, hspace, hclose⟩ := itemChars_starts v items
    have hlength : 2 * (Json.itemChars (v :: items)).length + 1 ≤ fuel := by
      rw [Json.chars, List.length_cons, List.length_append] at hfuel
      omega
    have hread := readItems_chars (v :: items) nofun (level + 1) [] rest hlength
    rw [Json.chars, List.cons_append, List.append_assoc, List.singleton_append, readValue,
      skipSpace_cons rfl]
    rw [hchars, List.cons_append] at hread ⊢
    simp only [skipSpace_cons hspace]
    -- An array with items does not end where it begins: no item starts with the closing bracket.
    split
    · rename_i hbracket
      exact absurd (List.cons.inj hbracket).1 hclose
    · rw [hread]
      rfl
  | .obj [], fuel + 1, level, rest, _, _ => by
    show readValue (fuel + 1) level ('\x7b' :: '\x7d' :: rest) = _
    rw [readValue]
    rfl
  | .obj ((key, v) :: members), fuel + 1, level, rest, _, hfuel => by
    have hlength : 2 * (Json.memberChars ((key, v) :: members)).length + 1 ≤ fuel := by
      rw [Json.chars, List.length_cons, List.length_append] at hfuel
      omega
    have hread := readMembers_chars ((key, v) :: members) nofun (level + 1) [] rest hlength
    obtain ⟨cs, hchars⟩ : ∃ cs, Json.memberChars ((key, v) :: members) = '"' :: cs := by
      cases members with
      | nil => exact ⟨_, rfl⟩
      | cons m members => exact ⟨_, rfl⟩
    rw [Json.chars, List.cons_append, List.append_assoc, List.singleton_append, readValue,
      skipSpace_cons rfl]
    rw [hchars, List.cons_append] at hread ⊢
    simp only [skipSpace_cons (c := '"') rfl]
    split
    · rename_i hbrace
      exact absurd (List.cons.inj hbrace).1 (by decide)
    · rw [hread]
      rfl

/-- The items that are left are read up to the end of the array. -/
theorem readItems_chars : (items : List Json) → items ≠ [] → ∀ {fuel : Nat} (level : Nat)
    (before : List Draft) (rest : List Char), 2 * (Json.itemChars items).length + 1 ≤ fuel →
    readItems fuel level before (Json.itemChars items ++ ']' :: rest) =
      (makeArray level (before.reverse ++ ofItemsAt level items), rest)
  | [], hsome, _, _, _, _, _ => absurd rfl hsome
  | _, _, 0, _, _, _, hfuel => by omega
  | [v], _, fuel + 1, level, before, rest, hfuel => by
    rw [Json.itemChars] at hfuel ⊢
    have hread := readValue_chars v level (follows_cons (.inr (.inl rfl)) rest)
      (show 2 * v.chars.length ≤ fuel by omega)
    rw [readItems, hread]
    simp only [intact_ofJsonAt, if_true, skipSpace_cons (c := ']') rfl, List.reverse_cons]
    rfl
  | v :: w :: items, _, fuel + 1, level, before, rest, hfuel => by
    rw [Json.itemChars] at hfuel ⊢
    · obtain ⟨c, cs, hchars, hspace, hclose⟩ := itemChars_starts w items
      rw [List.length_append, List.length_cons] at hfuel
      have hread := readValue_chars v level
        (follows_cons (.inl rfl) (Json.itemChars (w :: items) ++ ']' :: rest))
        (show 2 * v.chars.length ≤ fuel by omega)
      have hrest := readItems_chars (w :: items) nofun level (ofJsonAt level v :: before) rest
        (show 2 * (Json.itemChars (w :: items)).length + 1 ≤ fuel by omega)
      rw [List.append_assoc, List.cons_append, readItems, hread]
      simp only [intact_ofJsonAt, if_true, skipSpace_cons (c := ',') rfl]
      rw [hchars, List.cons_append] at hrest ⊢
      simp only [skipSpace_cons hspace]
      split
      · rename_i hbracket
        exact absurd (List.cons.inj hbracket).1 hclose
      · rw [hrest, List.reverse_cons, List.append_assoc]
        rfl
    · exact nofun
    · exact nofun

/-- The members that are left are read up to the end of the object. -/
theorem readMembers_chars : (members : List (String × Json)) → members ≠ [] →
    ∀ {fuel : Nat} (level : Nat) (before : List (Option String × Draft)) (rest : List Char),
    2 * (Json.memberChars members).length + 1 ≤ fuel →
    readMembers fuel level before (Json.memberChars members ++ '\x7d' :: rest) =
      (makeObject level (before.reverse ++ ofMembersAt level members), rest)
  | [], hsome, _, _, _, _, _ => absurd rfl hsome
  | [(key, v)], _, fuel, level, before, rest, hfuel => by
    rw [Json.memberChars, Json.quote] at hfuel
    rw [List.length_append, List.length_cons, List.length_cons, List.length_append] at hfuel
    obtain ⟨fuel, rfl⟩ : ∃ n, fuel = n + 2 := ⟨fuel - 2, by omega⟩
    have hkey := readString_escapes key.toList (':' :: (v.chars ++ '\x7d' :: rest))
    have hread := readValue_chars v level (follows_cons (.inr (.inr rfl)) rest)
      (show 2 * v.chars.length ≤ fuel by omega)
    rw [Json.memberChars, Json.quote, List.cons_append, List.cons_append, List.append_assoc,
      List.append_assoc, List.singleton_append, List.cons_append, readMembers,
      skipSpace_cons rfl]
    simp only [hkey, String.ofList_toList, readMember, skipSpace_cons (c := ':') rfl, hread,
      intact_ofJsonAt, if_true, skipSpace_cons (c := '\x7d') rfl, List.reverse_cons]
    rfl
  | (key, v) :: (next, w) :: members, _, fuel, level, before, rest, hfuel => by
    rw [Json.memberChars, Json.quote] at hfuel
    · rw [List.length_append, List.length_cons, List.length_cons, List.length_append,
        List.length_append, List.length_cons, List.length_cons] at hfuel
      obtain ⟨fuel, rfl⟩ : ∃ n, fuel = n + 2 := ⟨fuel - 2, by omega⟩
      have hkey := readString_escapes key.toList
        (':' :: (v.chars ++ ',' :: (Json.memberChars ((next, w) :: members) ++ '\x7d' :: rest)))
      have hread := readValue_chars v level
        (follows_cons (.inl rfl) (Json.memberChars ((next, w) :: members) ++ '\x7d' :: rest))
        (show 2 * v.chars.length ≤ fuel by omega)
      have hrest := readMembers_chars ((next, w) :: members) nofun level
        ((some key, ofJsonAt level v) :: before) rest
        (show 2 * (Json.memberChars ((next, w) :: members)).length + 1 ≤ fuel by omega)
      rw [Json.memberChars, Json.quote]
      · rw [List.cons_append, List.cons_append, List.append_assoc, List.append_assoc,
          List.singleton_append, List.cons_append, List.append_assoc, List.cons_append, readMembers,
          skipSpace_cons rfl]
        simp only [hkey, String.ofList_toList, readMember, skipSpace_cons (c := ':') rfl, hread,
          intact_ofJsonAt, if_true, skipSpace_cons (c := ',') rfl, hrest, List.reverse_cons,
          List.append_assoc]
        rfl
      · exact nofun
    · exact nofun

end

/-- The draft of a text that was written, and nothing is left of the text. -/
theorem ofText_text (v : Json) : ofText v.text = (ofJsonAt 0 v, true) := by
  have hread := readValue_chars v 0 follows_nil
    (show 2 * v.chars.length ≤ 2 * v.chars.length + 2 by omega)
  rw [List.append_nil] at hread
  simp only [ofText, Json.text, String.toList_ofList, hread]
  rfl

/-! ## Nesting -/

mutual

/-- The draft of a text is that of the value, if nothing is nested too deep and every number is read
back. -/
theorem ofJsonAt_eq : (v : Json) → v.Exact → ∀ {level : Nat}, level + v.nesting ≤ maxNesting →
    ofJsonAt level v = ofJson v
  | .null, _, _, _ | .bool _, _, _, _ | .str _, _, _, _ => rfl
  | .num _, hexact, _, _ => hexact
  | .arr items, hexact, level, h => by
    rw [Json.nesting] at h
    rw [ofJsonAt, makeArray, if_pos (by omega), ofItemsAt_eq items hexact (by omega), ofJson]
  | .obj members, hexact, level, h => by
    rw [Json.nesting] at h
    rw [ofJsonAt, makeObject, if_pos (by omega),
      ofMembersAt_eq_ofMembers members hexact (by omega), ofJson]

theorem ofItemsAt_eq : (items : List Json) → Json.ItemsExact items → ∀ {level : Nat},
    level + Json.itemsNesting items ≤ maxNesting → ofItemsAt level items = ofItems items
  | [], _, _, _ => rfl
  | v :: rest, hexact, level, h => by
    rw [Json.itemsNesting] at h
    rw [ofItemsAt, ofItems, ofJsonAt_eq v hexact.1 (by omega),
      ofItemsAt_eq rest hexact.2 (by omega)]

theorem ofMembersAt_eq_ofMembers : (members : List (String × Json)) → Json.MembersExact members →
    ∀ {level : Nat}, level + Json.membersNesting members ≤ maxNesting →
      ofMembersAt level members = ofMembers members
  | [], _, _, _ => rfl
  | (key, v) :: rest, hexact, level, h => by
    rw [Json.membersNesting] at h
    rw [ofMembersAt, ofMembers, ofJsonAt_eq v hexact.1 (by omega),
      ofMembersAt_eq_ofMembers rest hexact.2 (by omega)]

end

mutual

/-- A value with something inside that is nested too deep cannot be used. -/
theorem value?_ofJsonAt : (v : Json) → ∀ {level : Nat}, level ≤ maxNesting →
    maxNesting < level + v.nesting → (ofJsonAt level v).value? = none
  | .null, _, hlevel, h | .bool _, _, hlevel, h | .num _, _, hlevel, h | .str _, _, hlevel, h => by
    rw [Json.nesting] at h
    · omega
    · exact nofun
    · exact nofun
  | .arr items, level, _, h => by
    rw [Json.nesting] at h
    rw [ofJsonAt, makeArray]
    split
    · rename_i hlevel
      rw [value?, itemValues?_ofItemsAt items hlevel (by omega)]
      rfl
    · rfl
  | .obj members, level, _, h => by
    rw [Json.nesting] at h
    rw [ofJsonAt, makeObject]
    split
    · rename_i hlevel
      rw [value?, memberValues?_ofMembersAt members hlevel (by omega)]
      rfl
    · rfl

theorem itemValues?_ofItemsAt : (items : List Json) → ∀ {level : Nat}, level ≤ maxNesting →
    maxNesting < level + Json.itemsNesting items → itemValues? (ofItemsAt level items) = none
  | [], level, hlevel, h => by
    rw [Json.itemsNesting] at h
    omega
  | v :: rest, level, hlevel, h => by
    rw [Json.itemsNesting] at h
    rw [ofItemsAt, itemValues?]
    by_cases hfirst : maxNesting < level + v.nesting
    · rw [value?_ofJsonAt v hlevel hfirst]
      rfl
    · rw [itemValues?_ofItemsAt rest hlevel (by omega)]
      cases (ofJsonAt level v).value? <;> rfl

theorem memberValues?_ofMembersAt : (members : List (String × Json)) → ∀ {level : Nat},
    level ≤ maxNesting → maxNesting < level + Json.membersNesting members →
    memberValues? (ofMembersAt level members) = none
  | [], level, hlevel, h => by
    rw [Json.membersNesting] at h
    omega
  | (key, v) :: rest, level, hlevel, h => by
    rw [Json.membersNesting] at h
    rw [ofMembersAt, memberValues?]
    by_cases hfirst : maxNesting < level + v.nesting
    · rw [value?_ofJsonAt v hlevel hfirst]
      rfl
    · rw [memberValues?_ofMembersAt rest hlevel (by omega)]
      cases (ofJsonAt level v).value? <;> rfl

end

end Draft

/-- A value in order is read back from its text if it is not nested too deep and every number inside
is read back. -/
theorem Json.ofText?_text {v : Json} (h : v.Ordered) (hexact : v.Exact)
    (hnesting : v.nesting ≤ Draft.maxNesting) : Json.ofText? v.text = some v := by
  simp only [ofText?, Draft.ofText_text, if_true]
  rw [Draft.ofJsonAt_eq v hexact (by omega), Draft.value?_ofJson v h]

/-- The text of a value that is nested too deep stands for none. -/
theorem Json.ofText?_text_deep {v : Json} (h : Draft.maxNesting < v.nesting) :
    Json.ofText? v.text = none := by
  simp only [ofText?, Draft.ofText_text, if_true]
  exact Draft.value?_ofJsonAt v (Nat.zero_le _) (by omega)

/-- The number that is written as `51.248178375505404` is read back as the next greater one. -/
example : (Draft.ofNumber (.float ⟨false, 0x40499FC44F1B2F60, by decide⟩ (by decide))).value? =
    some (.num (.float ⟨false, 0x40499FC44F1B2F61, by decide⟩ (by decide))) := by
  decide +kernel

/-- A structure is read from a text that was written as from the draft of the value. -/
theorem Record.ofText_text {α : Type} (r : Record Draft α) (v : Json) :
    r.ofText v.text = (r.ofDraft (Draft.ofJsonAt 0 v)).mapError ShapeError.ofText := by
  simp only [ofText, Draft.ofText_text, if_true]
  cases r.ofDraft (Draft.ofJsonAt 0 v) <;> rfl

end LiveForm
