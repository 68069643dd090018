/-!
# Texts inside texts

`contains` finds a text inside another, and `pieces` cuts one at every occurrence of a character. A
text without it is a single piece, so there is always one (`pieces_ne_nil`).
-/

namespace LiveForm.Text

/-- Whether characters stand somewhere among others, all together. -/
def occursIn (needle : List Char) : List Char → Bool
  | [] => needle.isEmpty
  | c :: rest => needle.isPrefixOf (c :: rest) || occursIn needle rest

/-- Whether a text contains another. -/
def contains (text needle : String) : Bool := occursIn needle.toList text.toList

/-- The runs of characters between a separating one. -/
def cut (separator : Char) : List Char → List (List Char)
  | [] => [[]]
  | c :: rest =>
    if c = separator then [] :: cut separator rest
    else
      match cut separator rest with
      | [] => [[c]]
      | piece :: others => (c :: piece) :: others

/-- The texts between a separating character. -/
def pieces (separator : Char) (s : String) : List String :=
  (cut separator s.toList).map String.ofList

theorem pieces_ne_nil (separator : Char) (s : String) : pieces separator s ≠ [] := by
  have cut_ne_nil : ∀ cs, cut separator cs ≠ [] := by
    intro cs
    cases cs with
    | nil => simp [cut]
    | cons c rest =>
      unfold cut
      split
      · simp
      · split <;> simp
  simpa [pieces] using cut_ne_nil s.toList

end LiveForm.Text
