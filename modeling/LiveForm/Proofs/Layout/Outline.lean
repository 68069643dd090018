import LiveForm.Layout.Outline
import LiveForm.Proofs.Json.Access
import LiveForm.Proofs.Json.Token
import LiveForm.Proofs.Layout.Completeness

/-!
# One line for each node

An outline is meant to have a line for each node of a view, and one more below that of a field which
has an error (`ViewNode.ownLines`). Every line has an end, so that an outline has as many lines as
line breaks (`Text.breaks`). Texts are written as they are: names, labels, error messages, and the
texts inside values (`ViewNode.written`). Whatever line breaks they have are lines too many, and
nothing else is: `ViewNode.outline_line_per_node`.
-/

namespace LiveForm

namespace Text

/-! ## Lines -/

/-- The number of line breaks in a text. -/
def breaks (s : String) : ℕ := s.toList.count '\n'

@[simp] theorem breaks_append (s t : String) : breaks (s ++ t) = breaks s + breaks t := by
  rw [breaks, String.toList_append, List.count_append, ← breaks, ← breaks]

theorem breaks_eq_zero_iff {s : String} : breaks s = 0 ↔ '\n' ∉ s.toList :=
  List.count_eq_zero

theorem breaks_indentation (level : ℕ) : breaks (indentation level) = 0 := by
  rw [breaks_eq_zero_iff, indentation, String.toList_ofList]
  intro h
  exact absurd (List.eq_of_mem_replicate h) (by decide)

/-- There is a piece more than there are separating characters. -/
theorem length_pieces (separator : Char) (s : String) :
    (pieces separator s).length = s.toList.count separator + 1 := by
  rw [pieces, List.length_map]
  induction s.toList with
  | nil => rfl
  | cons c rest ih =>
    rw [cut, List.count_cons]
    by_cases hc : c = separator
    · rw [if_pos hc, if_pos (beq_iff_eq.mpr hc), List.length_cons, ih]
    · rw [if_neg hc, if_neg (fun h => hc (beq_iff_eq.mp h)), Nat.add_zero, ← ih]
      cases hrest : cut separator rest with
      | nil => rw [hrest] at ih; cases ih
      | cons piece others => rfl

/-- The text of lines that all have an end. -/
def ofLines (lines : List String) : String := String.join (lines.map fun line => line ++ "\n")

theorem ofLines_cons (line : String) (rest : List String) :
    ofLines (line :: rest) = line ++ String.singleton '\n' ++ ofLines rest := by
  apply String.toList_inj.mp
  simp [ofLines]

/-- The lines of a text whose lines all have an end, and nothing after the last end. -/
theorem pieces_ofLines (lines : List String) :
    pieces '\n' (ofLines lines) = lines.flatMap (pieces '\n') ++ [""] := by
  induction lines with
  | nil => rfl
  | cons line rest ih =>
    rw [ofLines_cons, pieces_append, ih, List.flatMap_cons, List.append_assoc]

theorem breaks_ofLines (lines : List String) :
    breaks (ofLines lines) = lines.length + (lines.map breaks).sum := by
  induction lines with
  | nil => rfl
  | cons line rest ih =>
    have hend : breaks (String.singleton '\n') = 1 := rfl
    rw [ofLines_cons, breaks_append, breaks_append, ih, hend, List.length_cons, List.map_cons,
      List.sum_cons]
    omega

/-- The lines of a text are those that it was made of exactly if none of these has a line break. -/
theorem pieces_ofLines_iff (lines : List String) :
    pieces '\n' (ofLines lines) = lines ++ [""] ↔ (lines.map breaks).sum = 0 := by
  constructor
  · intro h
    have hlength := congrArg List.length h
    rw [length_pieces, ← breaks, breaks_ofLines, List.length_append, List.length_singleton]
      at hlength
    omega
  · intro h
    have hone : ∀ line ∈ lines, pieces '\n' line = [line] := by
      intro line hline
      apply pieces_of_not_mem
      apply breaks_eq_zero_iff.mp
      exact List.sum_eq_zero_iff.mp h _ (List.mem_map_of_mem hline)
    rw [pieces_ofLines, List.flatMap_congr hone, List.flatMap_singleton']

end Text

open Text (breaks breaks_append breaks_eq_zero_iff)

/-! ## Texts inside values -/

/-- Digits have no line break. -/
theorem Text.Digits.not_newline {cs : List Char} (h : Text.Digits cs) : '\n' ∉ cs :=
  fun hmem => absurd (h _ hmem) (by decide)

/-- A number as people read it has no line break. -/
theorem NumberStyle.newline_not_mem_plain (x : Binary64) : '\n' ∉ NumberStyle.plain.write x := by
  have hdecimal (d : Decimal) : '\n' ∉ NumberStyle.plain.writeDecimal d := by
    have hdigits := (Text.digits_toDigits d.digits).not_newline
    have htake (n : ℕ) : '\n' ∉ (Nat.toDigits 10 d.digits).take n :=
      fun h => hdigits (List.mem_of_mem_take h)
    have hdrop (n : ℕ) : '\n' ∉ (Nat.toDigits 10 d.digits).drop n :=
      fun h => hdigits (List.mem_of_mem_drop h)
    have hzeros (n : ℕ) := (Text.digits_zeros n).not_newline
    have hplain : NumberStyle.plain.writeDecimal d =
        NumberStyle.plain.writePositional (Nat.toDigits 10 d.digits) d.exponent := rfl
    rw [hplain, writePositional]
    split
    · simp [plain, hdigits, hzeros]
    · split
      · simp [htake, hdrop]
      · simp [hdigits, hzeros]
  rw [write]
  split
  · decide
  · rw [List.mem_append, not_or]
    constructor
    · split <;> simp
    · split
      · decide
      · exact hdecimal _

theorem Number.breaks_plainText (n : Number) : breaks n.plainText = 0 := by
  rw [breaks_eq_zero_iff]
  have hnatural (m : ℕ) : '\n' ∉ (Nat.repr m).toList := by
    rw [Nat.repr, String.toList_ofList]
    exact (Text.digits_toDigits m).not_newline
  cases n with
  | float x finite =>
    rw [plainText, Binary64.plainText, String.toList_ofList]
    exact NumberStyle.newline_not_mem_plain x
  | int n fits =>
    cases n with
    | ofNat m => exact hnatural m
    | negSucc m =>
      have hsigned : (toString (Int.negSucc m)).toList = '-' :: (Nat.repr (m + 1)).toList := by
        change ("-" ++ Nat.repr (m + 1)).toList = _
        rw [String.toList_append]
        rfl
      rw [plainText, hsigned, List.mem_cons, not_or]
      exact ⟨by decide, hnatural (m + 1)⟩

namespace Json

mutual

/-- The texts inside a value that show in its text. -/
def shownTexts : Json → List String
  | .str s => [s]
  | .arr items => shownItems items
  | _ => []

/-- The texts inside items that show in their texts. -/
def shownItems : List Json → List String
  | [] => []
  | v :: rest => v.shownTexts ++ shownItems rest

end

theorem breaks_intercalate (texts : List String) :
    breaks (String.intercalate "," texts) = (texts.map breaks).sum := by
  induction texts with
  | nil => rfl
  | cons text rest ih =>
    cases rest with
    | nil => simp
    | cons next others =>
      have hcomma : breaks "," = 0 := rfl
      rw [String.intercalate_cons_cons, breaks_append, breaks_append, ih, hcomma, Nat.add_zero]
      exact List.sum_cons.symm

mutual

/-- The line breaks of the text of a value are those of the texts inside. -/
theorem breaks_display : (v : Json) → breaks v.display = (v.shownTexts.map breaks).sum
  | .null | .bool true | .bool false => rfl
  | .num n => n.breaks_plainText
  | .str s => (Nat.add_zero (breaks s)).symm
  | .arr items => by
    rw [display, shownTexts, breaks_intercalate, breaks_displayItems items]
  | .obj members => by
    simp only [display, shownTexts]
    rfl

theorem breaks_displayItems : (items : List Json) →
    ((displayItems items).map breaks).sum = ((shownItems items).map breaks).sum
  | [] => by rw [displayItems, shownItems]
  | v :: rest => by
    have hfirst := breaks_display v
    have hrest := breaks_displayItems rest
    cases v with
    | null => simpa [displayItems, shownItems, shownTexts, breaks] using hrest
    | _ => simp [displayItems, shownItems, hfirst, hrest]

end

end Json

/-! ## Nodes -/

namespace Diagnostic

/-- The name that a diagnostic is about. -/
def subject : Diagnostic → String
  | unknownField fieldId => fieldId
  | unknownFieldType _ typeName => typeName
  | unknownComponent component => component

theorem breaks_message (diagnostic : Diagnostic) :
    breaks diagnostic.message = breaks diagnostic.subject := by
  cases diagnostic with
  | unknownField fieldId =>
    have hbefore : breaks "Field with ID " = 0 := rfl
    have hbehind : breaks " not found" = 0 := rfl
    change breaks ("Field with ID " ++ fieldId ++ " not found") = breaks fieldId
    rw [breaks_append, breaks_append, hbefore, hbehind, Nat.zero_add, Nat.add_zero]
  | unknownFieldType fieldId typeName =>
    have hbefore : breaks "Unknown field type: " = 0 := rfl
    change breaks ("Unknown field type: " ++ typeName) = breaks typeName
    rw [breaks_append, hbefore, Nat.zero_add]
  | unknownComponent component =>
    have hbefore : breaks "Unknown layout component: " = 0 := rfl
    change breaks ("Unknown layout component: " ++ component) = breaks component
    rw [breaks_append, hbefore, Nat.zero_add]

end Diagnostic

/-- What is written behind the names of a container. -/
def caption (text : Option String) : String :=
  match text with
  | some text => if text = "" then "" else " " ++ text
  | none => ""

theorem containerLine_eq (level : ℕ) (nodeId element : String) (text : Option String) :
    containerLine level nodeId element text =
      indentation level ++ ("<" ++ element ++ " #" ++ nodeId ++ ">" ++ caption text) := by
  unfold containerLine caption
  cases text with
  | none => simp [String.append_assoc]
  | some text =>
    by_cases hempty : text = ""
    · simp [hempty, String.append_assoc]
    · simp only [if_neg hempty, String.append_assoc]

theorem breaks_caption (text : Option String) :
    breaks (caption text) = (text.toList.map breaks).sum := by
  have hblank : breaks " " = 0 := rfl
  unfold caption
  split
  · split <;> simp_all
  · rfl

namespace ViewNode

variable (state : FormState)

/-- What the line of a node says behind its indentation. -/
def heading : ViewNode → String
  | .field _ shown _ =>
    shown.label ++ (if shown.isRequired then " *" else "") ++ " [" ++ shown.kind.name ++ "]: " ++
      ((state.value? shown.name).map Json.display).getD ""
  | .container nodeId element _ text _ =>
    "<" ++ element ++ " #" ++ nodeId ++ ">" ++ caption text
  | .placeholder _ diagnostic => "?? " ++ diagnostic.message

/-- The error of the field that a node shows. -/
def fieldError? : ViewNode → Option String
  | .field _ shown _ => state.error? shown.name
  | _ => none

/-- The lines for a node at a level, without those for the nodes inside: its own, indented by two
blanks for each level, and that of its error, indented by two more. -/
def ownLines (entry : ℕ × ViewNode) : List String :=
  (indentation entry.1 ++ entry.2.heading state) ::
    ((entry.2.fieldError? state).map fun error =>
      indentation (entry.1 + 1) ++ "! " ++ error).toList

/-- The texts that are written into the lines for a node. -/
def written : ViewNode → List String
  | .field _ shown _ =>
    [shown.label, shown.kind.name] ++
      ((state.value? shown.name).map Json.shownTexts).getD [] ++ (state.error? shown.name).toList
  | .container nodeId element _ text _ => [nodeId, element] ++ text.toList
  | .placeholder _ diagnostic => [diagnostic.subject]

mutual

/-- The lines of a view are those of its nodes, each before those inside it. -/
theorem lines_eq (level : ℕ) :
    (node : ViewNode) → node.lines state level = (node.levels level).flatMap (ownLines state)
  | .field nodeId shown widget => by
    rw [lines, levels_field, List.flatMap_singleton, ownLines, fieldLines, heading, fieldError?]
    cases state.error? shown.name <;> simp [String.append_assoc]
  | .container nodeId element attributes text children => by
    rw [lines, levels, List.flatMap_cons, linesAll_eq (level + 1) children, containerLine_eq]
    rfl
  | .placeholder nodeId diagnostic => by
    rw [lines, levels_placeholder, List.flatMap_singleton]
    simp [ownLines, heading, fieldError?, String.append_assoc]

theorem linesAll_eq (level : ℕ) : (nodes : List ViewNode) →
    linesAll state level nodes = (levelsAll level nodes).flatMap (ownLines state)
  | [] => by rw [linesAll, levelsAll, List.flatMap_nil]
  | node :: rest => by
    rw [linesAll, levelsAll, List.flatMap_append, lines_eq level node, linesAll_eq level rest]

end

/-- The line breaks in the lines for a node are those of the texts that are written into them. -/
theorem sum_breaks_ownLines (entry : ℕ × ViewNode) :
    ((ownLines state entry).map breaks).sum = ((entry.2.written state).map breaks).sum := by
  obtain ⟨level, node⟩ := entry
  have hindent := Text.breaks_indentation
  cases node with
  | field nodeId shown widget =>
    have hmarker : breaks (if shown.isRequired then " *" else "") = 0 := by split <;> decide
    have hopen : breaks " [" = 0 := rfl
    have hclose : breaks "]: " = 0 := rfl
    have hmark : breaks "! " = 0 := rfl
    have hvalue : breaks (((state.value? shown.name).map Json.display).getD "") =
        ((((state.value? shown.name).map Json.shownTexts).getD []).map breaks).sum := by
      cases state.value? shown.name with
      | none => rfl
      | some v => exact v.breaks_display
    cases herror : state.error? shown.name <;>
      simp [ownLines, heading, fieldError?, written, herror, hindent, hmarker, hopen, hclose, hmark,
        hvalue] <;> omega
  | container nodeId element attributes text children =>
    have hopen : breaks "<" = 0 := rfl
    have hname : breaks " #" = 0 := rfl
    have hclose : breaks ">" = 0 := rfl
    simp [ownLines, heading, fieldError?, written, hindent, hopen, hname, hclose, breaks_caption]
    omega
  | placeholder nodeId diagnostic =>
    have hmark : breaks "?? " = 0 := rfl
    simp [ownLines, heading, fieldError?, written, hindent, hmark, diagnostic.breaks_message]

theorem length_ownLines (entries : List (ℕ × ViewNode)) :
    (entries.flatMap (ownLines state)).length =
      entries.length + ((entries.map Prod.snd).filterMap (fieldError? state)).length := by
  induction entries with
  | nil => rfl
  | cons entry rest ih =>
    rw [List.flatMap_cons, List.length_append, ih, ownLines, List.map_cons, List.filterMap_cons]
    cases entry.2.fieldError? state with
    | none =>
      simp only [Option.map_none, Option.toList_none, List.length_cons, List.length_nil]
      omega
    | some error =>
      simp only [Option.map_some, Option.toList_some, List.length_cons, List.length_nil]
      omega

theorem sum_breaks_written (entries : List (ℕ × ViewNode)) :
    ((entries.flatMap (ownLines state)).map breaks).sum =
      (((entries.map Prod.snd).flatMap (written state)).map breaks).sum := by
  induction entries with
  | nil => rfl
  | cons entry rest ih =>
    rw [List.flatMap_cons, List.map_append, List.sum_append, ih, sum_breaks_ownLines,
      List.map_cons, List.flatMap_cons, List.map_append, List.sum_append]

/-- The lines of an outline are those for the nodes of the view, each before those inside it: for
each node one that is indented by its level, and for a field with an error one more below it, each
cut where it has a line break of its own. So there are as many lines as nodes and errors of fields,
and in addition as many as there are line breaks in the texts that are written. There is exactly one
line for each node and for each error if and only if no text that is written has a line break. -/
theorem outline_line_per_node (node : ViewNode) (state : FormState) :
    let texts := node.preorder.flatMap (written state)
    let errors := node.preorder.filterMap (fieldError? state)
    Text.pieces '\n' (node.outline state) =
      ((node.levels 0).flatMap (ownLines state)).flatMap (Text.pieces '\n') ++ [""] ∧
    breaks (node.outline state) =
      node.preorder.length + errors.length + (texts.map breaks).sum ∧
    (Text.pieces '\n' (node.outline state) = (node.levels 0).flatMap (ownLines state) ++ [""] ↔
      ∀ text ∈ texts, '\n' ∉ text.toList) ∧
    (breaks (node.outline state) = node.preorder.length + errors.length ↔
      ∀ text ∈ texts, '\n' ∉ text.toList) := by
  intro texts errors
  have houtline : node.outline state = Text.ofLines ((node.levels 0).flatMap (ownLines state)) := by
    rw [outline, lines_eq, Text.ofLines]
  have hsum := sum_breaks_written state (node.levels 0)
  have hlength := length_ownLines state (node.levels 0)
  have hnodes : (node.levels 0).length = node.preorder.length := by
    rw [← map_snd_levels 0, List.length_map]
  rw [map_snd_levels] at hsum hlength
  have hcount : breaks (node.outline state) =
      node.preorder.length + errors.length + (texts.map breaks).sum := by
    rw [houtline, Text.breaks_ofLines, hlength, hsum, hnodes]
  have hunbroken : (texts.map breaks).sum = 0 ↔ ∀ text ∈ texts, '\n' ∉ text.toList := by
    rw [List.sum_eq_zero_iff, List.forall_mem_map]
    simp only [breaks_eq_zero_iff]
  refine ⟨?_, hcount, ?_, ?_⟩
  · rw [houtline, Text.pieces_ofLines]
  · rw [houtline, Text.pieces_ofLines_iff, hsum]
    exact hunbroken
  · rw [hcount, Nat.add_eq_left]
    exact hunbroken

/-- A box with a required field for notes, and a slot for a field that is not declared. -/
def notesView : ViewNode :=
  .container "box" "form" [] none
    [.field "slot" { FieldDefinition.ofKind "note" .textarea with
        label := "Note", constraints := some { required := some true } } (.textArea 4),
      .placeholder "gap" (.unknownField "ghost")]

/-- A note with a text, and an error. -/
def noteState (note : String) : FormState :=
  { FormState.ofData [("note", .str note)] with errors := [("note", "Too short")] }

/-- A note in one line leaves one line for each node and one for the error. -/
theorem outline_line_per_node_notesView :
    (∀ text ∈ notesView.preorder.flatMap (written (noteState "first")), '\n' ∉ text.toList) ∧
      Text.pieces '\n' (notesView.outline (noteState "first")) =
        ["<form #box>", "  Note * [textarea]: first", "    ! Too short",
          "  ?? Field with ID ghost not found", ""] ∧
      breaks (notesView.outline (noteState "first")) = 3 + 1 := by
  have hunbroken : ∀ text ∈ notesView.preorder.flatMap (written (noteState "first")),
      '\n' ∉ text.toList := by decide
  obtain ⟨-, -, hlines, hcount⟩ := outline_line_per_node notesView (noteState "first")
  exact ⟨hunbroken, (hlines.mpr hunbroken).trans rfl, hcount.mpr hunbroken⟩

/-- A note in two lines has two lines of the outline, and the second one is not indented. -/
theorem outline_breaks_note :
    notesView.preorder.length = 3 ∧
      notesView.preorder.filterMap (fieldError? (noteState "first\nsecond")) = ["Too short"] ∧
      Text.pieces '\n' (notesView.outline (noteState "first\nsecond")) =
        ["<form #box>", "  Note * [textarea]: first", "second", "    ! Too short",
          "  ?? Field with ID ghost not found", ""] := by
  decide

end ViewNode

end LiveForm
