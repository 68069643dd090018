import LiveForm.Proofs.Definition.Text
import LiveForm.Store.Sample

/-!
# The text of the sample form

The sample form is what its text is read as (`ofText_sampleForm`). The characters of the text are
taken part by part, as they stand in it: a part has a few hundred of them, the whole some thousands.
The definition that is read has the same value as the sample form, and a definition is read back from
its value, so the two are one.
-/

namespace LiveForm

namespace FormDefinition

variable {d e : FormDefinition}

/-- Definitions that were read are told apart by the values that they are written as. -/
theorem Parsed.eq_of_toJson (hd : d.Parsed) (he : e.Parsed) (h : d.toJson = e.toJson) : d = e := by
  have hread := ofDraft_toJson hd.canonical
  rw [h, ofDraft_toJson he.canonical] at hread
  exact (Except.ok.inj hread).symm

end FormDefinition

namespace SampleForm

/-- Texts that are given by their characters, the first of them apart. -/
theorem eq_map_ofList {cs : List Char} {texts : List String} {rest : List (List Char)}
    (h : texts = rest.map String.ofList) :
    String.ofList cs :: texts = (cs :: rest).map String.ofList := by
  rw [h, List.map_cons]

/-- What is read of some characters, if nothing but blanks is left of them. -/
def readAll (cs : List Char) : Option FormDefinition :=
  let (d, rest) := Draft.readValue (2 * cs.length + 2) 0 cs
  if (Draft.skipSpace rest).isEmpty then (FormDefinition.record.ofDraft d).toOption else none

/-- The characters of the parts, one after the other, are read as the value of the sample form. -/
theorem exists_chars : ∃ css : List (List Char), parts = css.map String.ofList ∧
    (readAll css.flatten).map FormDefinition.toJson = some sampleForm.toJson := by
  apply Exists.intro
  apply And.intro
  · repeat apply eq_map_ofList
    exact List.map_nil.symm
  · decide +kernel

theorem ofText_of_readAll {cs : List Char} {d : FormDefinition} (h : readAll cs = some d) :
    FormDefinition.ofText (String.ofList cs) = .ok d := by
  simp only [readAll, Option.ite_none_right_eq_some] at h
  obtain ⟨hended, hread⟩ := h
  simp only [FormDefinition.ofText, Record.ofText, Draft.ofText, String.toList_ofList]
  cases hdraft : FormDefinition.record.ofDraft (Draft.readValue (2 * cs.length + 2) 0 cs).1 with
  | error e =>
    rw [hdraft] at hread
    cases hread
  | ok other =>
    rw [hdraft] at hread
    rw [← Option.some.inj hread]
    exact if_pos hended

end SampleForm

theorem parsed_sampleForm : sampleForm.Parsed := .inr ⟨sampleForm.toJson, rfl⟩

/-- The sample form is read from its text. -/
theorem ofText_sampleForm : FormDefinition.ofText SampleForm.text = .ok sampleForm := by
  obtain ⟨css, hparts, hread⟩ := SampleForm.exists_chars
  obtain ⟨d, hd, hsame⟩ := Option.map_eq_some_iff.mp hread
  have htext : SampleForm.text = String.ofList css.flatten := by
    rw [SampleForm.text, hparts, List.flatMap_map, List.flatMap_def]
    simp only [String.toList_ofList, List.map_id']
  have hofText := SampleForm.ofText_of_readAll hd
  have hparsed : d.Parsed := .inl ⟨_, hofText⟩
  rw [htext, hofText, hparsed.eq_of_toJson parsed_sampleForm hsame]

end LiveForm
