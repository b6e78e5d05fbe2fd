import Outline.Config.Draft

namespace Outline

theorem Path.text?_ofText (text : String) : (ofText text).text? = some text := by
  rw [ofText, text?, Text.textOf?, Text.bytesOf, Array.toArray_toList]
  exact dif_pos text.isValidUTF8

namespace Draft

variable {draft : Draft} {config : Config}

theorem validate_eq_withPaths (draft : Draft) (directory : String) (file : Option String) :
    draft.validate = (draft.withPaths directory file).validate := rfl

theorem validate_of_config? (text : draft.config? = some config) :
    draft.validate = config.validate := by
  unfold config? at text
  split at text
  · cases text
    exact validate_eq_withPaths _ _ _
  · cases text
    exact validate_eq_withPaths _ _ _
  · cases text

end Draft

namespace Config

@[simp]
theorem config?_draft (c : Config) : c.draft.config? = some c := by
  obtain ⟨version, analysis, ⟨directory, format, callGraph⟩, ⟨level, file⟩⟩ := c
  cases file <;> simp [draft, Draft.config?, Draft.withPaths, Path.text?_ofText]

@[simp]
theorem validate_draft (c : Config) : c.draft.validate = c.validate :=
  Draft.validate_of_config? c.config?_draft

end Config

end Outline
