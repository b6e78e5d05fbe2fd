import Outline.Config.Load

namespace Outline

theorem bind_eq_ok {ε α β : Type} {first : Except ε α} {next : α → Except ε β} {b : β}
    (done : first >>= next = .ok b) : ∃ a, first = .ok a ∧ next a = .ok b := by
  cases first with
  | error e => cases done
  | ok a => exact ⟨a, rfl, done⟩

namespace Config

def userLayer (disk : Disk) (env : Environment) : Except Error (List (String × Toml.Value)) :=
  match userPath? env with
  | some path => optionalLayer disk path
  | none => .ok []

theorem load_eq (disk : Disk) (env : Environment) (workspace : Path) :
    load disk env workspace =
      userLayer disk env >>= fun user =>
        optionalLayer disk (projectPath workspace) >>= fun project =>
          ofLayers [user, project, Variable.layer env.bindings] := by
  unfold load userLayer
  cases userPath? env <;> rfl

theorem validate_of_ofLayers {layers : List (List (String × Toml.Value))} {config : Config}
    (given : ofLayers layers = .ok config) : config.validate = .ok () := by
  unfold ofLayers at given
  cases read : ofTable? (layers.foldl Toml.overlayFields []) with
  | none =>
    rw [read] at given
    cases given
  | some found =>
    rw [read] at given
    dsimp only at given
    cases checked : found.validate with
    | error e =>
      rw [checked] at given
      cases given
    | ok =>
      rw [checked] at given
      cases given
      exact checked

theorem validate_of_load {disk : Disk} {env : Environment} {workspace : Path} {config : Config}
    (loaded : load disk env workspace = .ok config) : config.validate = .ok () := by
  rw [load_eq] at loaded
  obtain ⟨user, -, loaded⟩ := bind_eq_ok loaded
  obtain ⟨project, -, loaded⟩ := bind_eq_ok loaded
  exact validate_of_ofLayers loaded

end Config

end Outline
