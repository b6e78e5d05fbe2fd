import Outline.Toml.Overlay
import Outline.Toml.Reader

namespace Outline.Toml

def Value.KeysDistinct : Value → Prop
  | .table fields => (fields.map (·.1)).Nodup
  | _ => True

/-- No table under construction has a key twice, and the values in them satisfy `holds`. -/
inductive Node.Distinct (holds : Value → Prop) : Node → Prop
  | leaf {value : Value} (fits : holds value) : Distinct holds (.leaf value)
  | table {origin : Origin} {fields : List (String × Node)} (keys : (fields.map (·.1)).Nodup)
      (nodes : ∀ field ∈ fields, Distinct holds field.2) : Distinct holds (.table origin fields)
  | tables (items : List (List (String × Node))) : Distinct holds (.tables items)

structure Fields.Distinct (holds : Value → Prop) (fields : List (String × Node)) : Prop where
  keys : (fields.map (·.1)).Nodup
  nodes : ∀ field ∈ fields, field.2.Distinct holds

section Construction

variable {holds : Value → Prop} {fields after : List (String × Node)} {key : String} {node : Node}

theorem Fields.Distinct.nil : Fields.Distinct holds [] := ⟨List.nodup_nil, by simp⟩

theorem Fields.Distinct.concat (distinct : Fields.Distinct holds fields)
    (absent : Fields.find? fields key = none) (fits : node.Distinct holds) :
    Fields.Distinct holds (fields ++ [(key, node)]) where
  keys := by
    have fresh : key ∉ fields.map (·.1) := by
      intro member
      obtain ⟨field, listed, rfl⟩ := List.mem_map.mp member
      have missing := List.find?_eq_none.mp (Option.map_eq_none_iff.mp absent) field listed
      simp at missing
    rw [List.map_append, List.nodup_append]
    refine ⟨distinct.keys, by simp, ?_⟩
    intro name listed other single
    rw [List.map_singleton, List.mem_singleton] at single
    subst single
    exact ne_of_mem_of_not_mem listed fresh
  nodes := by
    intro field member
    rcases List.mem_append.mp member with old | new
    · exact distinct.nodes field old
    · rw [List.mem_singleton.mp new]
      exact fits

theorem Fields.Distinct.replace (distinct : Fields.Distinct holds fields)
    (fits : node.Distinct holds) : Fields.Distinct holds (Fields.replace fields key node) where
  keys := by
    have same : (fun field : String × Node => field.1) ∘
        (fun (k, n) => if k == key then (k, node) else (k, n)) = fun field => field.1 := by
      funext ⟨k, n⟩
      dsimp only [Function.comp_apply]
      split <;> rfl
    rw [Fields.replace, List.map_map, same]
    exact distinct.keys
  nodes := by
    intro field member
    obtain ⟨⟨k, n⟩, listed, rfl⟩ := List.mem_map.mp member
    dsimp only
    split
    · exact fits
    · exact distinct.nodes _ listed

theorem Fields.Distinct.of_find? (distinct : Fields.Distinct holds fields)
    (found : Fields.find? fields key = some node) : node.Distinct holds := by
  obtain ⟨field, at?, rfl⟩ := Option.map_eq_some_iff.mp found
  exact distinct.nodes field (List.mem_of_find?_eq_some at?)

theorem Fields.Distinct.update {dotted : Bool} {change : Origin → Fields → Option Fields}
    (kept : ∀ origin inner changed, Fields.Distinct holds inner →
      change origin inner = some changed → Fields.Distinct holds changed)
    {path : List String} {origin : Origin} (distinct : Fields.Distinct holds fields)
    (done : Fields.update dotted change path origin fields = some after) :
    Fields.Distinct holds after := by
  induction path generalizing origin fields after with
  | nil => exact kept origin fields after distinct done
  | cons key path ih =>
    rw [Fields.update] at done
    cases found : Fields.find? fields key with
    | none =>
      rw [found] at done
      obtain ⟨inner, made, rfl⟩ := Option.map_eq_some_iff.mp done
      obtain ⟨keys, nodes⟩ := ih .nil made
      exact distinct.concat found (.table keys nodes)
    | some node =>
      rw [found] at done
      cases node with
      | leaf value => cases done
      | table origin below =>
        dsimp only at done
        split at done
        · cases done
        · obtain ⟨inner, made, rfl⟩ := Option.map_eq_some_iff.mp done
          have fits : Fields.Distinct holds below := by
            cases distinct.of_find? found with
            | table keys nodes => exact ⟨keys, nodes⟩
          obtain ⟨keys, nodes⟩ := ih fits made
          exact distinct.replace (.table keys nodes)
      | tables items =>
        dsimp only at done
        split at done
        · cases done
        · obtain ⟨inner, -, rfl⟩ := Option.map_eq_some_iff.mp done
          exact distinct.replace (.tables _)

theorem Fields.Distinct.set {path : List String} {value : Value}
    (distinct : Fields.Distinct holds fields) (fits : holds value)
    (done : Fields.set path key value fields = some after) : Fields.Distinct holds after := by
  refine distinct.update ?_ done
  intro origin inner changed below made
  split at made
  · cases made
  · split at made
    · cases made
    · rename_i absent
      cases made
      exact below.concat absent (.leaf fits)

theorem Fields.Distinct.openTable {path : List String} (distinct : Fields.Distinct holds fields)
    (done : Fields.openTable path key fields = some after) : Fields.Distinct holds after := by
  refine distinct.update ?_ done
  intro origin inner changed below made
  split at made
  · rename_i absent
    cases made
    exact below.concat absent (.table List.nodup_nil (by simp))
  · rename_i found
    cases made
    cases below.of_find? found with
    | table keys nodes => exact below.replace (.table keys nodes)
  · cases made

theorem Fields.Distinct.addTable {path : List String} (distinct : Fields.Distinct holds fields)
    (done : Fields.addTable path key fields = some after) : Fields.Distinct holds after := by
  refine distinct.update ?_ done
  intro origin inner changed below made
  split at made
  · rename_i absent
    cases made
    exact below.concat absent (.tables _)
  · cases made
    exact below.replace (.tables _)
  · cases made

end Construction

theorem map_fst_fieldValues (fields : List (String × Node)) :
    (fieldValues fields).map (·.1) = fields.map (·.1) := by
  induction fields with
  | nil => rfl
  | cons field fields ih => rw [fieldValues, List.map_cons, List.map_cons, ih]

theorem of_mem_fieldValues {fields : List (String × Node)} {field : String × Value}
    (member : field ∈ fieldValues fields) : ∃ source ∈ fields, field.2 = source.2.toValue := by
  induction fields with
  | nil => cases member
  | cons source fields ih =>
    rw [fieldValues] at member
    rcases List.mem_cons.mp member with rfl | later
    · exact ⟨source, by simp, rfl⟩
    · obtain ⟨other, listed, same⟩ := ih later
      exact ⟨other, by simp [listed], same⟩

theorem Node.Distinct.toValue {node : Node} (distinct : node.Distinct Value.KeysDistinct) :
    node.toValue.KeysDistinct := by
  cases distinct with
  | leaf fits => exact fits
  | table keys nodes =>
    rw [Node.toValue, Value.KeysDistinct, map_fst_fieldValues]
    exact keys
  | tables items => trivial

theorem foldlM_keeps {α β : Type} (keeps : β → Prop) {step : β → α → Option β} {items : List α}
    (each : ∀ item ∈ items, ∀ b c, keeps b → step b item = some c → keeps c) {start result : β}
    (begins : keeps start) (done : items.foldlM step start = some result) : keeps result := by
  induction items generalizing start with
  | nil =>
    cases done
    exact begins
  | cons item items ih =>
    obtain ⟨here, later⟩ := List.forall_mem_cons.mp each
    rw [List.foldlM_cons] at done
    obtain ⟨next, first, rest⟩ := Option.bind_eq_some_iff.mp done
    exact ih later (here start next begins first) rest

theorem tableOfEntries?_distinct {entries : List Entry} {value : Value}
    (made : tableOfEntries? entries = some value) : value.KeysDistinct := by
  obtain ⟨fields, built, rfl⟩ := Option.map_eq_some_iff.mp made
  have distinct : Fields.Distinct (fun _ => True) fields := by
    refine foldlM_keeps (Fields.Distinct fun _ => True) ?_ .nil built
    rintro ⟨path, key, value⟩ - before after fits done
    exact fits.set trivial done
  rw [Value.KeysDistinct, map_fst_fieldValues]
  exact distinct.keys

theorem tokenValue?_distinct {token : List Char} {value : Value}
    (known : tokenValue? token = some value) : value.KeysDistinct := by
  unfold tokenValue? at known
  split at known
  · cases known
    trivial
  · split at known
    · cases known
      trivial
    · split at known
      · cases known
        trivial
      · split at known
        · cases known
          trivial
        · split at known
          · cases known
            trivial
          · cases known

theorem readValue_distinct {fuel depth : Nat} {s rest : List Char} {value : Value}
    (read : readValue fuel depth s = some (value, rest)) : value.KeysDistinct := by
  cases fuel with
  | zero =>
    unfold readValue at read
    cases read
  | succ fuel =>
    unfold readValue at read
    split at read
    · split at read
      · cases read
      · obtain ⟨parts, -, same⟩ := Option.map_eq_some_iff.mp read
        cases same
        trivial
    · split at read
      · cases read
      · split at read
        · cases read
          exact List.nodup_nil
        · split at read
          · cases read
          · obtain ⟨made, built, same⟩ := Option.map_eq_some_iff.mp read
            cases same
            exact tableOfEntries?_distinct built
    · obtain ⟨parts, -, same⟩ := Option.map_eq_some_iff.mp read
      cases same
      trivial
    · obtain ⟨parts, -, same⟩ := Option.map_eq_some_iff.mp read
      cases same
      trivial
    · obtain ⟨token, known, same⟩ := Option.map_eq_some_iff.mp read
      cases same
      exact tokenValue?_distinct known

def Statement.KeysDistinct : Statement → Prop
  | .entry _ _ value => value.KeysDistinct
  | _ => True

theorem readStatement_distinct {s rest : List Char} {statement : Statement}
    (read : readStatement s = some (statement, rest)) : statement.KeysDistinct := by
  unfold readStatement at read
  dsimp only at read
  split at read
  · split at read
    · obtain ⟨rest, -, same⟩ := Option.map_eq_some_iff.mp read
      cases same
      trivial
    · cases read
  · split at read
    · obtain ⟨rest, -, same⟩ := Option.map_eq_some_iff.mp read
      cases same
      trivial
    · cases read
  · split at read
    · split at read
      · rename_i found
        obtain ⟨rest, -, same⟩ := Option.map_eq_some_iff.mp read
        cases same
        exact readValue_distinct found
      · cases read
    · cases read

theorem readStatements_distinct {fuel : Nat} {held statements : List Statement} {s : List Char}
    (before : ∀ statement ∈ held, statement.KeysDistinct)
    (read : readStatements fuel held s = some statements) :
    ∀ statement ∈ statements, statement.KeysDistinct := by
  induction fuel generalizing held s with
  | zero => cases read
  | succ fuel ih =>
    rw [readStatements] at read
    split at read
    · cases read
    · cases read
      intro statement member
      exact before statement (List.mem_reverse.mp member)
    · split at read
      · cases read
      · rename_i found
        refine ih ?_ read
        intro statement member
        rcases List.mem_cons.mp member with rfl | earlier
        · exact readStatement_distinct found
        · exact before statement earlier

theorem Building.step_distinct {b after : Building} {statement : Statement}
    (fits : statement.KeysDistinct) (distinct : Fields.Distinct Value.KeysDistinct b.fields)
    (done : b.step statement = some after) : Fields.Distinct Value.KeysDistinct after.fields := by
  cases statement with
  | entry path key value =>
    obtain ⟨fields, made, rfl⟩ := Option.map_eq_some_iff.mp done
    refine distinct.update ?_ made
    intro origin inner changed below set
    exact below.set fits set
  | header path key =>
    obtain ⟨fields, made, rfl⟩ := Option.map_eq_some_iff.mp done
    exact distinct.openTable made
  | listHeader path key =>
    obtain ⟨fields, made, rfl⟩ := Option.map_eq_some_iff.mp done
    exact distinct.addTable made

/-- Neither a table nor the tables that it holds directly have a key twice. -/
structure KeysDistinct (fields : List (String × Value)) : Prop where
  keys : (fields.map (·.1)).Nodup
  values : ∀ field ∈ fields, field.2.KeysDistinct

theorem KeysDistinct.nil : KeysDistinct [] := ⟨List.nodup_nil, by simp⟩

theorem KeysDistinct.singleton {key : String} {value : Value} (fits : value.KeysDistinct) :
    KeysDistinct [(key, value)] :=
  ⟨by simp, by simpa using fits⟩

theorem KeysDistinct.of_lookup {fields inner : List (String × Value)} {key : String}
    (distinct : KeysDistinct fields) (found : lookup fields key = some (.table inner)) :
    (inner.map (·.1)).Nodup := by
  obtain ⟨field, at?, same⟩ := Option.map_eq_some_iff.mp found
  have fits := distinct.values field (List.mem_of_find?_eq_some at?)
  rw [same] at fits
  exact fits

theorem parse?_distinct {text : List Char} {fields : List (String × Value)}
    (parsed : parse? text = some fields) : KeysDistinct fields := by
  obtain ⟨statements, read, built⟩ := Option.bind_eq_some_iff.mp parsed
  obtain ⟨b, folded, rfl⟩ := Option.map_eq_some_iff.mp built
  have fits := readStatements_distinct (by simp) read
  have distinct : Fields.Distinct Value.KeysDistinct b.fields := by
    refine foldlM_keeps (fun b => Fields.Distinct Value.KeysDistinct b.fields) ?_ .nil folded
    intro statement member before after kept done
    exact Building.step_distinct (fits statement member) kept done
  refine ⟨by rw [map_fst_fieldValues]; exact distinct.keys, ?_⟩
  intro field member
  obtain ⟨source, listed, same⟩ := of_mem_fieldValues member
  rw [same]
  exact (distinct.nodes source listed).toValue

end Outline.Toml
