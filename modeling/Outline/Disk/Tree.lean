import Outline.Disk.Path

namespace Outline

/-- The names that lead from the root to a place. -/
abbrev Location := List Name

def Location.above : Location → List Location
  | [] => []
  | name :: rest => (Location.above rest).map (name :: ·) ++ [[]]

def Location.nameIn? (location directory : Location) : Option Name :=
  if location.dropLast = directory then location.getLast? else none

theorem Location.nameIn?_eq_some_iff {directory location : Location} {name : Name} :
    location.nameIn? directory = some name ↔ location = directory ++ [name] := by
  unfold nameIn?
  constructor
  · intro named
    split at named
    · rename_i above
      obtain ⟨front, rfl⟩ := List.getLast?_eq_some_iff.mp named
      rw [← above, List.dropLast_concat]
    · cases named
  · rintro rfl
    rw [if_pos List.dropLast_concat, List.getLast?_concat]

inductive Entry where
  | directory
  | file (content : ByteArray)

def Entry.same : Entry → Entry → Bool
  | .directory, .directory => true
  | .file a, .file b => a.data == b.data
  | _, _ => false

/-- Files and directories by place, each place once. The root is always a directory. -/
structure FileTree where
  entries : List (Location × Entry)
  distinct : (entries.map (·.1)).Nodup

namespace FileTree

def empty : FileTree := ⟨[], .nil⟩

def find? (tree : FileTree) (location : Location) : Option Entry :=
  if location = [] then some .directory
  else (tree.entries.find? (·.1 = location)).map (·.2)

def children (tree : FileTree) (directory : Location) : List (Name × Entry) :=
  tree.entries.filterMap fun (location, entry) => (location.nameIn? directory).map (·, entry)

def depth (tree : FileTree) : Nat := (tree.entries.map (·.1.length)).foldr max 0

theorem erased_distinct {entries : List (Location × Entry)}
    (distinct : (entries.map (·.1)).Nodup) (location : Location) :
    ((entries.filter (·.1 ≠ location)).map (·.1)).Nodup :=
  distinct.sublist (List.filter_sublist.map _)

def put (tree : FileTree) (location : Location) (entry : Entry) : FileTree where
  entries := tree.entries.filter (·.1 ≠ location) ++ [(location, entry)]
  distinct := by
    rw [List.map_append, List.nodup_append]
    refine ⟨erased_distinct tree.distinct location, by simp, ?_⟩
    simp only [List.mem_map, List.mem_filter]
    rintro _ ⟨e, ⟨_, other⟩, rfl⟩ _ here
    simp_all

theorem find?_put_of_ne (tree : FileTree) (location : Location) (entry : Entry) {other : Location}
    (elsewhere : other ≠ location) : (tree.put location entry).find? other = tree.find? other := by
  have kept : (tree.entries.filter (·.1 ≠ location)).find? (·.1 = other) =
      tree.entries.find? (·.1 = other) := by
    rw [List.find?_filter]
    congr 1
    funext e
    by_cases here : e.1 = other
    · simp [here, elsewhere]
    · simp [here]
  have new : [(location, entry)].find? (·.1 = other) = none := by
    simp [Ne.symm elsewhere]
  unfold find? put
  simp only [List.find?_append, kept, new, Option.or_none]

theorem find?_put_self (tree : FileTree) {location : Location} (entry : Entry)
    (below : location ≠ []) : (tree.put location entry).find? location = some entry := by
  have gone : (tree.entries.filter (·.1 ≠ location)).find? (·.1 = location) = none := by
    simp
  have new : [(location, entry)].find? (·.1 = location) = some (location, entry) := by
    simp
  unfold find? put
  simp only [below, if_false, List.find?_append, gone, new, Option.none_or, Option.map_some]

end FileTree

end Outline
