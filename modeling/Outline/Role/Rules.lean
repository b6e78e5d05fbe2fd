import Outline.Inventory.Basic
import Outline.PathText
import Outline.Text.Lower

namespace Outline.Role

open Outline.Text

/-- What the rules look at, in lower case. -/
structure Facts where
  name : List Char
  stem : List Char
  dirs : List (List Char)
  baseTypes : List (List Char)
deriving Repr, DecidableEq

def dirsOf (path : List Char) : List (List Char) :=
  (((lower (PathText.normalize path)).splitOn '/').filter (· ≠ [])).dropLast

def Facts.of (path relativePath fileName : List Char) (baseTypes : List (List Char)) : Facts where
  name := lower fileName
  stem := lower (PathText.fileStem fileName)
  dirs := dirsOf (if relativePath.isEmpty then path else relativePath)
  baseTypes := baseTypes.map lower

def Facts.ofInventory (inventory : Inventory) : Facts :=
  Facts.of inventory.path.toList inventory.relativePath.toList inventory.fileName.toList
    (inventory.types.filterMap fun t => t.baseType.map String.toList)

inductive Sign where
  | nameStarts (text : String)
  | nameHolds (text : String)
  | stemIs (text : String)
  | stemEnds (text : String)
  | inDir (text : String)
deriving Repr, DecidableEq

def Sign.fits (facts : Facts) : Sign → Bool
  | .nameStarts text => text.toList.isPrefixOf facts.name
  | .nameHolds text => holds text.toList facts.name
  | .stemIs text => facts.stem == text.toList
  | .stemEnds text => text.toList.isSuffixOf facts.stem
  | .inDir text => facts.dirs.any (· == text.toList)

structure Rule where
  name : String
  role : Role
  signs : List Sign
deriving Repr, DecidableEq

def Rule.fits (facts : Facts) (rule : Rule) : Bool := rule.signs.any (·.fits facts)

def rules : List Rule :=
  [ { name := "test-file"
      role := .test
      signs := [.nameStarts "test_", .stemEnds "_test", .stemIs "tests", .stemIs "conftest",
        .inDir "tests", .inDir "test"] },
    { name := "view-layer"
      role := .view
      signs := [.nameHolds "view", .inDir "views"] },
    { name := "model-layer"
      role := .model
      signs := [.nameHolds "model", .inDir "models"] },
    { name := "serializer-or-form"
      role := .model
      signs := [.stemIs "serializer", .stemIs "serializers", .stemIs "form", .stemIs "forms",
        .stemIs "schema", .stemIs "schemas", .stemEnds "_serializer", .stemEnds "_serializers",
        .stemEnds "_form", .stemEnds "_forms", .stemEnds "_schema", .stemEnds "_schemas"] },
    { name := "routing-or-admin"
      role := .controller
      signs := [.stemIs "urls", .stemIs "routes", .stemIs "routing", .stemIs "admin",
        .nameHolds "controller"] },
    { name := "service-layer"
      role := .service
      signs := [.nameHolds "service", .inDir "services"] },
    { name := "repository-layer"
      role := .repository
      signs := [.nameHolds "repositor", .stemEnds "_repo", .inDir "repositories",
        .inDir "repository"] },
    { name := "config-entry-point"
      role := .config
      signs := [.stemIs "settings", .stemIs "config", .stemIs "configuration", .stemIs "conf",
        .stemIs "wsgi", .stemIs "asgi", .stemIs "manage", .stemIs "apps", .stemIs "setup"] } ]

def baseHints : List (String × Role) := [("view", .view), ("model", .model), ("test", .test)]

def ofBase? (base : List Char) : Option Role :=
  (baseHints.find? fun (hint, _) => holds hint.toList base).map (·.2)

def ofFacts (facts : Facts) : Role :=
  match rules.find? (·.fits facts) with
  | some rule => rule.role
  | none => (facts.baseTypes.findSome? ofBase?).getD .unknown

def ofInventory (inventory : Inventory) : Role := ofFacts (Facts.ofInventory inventory)

end Outline.Role
