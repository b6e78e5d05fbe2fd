import Outline.Inventory.Basic
import Outline.Json.Basic

namespace Outline

def Member.fieldNames : List String :=
  ["name", "kind", "return_type", "async", "static", "visibility", "decorators", "parameters",
    "signature", "start_line", "end_line", "docstring"]

def Member.toJson (m : Member) : Json :=
  .obj (fieldNames.zip
    [.str m.name, .str m.kind.label, .str m.returnType, .bool m.isAsync, .bool m.isStatic,
      .str m.visibility.label, .ofStrings m.decorators, .ofStrings m.parameters,
      .str m.signature, .nat m.startLine, .nat m.endLine, .ofOption .str m.docstring])

def Member.ofJson? (value : Json) : Option Member :=
  match value.record? fieldNames with
  | some [name, kind, returnType, isAsync, isStatic, visibility, decorators, parameters,
      signature, startLine, endLine, docstring] => do
    return {
      name := ← Json.required? Json.text? name
      kind := ← Json.required? (Json.named? MemberKind.all MemberKind.label) kind
      returnType := ← Json.required? Json.text? returnType
      isAsync := ← Json.required? Json.flag? isAsync
      isStatic := ← Json.required? Json.flag? isStatic
      visibility := ← Json.required? (Json.named? Visibility.all Visibility.label) visibility
      decorators := ← Json.required? (Json.list? Json.text?) decorators
      parameters := ← Json.required? (Json.list? Json.text?) parameters
      signature := ← Json.required? Json.text? signature
      startLine := ← Json.required? Json.word? startLine
      endLine := ← Json.required? Json.word? endLine
      docstring := ← Json.nullable? Json.text? docstring }
  | _ => none

def Container.fieldNames : List String :=
  ["name", "full_name", "kind", "base_type", "interfaces", "start_line", "end_line", "docstring",
    "members"]

def Container.toJson (t : Container) : Json :=
  .obj (fieldNames.zip
    [.str t.name, .str t.fullName, .str t.kind.label, .ofOption .str t.baseType,
      .ofStrings t.interfaces, .nat t.startLine, .nat t.endLine, .ofOption .str t.docstring,
      .arr (t.members.map Member.toJson)])

def Container.ofJson? (value : Json) : Option Container :=
  match value.record? fieldNames with
  | some [name, fullName, kind, baseType, interfaces, startLine, endLine, docstring, members] => do
    return {
      name := ← Json.required? Json.text? name
      fullName := ← Json.required? Json.text? fullName
      kind := ← Json.required? (Json.named? ContainerKind.all ContainerKind.label) kind
      baseType := ← Json.nullable? Json.text? baseType
      interfaces := ← Json.required? (Json.list? Json.text?) interfaces
      startLine := ← Json.required? Json.word? startLine
      endLine := ← Json.required? Json.word? endLine
      docstring := ← Json.nullable? Json.text? docstring
      members := ← Json.required? (Json.list? Member.ofJson?) members }
  | _ => none

def CallSite.fieldNames : List String :=
  ["file_path", "caller_type", "caller_member", "called_type", "called_member", "line"]

def CallSite.toJson (c : CallSite) : Json :=
  .obj (fieldNames.zip
    [.str c.filePath, .str c.callerType, .str c.callerMember, .str c.calledType,
      .str c.calledMember, .nat c.line])

def CallSite.ofJson? (value : Json) : Option CallSite :=
  match value.record? fieldNames with
  | some [filePath, callerType, callerMember, calledType, calledMember, line] => do
    return {
      filePath := ← Json.required? Json.text? filePath
      callerType := ← Json.required? Json.text? callerType
      callerMember := ← Json.required? Json.text? callerMember
      calledType := ← Json.required? Json.text? calledType
      calledMember := ← Json.required? Json.text? calledMember
      line := ← Json.required? Json.word? line }
  | _ => none

def Inventory.fieldNames : List String :=
  ["path", "relative_path", "file_name", "size_bytes", "token_estimate", "types", "imports",
    "dependencies", "classification"]

def Inventory.toJson (i : Inventory) : Json :=
  .obj (fieldNames.zip
    [.str i.path, .str i.relativePath, .str i.fileName, .nat i.sizeBytes, .nat i.tokenEstimate,
      .arr (i.types.map Container.toJson), .ofStrings i.imports, .ofStrings i.dependencies,
      .str i.role.label])

def Inventory.ofJson? (value : Json) : Option Inventory :=
  match value.record? fieldNames with
  | some [path, relativePath, fileName, sizeBytes, tokenEstimate, types, imports, dependencies,
      role] => do
    return {
      path := ← Json.required? Json.text? path
      relativePath := ← Json.required? Json.text? relativePath
      fileName := ← Json.required? Json.text? fileName
      sizeBytes := ← Json.required? Json.word? sizeBytes
      tokenEstimate := ← Json.required? Json.word? tokenEstimate
      types := ← Json.required? (Json.list? Container.ofJson?) types
      imports := ← Json.required? (Json.list? Json.text?) imports
      dependencies := ← Json.required? (Json.list? Json.text?) dependencies
      role := ← Json.required? (Json.named? Role.all Role.label) role }
  | _ => none

end Outline
