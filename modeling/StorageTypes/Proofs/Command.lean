import StorageTypes.Generation.Request
import StorageTypes.Proofs.Batches
import StorageTypes.Proofs.Checks
import StorageTypes.Proofs.Files
import StorageTypes.Proofs.Printing
import StorageTypes.Proofs.Readings

namespace StorageTypes

open Json (Value)

namespace Cli

open Terminal (Markup)

theorem readObject_text (path text : String) : readObject path (.ok text)
    = match Json.readAll Json.nestingLimit (plainBreaks text.toList) with
      | .error fault => .error (.json (Json.ReadError.ofFault (plainBreaks text.toList) fault))
      | .ok (.obj entries) => .ok (.obj entries)
      | .ok other => .error (.notObject path other.typeName) := by
  simp only [readObject, Json.read, Json.readWithin, String.toList_ofList]
  cases Json.readAll Json.nestingLimit (plainBreaks text.toList) with
  | error fault => rfl
  | ok value => cases value <;> rfl

section

variable [ImportPath.Host] {request : GenerateRequest} {invocation : Invocation}
  {registry : Registry} {overrides : Dictionary String} {resolver : Option ImportPath.Resolver}
  {disk : Disk} {path source target : String} {generated : Generated}

namespace GenerateRequest

def arguments (request : GenerateRequest) (registry : Registry)
    (overrides : Dictionary String) : Value :=
  let collections := if request.collections.isEmpty then registry.names else request.collections
  .obj [("collections", .arr (collections.map .str)),
    ("auto_pk_type", .str request.strategy.name),
    ("field_type_map", .obj (Dictionary.mapValues .str overrides)),
    ("generate_import", .null),
    ("skip_types", .arr (request.skipped.map .str)),
    ("optional_pk", .bool (!request.fixedKey))]

end GenerateRequest

variable [Markup]

namespace Invocation

end Invocation

end

def noteDisk : Disk := ⟨[("schema.json", "\x7b\"note\": \x7b\x7d\x7d")]⟩

def noteRegistry : Registry :=
  ⟨[("note", { name := "note", key := .single "id", fields := [("id", ⟨"auto-pk", false⟩)] })], true⟩

end Cli

end StorageTypes
