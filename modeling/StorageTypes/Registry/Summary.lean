import StorageTypes.Registry.Basic

namespace StorageTypes

open Json (Value)

namespace Collection

/-- The summary of a collection, with its reverse aliases in the order of their code points. -/
def summary (collection : Collection) : Value :=
  .obj [("pk_index", collection.key.toValue),
    ("fields", .obj (Dictionary.mapValues (·.toValue) collection.fields)),
    ("relationships", .arr (collection.relationships.map (·.toValue))),
    ("reverse_relationships",
      .arr (((Dictionary.names collection.reverse).mergeSort (· ≤ ·)).map .str))]

end Collection

def Registry.summary (registry : Registry) : Value :=
  .obj [("collections", .obj (Dictionary.mapValues (·.summary) registry.collections)),
    ("total_collections", .int registry.collections.length)]

def Registry.reverseAliases (registry : Registry) : Dictionary (List String) :=
  Dictionary.mapValues (fun collection => Dictionary.names collection.reverse) registry.collections

end StorageTypes
