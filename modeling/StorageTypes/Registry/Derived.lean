import StorageTypes.Registry.Basic

namespace StorageTypes

def backlinksOf (collections : List Collection) : List Backlink :=
  collections.flatMap (·.backlinks)

def shownBy (backlinks : List Backlink) (name : String) : Dictionary Relationship :=
  (backlinks.filter (·.target = name)).map fun backlink =>
    (backlink.reverseAlias, backlink.relationship)

/-- The reverse relationships that follow for a name, in the order in which they are declared. -/
def reverseOf (collections : List Collection) (name : String) : Dictionary Relationship :=
  shownBy (backlinksOf collections) name

/-- Relationships of which every one can be shown: no alias comes twice on the collection that
declares it, every target exists, and no reverse alias comes twice on a target. -/
structure Linkable (collections : Dictionary Collection) : Prop where
  forward : ∀ collection ∈ Dictionary.values collections, collection.forwardAliases.Nodup
  targets : ∀ backlink ∈ backlinksOf (Dictionary.values collections),
    backlink.target ∈ Dictionary.names collections
  reverse : ∀ name ∈ Dictionary.names collections,
    (Dictionary.names (reverseOf (Dictionary.values collections) name)).Nodup

end StorageTypes
