namespace StorageTypes.ImportPath

/-- A step to a member, to the item at a place, or to the item under a key. -/
inductive Access where
  | member (name : String)
  | place (index : Nat)
  | key (name : String)
  deriving DecidableEq, Repr

/-- The texts that conversions ask for: the plain one, and those in quotes with all characters or only
those of ASCII. -/
inductive Form where
  | plain
  | quoted
  | ascii
  deriving DecidableEq, Repr

structure HostFault where
  sort : String
  message : String
  deriving DecidableEq, Repr

/-- What a placeholder can reach: a text, or another thing of the host. -/
inductive Aspect (Thing : Type) where
  | text (content : List Char)
  | thing (itself : Thing)

/-- What templates take from the system that runs them: members of texts, the things reached through
them, and the greatest width for which there is room. -/
class Host where
  Thing : Type
  member : List Char → String → Except HostFault (Aspect Thing)
  access : Thing → Access → Except HostFault (Aspect Thing)
  shown : Form → Thing → Except HostFault (List Char)
  laidOut : Thing → List Char → Except HostFault (List Char)
  room : Nat

@[reducible] def Host.bare : Host where
  Thing := Empty
  member _ name := .error ⟨"member", "'str' object has no attribute '" ++ name ++ "'"⟩
  access := nofun
  shown _ := nofun
  laidOut := nofun
  room := 10000000

end StorageTypes.ImportPath
