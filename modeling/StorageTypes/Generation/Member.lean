import StorageTypes.Log
import StorageTypes.Generation.Options
import StorageTypes.Generation.TypeMap
import StorageTypes.Text.Uppercase

namespace StorageTypes

def keyParameter : String := "WithPk"

def forwardParameter : String := "Relationships"

def reverseParameter : String := "ReverseRelationships"

/-- The primary key, behind its parameter if `optional`. -/
structure KeyMember where
  field : String
  type : String
  optional : Bool
  deriving DecidableEq, Repr

def KeyMember.text (member : KeyMember) : String :=
  let segment := "\x7b " ++ member.field ++ " : " ++ member.type ++ " \x7d"
  if member.optional then
    "( " ++ keyParameter ++ " extends true ? " ++ segment ++ " : \x7b\x7d )"
  else segment

def KeyMember.ofCollection (collection : Collection) (options : Options) :
    Except SchemaError KeyMember :=
  match TypeMap.keyField collection with
  | .error e => .error e
  | .ok field =>
    (TypeMap.keyType options.overrides options.strategy collection).map fun type =>
      ⟨field, type, options.optionalKey⟩

structure FieldMember where
  name : String
  optional : Bool
  type : String
  deriving DecidableEq, Repr

def FieldMember.text (member : FieldMember) : String :=
  member.name ++ (if member.optional then "?" else "") ++ " : " ++ member.type

/-- Fields that have no line of their own: those that a relationship covers, the primary key, and the
kinds that are to be skipped. -/
def leavesOut (collection : Collection) (options : Options) (name : String) (field : Field) : Bool :=
  field.kind == FieldKind.foreignKey || collection.key == .single name
    || options.skipped.contains field.kind

def FieldMember.ofField (collection : Collection) (options : Options) (name : String)
    (field : Field) : Except SchemaError (Option FieldMember) :=
  if leavesOut collection options name field then .ok none
  else
    (TypeMap.fieldType options.overrides options.strategy collection.name name field.kind).map
      fun type => some ⟨name, field.optional, type⟩

def FieldMember.ofFields (collection : Collection) (options : Options) :
    Dictionary Field → Except SchemaError (List FieldMember)
  | [] => .ok []
  | (name, field) :: rest =>
    match FieldMember.ofField collection options name field with
    | .error e => .error e
    | .ok member =>
      (FieldMember.ofFields collection options rest).map fun members =>
        member.toList ++ members

/-- A relationship that the collection declares: the type of the target when its alias is selected,
the key of the target otherwise. -/
structure ForwardMember where
  forwardAlias : String
  target : String
  keyType : String
  deriving DecidableEq, Repr

def ForwardMember.text (member : ForwardMember) : String :=
  member.forwardAlias ++ " : '" ++ member.forwardAlias ++ "' extends " ++ forwardParameter ++ " ? "
    ++ Text.upperFirst member.target ++ " : " ++ member.keyType

/-- A relationship that another collection declares, shown when its alias is selected. -/
structure ReverseMember where
  reverseAlias : String
  source : String
  single : Bool
  deriving DecidableEq, Repr

def ReverseMember.text (member : ReverseMember) : String :=
  "( '" ++ member.reverseAlias ++ "' extends " ++ reverseParameter ++ " ? \x7b "
    ++ member.reverseAlias ++ " : " ++ Text.upperFirst member.source
    ++ (if member.single then " | null" else "[]") ++ " \x7d : \x7b\x7d )"

abbrev KeyTypes := String → Except SchemaError String

/-- The types to use where nothing is known of other collections: all keys are generated ones. -/
def generatedKeyTypes (options : Options) : KeyTypes := fun _ =>
  .ok (TypeMap.generatedKeyType options.overrides options.strategy)

def forwardWarning (collection : String) : String :=
  "Warning: 'connects' relationships are not supported yet, skipping one in collection "
    ++ collection

def reverseWarning (collection : String) (junction : Connects) : String :=
  "Warning: 'connects' reverse relationships are not supported yet, skipping one in collection "
    ++ collection ++ " (" ++ junction.left ++ " <-> " ++ junction.right ++ ")"

/-- The member for a relationship that the collection declares; one between two collections has none
and leaves a warning. -/
def ForwardMember.ofRelationship (collection : String) (keyTypes : KeyTypes) :
    Relationship → Logged SchemaError (Option ForwardMember)
  | .childOf link =>
    .ofExcept ((keyTypes link.target).map fun type => some ⟨link.forwardAlias, link.target, type⟩)
  | .connects _ => ⟨[⟨.warning, forwardWarning collection⟩], .ok none⟩

def ReverseMember.ofRelationship (collection reverseAlias : String) :
    Relationship → Logged SchemaError (Option ReverseMember)
  | .childOf link => .pure (some ⟨reverseAlias, link.source, link.single⟩)
  | .connects junction => ⟨[⟨.warning, reverseWarning collection junction⟩], .ok none⟩

def membersOf {α β : Type} (member : α → Logged SchemaError (Option β)) :
    List α → Logged SchemaError (List β)
  | [] => .pure []
  | entry :: rest =>
    (member entry).bind fun found => (membersOf member rest).map (found.toList ++ ·)

end StorageTypes
