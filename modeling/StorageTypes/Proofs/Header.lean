import StorageTypes.Proofs.Members

namespace StorageTypes

/-- A type parameter: its name, the members of the union that bounds it, and its default. -/
structure TypeParameter where
  name : String
  bound : List String
  default : String
  deriving DecidableEq, Repr

def TypeParameter.text (parameter : TypeParameter) : String :=
  parameter.name ++ " extends " ++ Text.join " | " parameter.bound ++ " = " ++ parameter.default

def parameterClause (parameters : List TypeParameter) : String :=
  if parameters.isEmpty then ""
  else "<" ++ Text.join ", " (parameters.map (·.text)) ++ ">"

def quotedAlias (name : String) : String :=
  "'" ++ name ++ "'"

def keyTypeParameter : TypeParameter :=
  ⟨keyParameter, ["boolean"], "true"⟩

def selection (name : String) (aliases : List String) : TypeParameter :=
  ⟨name, aliases.map quotedAlias ++ [noneSelected], noneSelected⟩

def Declaration.declared (declaration : Declaration) : List TypeParameter :=
  (if declaration.key.optional then [keyTypeParameter] else [])
    ++ if declaration.hasRelationships then
        selection forwardParameter (declaration.forward.map (·.forwardAlias))
          :: if declaration.reverse.isEmpty then []
            else [selection reverseParameter (declaration.reverse.map (·.reverseAlias))]
      else []

variable {collection : Collection} {options : Options} {keyTypes : KeyTypes}
  {declaration : Declaration} {parameter : TypeParameter}

theorem selection_text (name : String) (aliases : List String) :
    (selection name aliases).text
      = name ++ " extends " ++ aliasUnion aliases ++ " = " ++ noneSelected := rfl

theorem keyTypeParameter_text :
    keyTypeParameter.text = keyParameter ++ " extends boolean = true" := by
  simp [keyTypeParameter, TypeParameter.text, Text.join, Text.glue, keyParameter]

theorem parameters_eq_clause (declaration : Declaration) :
    declaration.parameters = parameterClause declaration.declared := by
  have hlist : parameterList declaration.key.optional declaration.hasRelationships
        (declaration.forward.map (·.forwardAlias)) (declaration.reverse.map (·.reverseAlias))
      = declaration.declared.map (·.text) := by
    simp only [parameterList, Declaration.declared, List.isEmpty_map]
    cases declaration.key.optional <;> cases declaration.hasRelationships <;>
      cases declaration.reverse.isEmpty <;> simp [selection_text, keyTypeParameter_text]
  simp only [Declaration.parameters, typeParameters, hlist, parameterClause, List.isEmpty_map]

theorem nodup_declared (declaration : Declaration) :
    (declaration.declared.map (·.name)).Nodup := by
  simp only [Declaration.declared]
  cases declaration.key.optional <;> cases declaration.hasRelationships <;>
    cases declaration.reverse.isEmpty <;>
    simp [selection, keyTypeParameter, keyParameter, forwardParameter, reverseParameter]

theorem mem_declared_iff :
    parameter ∈ declaration.declared
      ↔ (declaration.key.optional = true ∧ parameter = keyTypeParameter)
        ∨ declaration.hasRelationships = true
          ∧ (parameter = selection forwardParameter (declaration.forward.map (·.forwardAlias))
            ∨ declaration.reverse ≠ []
              ∧ parameter = selection reverseParameter (declaration.reverse.map (·.reverseAlias))) := by
  simp only [Declaration.declared, List.mem_append]
  cases declaration.key.optional <;> cases declaration.hasRelationships <;>
    cases declaration.reverse <;> simp

theorem key_declared_iff :
    parameter ∈ declaration.declared ∧ parameter.name = keyParameter
      ↔ declaration.key.optional = true ∧ parameter = keyTypeParameter := by
  rw [mem_declared_iff]
  constructor
  · rintro ⟨⟨hoptional, rfl⟩ | ⟨-, rfl | ⟨-, rfl⟩⟩, hname⟩
    · exact ⟨hoptional, rfl⟩
    · exact absurd hname (by simp [selection, forwardParameter, keyParameter])
    · exact absurd hname (by simp [selection, reverseParameter, keyParameter])
  · rintro ⟨hoptional, rfl⟩
    exact ⟨.inl ⟨hoptional, rfl⟩, rfl⟩

theorem forward_declared_iff :
    parameter ∈ declaration.declared ∧ parameter.name = forwardParameter
      ↔ declaration.hasRelationships = true
        ∧ parameter = selection forwardParameter (declaration.forward.map (·.forwardAlias)) := by
  rw [mem_declared_iff]
  constructor
  · rintro ⟨⟨-, rfl⟩ | ⟨hrelationships, rfl | ⟨-, rfl⟩⟩, hname⟩
    · exact absurd hname (by simp [keyTypeParameter, forwardParameter, keyParameter])
    · exact ⟨hrelationships, rfl⟩
    · exact absurd hname (by simp [selection, reverseParameter, forwardParameter])
  · rintro ⟨hrelationships, rfl⟩
    exact ⟨.inr ⟨hrelationships, .inl rfl⟩, rfl⟩

theorem reverse_declared_iff :
    parameter ∈ declaration.declared ∧ parameter.name = reverseParameter
      ↔ (declaration.hasRelationships = true ∧ declaration.reverse ≠ [])
        ∧ parameter = selection reverseParameter (declaration.reverse.map (·.reverseAlias)) := by
  rw [mem_declared_iff]
  constructor
  · rintro ⟨⟨-, rfl⟩ | ⟨hrelationships, rfl | ⟨hreverse, rfl⟩⟩, hname⟩
    · exact absurd hname (by simp [keyTypeParameter, reverseParameter, keyParameter])
    · exact absurd hname (by simp [selection, forwardParameter, reverseParameter])
    · exact ⟨⟨hrelationships, hreverse⟩, rfl⟩
  · rintro ⟨⟨hrelationships, hreverse⟩, rfl⟩
    exact ⟨.inr ⟨hrelationships, .inr ⟨hreverse, rfl⟩⟩, rfl⟩

theorem quotedAlias_mem_selection {α : Type} {f : α → String} {members : List α} {member : α}
    (name : String) (h : member ∈ members) :
    quotedAlias (f member) ∈ (selection name (members.map f)).bound := by
  refine List.mem_append_left _ (List.mem_map_of_mem ?_)
  exact List.mem_map_of_mem h

theorem KeyMember.gated_iff (member : KeyMember) :
    (∃ inner, member.text
        = "( " ++ keyParameter ++ " extends true ? " ++ inner ++ " : \x7b\x7d )")
      ↔ member.optional = true := by
  simp only [KeyMember.text]
  cases member.optional with
  | false =>
    simp only [Bool.false_eq_true, if_false, iff_false, not_exists]
    intro inner h
    have hfirst := congrArg (fun text => text.toList.head?) h
    simp [String.toList_append] at hfirst
  | true => simp

theorem ForwardMember.text_eq (member : ForwardMember) :
    member.text = member.forwardAlias ++ " : " ++ quotedAlias member.forwardAlias ++ " extends "
      ++ forwardParameter ++ " ? " ++ Text.upperFirst member.target ++ " : " ++ member.keyType := by
  have hopening (rest : String) : " : '" ++ rest = " : " ++ ("'" ++ rest) := by
    rw [← String.append_assoc]
    rfl
  simp only [ForwardMember.text, quotedAlias, String.append_assoc, hopening]
  rfl

theorem ReverseMember.text_eq (member : ReverseMember) :
    member.text = "( " ++ quotedAlias member.reverseAlias ++ " extends " ++ reverseParameter
      ++ " ? \x7b " ++ member.reverseAlias ++ " : " ++ Text.upperFirst member.source
      ++ (if member.single then " | null" else "[]") ++ " \x7d : \x7b\x7d )" := by
  delta ReverseMember.text quotedAlias
  simp only [String.append_assoc]
  rfl

theorem Declaration.text_eq (declaration : Declaration) :
    declaration.text = "export type " ++ Text.upperFirst declaration.collection
      ++ parameterClause declaration.declared ++ " =\n"
      ++ Text.indent (Text.join " &\n" declaration.segments) := by
  have hbreak (rest : String) : " =" ++ ("\n" ++ rest) = " =\n" ++ rest := by
    rw [← String.append_assoc]
    rfl
  delta Declaration.text Declaration.header
  simp only [parameters_eq_clause, String.append_assoc, hbreak]

/-- Agreement of the header of a declaration with its body, and of both with the collection. -/
structure Declaration.Coherent (declaration : Declaration) (collection : Collection)
    (options : Options) : Prop where
  /-- The text shows the parameters in the header and the members in the body. -/
  text : declaration.text
    = "export type " ++ Text.upperFirst collection.name ++ parameterClause declaration.declared
      ++ " =\n" ++ Text.indent (Text.join " &\n"
        ([declaration.key.text] ++ (Text.block (declaration.fields.map (·.text))).toList
          ++ (Text.block (declaration.forward.map (·.text))).toList
          ++ declaration.reverse.map (·.text)))
  distinct : (declaration.declared.map (·.name)).Nodup
  /-- The members are those of the relationships to one target. -/
  forward_members : declaration.forward.map (·.forwardAlias) = collection.links.map (·.forwardAlias)
  reverse_members : declaration.reverse.map (·.reverseAlias) = collection.reverseLinks.map (·.1)
  key_declared : (∃ parameter ∈ declaration.declared, parameter.name = keyParameter)
    ↔ options.optionalKey = true
  key_gated : (∃ inner, declaration.key.text
      = "( " ++ keyParameter ++ " extends true ? " ++ inner ++ " : \x7b\x7d )")
    ↔ options.optionalKey = true
  forward_declared : (∃ parameter ∈ declaration.declared, parameter.name = forwardParameter)
    ↔ collection.relationships ≠ [] ∨ collection.reverse ≠ []
  forward_bound : ∀ parameter ∈ declaration.declared, parameter.name = forwardParameter →
    parameter.bound
      = declaration.forward.map (fun member => quotedAlias member.forwardAlias) ++ [noneSelected]
  reverse_declared : (∃ parameter ∈ declaration.declared, parameter.name = reverseParameter)
    ↔ ∃ entry ∈ collection.reverse, ∃ link, entry.2 = .childOf link
  reverse_bound : ∀ parameter ∈ declaration.declared, parameter.name = reverseParameter →
    parameter.bound
      = declaration.reverse.map (fun member => quotedAlias member.reverseAlias) ++ [noneSelected]
  /-- A conditional of the body tests a declared parameter for one of its aliases. -/
  forward_tested : ∀ member ∈ declaration.forward,
    member.text = member.forwardAlias ++ " : " ++ quotedAlias member.forwardAlias ++ " extends "
      ++ forwardParameter ++ " ? " ++ Text.upperFirst member.target ++ " : " ++ member.keyType
    ∧ ∃ parameter ∈ declaration.declared, parameter.name = forwardParameter
      ∧ quotedAlias member.forwardAlias ∈ parameter.bound
  reverse_tested : ∀ member ∈ declaration.reverse,
    member.text = "( " ++ quotedAlias member.reverseAlias ++ " extends " ++ reverseParameter
      ++ " ? \x7b " ++ member.reverseAlias ++ " : " ++ Text.upperFirst member.source
      ++ (if member.single then " | null" else "[]") ++ " \x7d : \x7b\x7d )"
    ∧ ∃ parameter ∈ declaration.declared, parameter.name = reverseParameter
      ∧ quotedAlias member.reverseAlias ∈ parameter.bound

theorem Collection.hasRelationships_iff (collection : Collection) :
    collection.hasRelationships = true ↔ collection.relationships ≠ [] ∨ collection.reverse ≠ [] := by
  simp [Collection.hasRelationships]

theorem Collection.reverseLinks_ne_nil_iff (collection : Collection) :
    collection.reverseLinks ≠ [] ↔ ∃ entry ∈ collection.reverse, ∃ link, entry.2 = .childOf link := by
  constructor
  · intro h
    obtain ⟨⟨reverseAlias, link⟩, hlink⟩ := List.exists_mem_of_ne_nil _ h
    exact ⟨_, Collection.mem_reverseLinks_iff.1 hlink, link, rfl⟩
  · rintro ⟨⟨reverseAlias, _⟩, hentry, link, rfl⟩
    exact List.ne_nil_of_mem (Collection.mem_reverseLinks_iff.2 hentry)

namespace Declaration.IsOf

variable (h : declaration.IsOf collection options keyTypes)

include h

theorem reverse_ne_nil_iff : declaration.reverse ≠ [] ↔ collection.reverseLinks ≠ [] := by
  rw [h.reverse, ne_eq, List.map_eq_nil_iff]

theorem hasRelationships_of_reverse (hreverse : declaration.reverse ≠ []) :
    declaration.hasRelationships = true := by
  obtain ⟨entry, hentry, -⟩ :=
    (Collection.reverseLinks_ne_nil_iff collection).1 (h.reverse_ne_nil_iff.1 hreverse)
  rw [h.hasRelationships, Collection.hasRelationships_iff]
  exact .inr (List.ne_nil_of_mem hentry)

theorem hasRelationships_of_forward (hforward : declaration.forward ≠ []) :
    declaration.hasRelationships = true := by
  have hlinks : collection.links ≠ [] := by
    rw [ne_eq, ← List.map_eq_nil_iff (f := fun link => link.forwardAlias), ← h.forwardAliases]
    simpa using hforward
  rw [h.hasRelationships, Collection.hasRelationships_iff]
  refine .inl fun hnone => hlinks ?_
  rw [Collection.links, hnone]
  rfl

end Declaration.IsOf

/-- The header of a declaration and its body agree, whatever mixture of relationships a collection
has in either direction, and whether or not its key is optional. -/
theorem header_coherent (h : (Declaration.ofCollection collection options keyTypes).result
    = .ok declaration) : declaration.Coherent collection options := by
  have hof := Declaration.ofCollection_eq_ok_iff.1 h
  have hkey := (KeyMember.ofCollection_eq_ok_iff.1 hof.key).2.2
  have hhas := hof.hasRelationships ▸ collection.hasRelationships_iff
  constructor
  case text => rw [declaration.text_eq, hof.named, Declaration.segments]
  case distinct => exact nodup_declared declaration
  case forward_members => exact hof.forwardAliases
  case reverse_members => exact hof.reverseAliases
  case key_declared => simp only [key_declared_iff, exists_and_left, exists_eq, and_true, hkey]
  case key_gated => rw [KeyMember.gated_iff, hkey]
  case forward_declared =>
    simp only [forward_declared_iff, exists_and_left, exists_eq, and_true, hhas]
  case forward_bound =>
    intro parameter hparameter hname
    obtain ⟨-, rfl⟩ := forward_declared_iff.1 ⟨hparameter, hname⟩
    simp [selection]
  case reverse_declared =>
    simp only [reverse_declared_iff, exists_and_left, exists_eq, and_true,
      ← Collection.reverseLinks_ne_nil_iff, ← hof.reverse_ne_nil_iff]
    exact ⟨fun h => h.2, fun h => ⟨hof.hasRelationships_of_reverse h, h⟩⟩
  case reverse_bound =>
    intro parameter hparameter hname
    obtain ⟨-, rfl⟩ := reverse_declared_iff.1 ⟨hparameter, hname⟩
    simp [selection]
  case forward_tested =>
    intro member hmember
    have hrelationships := hof.hasRelationships_of_forward (List.ne_nil_of_mem hmember)
    obtain ⟨hdeclared, hname⟩ := forward_declared_iff.2 ⟨hrelationships, rfl⟩
    exact ⟨member.text_eq, _, hdeclared, hname, quotedAlias_mem_selection _ hmember⟩
  case reverse_tested =>
    intro member hmember
    have hreverse := List.ne_nil_of_mem hmember
    obtain ⟨hdeclared, hname⟩ :=
      reverse_declared_iff.2 ⟨⟨hof.hasRelationships_of_reverse hreverse, hreverse⟩, rfl⟩
    exact ⟨member.text_eq, _, hdeclared, hname, quotedAlias_mem_selection _ hmember⟩

def mixedCollection : Collection where
  name := "note"
  key := .single "id"
  fields := [("title", ⟨"string", true⟩)]
  relationships :=
    [.connects ⟨"tag", "user", "tag", "user", "note"⟩,
      .childOf ⟨"list", "notes", false, "note", "list", none⟩]
  reverse :=
    [("marks", .connects ⟨"note", "mark", "note", "mark", "label"⟩),
      ("replies", .childOf ⟨"note", "replies", false, "reply", "note", none⟩)]

def mixedDeclaration : Declaration :=
  ⟨"note", true, ⟨"id", "number", true⟩, [⟨"title", true, "string"⟩], [⟨"list", "list", "number"⟩],
    [⟨"replies", "reply", false⟩]⟩

theorem mixedDeclaration_coherent :
    (Declaration.ofCollection mixedCollection { collections := ["note"] }
        fun _ => .ok "number").result = .ok mixedDeclaration
      ∧ mixedDeclaration.Coherent mixedCollection { collections := ["note"] } := by
  have hmade : (Declaration.ofCollection mixedCollection { collections := ["note"] }
      fun _ => .ok "number").result = .ok mixedDeclaration := rfl
  exact ⟨hmade, header_coherent hmade⟩

end StorageTypes
