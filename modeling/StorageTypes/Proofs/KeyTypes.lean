import StorageTypes.Proofs.Resolution

namespace StorageTypes

variable {registry : Registry} {options : Options} {collection target : Collection} {link : ChildOf}
  {member : ForwardMember}

/-- Agreement of a relationship with the key of its target: both texts end in the same type. -/
structure ForwardMember.ShowsKeyOf (member : ForwardMember) (target : Collection)
    (options : Options) : Prop where
  key : ∃ key, KeyMember.ofCollection target options = .ok key
    ∧ key.text = if options.optionalKey then
        "( " ++ keyParameter ++ " extends true ? \x7b " ++ key.field ++ " : " ++ member.keyType
          ++ " \x7d : \x7b\x7d )"
      else "\x7b " ++ key.field ++ " : " ++ member.keyType ++ " \x7d"
  text : member.text = member.forwardAlias ++ " : '" ++ member.forwardAlias ++ "' extends "
    ++ forwardParameter ++ " ? " ++ Text.upperFirst member.target ++ " : " ++ member.keyType

theorem KeyMember.text_eq (key : KeyMember) :
    key.text = if key.optional then
        "( " ++ keyParameter ++ " extends true ? \x7b " ++ key.field ++ " : " ++ key.type
          ++ " \x7d : \x7b\x7d )"
      else "\x7b " ++ key.field ++ " : " ++ key.type ++ " \x7d" := by
  have hopening (rest : String) : " extends true ? " ++ ("\x7b " ++ rest)
      = " extends true ? \x7b " ++ rest := by
    rw [← String.append_assoc]
    rfl
  have hclosing : " \x7d" ++ " : \x7b\x7d )" = " \x7d : \x7b\x7d )" := rfl
  simp only [KeyMember.text]
  split
  · simp only [String.append_assoc, hopening, hclosing]
  · rfl

theorem ForwardMember.IsFor.showsKey (h : member.IsFor (Batch.keyTypesIn registry options) link) :
    ∃ target, Dictionary.find? link.target registry.collections = some target
      ∧ member.ShowsKeyOf target options := by
  obtain ⟨target, hget, htype⟩ := Batch.keyTypesIn_eq_ok_iff.1 h.keyType
  obtain ⟨field, hkey⟩ := KeyMember.ofCollection_of_keyType htype
  exact ⟨target, (Registry.get_eq_ok_iff.1 hget).2, ⟨_, hkey, KeyMember.text_eq _⟩, rfl⟩

/-- Agreement of a run with the keys of all collections that its own collections refer to. -/
structure Batch.SharesKeys (registry : Registry) (options : Options) : Prop where
  shown : ∀ generated, (generateTexts registry options).result = .ok generated →
    ∃ declarations : List Declaration, generated.declarations = declarations.map (·.text)
      ∧ List.Forall₂ (fun name declaration => ∃ collection,
          Dictionary.find? name registry.collections = some collection
          ∧ declaration.collection = collection.name
          ∧ List.Forall₂ (fun link member => member.forwardAlias = link.forwardAlias
              ∧ member.target = link.target
              ∧ ∃ target, Dictionary.find? link.target registry.collections = some target
                ∧ member.ShowsKeyOf target options)
            collection.links declaration.forward)
        options.collections declarations
  /-- A target without a key lets the run fail, whether or not it is asked for. -/
  missing : ∀ name ∈ options.collections, ∀ collection link target fault,
    Dictionary.find? name registry.collections = some collection →
    .childOf link ∈ collection.relationships →
    Dictionary.find? link.target registry.collections = some target →
    KeyMember.ofCollection target options = .error fault →
      ∃ error, (generateTexts registry options).result = .error error

theorem Declaration.IsOf.showsKeys {declaration : Declaration}
    (h : declaration.IsOf collection options (Batch.keyTypesIn registry options)) :
    List.Forall₂ (fun link member => member.forwardAlias = link.forwardAlias
        ∧ member.target = link.target
        ∧ ∃ target, Dictionary.find? link.target registry.collections = some target
          ∧ member.ShowsKeyOf target options)
      collection.links declaration.forward :=
  h.forward.imp fun _ _ hmember => ⟨hmember.forwardAlias, hmember.target, hmember.showsKey⟩

/-- A relationship that is not expanded shows the type that its target gives its own key, and no run
gets past a target that has none. -/
theorem keys_shared (registry : Registry) (options : Options) :
    Batch.SharesKeys registry options := by
  constructor
  case shown =>
    intro generated hgenerated
    obtain ⟨batch, hbatch, rfl⟩ := generateTexts_eq_ok_iff.1 hgenerated
    refine ⟨batch.declarations, rfl, (Batch.declarations_of_generate hbatch).imp ?_⟩
    rintro name declaration ⟨collection, hget, hof⟩
    exact ⟨collection, (Registry.get_eq_ok_iff.1 hget).2, hof.named, hof.showsKeys⟩
  case missing =>
    intro name hname collection link target fault hfind hlink htarget hfault
    rw [exists_error_iff, exists_texts_iff]
    rintro ⟨batch, hbatch⟩
    obtain ⟨declaration, -, found, hget, hof⟩ :=
      exists_of_forall₂ (Batch.declarations_of_generate hbatch) hname
    obtain rfl : collection = found :=
      Option.some.inj (hfind.symm.trans (Registry.get_eq_ok_iff.1 hget).2)
    obtain ⟨member, -, -, -, other, hother, hshows⟩ :=
      exists_of_forall₂ hof.showsKeys (Collection.mem_links_iff.2 hlink)
    obtain rfl : target = other := Option.some.inj (htarget.symm.trans hother)
    obtain ⟨key, hkey, -⟩ := hshows.key
    rw [hfault] at hkey
    cases hkey

def shelfBatch : Batch :=
  ⟨[⟨"book", true, ⟨"id", "number", true⟩, [], [⟨"shelf", "shelf", "Slug"⟩], []⟩], []⟩

theorem shelf_sharesKeys :
    (Batch.generate (Registry.after shelfActions) shelfOptions).result = .ok shelfBatch
      ∧ Batch.SharesKeys (Registry.after shelfActions) shelfOptions :=
  ⟨rfl, keys_shared _ _⟩

end StorageTypes
