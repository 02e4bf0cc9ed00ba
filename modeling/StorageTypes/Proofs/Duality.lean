import Mathlib.Data.List.Perm.Basic
import StorageTypes.Proofs.Separation

namespace StorageTypes

open Json (Value)

variable {registry : Registry} {options : Options} {batch : Batch} {name : String}
  {definitions : Value}

def linksAmong (relationships : List (String × Relationship)) : List (String × ChildOf) :=
  relationships.filterMap fun entry => entry.2.childOf?.map (entry.1, ·)

def spread (relationships : Dictionary (List Relationship)) : List (String × Relationship) :=
  relationships.flatMap fun entry => entry.2.map (entry.1, ·)

def relationshipsOf (name : String) (definition : Value) : List Relationship :=
  match Collection.relationshipsOfDefinition name definition with
  | .ok relationships => relationships
  | .error _ => []

/-- The relationships of a schema in order, each under the name of the collection that declares it. A
name that is defined twice stands at its first place with its last definition. -/
def declaredIn : Value → List (String × Relationship)
  | .obj entries => spread (Dictionary.mapEntries relationshipsOf (Dictionary.ofList entries))
  | _ => []

def Registry.declared (registry : Registry) : List (String × Relationship) :=
  spread (Dictionary.mapValues (·.relationships) registry.collections)

def Registry.shown (registry : Registry) : List Backlink :=
  registry.collections.flatMap fun entry => entry.2.reverse.map fun shown => ⟨entry.1, shown.1, shown.2⟩

theorem relationships_accepted {entries : List (String × Value)}
    (h : (registry.registerEach entries).2 = .ok ()) :
    Dictionary.mapValues (·.relationships) (accepted entries)
      = Dictionary.mapEntries relationshipsOf entries := by
  induction entries generalizing registry with
  | nil => rfl
  | cons entry rest ih =>
    obtain ⟨name, definition⟩ := entry
    simp only [Registry.registerEach, Registry.register] at h
    cases hread : Collection.ofDefinition name definition with
    | error fault =>
      rw [hread] at h
      cases h
    | ok collection =>
      rw [hread] at h
      have hfirst : relationshipsOf name definition = collection.relationships := by
        rw [relationshipsOf, (Collection.definedBy_of_ofDefinition hread).relationships]
      have hrest := ih h
      simp only [Dictionary.mapValues, Dictionary.mapEntries] at hrest
      simp only [accepted, hread, Dictionary.mapValues, Dictionary.mapEntries, List.map_cons, hfirst,
        hrest]

theorem declared_of_ofDefinitions (h : (Registry.ofDefinitions definitions).result = .ok registry) :
    registry.declared = declaredIn definitions := by
  obtain ⟨registered, hregistered, hfinished⟩ := ofDefinitions_eq_ok_iff.1 h
  cases definitions with
  | obj entries =>
    have hentries : Registry.empty.registerEach entries = (registered, .ok ()) := hregistered
    have hsame := registered.finish_same.relationships_eq
    rw [hfinished] at hsame
    have hstored := registerEach_stored Registry.empty entries
    rw [hentries] at hstored
    have haccepted := relationships_accepted (congrArg Prod.snd hentries)
    rw [Registry.declared, hsame, hstored, Dictionary.mapValues_putAll, haccepted]
    exact congrArg spread (Dictionary.mapEntries_ofList relationshipsOf entries).symm
  | _ => cases hregistered

theorem flatMap_declared {β : Type} (registry : Registry) (f : String × Relationship → List β) :
    registry.declared.flatMap f
      = registry.collections.flatMap fun entry =>
          entry.2.relationships.flatMap fun relationship => f (entry.1, relationship) := by
  simp only [Registry.declared, spread, Dictionary.mapValues, List.flatMap_map, List.flatMap_assoc]

theorem backlinksOf_values (registry : Registry) :
    backlinksOf (Dictionary.values registry.collections)
      = registry.declared.flatMap fun entry => entry.2.backlinks := by
  simp only [flatMap_declared, backlinksOf, Collection.backlinks, Dictionary.values,
    List.flatMap_map]

theorem linksAmong_declared (registry : Registry) :
    linksAmong registry.declared
      = registry.collections.flatMap fun entry => entry.2.links.map (entry.1, ·) := by
  simp only [linksAmong, Registry.declared, spread, Dictionary.mapValues, List.flatMap_map,
    List.filterMap_flatMap, List.filterMap_map, Collection.links, List.map_filterMap]
  rfl

def warningsWhereDeclared (entry : String × Relationship) : List String :=
  match entry.2 with
  | .childOf _ => []
  | .connects _ => [forwardWarning entry.1]

def Backlink.warnings (backlink : Backlink) : List String :=
  match backlink.relationship with
  | .childOf _ => []
  | .connects junction => [reverseWarning backlink.target junction]

theorem warningsOf_ofCollection {collection : Collection} {keyTypes : KeyTypes}
    {declaration : Declaration}
    (h : (Declaration.ofCollection collection options keyTypes).result = .ok declaration) :
    warningsOf (Declaration.ofCollection collection options keyTypes).log
      = (collection.relationships.flatMap fun relationship =>
          warningsWhereDeclared (collection.name, relationship))
        ++ collection.reverse.flatMap fun shown =>
          Backlink.warnings ⟨collection.name, shown.1, shown.2⟩ := by
  have hforward (relationship : Relationship) :
      warningsOf (ForwardMember.ofRelationship collection.name keyTypes relationship).log
        = warningsWhereDeclared (collection.name, relationship) := by
    cases relationship <;> rfl
  have hreverse (shown : String × Relationship) :
      warningsOf (ReverseMember.ofRelationship collection.name shown.1 shown.2).log
        = Backlink.warnings ⟨collection.name, shown.1, shown.2⟩ := by
    obtain ⟨reverseAlias, relationship⟩ := shown
    cases relationship <;> rfl
  rw [Declaration.log_ofCollection h, warningsOf_append, Batch.warningsOf_flatMap,
    Batch.warningsOf_flatMap]
  simp only [hforward, hreverse]

theorem links_aliases_sublist (relationships : List Relationship) :
    ((relationships.filterMap (·.childOf?)).map (·.forwardAlias)).Sublist
      (relationships.flatMap (·.forwardAliases)) := by
  induction relationships with
  | nil => exact .refl _
  | cons relationship rest ih =>
    cases relationship with
    | childOf link => exact ih.cons_cons _
    | connects junction => exact (ih.cons _).cons _

theorem reverseLinks_aliases_sublist (collection : Collection) :
    (collection.reverseLinks.map (·.1)).Sublist (Dictionary.names collection.reverse) := by
  rw [Collection.reverseLinks]
  induction collection.reverse with
  | nil => exact .refl _
  | cons entry rest ih =>
    obtain ⟨reverseAlias, relationship⟩ := entry
    cases relationship with
    | childOf link => exact ih.cons_cons _
    | connects junction => exact ih.cons _

theorem Declaration.IsOf.aliases_nodup {declaration : Declaration} {collection : Collection}
    {keyTypes : KeyTypes} (hof : declaration.IsOf collection options keyTypes)
    (h : registry.Loaded)
    (hfind : Dictionary.find? name registry.collections = some collection) :
    (declaration.forward.map (·.forwardAlias)).Nodup
      ∧ (declaration.reverse.map (·.reverseAlias)).Nodup := by
  have hlinkable := h.consistent.linkable h.initialized
  have hmem := Dictionary.mem_of_find? hfind
  have hforward := hlinkable.forward collection (Dictionary.mem_values.2 ⟨name, hmem⟩)
  have hreverse := hlinkable.reverse name (Dictionary.mem_names_of_mem hmem)
  rw [reverseOf_eq_scan, ← h.consistent.shown h.initialized name collection hfind] at hreverse
  rw [hof.forwardAliases, hof.reverseAliases]
  exact ⟨hforward.sublist (links_aliases_sublist _),
    hreverse.sublist (reverseLinks_aliases_sublist collection)⟩

namespace Batch

section

variable (h : registry.Loaded) (hall : options.collections = registry.names)
  (hbatch : (generate registry options).result = .ok batch)

include h hall hbatch

end

end Batch

end StorageTypes
