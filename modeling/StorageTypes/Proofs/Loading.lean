import StorageTypes.Proofs.History

namespace StorageTypes

open Json (Value)

variable {registry : Registry} {name : String} {collection : Collection} {definitions : Value}

theorem ofDefinitions_eq_ok_iff :
    (Registry.ofDefinitions definitions).result = .ok registry
      ↔ ∃ registered, Registry.empty.registerAll definitions = (registered, .ok ())
        ∧ registered.finish = (registry, .ok ()) := by
  simp only [Registry.ofDefinitions]
  constructor
  · intro h
    split at h
    · cases h
    next registered _ hregistered =>
    split at h
    · cases h
    next finished _ hfinished =>
    cases h
    exact ⟨registered, hregistered, hfinished⟩
  · rintro ⟨registered, hregistered, hfinished⟩
    rw [hregistered]
    simp only [hfinished]

/-- Registries in which every relationship names the collection that declares it. -/
def Registry.Sourced (registry : Registry) : Prop :=
  ∀ name collection, Dictionary.find? name registry.collections = some collection →
    ∀ relationship ∈ collection.relationships, relationship.source = name

/-- Registries in which every collection has the name that it stands under, which is not empty, and is
the source of every relationship that it declares. -/
structure Registry.Attributed (registry : Registry) : Prop where
  named : ∀ entry ∈ registry.collections, entry.2.name = entry.1
  nonempty : ∀ entry ∈ registry.collections, entry.1 ≠ ""
  sourced : ∀ entry ∈ registry.collections, ∀ relationship ∈ entry.2.relationships,
    relationship.source = entry.1

namespace Registry.Attributed

theorem empty : Registry.Attributed Registry.empty := by
  constructor <;> intro entry hentry <;> cases hentry

theorem place (h : registry.Attributed) (hname : collection.name = name) (hgiven : name ≠ "")
    (hsource : ∀ relationship ∈ collection.relationships, relationship.source = name) :
    (registry.place name collection).Attributed := by
  constructor <;> intro entry hentry <;>
    obtain rfl | hold := Dictionary.eq_or_mem_of_mem_put hentry
  · exact hname
  · exact h.named entry hold
  · exact hgiven
  · exact h.nonempty entry hold
  · exact hsource
  · exact h.sourced entry hold

theorem place_definition {definition : Value} (h : registry.Attributed)
    (hread : Collection.ofDefinition name definition = .ok collection) :
    (registry.place name collection).Attributed := by
  have hdefined := Collection.definedBy_of_ofDefinition hread
  exact h.place hdefined.named hdefined.nonempty
    (Collection.source_of_relationshipsOfDefinition hdefined.relationships)

theorem finish (h : registry.Attributed) : registry.finish.1.Attributed := by
  constructor <;> intro entry hentry <;>
    obtain ⟨stored, hstored, hsame⟩ := registry.finish_same.exists_mem hentry
  · have hname : stored.withoutReverse.name = entry.2.withoutReverse.name :=
      congrArg Collection.name hsame
    exact hname.symm.trans (h.named _ hstored)
  · exact h.nonempty (entry.1, stored) hstored
  · have hrelationships : stored.withoutReverse.relationships
        = entry.2.withoutReverse.relationships := congrArg Collection.relationships hsame
    exact fun relationship hmem => h.sourced _ hstored relationship (hrelationships ▸ hmem)

theorem toSourced (h : registry.Attributed) : registry.Sourced :=
  fun _ _ hfind => h.sourced _ (Dictionary.mem_of_find? hfind)

end Registry.Attributed

/-- A registry that was loaded from definitions. -/
structure Registry.Loaded (registry : Registry) : Prop where
  consistent : registry.Consistent
  initialized : registry.initialized = true
  sourced : registry.Sourced

theorem loaded_of_ofDefinitions (h : (Registry.ofDefinitions definitions).result = .ok registry) :
    registry.Loaded := by
  obtain ⟨registered, hregistered, hfinished⟩ := ofDefinitions_eq_ok_iff.1 h
  cases definitions with
  | obj entries =>
    have hconsistent := Registry.Consistent.empty.registerEach entries
    have hattributed : (Registry.empty.registerEach entries).1.Attributed :=
      registerEach_keeps Registry.Attributed.place_definition .empty entries
    have hentries : Registry.empty.registerEach entries = (registered, .ok ()) := hregistered
    rw [hentries] at hconsistent hattributed
    have hflag := (Registry.finish_ok (congrArg Prod.snd hfinished)).2.1
    have hconsistent' := hconsistent.finish
    have hattributed' := hattributed.finish
    rw [hfinished] at hflag hconsistent' hattributed'
    exact ⟨hconsistent', hflag, hattributed'.toSourced⟩
  | _ => cases hregistered

theorem exists_of_mem_scan {entry : String × Relationship} (h : entry ∈ registry.scan name) :
    ∃ collection ∈ Dictionary.values registry.collections, entry.2 ∈ collection.relationships := by
  obtain ⟨collection, hcollection, hhere⟩ := List.mem_flatMap.1 h
  obtain ⟨relationship, hrelationship, hshown⟩ := List.mem_flatMap.1 hhere
  rw [← Relationship.eq_of_mem_shownOn hshown] at hrelationship
  exact ⟨collection, hcollection, hrelationship⟩

theorem Registry.Loaded.declaring_of_reverse (h : registry.Loaded)
    (hfind : Dictionary.find? name registry.collections = some collection)
    {shown : String × Relationship} (hshown : shown ∈ collection.reverse) :
    ∃ declaring, (shown.2.source, declaring) ∈ registry.collections
      ∧ shown.2 ∈ declaring.relationships := by
  rw [h.consistent.shown h.initialized name collection hfind] at hshown
  obtain ⟨declaring, hdeclaring, hrelationship⟩ := exists_of_mem_scan hshown
  obtain ⟨other, hother⟩ := Dictionary.mem_values.1 hdeclaring
  have hsource := h.sourced other declaring
    (Dictionary.find?_of_mem h.consistent.distinct hother) _ hrelationship
  exact ⟨declaring, hsource ▸ hother, hrelationship⟩

theorem Registry.Consistent.target_mem_names (h : registry.Consistent)
    (hflag : registry.initialized = true)
    (hfind : Dictionary.find? name registry.collections = some collection) {link : ChildOf}
    (hlink : link ∈ collection.links) : link.target ∈ registry.names := by
  have hlinkable := (linkable_iff registry).1 (h.linkable hflag)
  have hvalue := Dictionary.mem_values.2 ⟨name, Dictionary.mem_of_find? hfind⟩
  exact hlinkable.2.1 collection hvalue _ (Collection.mem_links_iff.1 hlink) _ List.mem_cons_self

namespace Registry.Loaded

variable (h : registry.Loaded) (hfind : Dictionary.find? name registry.collections = some collection)

include h hfind

theorem target_mem_names {link : ChildOf} (hlink : link ∈ collection.links) :
    link.target ∈ registry.names :=
  h.consistent.target_mem_names h.initialized hfind hlink

theorem source_mem_names {entry : String × ChildOf} (hentry : entry ∈ collection.reverseLinks) :
    entry.2.source ∈ registry.names := by
  obtain ⟨declaring, hdeclaring, -⟩ :=
    h.declaring_of_reverse hfind (Collection.mem_reverseLinks_iff.1 hentry)
  exact Dictionary.mem_names_of_mem hdeclaring

end Registry.Loaded

end StorageTypes
