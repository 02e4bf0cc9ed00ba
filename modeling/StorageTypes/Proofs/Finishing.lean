import StorageTypes.Proofs.Dictionary
import StorageTypes.Registry.Derived

namespace StorageTypes

variable {names : List String} {collections next : Dictionary Collection}
  {before backlinks : List Backlink} {backlink : Backlink} {collection : Collection}
  {seen rest : List Collection} {error : SchemaError}

def Relationship.shownOn (name : String) (relationship : Relationship) : Dictionary Relationship :=
  match relationship with
  | .childOf link => if link.target = name then [(link.reverseAlias, relationship)] else []
  | .connects junction =>
    (if junction.left = name then [(Text.pluralize junction.right, relationship)] else [])
      ++ if junction.right = name then [(Text.pluralize junction.left, relationship)] else []

theorem Relationship.eq_of_mem_shownOn {relationship : Relationship} {name : String}
    {entry : String × Relationship} (h : entry ∈ relationship.shownOn name) :
    entry.2 = relationship := by
  cases relationship <;> grind [Relationship.shownOn]

def Relationship.ends : Relationship → List String
  | .childOf link => [link.target]
  | .connects junction => [junction.left, junction.right]

/-- What the collection of a name has to show: the collections and their relationships in order. -/
def Registry.scan (registry : Registry) (name : String) : Dictionary Relationship :=
  (Dictionary.values registry.collections).flatMap fun collection =>
    collection.relationships.flatMap (·.shownOn name)

theorem shownBy_append (before backlinks : List Backlink) (name : String) :
    shownBy (before ++ backlinks) name = shownBy before name ++ shownBy backlinks name := by
  simp [shownBy]

theorem shownBy_singleton (backlink : Backlink) (name : String) :
    shownBy [backlink] name
      = if backlink.target = name then [(backlink.reverseAlias, backlink.relationship)] else [] := by
  by_cases h : backlink.target = name <;> simp [shownBy, h]

theorem shownBy_flatMap {α : Type} (f : α → List Backlink) (items : List α) (name : String) :
    shownBy (items.flatMap f) name = items.flatMap fun item => shownBy (f item) name := by
  induction items with
  | nil => rfl
  | cons item rest ih => simp only [List.flatMap_cons, shownBy_append, ih]

theorem shownBy_backlinks (relationship : Relationship) (name : String) :
    shownBy relationship.backlinks name = relationship.shownOn name := by
  cases relationship with
  | childOf link => exact shownBy_singleton _ _
  | connects junction =>
    simp only [Relationship.backlinks, Relationship.shownOn]
    rw [← List.singleton_append, shownBy_append, shownBy_singleton, shownBy_singleton]

theorem reverseOf_eq_scan (registry : Registry) (name : String) :
    reverseOf (Dictionary.values registry.collections) name = registry.scan name := by
  simp only [reverseOf, backlinksOf, Collection.backlinks, shownBy_flatMap, shownBy_backlinks, Registry.scan]

theorem mem_ends_iff {relationship : Relationship} {name : String} :
    name ∈ relationship.ends ↔ ∃ backlink ∈ relationship.backlinks, backlink.target = name := by
  cases relationship <;> simp [Relationship.ends, Relationship.backlinks, eq_comm]

/-- Backlinks of which every one can be shown among collections with the given names. -/
structure Placeable (names : List String) (backlinks : List Backlink) : Prop where
  targets : ∀ backlink ∈ backlinks, backlink.target ∈ names
  distinct : ∀ name ∈ names, (Dictionary.names (shownBy backlinks name)).Nodup

/-- Collections whose relationships can all be shown among collections with the given names. -/
structure LinkableAmong (names : List String) (collections : List Collection) : Prop where
  forward : ∀ collection ∈ collections, collection.forwardAliases.Nodup
  placeable : Placeable names (backlinksOf collections)

theorem names_shownBy_append (before backlinks : List Backlink) (name : String) :
    Dictionary.names (shownBy (before ++ backlinks) name)
      = Dictionary.names (shownBy before name) ++ Dictionary.names (shownBy backlinks name) := by
  simp [shownBy_append, Dictionary.names]

theorem backlinksOf_append (seen rest : List Collection) :
    backlinksOf (seen ++ rest) = backlinksOf seen ++ backlinksOf rest :=
  List.flatMap_append

theorem backlinksOf_singleton (collection : Collection) :
    backlinksOf [collection] = collection.backlinks :=
  List.flatMap_singleton _ _

theorem Placeable.of_append (h : Placeable names (before ++ backlinks)) : Placeable names before := by
  refine ⟨fun backlink hmem => h.targets backlink (List.mem_append_left _ hmem), ?_⟩
  intro name hname
  have hdistinct := h.distinct name hname
  rw [names_shownBy_append] at hdistinct
  exact (List.nodup_append.1 hdistinct).1

theorem LinkableAmong.of_append (h : LinkableAmong names (seen ++ rest)) :
    LinkableAmong names seen := by
  refine ⟨fun collection hmem => h.forward collection (List.mem_append_left _ hmem), ?_⟩
  have hplaceable := h.placeable
  rw [backlinksOf_append] at hplaceable
  exact hplaceable.of_append

/-- Two dictionaries of collections that differ in nothing but the reverse relationships. -/
def SameButReverse (first second : Dictionary Collection) : Prop :=
  Dictionary.mapValues Collection.withoutReverse first
    = Dictionary.mapValues Collection.withoutReverse second

theorem SameButReverse.names_eq (h : SameButReverse next collections) :
    Dictionary.names next = Dictionary.names collections := by
  rw [← Dictionary.names_mapValues Collection.withoutReverse next, h, Dictionary.names_mapValues]

theorem SameButReverse.find?_map (h : SameButReverse next collections) (name : String) :
    (Dictionary.find? name next).map Collection.withoutReverse
      = (Dictionary.find? name collections).map Collection.withoutReverse := by
  rw [← Dictionary.find?_mapValues, h, Dictionary.find?_mapValues]

theorem SameButReverse.exists_find? {name : String} (h : SameButReverse next collections)
    (hfind : Dictionary.find? name next = some collection) :
    ∃ stored, Dictionary.find? name collections = some stored
      ∧ stored.withoutReverse = collection.withoutReverse := by
  have hstored := h.find?_map name
  rw [hfind] at hstored
  exact Option.map_eq_some_iff.1 hstored.symm

theorem SameButReverse.exists_mem (h : SameButReverse next collections)
    {entry : String × Collection} (hentry : entry ∈ next) :
    ∃ stored, (entry.1, stored) ∈ collections
      ∧ stored.withoutReverse = entry.2.withoutReverse := by
  have hmem : (entry.1, entry.2.withoutReverse)
      ∈ Dictionary.mapValues Collection.withoutReverse next :=
    List.mem_map.2 ⟨entry, hentry, rfl⟩
  rw [h] at hmem
  obtain ⟨⟨other, stored⟩, hstored, heq⟩ := List.mem_map.1 hmem
  obtain ⟨rfl, hsame⟩ := Prod.mk.inj heq
  exact ⟨stored, hstored, hsame⟩

theorem SameButReverse.relationships_eq (h : SameButReverse next collections) :
    Dictionary.mapValues (·.relationships) next
      = Dictionary.mapValues (·.relationships) collections := by
  have hkeep (entries : Dictionary Collection) :
      Dictionary.mapValues (·.relationships) entries
        = Dictionary.mapValues (·.relationships)
            (Dictionary.mapValues Collection.withoutReverse entries) := by
    rw [Dictionary.mapValues_mapValues]
    rfl
  rw [hkeep next, h, ← hkeep collections]

section

variable (h : Dictionary.mapValues (·.relationships) collections
  = Dictionary.mapValues (·.relationships) next)

include h

theorem names_congr : Dictionary.names collections = Dictionary.names next := by
  rw [← Dictionary.names_mapValues (·.relationships) collections, h, Dictionary.names_mapValues]

theorem relationships_congr : (Dictionary.values collections).map (·.relationships)
    = (Dictionary.values next).map (·.relationships) := by
  rw [← Dictionary.values_mapValues, h, Dictionary.values_mapValues]

theorem backlinksOf_congr :
    backlinksOf (Dictionary.values collections) = backlinksOf (Dictionary.values next) := by
  have hmap (entries : List Collection) : backlinksOf entries
      = (entries.map (·.relationships)).flatMap fun declared => declared.flatMap (·.backlinks) := by
    rw [List.flatMap_map]
    rfl
  rw [hmap, relationships_congr h, ← hmap]

theorem reverseOf_congr (name : String) : reverseOf (Dictionary.values collections) name
    = reverseOf (Dictionary.values next) name := by
  simp only [reverseOf, backlinksOf_congr h]

theorem Linkable.congr (hlinkable : Linkable collections) : Linkable next := by
  refine ⟨fun collection hmem => ?_, fun backlink hmem => ?_, fun name hname => ?_⟩
  · have hrelationships : collection.relationships
        ∈ (Dictionary.values collections).map (·.relationships) := by
      rw [relationships_congr h]
      exact List.mem_map_of_mem hmem
    obtain ⟨other, hother, hsame⟩ := List.mem_map.1 hrelationships
    have hnodup := hlinkable.forward other hother
    rwa [Collection.forwardAliases, hsame] at hnodup
  · rw [← backlinksOf_congr h] at hmem
    rw [← names_congr h]
    exact hlinkable.targets backlink hmem
  · rw [← names_congr h] at hname
    rw [← reverseOf_congr h]
    exact hlinkable.reverse name hname

end

theorem linkable_iff (registry : Registry) :
    Linkable registry.collections
      ↔ (∀ collection ∈ Dictionary.values registry.collections, collection.forwardAliases.Nodup)
        ∧ (∀ collection ∈ Dictionary.values registry.collections,
            ∀ relationship ∈ collection.relationships,
              ∀ name ∈ relationship.ends, name ∈ registry.names)
        ∧ ∀ name ∈ registry.names, (Dictionary.names (registry.scan name)).Nodup := by
  constructor
  · intro h
    refine ⟨h.forward, fun collection hcollection relationship hrelationship name hname => ?_, ?_⟩
    · obtain ⟨backlink, hbacklink, rfl⟩ := mem_ends_iff.1 hname
      refine h.targets backlink (List.mem_flatMap.2 ⟨collection, hcollection, ?_⟩)
      exact List.mem_flatMap.2 ⟨relationship, hrelationship, hbacklink⟩
    · intro name hname
      rw [← reverseOf_eq_scan]
      exact h.reverse name hname
  · rintro ⟨hforward, htargets, hreverse⟩
    refine ⟨hforward, fun backlink hbacklink => ?_, fun name hname => ?_⟩
    · obtain ⟨collection, hcollection, hhere⟩ := List.mem_flatMap.1 hbacklink
      obtain ⟨relationship, hrelationship, hthere⟩ := List.mem_flatMap.1 hhere
      exact htargets collection hcollection relationship hrelationship _
        (mem_ends_iff.2 ⟨backlink, hthere, rfl⟩)
    · rw [reverseOf_eq_scan]
      exact hreverse name hname

/-- Failures of finishing. -/
inductive IsLinkFault : SchemaError → Prop where
  | unknown (name : String) (available : List String) :
    IsLinkFault (.unknownCollection name available)
  | repeated (collection reason : String) : IsLinkFault (.badDefinition collection reason)

/-- Where finishing stands when it has added some backlinks: every one of them could be shown, and
the collections show these and nothing else. -/
structure Built (names : List String) (collections : Dictionary Collection)
    (backlinks : List Backlink) : Prop where
  kept : Dictionary.names collections = names
  shown : ∀ name collection, Dictionary.find? name collections = some collection →
    collection.reverse = shownBy backlinks name
  placeable : Placeable names backlinks

/-- Where finishing stands when it has gone through some collections. -/
structure BuiltFrom (names : List String) (collections : Dictionary Collection)
    (seen : List Collection) : Prop where
  forward : ∀ collection ∈ seen, collection.forwardAliases.Nodup
  built : Built names collections (backlinksOf seen)

theorem BuiltFrom.linkableAmong (h : BuiltFrom names collections seen) :
    LinkableAmong names seen :=
  ⟨h.forward, h.built.placeable⟩

namespace Registry

theorem addBacklink_same (h : addBacklink collections backlink = .ok next) :
    SameButReverse next collections := by
  simp only [addBacklink] at h
  split at h
  · cases h
  next target htarget =>
  split at h
  · cases h
  cases h
  exact Dictionary.mapValues_put_of_eq htarget rfl

theorem addBacklink_ok (hbuilt : Built names collections before)
    (h : addBacklink collections backlink = .ok next) : Built names next (before ++ [backlink]) := by
  have hnames := (addBacklink_same h).names_eq.trans hbuilt.kept
  simp only [addBacklink] at h
  split at h
  · cases h
  next target htarget =>
  split at h
  · cases h
  next hfree =>
  cases h
  have hreverse := hbuilt.shown _ _ htarget
  refine ⟨hnames, fun name collection hfind => ?_, fun other hother => ?_, fun name hname => ?_⟩
  · rw [Dictionary.find?_put] at hfind
    rw [shownBy_append, shownBy_singleton]
    split at hfind
    · next hhere =>
      obtain rfl := Option.some.inj hfind
      rw [if_pos hhere, ← hhere, hreverse]
    · next helse =>
      rw [if_neg helse, List.append_nil]
      exact hbuilt.shown name collection hfind
  · rcases List.mem_append.1 hother with hold | hnew
    · exact hbuilt.placeable.targets other hold
    · rw [List.mem_singleton.1 hnew, ← hbuilt.kept]
      exact Dictionary.mem_names_of_mem (Dictionary.mem_of_find? htarget)
  · have hdistinct := hbuilt.placeable.distinct name hname
    rw [names_shownBy_append, shownBy_singleton]
    split
    · next hhere =>
      have hfresh : backlink.reverseAlias ∉ Dictionary.names (shownBy before name) := by
        rw [← hhere, ← hreverse, ← Dictionary.find?_isSome_iff]
        exact hfree
      refine List.nodup_append.2 ⟨hdistinct, by simp [Dictionary.names], ?_⟩
      rintro shown hshown _ hnew rfl
      have hsame : shown = backlink.reverseAlias := List.mem_singleton.1 hnew
      exact hfresh (hsame ▸ hshown)
    · simpa [Dictionary.names] using hdistinct

theorem addBacklink_error (hbuilt : Built names collections before)
    (h : addBacklink collections backlink = .error error) :
    ¬Placeable names (before ++ [backlink]) ∧ IsLinkFault error := by
  have hlast : backlink ∈ before ++ [backlink] := by simp
  simp only [addBacklink] at h
  split at h
  · next hnone =>
    cases h
    have habsent := Dictionary.find?_eq_none_iff.1 hnone
    rw [hbuilt.kept] at habsent
    exact ⟨fun hall => habsent (hall.targets _ hlast), .unknown _ _⟩
  next target htarget =>
  split at h
  · next htaken =>
    cases h
    refine ⟨fun hall => ?_, .repeated _ _⟩
    have hdistinct := hall.distinct _ (hall.targets _ hlast)
    rw [names_shownBy_append, shownBy_singleton, if_pos rfl] at hdistinct
    have hbefore := Dictionary.find?_isSome_iff.1 htaken
    rw [hbuilt.shown _ _ htarget] at hbefore
    exact (List.nodup_append.1 hdistinct).2.2 _ hbefore _ List.mem_cons_self rfl
  · cases h

theorem addBacklinks_same (collections : Dictionary Collection) (backlinks : List Backlink) :
    SameButReverse (addBacklinks collections backlinks).1 collections := by
  induction backlinks generalizing collections with
  | nil => rfl
  | cons backlink rest ih =>
    simp only [addBacklinks]
    split
    · rfl
    · next next hnext => exact (ih next).trans (addBacklink_same hnext)

theorem addBacklinks_ok (hbuilt : Built names collections before)
    (h : addBacklinks collections backlinks = (next, .ok ())) :
    Built names next (before ++ backlinks) := by
  induction backlinks generalizing collections before with
  | nil =>
    cases h
    rwa [List.append_nil]
  | cons backlink rest ih =>
    simp only [addBacklinks] at h
    split at h
    · cases h
    next added hadded =>
    rw [List.append_cons]
    exact ih (addBacklink_ok hbuilt hadded) h

theorem addBacklinks_error (hbuilt : Built names collections before)
    (h : addBacklinks collections backlinks = (next, .error error)) :
    ¬Placeable names (before ++ backlinks) ∧ IsLinkFault error := by
  induction backlinks generalizing collections before with
  | nil => cases h
  | cons backlink rest ih =>
    simp only [addBacklinks] at h
    rw [List.append_cons]
    split at h
    · next hfailed =>
      cases h
      obtain ⟨hnot, hfault⟩ := addBacklink_error hbuilt hfailed
      exact ⟨fun hall => hnot hall.of_append, hfault⟩
    · next added hadded => exact ih (addBacklink_ok hbuilt hadded) h

theorem link_same (collections : Dictionary Collection) (rest : List Collection) :
    SameButReverse (link collections rest).1 collections := by
  induction rest generalizing collections with
  | nil => rfl
  | cons collection rest ih =>
    simp only [link]
    split
    · rfl
    have hadded := addBacklinks_same collections collection.backlinks
    split
    · next hadd => rwa [hadd] at hadded
    · next hadd =>
      rw [hadd] at hadded
      exact (ih _).trans hadded

theorem link_step (hbuilt : BuiltFrom names collections seen)
    (hforward : firstRepeated [] collection.forwardAliases = none)
    (h : addBacklinks collections collection.backlinks = (next, .ok ())) :
    BuiltFrom names next (seen ++ [collection]) := by
  constructor
  · intro other hother
    rcases List.mem_append.1 hother with hold | hnew
    · exact hbuilt.forward other hold
    · rw [List.mem_singleton.1 hnew]
      exact (firstRepeated_eq_none_iff.1 hforward).1
  · rw [backlinksOf_append, backlinksOf_singleton]
    exact addBacklinks_ok hbuilt.built h

theorem link_ok (hbuilt : BuiltFrom names collections seen)
    (h : link collections rest = (next, .ok ())) : BuiltFrom names next (seen ++ rest) := by
  induction rest generalizing collections seen with
  | nil =>
    cases h
    rwa [List.append_nil]
  | cons collection rest ih =>
    simp only [link] at h
    split at h
    · cases h
    next hforward =>
    split at h
    · cases h
    next added hadded =>
    rw [List.append_cons]
    exact ih (link_step hbuilt hforward hadded) h

theorem link_error (hbuilt : BuiltFrom names collections seen)
    (h : link collections rest = (next, .error error)) :
    ¬LinkableAmong names (seen ++ rest) ∧ IsLinkFault error := by
  induction rest generalizing collections seen with
  | nil => cases h
  | cons collection rest ih =>
    simp only [link] at h
    rw [List.append_cons]
    split at h
    · next repeated hrepeated =>
      cases h
      refine ⟨fun hall => ?_, .repeated _ _⟩
      have hnodup := hall.of_append.forward collection (by simp)
      rw [firstRepeated_eq_none_iff.2 ⟨hnodup, fun _ _ => List.not_mem_nil⟩] at hrepeated
      cases hrepeated
    next hforward =>
    split at h
    · next hfailed =>
      cases h
      obtain ⟨hnot, hfault⟩ := addBacklinks_error hbuilt.built hfailed
      refine ⟨fun hall => hnot ?_, hfault⟩
      have hplaceable := hall.of_append.placeable
      rwa [backlinksOf_append, backlinksOf_singleton] at hplaceable
    · next added hadded => exact ih (link_step hbuilt hforward hadded) h

theorem builtFrom_cleared (collections : Dictionary Collection) :
    BuiltFrom (Dictionary.names collections)
      (Dictionary.mapValues Collection.withoutReverse collections) [] := by
  refine ⟨fun _ h => absurd h List.not_mem_nil, Dictionary.names_mapValues _ _, ?_, ?_⟩
  · intro name collection hfind
    rw [Dictionary.find?_mapValues] at hfind
    obtain ⟨stored, _, rfl⟩ := Option.map_eq_some_iff.1 hfind
    rfl
  · exact ⟨fun _ h => absurd h List.not_mem_nil, fun _ _ => List.nodup_nil⟩

theorem same_cleared (collections : Dictionary Collection) :
    SameButReverse (Dictionary.mapValues Collection.withoutReverse collections) collections := by
  rw [SameButReverse, Dictionary.mapValues_mapValues]
  rfl

theorem finish_same (registry : Registry) :
    SameButReverse registry.finish.1.collections registry.collections := by
  have hlink := link_same (Dictionary.mapValues Collection.withoutReverse registry.collections)
    (Dictionary.values (Dictionary.mapValues Collection.withoutReverse registry.collections))
  have hcleared := same_cleared registry.collections
  simp only [finish]
  split <;> next hresult => rw [hresult] at hlink; exact hlink.trans hcleared

theorem linkableAmong_cleared (collections : Dictionary Collection) :
    LinkableAmong (Dictionary.names collections)
        (Dictionary.values (Dictionary.mapValues Collection.withoutReverse collections))
      ↔ Linkable collections := by
  have hsame := (same_cleared collections).relationships_eq
  rw [← names_congr hsame]
  constructor
  · intro h
    exact Linkable.congr hsame ⟨h.forward, h.placeable.targets, h.placeable.distinct⟩
  · intro h
    have hcleared := Linkable.congr hsame.symm h
    exact ⟨hcleared.forward, hcleared.targets, hcleared.reverse⟩

theorem finish_ok {registry : Registry} (h : registry.finish.2 = .ok ()) :
    Linkable registry.collections ∧ registry.finish.1.initialized = true
      ∧ ∀ name collection, Dictionary.find? name registry.finish.1.collections = some collection →
          collection.reverse = registry.scan name := by
  have hsame := (same_cleared registry.collections).relationships_eq
  simp only [finish] at h ⊢
  split at h
  · cases h
  next next hlink =>
  have hbuilt := link_ok (builtFrom_cleared registry.collections) hlink
  refine ⟨(linkableAmong_cleared _).1 hbuilt.linkableAmong, rfl, fun name collection hfind => ?_⟩
  rw [← reverseOf_eq_scan, ← reverseOf_congr hsame]
  exact hbuilt.built.shown name collection hfind

theorem finish_error {registry : Registry} (h : registry.finish.2 = .error error) :
    ¬Linkable registry.collections ∧ registry.finish.1.initialized = registry.initialized
      ∧ IsLinkFault error := by
  simp only [finish] at h ⊢
  split at h
  · next fault hlink =>
    cases h
    obtain ⟨hnot, hfault⟩ := link_error (builtFrom_cleared registry.collections) hlink
    exact ⟨fun hall => hnot ((linkableAmong_cleared _).2 hall), rfl, hfault⟩
  · cases h

theorem finish_eq_ok_iff (registry : Registry) :
    registry.finish.2 = .ok () ↔ Linkable registry.collections := by
  refine ⟨fun h => (finish_ok h).1, fun h => ?_⟩
  cases hresult : registry.finish.2 with
  | ok => rfl
  | error fault => exact absurd h (finish_error hresult).1

theorem scan_congr {registry other : Registry}
    (h : Dictionary.mapValues (·.relationships) other.collections
      = Dictionary.mapValues (·.relationships) registry.collections) (name : String) :
    other.scan name = registry.scan name := by
  rw [← reverseOf_eq_scan, reverseOf_congr h, reverseOf_eq_scan]

theorem reverse_finish {registry : Registry} (h : registry.finish.2 = .ok ()) (name : String) :
    (Dictionary.find? name registry.finish.1.collections).map (·.reverse)
      = if name ∈ registry.names then some (registry.scan name) else none := by
  have hnames : Dictionary.names registry.finish.1.collections = registry.names :=
    (finish_same registry).names_eq
  cases hfind : Dictionary.find? name registry.finish.1.collections with
  | none =>
    rw [Dictionary.find?_eq_none_iff, hnames] at hfind
    rw [if_neg hfind]
    rfl
  | some collection =>
    have hname := Dictionary.mem_names_of_mem (Dictionary.mem_of_find? hfind)
    rw [hnames] at hname
    rw [if_pos hname, Option.map_some, (finish_ok h).2.2 name collection hfind]

/-- Finishing works exactly when no forward alias comes twice on a collection, every relationship
points at collections that exist, and the scan gives no collection an alias twice. Then every
collection shows what the scan gives for it, which depends on nothing but the names and the
relationships. A failure leaves the flag as it was, and either way nothing but the reverse
relationships changes. -/
theorem finish_exact (registry : Registry) :
    (registry.finish.2 = .ok ()
      ↔ (∀ collection ∈ Dictionary.values registry.collections, collection.forwardAliases.Nodup)
        ∧ (∀ collection ∈ Dictionary.values registry.collections,
            ∀ relationship ∈ collection.relationships,
              ∀ name ∈ relationship.ends, name ∈ registry.names)
        ∧ ∀ name ∈ registry.names, (Dictionary.names (registry.scan name)).Nodup)
    ∧ (registry.finish.2 = .ok () →
        registry.finish.1.initialized = true
        ∧ (∀ name collection,
            Dictionary.find? name registry.finish.1.collections = some collection →
              collection.reverse = registry.scan name)
        ∧ ∀ other : Registry,
            Dictionary.mapValues (·.relationships) other.collections
                = Dictionary.mapValues (·.relationships) registry.collections →
              other.finish.2 = .ok ()
              ∧ ∀ name, (Dictionary.find? name other.finish.1.collections).map (·.reverse)
                  = (Dictionary.find? name registry.finish.1.collections).map (·.reverse))
    ∧ (∀ error, registry.finish.2 = .error error →
        registry.finish.1.initialized = registry.initialized
        ∧ (error.className = "SchemaDefinitionError" ∨ error.className = "UnknownCollectionError"))
    ∧ SameButReverse registry.finish.1.collections registry.collections := by
  refine ⟨(finish_eq_ok_iff registry).trans (linkable_iff registry), fun h => ?_, fun error h => ?_,
    finish_same registry⟩
  · obtain ⟨hlinkable, hflag, hshown⟩ := finish_ok h
    refine ⟨hflag, hshown, fun other hsame => ?_⟩
    have hother : other.finish.2 = .ok () :=
      (finish_eq_ok_iff other).2 (Linkable.congr hsame.symm hlinkable)
    have hnames : other.names = registry.names := names_congr hsame
    refine ⟨hother, fun name => ?_⟩
    rw [reverse_finish hother, reverse_finish h, hnames, scan_congr hsame]
  · obtain ⟨-, hflag, hfault⟩ := finish_error h
    refine ⟨hflag, ?_⟩
    cases hfault with
    | unknown name available => exact .inr rfl
    | repeated collection reason => exact .inl rfl

end Registry

end StorageTypes
