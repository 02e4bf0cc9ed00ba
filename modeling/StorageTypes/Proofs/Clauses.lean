import StorageTypes.Generation.Declaration

namespace StorageTypes

def Unquoted (aliases : List String) : Prop :=
  ∀ name ∈ aliases, '\'' ∉ name.toList

instance (aliases : List String) : Decidable (Unquoted aliases) :=
  inferInstanceAs (Decidable (∀ name ∈ aliases, '\'' ∉ name.toList))

def offered (aliases : List String) : List Char :=
  aliases.flatMap fun name => '\'' :: (name.toList ++ '\'' :: " | ".toList)

/-- What follows the members in the parameter that selects among them. -/
def selectionEnd : List Char :=
  (noneSelected ++ " = " ++ noneSelected).toList

def reverseClause (reverse : List String) : List Char :=
  if reverse.isEmpty then []
  else (", " ++ reverseParameter ++ " extends ").toList ++ (offered reverse ++ selectionEnd)

variable {aliases others forward reverse : List String} {rest tail : List Char}

theorem toList_aliasUnion (aliases : List String) :
    (aliasUnion aliases).toList = offered aliases ++ noneSelected.toList := by
  simp only [aliasUnion, Text.join, String.toList_ofList]
  induction aliases with
  | nil => rfl
  | cons first more ih =>
    rw [List.map_cons, List.cons_append, List.map_cons, Text.glue_cons _ (by simp), ih]
    simp [offered, String.toList_append]

theorem offered_append_inj (haliases : Unquoted aliases) (hothers : Unquoted others)
    (hrest : rest.head? ≠ some '\'') (htail : tail.head? ≠ some '\'')
    (h : offered aliases ++ rest = offered others ++ tail) : aliases = others ∧ rest = tail := by
  induction aliases generalizing others with
  | nil =>
    cases others with
    | nil => exact ⟨rfl, h⟩
    | cons other more =>
      have hquote : rest = offered (other :: more) ++ tail := h
      rw [hquote] at hrest
      exact absurd rfl hrest
  | cons first more ih =>
    cases others with
    | nil =>
      have hquote : offered (first :: more) ++ rest = tail := h
      rw [← hquote] at htail
      exact absurd rfl htail
    | cons other others =>
      obtain ⟨hfirst, hmore⟩ := List.forall_mem_cons.1 haliases
      obtain ⟨hother, hothers⟩ := List.forall_mem_cons.1 hothers
      simp only [offered, List.flatMap_cons, List.cons_append, List.append_assoc,
        List.cons.injEq, true_and] at h
      obtain ⟨hsame, hafter⟩ := Text.append_mark_inj hfirst hother h
      obtain ⟨rfl, hsame'⟩ := ih hmore hothers (List.append_cancel_left hafter)
      exact ⟨by rw [String.toList_injective hsame], hsame'⟩

theorem toList_typeParameters (optionalKey : Bool) (forward reverse : List String) :
    (typeParameters optionalKey true forward reverse).toList
      = '<' :: ((if optionalKey then (keyParameter ++ " extends boolean = true, ").toList else [])
        ++ ((forwardParameter ++ " extends ").toList
          ++ (offered forward ++ (selectionEnd ++ (reverseClause reverse ++ ['>']))))) := by
  cases optionalKey <;> cases hreverse : reverse.isEmpty <;>
    simp [typeParameters, parameterList, reverseClause, hreverse, Text.join, Text.glue,
      toList_aliasUnion, selectionEnd, String.toList_append]

theorem head?_selectionEnd (tail : List Char) : (selectionEnd ++ tail).head? ≠ some '\'' := by
  simp [selectionEnd, noneSelected]

theorem reverseClause_inj (hreverse : Unquoted reverse) (hothers : Unquoted others)
    (h : reverseClause reverse ++ ['>'] = reverseClause others ++ ['>']) : reverse = others := by
  cases reverse with
  | nil =>
    cases others with
    | nil => rfl
    | cons other more => simp [reverseClause, String.toList_append] at h
  | cons first rest =>
    cases others with
    | nil => simp [reverseClause, String.toList_append] at h
    | cons other more =>
      simp only [reverseClause, List.isEmpty_cons, Bool.false_eq_true, if_false,
        List.append_assoc] at h
      have hselections := List.append_cancel_left h
      exact (offered_append_inj hreverse hothers (head?_selectionEnd _) (head?_selectionEnd _)
        hselections).1

variable {collection other : Collection} {options otherOptions : Options}
  {otherForward otherReverse : List String}

/-- Clauses that are equal offer the same aliases in either direction, and the same choice of the
key. -/
theorem clause_decodes
    (hcollection : collection.hasRelationships = true) (hother : other.hasRelationships = true)
    (hforward : Unquoted forward) (hreverse : Unquoted reverse)
    (hotherForward : Unquoted otherForward) (hotherReverse : Unquoted otherReverse)
    (h : typeParameters options.optionalKey collection.hasRelationships forward reverse
      = typeParameters otherOptions.optionalKey other.hasRelationships otherForward otherReverse) :
    options.optionalKey = otherOptions.optionalKey ∧ forward = otherForward
      ∧ reverse = otherReverse := by
  have hclause := congrArg String.toList h
  rw [hcollection, hother, toList_typeParameters, toList_typeParameters] at hclause
  have hbody := (List.cons.inj hclause).2
  have hkey : options.optionalKey = otherOptions.optionalKey := by
    have hfirst := congrArg List.head? hbody
    revert hfirst
    cases options.optionalKey <;> cases otherOptions.optionalKey <;>
      simp [keyParameter, forwardParameter]
  rw [hkey] at hbody
  have hselections := List.append_cancel_left (List.append_cancel_left hbody)
  obtain ⟨hforwards, hends⟩ := offered_append_inj hforward hotherForward (head?_selectionEnd _)
    (head?_selectionEnd _) hselections
  exact ⟨hkey, hforwards, reverseClause_inj hreverse hotherReverse (List.append_cancel_left hends)⟩

/-- Aliases that look like parts of a clause. -/
def lookalikes : List String :=
  ["", "null", " | ", ", ReverseRelationships extends ", ">"]

def labelJunction : Connects :=
  ⟨"note", "tag", "note", "tag", "label"⟩

def labelCollection : Collection :=
  { name := "label", relationships := [.connects labelJunction] }

def tagCollection : Collection :=
  { name := "tag", reverse := [("notes", .connects labelJunction)] }

def labelOptions : Options := { collections := ["label"] }

def tagOptions : Options := { collections := ["tag"], strategy := .text }

theorem lookalikes_decode :
    labelCollection.hasRelationships = true ∧ tagCollection.hasRelationships = true
      ∧ Unquoted lookalikes ∧ Unquoted []
      ∧ typeParameters labelOptions.optionalKey labelCollection.hasRelationships [] lookalikes
        = typeParameters tagOptions.optionalKey tagCollection.hasRelationships []
            (lookalikes.take 2 ++ lookalikes.drop 2)
      ∧ labelOptions.optionalKey = tagOptions.optionalKey
      ∧ lookalikes = lookalikes.take 2 ++ lookalikes.drop 2 := by
  have hlabel : labelCollection.hasRelationships = true := rfl
  have htag : tagCollection.hasRelationships = true := rfl
  have hplain : Unquoted lookalikes := by decide
  have hnone : Unquoted [] := by decide
  have hsame : typeParameters labelOptions.optionalKey labelCollection.hasRelationships [] lookalikes
      = typeParameters tagOptions.optionalKey tagCollection.hasRelationships []
          (lookalikes.take 2 ++ lookalikes.drop 2) := rfl
  obtain ⟨hkey, -, hreverse⟩ := clause_decodes hlabel htag hnone hplain hnone hplain hsame
  exact ⟨hlabel, htag, hplain, hnone, hsame, hkey, hreverse⟩

end StorageTypes
