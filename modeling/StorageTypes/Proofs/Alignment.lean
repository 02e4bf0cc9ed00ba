import StorageTypes.ImportPath.Layout
import StorageTypes.Proofs.Quoting

namespace StorageTypes.ImportPath

variable {a b s t : List Char} {f g content : List Char → List Char}

inductive Writing : (List Char → List Char) → Prop where
  | plain : Writing fun name => name
  | quoted {shown : Char → Bool} (hsingle : shown '\'' = true) (hdouble : shown '"' = true)
      (hletter : shown 'x' = true) : Writing (Text.quotedBy shown)

theorem Writing.shorter (h : Writing content) (hab : a <:+: b) :
    (content a).length ≤ (content b).length := by
  cases h with
  | plain => exact hab.length_le
  | quoted hsingle hdouble _ => exact Text.length_quotedBy_le hsingle hdouble hab

theorem Writing.inner (h : Writing content) (hinner : content a <:+: content b) : a <:+: b := by
  cases h with
  | plain => exact hinner
  | quoted => exact Text.infix_of_quotedBy hinner

def cut (places : Option Nat) (text : List Char) : List Char :=
  match places with
  | some places => text.take places
  | none => text

variable {places : Option Nat} {width : Nat}

theorem prefix_cut (places : Option Nat) (text : List Char) : cut places text <+: text := by
  cases places with
  | none => exact List.prefix_refl text
  | some count => exact List.take_prefix count text

theorem length_cut_le (h : s.length ≤ t.length) : (cut places s).length ≤ (cut places t).length := by
  cases places with
  | none => exact h
  | some count =>
    simp only [cut, List.length_take]
    omega

theorem cut_eq_of_lt (h : (cut places s).length < (cut places t).length) : cut places s = s := by
  cases places with
  | none => rfl
  | some count =>
    simp only [cut, List.length_take] at h
    apply List.take_of_length_le
    omega

namespace Layout

def leading (layout : Layout) (missing : Nat) : Nat :=
  match layout.side with
  | .right => missing
  | .middle => missing / 2
  | _ => 0

theorem leading_le (layout : Layout) (missing : Nat) : layout.leading missing ≤ missing := by
  rw [leading]
  split
  · exact Nat.le_refl _
  · exact Nat.div_le_self _ _
  · exact Nat.zero_le _

def missing (layout : Layout) (text : List Char) : Nat :=
  layout.width.getD 0 - (cut layout.places text).length

theorem apply_eq (layout : Layout) (text : List Char) :
    layout.apply text
      = List.replicate (layout.leading (layout.missing text)) layout.fill ++ cut layout.places text
        ++ List.replicate (layout.missing text - layout.leading (layout.missing text)) layout.fill := rfl

theorem length_apply (layout : Layout) (text : List Char) :
    (layout.apply text).length = max (layout.width.getD 0) (cut layout.places text).length := by
  have hleading := layout.leading_le (layout.missing text)
  rw [apply_eq]
  simp only [List.length_append, List.length_replicate]
  rw [missing] at hleading ⊢
  omega

theorem cut_infix_apply (layout : Layout) (text : List Char) :
    cut layout.places text <:+: layout.apply text :=
  ⟨_, _, rfl⟩

theorem apply_of_wide (layout : Layout) {text : List Char}
    (h : layout.width.getD 0 ≤ (cut layout.places text).length) :
    layout.apply text = cut layout.places text := by
  have hmissing : layout.missing text = 0 := Nat.sub_eq_zero_of_le h
  have hleading : layout.leading 0 = 0 := Nat.le_zero.1 (layout.leading_le 0)
  rw [apply_eq, hmissing, hleading, Nat.sub_self, List.replicate_zero, List.nil_append, List.append_nil]

end Layout

/-- Texts of names, laid out with the same width and the same places for all names. -/
def LaidOut (content f : List Char → List Char) (width : Nat) (places : Option Nat) : Prop :=
  ∀ name, ∃ layout : Layout,
    layout.width.getD 0 = width ∧ layout.places = places ∧ f name = layout.apply (content name)

theorem LaidOut.length_eq (h : LaidOut content f width places) (name : List Char) :
    (f name).length = max width (cut places (content name)).length := by
  obtain ⟨layout, rfl, rfl, happly⟩ := h name
  rw [happly, layout.length_apply]

theorem LaidOut.infix_cut (h : LaidOut content f width places) (name : List Char) :
    cut places (content name) <:+: f name := by
  obtain ⟨layout, rfl, rfl, happly⟩ := h name
  rw [happly]
  exact layout.cut_infix_apply _

theorem LaidOut.eq_cut (h : LaidOut content f width places) {name : List Char}
    (hwide : width < (f name).length) : f name = cut places (content name) := by
  have hlength := h.length_eq name
  obtain ⟨layout, rfl, rfl, happly⟩ := h name
  rw [happly]
  apply layout.apply_of_wide
  omega

/-- Texts of names that grow with the name and keep their place: where two of them begin the same way,
they are equal or one name is a part of the other. -/
structure Aligned (f : List Char → List Char) : Prop where
  shorter : ∀ a b, a <:+: b → (f a).length ≤ (f b).length
  together : ∀ a b s t, f a ++ s = f b ++ t → f a = f b ∨ a <:+: b ∨ b <:+: a

theorem LaidOut.infix_of_shorter (h : LaidOut content f width places) (hwriting : Writing content)
    (hless : (f a).length < (f b).length) (hstart : f a <+: f b) : a <:+: b := by
  have hfirst := h.length_eq a
  have hwide : width < (f b).length := by omega
  have hcut := h.eq_cut hwide
  have hfewer : (cut places (content a)).length < (cut places (content b)).length := by
    rw [hcut] at hless
    omega
  have hwhole : cut places (content a) = content a := cut_eq_of_lt hfewer
  have hinner : content a <:+: content b :=
    calc
      content a = cut places (content a) := hwhole.symm
      _ <:+: f a := h.infix_cut a
      _ <:+: f b := hstart.isInfix
      _ = cut places (content b) := hcut
      _ <:+: content b := (prefix_cut places (content b)).isInfix
  exact hwriting.inner hinner

theorem LaidOut.aligned (h : LaidOut content f width places) (hwriting : Writing content) :
    Aligned f := by
  constructor
  case shorter =>
    intro a b hab
    have hcut : (cut places (content a)).length ≤ (cut places (content b)).length :=
      length_cut_le (hwriting.shorter hab)
    rw [h.length_eq, h.length_eq]
    omega
  case together =>
    intro a b s t hsame
    have hfirst : f a <+: f a ++ s := List.prefix_append _ _
    have hsecond : f b <+: f a ++ s := hsame ▸ List.prefix_append _ _
    rcases Nat.lt_trichotomy (f a).length (f b).length with hless | heq | hless
    · exact .inr (.inl (h.infix_of_shorter hwriting hless
        (List.prefix_of_prefix_length_le hfirst hsecond (Nat.le_of_lt hless))))
    · exact .inl (List.append_inj hsame heq).1
    · exact .inr (.inr (h.infix_of_shorter hwriting hless
        (List.prefix_of_prefix_length_le hsecond hfirst (Nat.le_of_lt hless))))

namespace Aligned

theorem fixed (text : List Char) : Aligned fun _ => text :=
  ⟨fun _ _ _ => Nat.le_refl _, fun _ _ _ _ _ => .inl rfl⟩

theorem append (hf : Aligned f) (hg : Aligned g) : Aligned fun name => f name ++ g name := by
  constructor
  case shorter =>
    intro a b hab
    simp only [List.length_append]
    exact Nat.add_le_add (hf.shorter a b hab) (hg.shorter a b hab)
  case together =>
    intro a b s t hsame
    rw [List.append_assoc, List.append_assoc] at hsame
    rcases hf.together a b _ _ hsame with hfirst | hpart
    · rw [hfirst] at hsame ⊢
      rcases hg.together a b s t (List.append_cancel_left hsame) with hsecond | hpart
      · exact .inl (congrArg _ hsecond)
      · exact .inr hpart
    · exact .inr hpart

theorem eq_of_infix {before after : List Char → List Char} (hbefore : Aligned before) (hf : Aligned f)
    (hafter : Aligned after) (hapart : Function.Injective f)
    (hsame : before a ++ (f a ++ after a) = before b ++ (f b ++ after b)) (hab : a <:+: b) : a = b := by
  have hlength := congrArg List.length hsame
  simp only [List.length_append] at hlength
  have h₁ := hbefore.shorter a b hab
  have h₂ := hf.shorter a b hab
  have h₃ := hafter.shorter a b hab
  have hrest := (List.append_inj hsame (by omega)).2
  exact hapart (List.append_inj hrest (by omega)).1

/-- Texts side by side tell all names apart if one of them does. -/
theorem injective {before after : List Char → List Char} (hbefore : Aligned before) (hf : Aligned f)
    (hafter : Aligned after) (hapart : Function.Injective f) :
    Function.Injective fun name => before name ++ (f name ++ after name) := by
  intro a b hsame
  replace hsame : before a ++ (f a ++ after a) = before b ++ (f b ++ after b) := hsame
  have hpart {a b : List Char}
      (hsame : before a ++ (f a ++ after a) = before b ++ (f b ++ after b)) (hab : a <:+: b) : a = b :=
    eq_of_infix hbefore hf hafter hapart hsame hab
  rcases hbefore.together a b _ _ hsame with hfirst | hab | hba
  · have hrest : f a ++ after a = f b ++ after b := by
      rw [hfirst] at hsame
      exact List.append_cancel_left hsame
    rcases hf.together a b _ _ hrest with heq | hab | hba
    · exact hapart heq
    · exact hpart hsame hab
    · exact (hpart hsame.symm hba).symm
  · exact hpart hsame hab
  · exact (hpart hsame.symm hba).symm

end Aligned

end StorageTypes.ImportPath
