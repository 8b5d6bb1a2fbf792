/-
What merging leaves of the nodes of a text.

* `Node.Becomes`, `Graph.Becomes`: the nodes are of the same kind as before, or text, and all but
  the entries of mappings stay.
* `Graph.flatten_ends`: merging ends with a fault of the notation, or with such nodes.
-/
import WidgetContracts.Markup.Merge
import WidgetContracts.Proofs.Markup.Outcomes

namespace WidgetContracts.Markup

/-! ### What nodes may become -/

/-- What a node may become when mappings are merged: its kind stays, or it is text, and only the
entries of mappings may be others. -/
inductive Node.Becomes : Node → Node → Prop where
  | scalar {k k' : Kind} {c : Content} (kind : k' = k ∨ k' = .str) :
      Becomes (.scalar k c) (.scalar k' c)
  | list {k k' : Kind} {items : List Nat} (kind : k' = k ∨ k' = .str) :
      Becomes (.list k items) (.list k' items)
  | map {k k' : Kind} {es es' : List (Nat × Nat)} (kind : k' = k ∨ k' = .str) :
      Becomes (.map k es) (.map k' es')

namespace Node.Becomes

/-- A node may stay as it is. -/
lemma refl (n : Node) : n.Becomes n := by
  cases n with
  | scalar => exact .scalar (.inl rfl)
  | list => exact .list (.inl rfl)
  | map => exact .map (.inl rfl)

/-- Changes may follow one another: what has become text stays text. -/
lemma trans {n n' n'' : Node} (h : n.Becomes n') (h' : n'.Becomes n'') : n.Becomes n'' := by
  have hkind : ∀ {k k' k'' : Kind}, k' = k ∨ k' = .str → k'' = k' ∨ k'' = .str →
      k'' = k ∨ k'' = .str := by
    rintro k k' k'' h (rfl | rfl)
    · exact h
    · exact .inr rfl
  cases h with
  | scalar hk => cases h' with | scalar hk' => exact .scalar (hkind hk hk')
  | list hk => cases h' with | list hk' => exact .list (hkind hk hk')
  | map hk => cases h' with | map hk' => exact .map (hkind hk hk')

/-- A node may become text. -/
lemma withKind (n : Node) : n.Becomes (n.withKind .str) := by
  cases n with
  | scalar => exact .scalar (.inr rfl)
  | list => exact .list (.inr rfl)
  | map => exact .map (.inr rfl)

/-- A kind other than text was the kind before. -/
lemma kind_eq {n n' : Node} (h : n.Becomes n') (hstr : n'.kind ≠ .str) : n.kind = n'.kind := by
  cases h with
  | scalar hk | list hk | map hk => exact (hk.resolve_right hstr).symm

end Node.Becomes

/-- Whether a node is a mapping. -/
def Node.IsMap (n : Node) : Prop := ∃ k es, n = .map k es

/-- A mapping stays a mapping, also as text. -/
lemma Node.Becomes.isMap {n n' : Node} (h : n.Becomes n') (hn : n.IsMap) : n'.IsMap := by
  obtain ⟨k, es, rfl⟩ := hn
  cases h with
  | map => exact ⟨_, _, rfl⟩

namespace Graph

/-- What the nodes of a text may become when mappings are merged. -/
def Becomes (g g' : Graph) : Prop := ∀ i, (g.node i).Becomes (g'.node i)

lemma Becomes.refl (g : Graph) : g.Becomes g := fun _ => .refl _

lemma Becomes.trans {g g' g'' : Graph} (h : g.Becomes g') (h' : g'.Becomes g'') : g.Becomes g'' :=
  fun i => (h i).trans (h' i)

/-- Nodes become others when one of them does, wherever its number lies. -/
lemma becomes_setIfInBounds (g : Graph) (i : Nat) {n : Node} (h : (g.node i).Becomes n) :
    g.Becomes (g.setIfInBounds i n) := by
  intro j
  rw [node, node, Array.getElem?_setIfInBounds]
  split
  · next heq =>
      subst heq
      split
      · exact h
      · next hsize =>
          rw [Array.getElem?_eq_none (Nat.le_of_not_lt hsize)]
          exact .refl _
  · exact .refl _

/-- A mapping may be given any entries. -/
lemma becomes_withEntries {g : Graph} {i : Nat} (h : (g.node i).IsMap) (es : List (Nat × Nat)) :
    g.Becomes (g.withEntries i es) := by
  refine becomes_setIfInBounds g i ?_
  obtain ⟨k, es', heq⟩ := h
  rw [heq]
  exact .map (.inl rfl)

/-- A key that could stand for a whole mapping becomes text. -/
lemma becomes_asKey (g : Graph) (key : Nat) : g.Becomes (g.asKey key) := by
  rw [asKey]
  split
  · exact becomes_setIfInBounds g key (.withKind _)
  · exact .refl g

lemma becomes_foldl_asKey (es : List (Nat × Nat)) (g : Graph) :
    g.Becomes (es.foldl (fun g e => g.asKey e.1) g) := by
  induction es generalizing g with
  | nil => exact .refl g
  | cons e r ih => exact (becomes_asKey g e.1).trans (ih _)

/-! ### Merging -/

section

variable {flat : Nat → Graph → Except Fault Graph}
  (hflat : ∀ i g, (g.node i).IsMap → EndsIn (· = .malformed) g.Becomes (flat i g))

include hflat

/-- If merging one mapping leaves such nodes, so does gathering the entries of several, each of
which must be a mapping. -/
lemma offeredBy_ends (is : List Nat) (g : Graph) :
    EndsIn (· = .malformed) (fun p => g.Becomes p.2) (offeredBy flat is g) := by
  induction is generalizing g with
  | nil => exact .refl g
  | cons i r ih =>
      rw [offeredBy]
      split
      · next heq =>
          refine (hflat i g ⟨_, _, heq⟩).bind fun g' hg' => ?_
          exact (ih g').bind fun p hp => .ok (hg'.trans hp)
      · exact .error rfl

/-- Entries are offered by a mapping, or by a list of mappings; anything else is malformed. -/
lemma offered_ends (i : Nat) (g : Graph) :
    EndsIn (· = .malformed) (fun p => g.Becomes p.2) (offered flat i g) := by
  rw [offered]
  split
  · exact offeredBy_ends hflat [i] g
  · exact offeredBy_ends hflat _ g
  · exact .error rfl

end

/-- Merging ends for any number of requests that are followed. The induction is on this number: a
request taken out leaves a mapping, and those inside it are followed before the next one. -/
lemma flattenFrom_ends (fuel : Nat) (merged : List (Nat × Nat)) (i : Nat) (g : Graph)
    (h : (g.node i).IsMap) : EndsIn (· = .malformed) g.Becomes (flattenFrom fuel merged i g) := by
  induction fuel generalizing merged i g with
  | zero => exact .refl g
  | succ fuel ih =>
      rw [flattenFrom]
      dsimp only
      split
      · have hkeys := becomes_foldl_asKey (g.entries i) g
        exact hkeys.trans (becomes_withEntries ((hkeys i).isMap h) _)
      · have hrest := becomes_withEntries h
        refine (offered_ends (ih []) _ _).bind fun p hp => ?_
        have hp' := (hrest _).trans hp
        exact (ih _ i p.2 ((hp' i).isMap h)).mono (fun _ => id) fun _ => hp'.trans

/-- Merging ends with a fault of the notation, or with what the nodes may become. -/
lemma flatten_ends (requests i : Nat) (g : Graph) (h : (g.node i).IsMap) :
    EndsIn (· = .malformed) g.Becomes (g.flatten requests i) :=
  flattenFrom_ends _ [] i g h

end Graph

end WidgetContracts.Markup
