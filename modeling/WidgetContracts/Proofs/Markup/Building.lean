/-
How the building of the document of a text ends.

* `Graph.Valueless`: the faults of the nodes of a text that have no value.
* `Graph.scalar_ends`: the values of nodes after mappings have been merged, told by the nodes from
  before.
* `Builder.run_ends`: what the building of all nodes leaves.
* `Graph.document_ends`: the faults with which the building of a document ends.
-/
import WidgetContracts.Markup.Document
import WidgetContracts.Proofs.Markup.Merging

namespace WidgetContracts.Markup

/-! ### Nodes without a value -/

/-- The faults of the values that nodes of a text do not have: a scalar whose content its kind does
not take; a mapping of such a kind, for which the content of another node stands; a whole mapping
for a day; and mappings that stand for one another. -/
inductive Graph.Valueless (g : Graph) : Fault → Prop where
  | scalar {i : Nat} {k : Kind} {c : Content} {fault : Fault} (node : g.node i = .scalar k c)
      (none : k.scalarOf c = .error fault) : Valueless g fault
  | mapping {i j : Nat} {k k' : Kind} {es : List (Nat × Nat)} {c : Content} {fault : Fault}
      (node : g.node i = .map k es) (content : g.node j = .scalar k' c)
      (none : k.scalarOf c = .error fault) : Valueless g fault
  | day {i : Nat} {es : List (Nat × Nat)} (node : g.node i = .map .timestamp es) :
      Valueless g .mappingForDay
  | circle {i : Nat} (node : (g.node i).kind = .value) : Valueless g .tooDeep

/-- The faults with which the building of a document ends. -/
def Graph.IsBuildFault (g : Graph) (fault : Fault) : Prop :=
  fault = .malformed ∨ g.Valueless fault

/-- All content is text. -/
lemma Kind.exists_scalarOf_str (c : Content) : ∃ s, Kind.str.scalarOf c = .ok s := by
  cases c with
  | text cs => exact ⟨_, rfl⟩
  | loose units => exact ⟨_, rfl⟩

/-- A kind that does not take a content is the kind from before mappings were merged. -/
lemma Kind.eq_of_scalarOf_eq_error {k k' : Kind} {c : Content} {fault : Fault}
    (hkind : k' = k ∨ k' = .str) (h : k'.scalarOf c = .error fault) : k' = k := by
  refine hkind.resolve_right ?_
  rintro rfl
  obtain ⟨s, hs⟩ := exists_scalarOf_str c
  cases h.symm.trans hs

/-! ### The values of nodes -/

namespace Graph

variable {g g' : Graph}

/-- What stands for a node where a scalar is wanted is the content of some node. -/
lemma content_ends (g : Graph) (fuel i : Nat) :
    EndsIn (fun fault => fault = .malformed ∨ fault = .tooDeep ∧
        (fuel = 0 ∨ ∃ j, (g.node j).kind = .value))
      (fun c => ∃ j k, g.node j = .scalar k c) (g.content fuel i) := by
  induction fuel generalizing i with
  | zero => exact .error (.inr ⟨rfl, .inl rfl⟩)
  | succ fuel ih =>
      rw [content]
      split
      · next heq => exact .ok ⟨i, _, heq⟩
      · exact .error (.inl rfl)
      · split
        · next e _ hfind =>
            have hvalue : (g.node e).kind = .value := by
              simpa using List.find?_some hfind
            exact (ih _).mono (fun _ hfault => hfault.imp_right fun h => ⟨h.1, .inr ⟨e, hvalue⟩⟩)
              fun _ => id
        · exact .error (.inl rfl)

/-- A scalar was one with the same content before mappings were merged. -/
lemma Becomes.exists_scalar (h : g.Becomes g') {i : Nat} {k : Kind} {c : Content}
    (hnode : g'.node i = .scalar k c) : ∃ k₀, g.node i = .scalar k₀ c ∧ (k = k₀ ∨ k = .str) := by
  have hi := h i
  rw [hnode] at hi
  generalize g.node i = n at hi
  cases hi with
  | scalar hkind => exact ⟨_, rfl, hkind⟩

/-- A mapping was one before mappings were merged. -/
lemma Becomes.exists_map (h : g.Becomes g') {i : Nat} {k : Kind} {es : List (Nat × Nat)}
    (hnode : g'.node i = .map k es) : ∃ k₀ es₀, g.node i = .map k₀ es₀ ∧ (k = k₀ ∨ k = .str) := by
  have hi := h i
  rw [hnode] at hi
  generalize g.node i = n at hi
  cases hi with
  | map hkind => exact ⟨_, _, rfl, hkind⟩

/-- A mapping that stands for its value did so before mappings were merged. -/
lemma Becomes.isBuildFault_of_content (h : g.Becomes g') {fuel : Nat} {fault : Fault}
    (hfault : fault = .malformed ∨ fault = .tooDeep ∧
      (fuel + 1 = 0 ∨ ∃ j, (g'.node j).kind = .value)) : g.IsBuildFault fault := by
  rcases hfault with hfault | ⟨rfl, hfuel | ⟨j, hj⟩⟩
  · exact .inl hfault
  · cases hfuel
  · have hkind := (h j).kind_eq (by rw [hj]; exact nofun)
    exact .inr (.circle (hkind.trans hj))

/-- The scalar of a node, in whatever merging has made of the nodes of a text. -/
lemma scalar_ends (hbecomes : g.Becomes g') (i : Nat) :
    EndsIn g.IsBuildFault (fun _ => True) (g'.scalar i) := by
  rw [scalar]
  split
  · next k c heq =>
      obtain ⟨k₀, hold, hkind⟩ := hbecomes.exists_scalar heq
      cases hscalar : k.scalarOf c with
      | ok s => trivial
      | error fault =>
          obtain rfl := Kind.eq_of_scalarOf_eq_error hkind hscalar
          exact .error (.inr (.scalar hold hscalar))
  · exact .error (.inl rfl)
  · next k es heq =>
      obtain ⟨k₀, es₀, hold, hkind⟩ := hbecomes.exists_map heq
      refine .ite (.error (.inl rfl)) ?_
      have hcontent := (content_ends g' (g'.size + 1) i).mono
        (fun _ => hbecomes.isBuildFault_of_content) fun _ => id
      refine hcontent.bind fun c ⟨j, k', hc⟩ => ?_
      split
      · next hday =>
          subst hday
          obtain rfl := hkind.resolve_right nofun
          exact .error (.inr (.day hold))
      · cases hscalar : k.scalarOf c with
        | ok s => trivial
        | error fault =>
            obtain rfl := Kind.eq_of_scalarOf_eq_error hkind hscalar
            obtain ⟨_, hc₀, -⟩ := hbecomes.exists_scalar hc
            exact .error (.inr (.mapping hold hc₀ hscalar))

end Graph

/-! ### Building -/

namespace Builder

variable {g : Graph} {b : Builder}

/-- A result with a builder whose nodes are what merging may make of those of a text. -/
def Builds {α : Type} (g : Graph) (p : α × Builder) : Prop := g.Becomes p.2.graph

lemma visit_ends (h : g.Becomes b.graph) (i : Nat) :
    EndsIn g.IsBuildFault (Builds g) (b.visit i) := by
  rw [visit]
  split
  · exact .ok h
  · exact .ok h
  · split
    · exact .ok h
    · exact (Graph.scalar_ends h i).bind fun _ _ => .ok h

lemma visitKey_ends (h : g.Becomes b.graph) (i : Nat) :
    EndsIn g.IsBuildFault (Builds g) (b.visitKey i) := by
  rw [visitKey]
  refine (visit_ends h i).bind fun p hp => ?_
  split
  · exact .ok hp
  · exact .error (.inl rfl)

lemma visitAll_ends (is : List Nat) (h : g.Becomes b.graph) :
    EndsIn g.IsBuildFault (Builds g) (visitAll is b) := by
  induction is generalizing b with
  | nil => exact .ok h
  | cons i r ih =>
      rw [visitAll]
      exact (visit_ends h i).bind fun p hp => (ih hp).bind fun _ hq => .ok hq

lemma visitEntries_ends (es : List (Nat × Nat)) (h : g.Becomes b.graph) :
    EndsIn g.IsBuildFault (Builds g) (visitEntries es b) := by
  induction es generalizing b with
  | nil => exact .ok h
  | cons e r ih =>
      rw [visitEntries]
      exact (visitKey_ends h e.1).bind fun p hp => (visit_ends hp e.2).bind fun q hq =>
        (ih hq).bind fun _ hs => .ok hs

lemma visitPairs_ends (is : List Nat) (h : g.Becomes b.graph) :
    EndsIn g.IsBuildFault (Builds g) (visitPairs is b) := by
  induction is generalizing b with
  | nil => exact .ok h
  | cons i r ih =>
      rw [visitPairs]
      split
      · next k v _ =>
          exact (visit_ends h k).bind fun p hp => (visit_ends hp v).bind fun q hq =>
            (ih hq).bind fun _ hs => .ok hs
      · exact .error (.inl rfl)

lemma mergedEntries_ends (i : Nat) (h : g.Becomes b.graph) :
    EndsIn g.IsBuildFault (Builds g) (b.mergedEntries i) := by
  rw [mergedEntries]
  split
  · next heq =>
      refine ((Graph.flatten_ends b.requests i b.graph ⟨_, _, heq⟩).mono (fun _ => .inl)
        fun _ => id).bind fun g' hg' => ?_
      exact (visitEntries_ends _ (h.trans hg')).bind fun _ hp => .ok hp
  · exact .error (.inl rfl)

lemma fill_ends (i : Nat) (h : g.Becomes b.graph) :
    EndsIn g.IsBuildFault (fun b' => g.Becomes b'.graph) (b.fill i) := by
  rw [fill]
  split
  · exact (visitAll_ends _ h).bind fun _ hp => .ok hp
  · exact (visitPairs_ends _ h).bind fun _ hp => .ok hp
  · exact (visitPairs_ends _ h).bind fun _ hp => .ok hp
  · exact (mergedEntries_ends i h).bind fun _ hp => .ok hp
  · exact (mergedEntries_ends i h).bind fun _ hp => .ok hp
  · exact .error (.inl rfl)

lemma run_ends (fuel : Nat) (now : List Nat) (h : g.Becomes b.graph) :
    EndsIn g.IsBuildFault (fun b' => g.Becomes b'.graph) (run fuel now b) := by
  induction fuel generalizing now b with
  | zero => exact .ok h
  | succ fuel ih =>
      cases now with
      | nil =>
          rw [run]
          exact .ite (.ok h) (ih _ h)
      | cons i r =>
          rw [run]
          exact (fill_ends i h).bind fun _ hb => ih r hb

end Builder

/-- The document of nodes ends with a fault of the notation, or with that of a value which a node
does not have. -/
theorem Graph.document_ends (g : Graph) : EndsIn g.IsBuildFault (fun _ => True) g.document := by
  rw [Graph.document]
  refine (Builder.visit_ends (.refl g) 0).bind fun p hp => ?_
  exact (Builder.run_ends _ [] hp).bind fun _ _ => trivial

end WidgetContracts.Markup
