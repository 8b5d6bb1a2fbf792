/-
How the reading of nodes from tokens ends.

* `Token.opens`: whether a token leads into a list or mapping, or to one of its parts.
* `IsNodeFault`: the faults with which the nodes of tokens end where some room for nesting is left.
* `Reads`: a reader ends with such a fault, or goes on with a part of the tokens;
  `Reader.reads_then`: one reader after another; `Reader.reads_of_next`: a reader behind a token
  that leads deeper.
* `Reader.Sound`: all readers of nodes do so with some fuel; `Reader.sound`: with any fuel.
* `Graph.ofTokens?_ends`: how the nodes of all tokens of a text end.
-/
import Mathlib.Data.List.Infix
import WidgetContracts.Markup.Node
import WidgetContracts.Proofs.Markup.Outcomes

namespace WidgetContracts.Markup

/-- Whether a token leads into a list or mapping, or to one of its parts. -/
def Token.opens : Token → Bool
  | .sequenceStart | .mappingStart | .flowSequenceStart | .flowMappingStart | .entry | .key => true
  | _ => false

/-- The faults with which the nodes of tokens end where others may stand `room` deep inside: those
of the notation, one with which the tokens break off, and nesting too deep, for which there are
enough tokens that lead deeper. -/
def IsNodeFault (ts : List Token) (room : Nat) (fault : Fault) : Prop :=
  fault = .malformed ∨ .broken fault ∈ ts ∨ fault = .tooDeep ∧ room ≤ ts.countP Token.opens

namespace IsNodeFault

variable {ts ts' : List Token} {room room' : Nat} {fault : Fault}

/-- A fault of some tokens is one of more tokens, since these hold at least as many that lead
deeper. -/
lemma of_suffix (hts : ts' <:+ ts) (h : IsNodeFault ts' room fault) :
    IsNodeFault ts room fault := by
  rcases h with h | h | ⟨h, hroom⟩
  · exact .inl h
  · exact .inr (.inl (hts.subset h))
  · exact .inr (.inr ⟨h, hroom.trans (hts.sublist.countP_le)⟩)

/-- A fault where there is more room is one where there is less. -/
lemma of_le (hroom : room ≤ room') (h : IsNodeFault ts room' fault) :
    IsNodeFault ts room fault := by
  rcases h with h | h | ⟨h, hroom'⟩
  · exact .inl h
  · exact .inr (.inl h)
  · exact .inr (.inr ⟨h, hroom.trans hroom'⟩)

/-- Behind a token that leads deeper there is less room. -/
lemma cons {t : Token} (ht : t.opens = true) (h : IsNodeFault ts room fault) :
    IsNodeFault (t :: ts) (room + 1) fault := by
  rcases h with h | h | ⟨h, hroom⟩
  · exact .inl h
  · exact .inr (.inl (List.mem_cons_of_mem t h))
  · refine .inr (.inr ⟨h, ?_⟩)
    rw [List.countP_cons_of_pos ht]
    exact Nat.succ_le_succ hroom

end IsNodeFault

/-- A result after which a part of the tokens is left. -/
def Leaves {α : Type} (ts : List Token) (p : α × Reader) : Prop := p.2.tokens <:+ ts

/-- A reader ends with a fault of the nodes of tokens, or goes on with a part of the tokens. -/
abbrev Reads {α : Type} (ts : List Token) (room : Nat) (x : Except Fault (α × Reader)) : Prop :=
  EndsIn (IsNodeFault ts room) (Leaves ts) x

namespace Reader

variable {α β : Type} {handles : List (String × String)} {r : Reader} {room : Nat}

/-- A token that may not stand here is a fault of the notation, or it is the fault with which the
tokens break off. -/
lemma isNodeFault_unexpected (r : Reader) (room : Nat) :
    IsNodeFault r.tokens room r.unexpected := by
  rw [unexpected]
  split
  · next heq =>
      rw [heq]
      exact .inr (.inl List.mem_cons_self)
  · exact .inl rfl

lemma next_suffix (r : Reader) : r.next.tokens <:+ r.tokens := List.drop_suffix 1 r.tokens

/-- The tokens after a comma, which stands in front of all parts but the first. -/
lemma comma_suffix (r : Reader) (first : Bool) :
    (if first then r else r.next).tokens <:+ r.tokens := by
  split
  · exact List.suffix_rfl
  · exact r.next_suffix

/-! ### Readers put together -/

/-- A reader that goes on with a part of the tokens. -/
lemma reads_of_suffix {x : Except Fault (α × Reader)} {ts ts' : List Token} (hts : ts' <:+ ts)
    (h : Reads ts' room x) : Reads ts room x :=
  h.mono (fun _ => .of_suffix hts) fun _ hr => hr.trans hts

/-- One reader after another. -/
lemma reads_then {x : Except Fault (α × Reader)} {f : α × Reader → Except Fault (β × Reader)}
    {ts : List Token} (hx : Reads ts room x) (hf : ∀ p, Reads p.2.tokens room (f p)) :
    Reads ts room (x >>= f) :=
  hx.bind fun p hp => reads_of_suffix hp (hf p)

/-- What goes wrong behind a token that leads deeper goes wrong in front of it. -/
lemma isNodeFault_of_next {t : Token} {ts : List Token} (htokens : r.tokens = t :: ts)
    (ht : t.opens = true) {room' : Nat} (hroom : room ≤ room' + 1) (fault : Fault)
    (h : IsNodeFault r.next.tokens room' fault) : IsNodeFault r.tokens room fault := by
  have hnext : r.next.tokens = ts := by rw [next, htokens, List.drop_one, List.tail_cons]
  rw [hnext] at h
  rw [htokens]
  exact (h.cons ht).of_le hroom

/-- A reader that goes on behind a token which leads deeper. -/
lemma reads_of_next {x : Except Fault (α × Reader)} {t : Token} {ts : List Token}
    (htokens : r.tokens = t :: ts) (ht : t.opens = true) {room' : Nat} (hroom : room ≤ room' + 1)
    (h : Reads r.next.tokens room' x) : Reads r.tokens room x :=
  h.mono (isNodeFault_of_next htokens ht hroom) fun _ hp => hp.trans r.next_suffix

/-! ### Properties and parts -/

lemma name_tokens (ps : Properties) (i : Nat) (r : Reader) : (r.name ps i).tokens = r.tokens := by
  rw [name]
  split
  · rfl
  · rfl

lemma addressOf_ends {E : Fault → Prop} (hE : E .malformed) (handle : Option String)
    (suffix : String) : EndsIn E (fun _ => True) (addressOf handles handle suffix) := by
  cases handle with
  | none => trivial
  | some h =>
      rw [addressOf]
      split
      · trivial
      · exact hE

/-- The properties of a node stand in front of it, in either order; the handle of a tag must be
known. -/
lemma properties_ends (r : Reader) :
    Reads r.tokens room (r.properties handles) := by
  -- where a tag is given, its address may fail; the tokens behind name and tag are left
  have hleft : ∀ (n : Option String) h s ts, ts <:+ r.tokens →
      Reads r.tokens room (do
        let address ← addressOf handles h s
        return ((⟨n, some address⟩ : Properties), { r with tokens := ts })) :=
    fun n h s ts hts => (addressOf_ends (.inl rfl) h s).bind fun _ _ => .ok hts
  rw [properties]
  split
  · next heq => exact hleft _ _ _ _ ⟨[_, _], heq.symm⟩
  · next heq => exact .ok ⟨[_], heq.symm⟩
  · next heq => exact hleft _ _ _ _ ⟨[_, _], heq.symm⟩
  · next heq =>
      refine .error (.inr (.inl ?_))
      rw [heq]
      exact List.mem_cons_of_mem _ List.mem_cons_self
  · next heq => exact hleft _ _ _ _ ⟨[_], heq.symm⟩
  · exact .ok List.suffix_rfl

/-- A name that is given twice is a fault of the notation. -/
lemma checkName_ends {E : Fault → Prop} (hE : E .malformed) (ps : Properties) (r : Reader) :
    EndsIn E (fun _ => True) (r.checkName ps) := by
  rw [checkName]
  exact .ite hE trivial

/-- A scalar takes no tokens further than those that were passed. -/
lemma scalar_ends {E : Fault → Prop} (hE : E .malformed) (ps : Properties) (kind : Kind)
    (content : Content) (r : Reader) : EndsIn E (Leaves r.tokens) (r.scalar ps kind content) := by
  rw [scalar]
  refine (checkName_ends hE ps r).bind fun _ _ => .ok ?_
  rw [Leaves, name_tokens]

/-- A list ends as the reader of its members does, which starts with the same tokens. -/
lemma list_ends {E : Fault → Prop} (hE : E .malformed) {ps : Properties}
    {read : Reader → Except Fault (List Nat × Reader)} {ts : List Token}
    (hread : ∀ r', r'.tokens = r.tokens → EndsIn E (Leaves ts) (read r')) :
    EndsIn E (Leaves ts) (r.list ps read) := by
  rw [list]
  refine (checkName_ends hE ps r).bind fun _ _ => ?_
  refine (hread _ ?_).bind fun _ hr => .ok hr
  exact name_tokens ps _ _

/-- A mapping ends as the reader of its entries does. -/
lemma map_ends {E : Fault → Prop} (hE : E .malformed) {ps : Properties}
    {read : Reader → Except Fault (List (Nat × Nat) × Reader)} {ts : List Token}
    (hread : ∀ r', r'.tokens = r.tokens → EndsIn E (Leaves ts) (read r')) :
    EndsIn E (Leaves ts) (r.map ps read) := by
  rw [map]
  refine (checkName_ends hE ps r).bind fun _ _ => ?_
  refine (hread _ ?_).bind fun _ hr => .ok hr
  exact name_tokens ps _ _

/-- A node that is no more than its properties is an empty scalar, if it has any. -/
lemma bare_ends (ps : Properties) (r : Reader) :
    Reads r.tokens room (r.bare ps) := by
  rw [bare]
  exact .ite (isNodeFault_unexpected r room) (scalar_ends (.inl rfl) ps _ _ r)

/-! ### Nodes -/

/-- The readers of nodes end with faults of nodes, or go on with a part of the tokens. The members
of a list without indentation leave more room than they are given: each of them stands behind a
token that leads deeper. -/
structure Sound (handles : List (String × String)) (fuel : Nat) : Prop where
  node : ∀ room block indentless r,
    Reads r.tokens room (node handles fuel room block indentless r)
  nodeUnless : ∀ room ends block indentless r,
    Reads r.tokens room (nodeUnless handles fuel room ends block indentless r)
  blockMembers : ∀ room r, Reads r.tokens room (blockMembers handles fuel room r)
  members : ∀ room r, Reads r.tokens (room + 1) (members handles fuel room r)
  entries : ∀ room r, Reads r.tokens room (entries handles fuel room r)
  blockValue : ∀ room r, Reads r.tokens room (blockValue handles fuel room r)
  flowMembers : ∀ room first r, Reads r.tokens room (flowMembers handles fuel room first r)
  flowEntries : ∀ room first r, Reads r.tokens room (flowEntries handles fuel room first r)
  flowValue : ∀ room ends r, Reads r.tokens room (flowValue handles fuel room ends r)

/-- Without fuel every reader ends with the token at which it stands. -/
lemma sound_zero (handles : List (String × String)) : Sound handles 0 := by
  constructor <;> intros <;>
    simp only [node, nodeUnless, blockMembers, members, entries, blockValue, flowMembers,
      flowEntries, flowValue] <;>
    exact .error (isNodeFault_unexpected _ _)

section

variable {fuel : Nat} (h : Sound handles fuel)

include h

/-- A node: if no room is left it nests too deep, and what it consists of is read behind a token
that leads deeper. -/
lemma node_succ (room : Nat) (block indentless : Bool) (r : Reader) :
    Reads r.tokens room (node handles (fuel + 1) room block indentless r) := by
  have hroom : room ≤ room - 1 + 1 := Nat.le_add_of_sub_le (Nat.le_refl _)
  rw [node]
  by_cases hzero : room = 0
  · subst hzero
    exact .error (.inr (.inr ⟨rfl, Nat.zero_le _⟩))
  · rw [if_neg hzero]
    dsimp only
    split
    · split
      · exact .ok r.next_suffix
      · exact .error (.inl rfl)
    · refine (properties_ends r).bind fun p hp => reads_of_suffix hp ?_
      split
      · refine .ite (list_ends (.inl rfl) fun r' hr' => ?_) (bare_ends _ _)
        rw [← hr']
        exact (h.members _ r').mono (fun _ hf => hf.of_le hroom) fun _ => id
      · refine (scalar_ends (.inl rfl) _ _ _ _).mono (fun _ => id) fun _ hr => ?_
        exact hr.trans (next_suffix _)
      · next heq =>
          refine list_ends (.inl rfl) fun r' hr' => reads_of_next heq rfl hroom ?_
          exact hr' ▸ h.flowMembers _ true r'
      · next heq =>
          refine map_ends (.inl rfl) fun r' hr' => reads_of_next heq rfl hroom ?_
          exact hr' ▸ h.flowEntries _ true r'
      · next heq =>
          refine .ite (list_ends (.inl rfl) fun r' hr' => reads_of_next heq rfl hroom ?_)
            (bare_ends _ _)
          exact hr' ▸ h.blockMembers _ r'
      · next heq =>
          refine .ite (map_ends (.inl rfl) fun r' hr' => reads_of_next heq rfl hroom ?_)
            (bare_ends _ _)
          exact hr' ▸ h.entries _ r'
      · exact bare_ends _ _

lemma nodeUnless_succ (room : Nat) (ends : Token → Bool) (block indentless : Bool) (r : Reader) :
    Reads r.tokens room (nodeUnless handles (fuel + 1) room ends block indentless r) := by
  rw [nodeUnless]
  exact .ite (.ok List.suffix_rfl) (h.node room block indentless r)

/-- Members with indentation leave the room that they are given: their list has taken what leads
deeper. -/
lemma blockMembers_succ (room : Nat) (r : Reader) :
    Reads r.tokens room (blockMembers handles (fuel + 1) room r) := by
  rw [blockMembers]
  split
  · have hitem := reads_of_suffix r.next_suffix (h.nodeUnless room endsMember true false r.next)
    exact reads_then hitem fun p =>
      reads_then (h.blockMembers room p.2) fun _ => .ok List.suffix_rfl
  · exact .ok r.next_suffix
  · exact .error (isNodeFault_unexpected r room)

/-- Members without indentation leave one more: their list has no token of its own, but each of them
has its mark. -/
lemma members_succ (room : Nat) (r : Reader) :
    Reads r.tokens (room + 1) (members handles (fuel + 1) room r) := by
  rw [members]
  split
  · next heq =>
      have hitem := reads_of_next heq rfl (Nat.le_refl _) (h.nodeUnless room
        (fun t => endsMember t || endsEntry t) true false r.next)
      exact reads_then hitem fun p => reads_then (h.members room p.2) fun _ => .ok List.suffix_rfl
  · exact .ok List.suffix_rfl

/-- The entries of a mapping with indentation, key and value in turn. -/
lemma entries_succ (room : Nat) (r : Reader) :
    Reads r.tokens room (entries handles (fuel + 1) room r) := by
  rw [entries]
  split
  · have hkey := reads_of_suffix r.next_suffix (h.nodeUnless room endsEntry true true r.next)
    exact reads_then hkey fun p => reads_then (h.blockValue room p.2) fun q =>
      reads_then (h.entries room q.2) fun _ => .ok List.suffix_rfl
  · exact .ok r.next_suffix
  · exact .error (isNodeFault_unexpected r room)

lemma blockValue_succ (room : Nat) (r : Reader) :
    Reads r.tokens room (blockValue handles (fuel + 1) room r) := by
  rw [blockValue]
  split
  · exact reads_of_suffix r.next_suffix (h.nodeUnless _ _ _ _ r.next)
  · exact .ok List.suffix_rfl

lemma flowValue_succ (room : Nat) (ends : Token → Bool) (r : Reader) :
    Reads r.tokens room (flowValue handles (fuel + 1) room ends r) := by
  rw [flowValue]
  split
  · exact reads_of_suffix r.next_suffix (h.nodeUnless _ _ _ _ r.next)
  · exact .ok List.suffix_rfl

/-- Members in brackets. A member may be a mapping of one entry without brackets of its own. -/
lemma flowMembers_succ (room : Nat) (first : Bool) (r : Reader) :
    Reads r.tokens room (flowMembers handles (fuel + 1) room first r) := by
  rw [flowMembers]
  split
  · exact .ok r.next_suffix
  · refine .ite (.error (isNodeFault_unexpected r room)) ?_
    dsimp only
    have hcomma := r.comma_suffix first
    generalize (if first then r else r.next) = r' at hcomma ⊢
    refine reads_of_suffix hcomma ?_
    split
    · exact .ok r'.next_suffix
    · next heq =>
        -- key and value of a mapping of one entry stand one deeper than the members behind it
        have hdeeper := isNodeFault_of_next heq rfl (Nat.le_add_of_sub_le (Nat.le_refl (room - 1)))
        have hkey := h.nodeUnless (room - 1) (fun t => t == .value || endsFlowMember t) false false
          r'.next
        refine (hkey.mono hdeeper fun _ => id).bind fun p hp => ?_
        have hvalue := reads_of_suffix hp (h.flowValue (room - 1) endsFlowMember p.2)
        refine (hvalue.mono hdeeper fun _ => id).bind fun q hq => ?_
        exact reads_of_suffix (hq.trans r'.next_suffix) (reads_then (h.flowMembers room false _)
          fun _ => .ok List.suffix_rfl)
    · exact reads_then (h.node room false false r') fun p =>
        reads_then (h.flowMembers room false p.2) fun _ => .ok List.suffix_rfl
  · exact .error (isNodeFault_unexpected r room)

/-- The entries of a mapping in brackets; a key may stand without a value. -/
lemma flowEntries_succ (room : Nat) (first : Bool) (r : Reader) :
    Reads r.tokens room (flowEntries handles (fuel + 1) room first r) := by
  rw [flowEntries]
  split
  · exact .ok r.next_suffix
  · refine .ite (.error (isNodeFault_unexpected r room)) ?_
    dsimp only
    have hcomma := r.comma_suffix first
    generalize (if first then r else r.next) = r' at hcomma ⊢
    refine reads_of_suffix hcomma ?_
    split
    · exact .ok r'.next_suffix
    · have hkey := reads_of_suffix r'.next_suffix (h.nodeUnless room
        (fun t => t == .value || endsFlowEntry t) false false r'.next)
      exact reads_then hkey fun p => reads_then (h.flowValue room endsFlowEntry p.2) fun q =>
        reads_then (h.flowEntries room false q.2) fun _ => .ok List.suffix_rfl
    · exact reads_then (h.node room false false r') fun p =>
        reads_then (h.flowEntries room false (p.2.add .empty).2) fun _ => .ok List.suffix_rfl
  · exact .error (isNodeFault_unexpected r room)

end

/-- All readers of nodes are sound. -/
theorem sound (handles : List (String × String)) (fuel : Nat) : Sound handles fuel := by
  induction fuel with
  | zero => exact sound_zero handles
  | succ fuel ih =>
      exact ⟨node_succ ih, nodeUnless_succ ih, blockMembers_succ ih, members_succ ih,
        entries_succ ih, blockValue_succ ih, flowMembers_succ ih, flowEntries_succ ih,
        flowValue_succ ih⟩

/-! ### Whole texts -/

/-- Directives are passed over in front of a document. Malformed are a second version, one that is
not known, and a handle that is given twice. -/
lemma directives_ends {E : Fault → Prop} (hE : E .malformed) (version : Bool)
    (handles : List (String × String)) (ts : List Token) :
    EndsIn E (·.2 <:+ ts) (directives version handles ts) := by
  have hcons : ∀ (x : Except Fault (List (String × String) × List Token)) (t : Token) ts,
      EndsIn E (·.2 <:+ ts) x → EndsIn E (·.2 <:+ t :: ts) x :=
    fun _ t ts hx => hx.mono (fun _ => id) fun _ hp => hp.trans (List.suffix_cons t ts)
  fun_induction directives version handles ts with
  | case1 | case3 => exact .error hE
  | case2 _ _ _ _ _ ih => exact hcons _ _ _ ih
  | case4 _ _ _ _ _ _ ih => exact hcons _ _ _ ih
  | case5 _ _ _ ih => exact hcons _ _ _ ih
  | case6 => exact .ok List.suffix_rfl

/-- Behind a document only another one may stand, which is not expected. -/
lemma finish_ends (r : Reader) :
    EndsIn (IsNodeFault r.tokens room) (fun _ => True) r.finish := by
  have hdrop := List.dropWhile_suffix (· == .documentEnd) (l := r.tokens)
  rw [finish]
  split
  · trivial
  · refine (directives_ends (.inl rfl) false [] _).bind fun p hp => .error ?_
    exact (isNodeFault_unexpected _ room).of_suffix (hp.trans hdrop)

lemma document_ends (handles : List (String × String)) (r : Reader) :
    EndsIn (IsNodeFault r.tokens maxDepth) (fun _ => True) (r.document handles) := by
  rw [document]
  refine ((sound handles _).node maxDepth true false r).bind fun p hp => ?_
  exact (finish_ends p.2).mono (fun _ => .of_suffix hp) fun _ => id

lemma markedDocument_ends (handles : List (String × String)) (r : Reader) :
    EndsIn (IsNodeFault r.tokens maxDepth) (fun _ => True) (r.markedDocument handles) := by
  rw [markedDocument]
  exact .ite (finish_ends _) (document_ends handles r)

end Reader

/-- What follows the directives of a text. -/
lemma ends_behind_directives {ts : List Token} {p : List (String × String) × List Token}
    (hp : p.2 <:+ ts) (others : List (String × String)) :
    EndsIn (IsNodeFault ts Reader.maxDepth) (fun _ => True) (match p.2 with
      | .documentStart :: ts => do
        return some (← Reader.markedDocument (p.1 ++ others) ⟨ts, #[], []⟩)
      | ts => throw (Reader.mk ts #[] []).unexpected : Except Fault (Option Graph)) := by
  split
  · next rest heq =>
      have hrest : rest <:+ ts := (List.suffix_cons _ rest).trans (heq ▸ hp)
      refine ((Reader.markedDocument_ends _ _).mono (fun _ => .of_suffix ?_) fun _ => id).bind
        fun _ _ => trivial
      exact hrest
  · exact .error ((Reader.isNodeFault_unexpected _ _).of_suffix hp)

/-- The nodes of tokens end with faults of the notation, with a fault with which the tokens break
off, or with nesting too deep. -/
theorem Graph.ofTokens?_ends (ts : List Token) :
    EndsIn (IsNodeFault ts Reader.maxDepth) (fun _ => True) (Graph.ofTokens? ts) := by
  unfold Graph.ofTokens?
  dsimp only
  split
  · trivial
  · exact (Reader.directives_ends (.inl rfl) false [] _).bind fun _ hp =>
      ends_behind_directives hp _
  · exact (Reader.directives_ends (.inl rfl) false [] _).bind fun _ hp =>
      ends_behind_directives hp _
  · exact (Reader.document_ends _ _).bind fun _ _ => trivial

end WidgetContracts.Markup
