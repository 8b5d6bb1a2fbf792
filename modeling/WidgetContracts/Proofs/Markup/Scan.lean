/-
How the tokens of a text end.

* `Scan.Sound`: the place and the tokens of a scan that goes on.
* `Scan.token_ends`: what one token leaves; `Scan.step_ends`: what one step leaves.
* `isScanFault_of_broken_mem_tokens`: the faults with which the tokens of a text break off.
-/
import WidgetContracts.Markup.Token.Scan
import WidgetContracts.Proofs.Markup.Scalars
import WidgetContracts.Proofs.Markup.Words

namespace WidgetContracts.Markup

namespace Scan

variable {beyond : Option Fault} {s : Scan}

/-- A place behind whose text the given fault is wrong, with whole tokens so far. -/
structure Sound (beyond : Option Fault) (s : Scan) : Prop where
  stays : s.cursor.beyond = beyond
  whole : ∀ fault, .broken fault ∉ s.tokens

/-! ### Tokens -/

/-- The place may move on in the same text. -/
lemma Sound.moved (h : s.Sound beyond) {c : Cursor} (hc : c.beyond = beyond) :
    Sound beyond { s with cursor := c } :=
  ⟨hc, h.whole⟩

/-- A scan stays sound with one whole token more. -/
lemma Sound.emit (h : s.Sound beyond) {t : Token} (ht : ∀ fault, t ≠ .broken fault) :
    (s.emit t).Sound beyond :=
  ⟨h.stays, fun fault hmem => (List.mem_cons.mp hmem).elim (fun heq => ht fault heq.symm)
    (h.whole fault)⟩

/-- A scan stays sound with a whole token in front of others, as a key is when its colon is met. -/
lemma Sound.insert (h : s.Sound beyond) (before : Nat) {t : Token}
    (ht : ∀ fault, t ≠ .broken fault) : (s.insert before t).Sound beyond := by
  refine ⟨h.stays, fun fault hmem => ?_⟩
  rcases List.mem_append.mp hmem with hmem | hmem
  · exact h.whole fault (List.mem_of_mem_take hmem)
  · rcases List.mem_cons.mp hmem with heq | hmem
    · exact ht fault heq.symm
    · exact h.whole fault (List.mem_of_mem_drop hmem)

/-- A scan stays sound when it passes over `n` characters that are a whole token. -/
lemma Sound.mark (h : s.Sound beyond) (n : Nat) {t : Token} (ht : ∀ fault, t ≠ .broken fault) :
    (s.mark n t).Sound beyond :=
  (h.moved ((s.cursor.advanceBy_beyond n).trans h.stays)).emit ht

/-! ### Keys and indentation -/

/-- Tokens that cannot be keys any more are dropped; one where a key must stand is a fault of the
notation. -/
lemma dropStale_ends (h : s.Sound beyond) :
    EndsIn (IsScanFault beyond) (Sound beyond) s.dropStale := by
  rw [dropStale]
  exact .ite (.inl rfl) ⟨h.stays, h.whole⟩

/-- The one token that might have been a key inside the innermost brackets is dropped likewise. -/
lemma dropKey_ends (h : s.Sound beyond) : EndsIn (IsScanFault beyond) (Sound beyond) s.dropKey := by
  rw [dropKey]
  split
  · exact .ite (.inl rfl) ⟨h.stays, h.whole⟩
  · exact h

/-- A token that may be a key takes the place of another one. -/
lemma saveKey_ends (h : s.Sound beyond) : EndsIn (IsScanFault beyond) (Sound beyond) s.saveKey := by
  rw [saveKey]
  exact .ite ((dropKey_ends h).bind fun _ hs => ⟨hs.stays, hs.whole⟩) h

/-- The end of a block is a whole token, however many blocks end here. -/
lemma Sound.unwindTo (column : Int) (indents : List Int) (h : s.Sound beyond) :
    (unwindTo column indents s).Sound beyond := by
  induction indents generalizing s with
  | nil => exact h
  | cons i r ih =>
      rw [Scan.unwindTo]
      split
      · refine ih (Sound.emit ?_ nofun)
        exact ⟨h.stays, h.whole⟩
      · exact h

lemma Sound.unwind (h : s.Sound beyond) (column : Int) : (s.unwind column).Sound beyond := by
  rw [Scan.unwind]
  split
  · exact h
  · exact h.unwindTo column _

/-- A block begins with a whole token where it is indented more than the blocks around it, and not
at all elsewhere. -/
lemma Sound.openAt (h : s.Sound beyond) (column before : Nat) {t : Token}
    (ht : ∀ fault, t ≠ .broken fault) : (s.openAt column before t).Sound beyond := by
  rw [Scan.openAt]
  split
  · refine Sound.insert ?_ before ht
    exact ⟨h.stays, h.whole⟩
  · exact h

/-- A block is opened outside brackets only. -/
lemma Sound.openUnlessFlow (h : s.Sound beyond) (column before : Nat) {t : Token}
    (ht : ∀ fault, t ≠ .broken fault) :
    (if s.inFlow then s else s.openAt column before t).Sound beyond := by
  split
  · exact h
  · exact h.openAt column before ht

/-! ### The kinds of tokens -/

/-- The gap in front of a token is passed over without a fault. -/
lemma Sound.skipToToken (fuel : Nat) (h : s.Sound beyond) :
    (skipToToken fuel s).Sound beyond := by
  induction fuel generalizing s with
  | zero => exact h
  | succ fuel ih =>
      have hc := s.cursor.skipComment_beyond.trans h.stays
      rw [Scan.skipToToken]
      split
      · exact h.moved hc
      · next hbreak =>
          exact ih ⟨(Cursor.beyond_of_takeBreak hbreak).trans hc, h.whole⟩

/-- At a directive, a mark of a document and the end of the text all blocks end. -/
lemma endBlocks_ends (h : s.Sound beyond) :
    EndsIn (IsScanFault beyond) (Sound beyond) s.endBlocks := by
  rw [endBlocks]
  exact (dropKey_ends (h.unwind (-1))).bind fun _ hs => ⟨hs.stays, hs.whole⟩

/-- An opening bracket may begin a key, so that the place is remembered before it is passed. -/
lemma openFlow_ends {t : Token} (ht : ∀ fault, t ≠ .broken fault) (h : s.Sound beyond) :
    EndsIn (IsScanFault beyond) (Sound beyond) (s.openFlow t) := by
  rw [openFlow]
  refine (saveKey_ends h).bind fun s' hs => .ok (Sound.mark ?_ 1 ht)
  exact ⟨hs.stays, hs.whole⟩

/-- A closing bracket is malformed where none is open. -/
lemma closeFlow_ends {t : Token} (ht : ∀ fault, t ≠ .broken fault) (h : s.Sound beyond) :
    EndsIn (IsScanFault beyond) (Sound beyond) (s.closeFlow t) := by
  rw [closeFlow]
  refine (dropKey_ends h).bind fun s' hs => ?_
  refine .ite (ends_malformed_bind (s'.cursor.advance_beyond.trans hs.stays))
    (.ok (Sound.mark ?_ 1 ht))
  exact ⟨hs.stays, hs.whole⟩

lemma flowEntry_ends (h : s.Sound beyond) :
    EndsIn (IsScanFault beyond) (Sound beyond) s.flowEntry := by
  rw [flowEntry]
  refine (dropKey_ends h).bind fun s' hs => .ok (Sound.mark ?_ 1 nofun)
  exact ⟨hs.stays, hs.whole⟩

/-- The mark of a member is malformed where no block may begin. -/
lemma entry_ends (h : s.Sound beyond) : EndsIn (IsScanFault beyond) (Sound beyond) s.entry := by
  have hopen := h.openUnlessFlow s.cursor.column s.count (t := .sequenceStart) nofun
  rw [entry]
  refine .ite (.inl rfl) ((dropKey_ends hopen).bind fun s' hs => .ok (Sound.mark ?_ 1 nofun))
  exact ⟨hs.stays, hs.whole⟩

lemma key_ends (h : s.Sound beyond) : EndsIn (IsScanFault beyond) (Sound beyond) s.key := by
  have hopen := h.openUnlessFlow s.cursor.column s.count (t := .mappingStart) nofun
  rw [key]
  refine .ite (.inl rfl) ((dropKey_ends hopen).bind fun s' hs => .ok (Sound.mark ?_ 1 nofun))
  exact ⟨hs.stays, hs.whole⟩

/-- A colon makes a key of what stands in front of it, by tokens that are put in afterwards; without
such a key a value may stand alone where a key is allowed. -/
lemma value_ends (h : s.Sound beyond) : EndsIn (IsScanFault beyond) (Sound beyond) s.value := by
  rw [value]
  split
  · next k _ =>
      let found : Scan := { s with keys := s.keys.filter (·.1 != s.flowLevel), keyAllowed := false }
      have hfound : Sound beyond found := ⟨h.stays, h.whole⟩
      have hkey := hfound.insert k.before (t := .key) nofun
      have hopen := hkey.openUnlessFlow k.column k.before (t := .mappingStart) nofun
      exact .ok (hopen.mark 1 nofun)
  · have hopen := h.openUnlessFlow s.cursor.column s.count (t := .mappingStart) nofun
    refine .ite (.inl rfl) ((dropKey_ends ?_).bind fun s' hs => .ok (hs.mark 1 nofun))
    exact ⟨hopen.stays, hopen.whole⟩

/-- A token that may be a key ends as its reader does. -/
lemma keyLike_ends {read : Cursor → Except Fault (Token × Cursor)}
    (hread : ∀ c, c.beyond = beyond → EndsIn (IsScanFault beyond) (GivesToken beyond) (read c))
    (h : s.Sound beyond) : EndsIn (IsScanFault beyond) (Sound beyond) (s.keyLike read) := by
  rw [keyLike]
  refine (saveKey_ends h).bind fun s' hs => ?_
  refine (hread _ hs.stays).bind fun r hr => .ok (Sound.emit ?_ hr.2)
  exact ⟨hr.1, hs.whole⟩

/-- A block scalar ends as its reader does; no key is left open in front of it. -/
lemma block_ends (folded : Bool) (h : s.Sound beyond) :
    EndsIn (IsScanFault beyond) (Sound beyond) (s.block folded) := by
  have hallowed : Sound beyond { s with keyAllowed := true } := ⟨h.stays, h.whole⟩
  rw [block]
  refine (dropKey_ends hallowed).bind fun s' hs => ?_
  refine (readBlock_ends folded _ hs.stays).bind fun r hr => .ok (Sound.emit ?_ hr.2)
  exact ⟨hr.1, hs.whole⟩

/-- A plain scalar has no faults, but the key whose place it takes may have been required. -/
lemma plain_ends (h : s.Sound beyond) : EndsIn (IsScanFault beyond) (Sound beyond) s.plain := by
  rw [plain]
  refine (saveKey_ends h).bind fun s' hs => .ok (Sound.emit ?_ nofun)
  exact ⟨(readPlain_beyond _ _ _).trans hs.stays, hs.whole⟩

lemma named_ends {make : String → Token} (hmake : ∀ name fault, make name ≠ .broken fault)
    {c : Cursor} (h : c.beyond = beyond) :
    EndsIn (IsScanFault beyond) (GivesToken beyond) (named make c) := by
  rw [named]
  exact (readAnchor_ends (c.advance_beyond.trans h)).bind fun r hr => ⟨hr, hmake r.1⟩

/-- One token, whatever character it begins with, leaves a sound scan; what begins no token is
malformed. -/
lemma token_ends (ch : Char) (h : s.Sound beyond) :
    EndsIn (IsScanFault beyond) (Sound beyond) (s.token ch) := by
  have halias : ∀ name fault, Token.alias name ≠ .broken fault := nofun
  have hanchor : ∀ name fault, Token.anchor name ≠ .broken fault := nofun
  rw [token]
  refine .ite ?_ (.ite ?_ (.ite ?_ (.ite ?_ (.ite ?_ (.ite ?_ (.ite ?_ (.ite ?_ (.ite ?_ (.ite ?_
    (.ite ?_ (.ite ?_ (.ite ?_ (.ite ?_ (.ite ?_ (.ite ?_ (.ite ?_ (.ite ?_ ?_)))))))))))))))))
  · refine (endBlocks_ends h).bind fun s' hs => ?_
    refine (readDirective_ends hs.stays).bind fun r hr => .ok (Sound.emit ?_ nofun)
    exact ⟨hr, hs.whole⟩
  · exact (endBlocks_ends h).bind fun _ hs => .ok (hs.mark 3 nofun)
  · exact (endBlocks_ends h).bind fun _ hs => .ok (hs.mark 3 nofun)
  · exact openFlow_ends nofun h
  · exact openFlow_ends nofun h
  · exact closeFlow_ends nofun h
  · exact closeFlow_ends nofun h
  · exact flowEntry_ends h
  · exact entry_ends h
  · exact key_ends h
  · exact value_ends h
  · exact keyLike_ends (fun _ hc => named_ends halias hc) h
  · exact keyLike_ends (fun _ hc => named_ends hanchor hc) h
  · exact keyLike_ends (fun _ hc => readTag_ends hc) h
  · exact block_ends false h
  · exact block_ends true h
  · exact keyLike_ends (fun _ hc => readQuoted_ends ch hc) h
  · exact plain_ends h
  · exact ends_malformed h.stays

/-! ### The tokens of a text -/

/-- The fault behind the text is told as soon as the reading has asked for what stands there. -/
lemma checked_ends (h : s.Sound beyond) : EndsIn (IsScanFault beyond) (Sound beyond) s.checked := by
  rw [checked, Cursor.pastFault?]
  split
  · next fault hpast =>
      split at hpast
      · exact .inr (.inr (h.stays.symm.trans hpast))
      · cases hpast
  · exact h

lemma lookAhead_beyond (s : Scan) : s.lookAhead.beyond = s.cursor.beyond := by
  rw [lookAhead]
  split
  · split
    · rfl
    · rfl
  · split
    · rfl
    · rfl

/-- Arriving in front of a token, the scan looks twice for keys that are stale and for what is wrong
behind the text: before and after the gap. -/
lemma arrive_ends (h : s.Sound beyond) : EndsIn (IsScanFault beyond) (Sound beyond) s.arrive := by
  rw [arrive]
  refine (dropStale_ends h).bind fun s₁ h₁ => ?_
  refine (checked_ends (h₁.skipToToken _)).bind fun s₂ h₂ => ?_
  refine (dropStale_ends h₂).bind fun s₃ h₃ => ?_
  exact checked_ends (h₃.moved ((lookAhead_beyond s₃).trans h₃.stays))

/-- A step of a scan that goes on ends in sound places, or with a fault of the scan. -/
lemma step_ends (h : s.Sound beyond) :
    EndsIn (IsScanFault beyond) (fun r => (∀ s' ∈ r.1, s'.Sound beyond) ∧ r.2.Sound beyond)
      s.step := by
  rw [step]
  refine (arrive_ends h).bind fun s' hs => ?_
  split
  · refine (endBlocks_ends hs).bind fun _ hs' => .ok ⟨?_, hs'⟩
    exact nofun
  · refine (token_ends _ (hs.unwind _)).bind fun _ hs' => ?_
    refine (checked_ends hs').bind fun _ hs'' => .ok ⟨?_, hs⟩
    exact fun _ hnext => Option.some.inj hnext ▸ hs''

lemma tokens_of_dropStale {s' : Scan} (h : s.dropStale = .ok s') : s'.tokens = s.tokens := by
  rw [dropStale] at h
  split at h
  · cases h
  · rw [← Except.ok.inj h]

/-- The settled tokens are among those so far. -/
lemma mem_of_mem_settled {t : Token} (h : t ∈ s.settled) : t ∈ s.tokens := by
  rw [settled] at h
  cases hstale : s.dropStale with
  | error fault =>
      rw [hstale] at h
      dsimp only at h
      split at h
      · exact List.mem_of_mem_drop h
      · exact h
  | ok s' =>
      rw [hstale] at h
      dsimp only at h
      rw [← tokens_of_dropStale hstale]
      split at h
      · exact List.mem_of_mem_drop h
      · exact h

/-- A run breaks off with a fault of the scan, if it does so: each of its steps leaves a sound scan,
whose tokens are whole. -/
lemma run_broken (fuel : Nat) (h : s.Sound beyond) {fault : Fault}
    (hmem : .broken fault ∈ run fuel s) : IsScanFault beyond fault := by
  induction fuel generalizing s with
  | zero =>
      rcases List.mem_cons.mp hmem with heq | hmem
      · cases heq
        exact .inl rfl
      · exact absurd hmem (h.whole fault)
  | succ fuel ih =>
      have hstep := step_ends h
      rw [run] at hmem
      split at hmem
      · next heq =>
          rw [heq] at hstep
          rcases List.mem_cons.mp hmem with hfault | hmem
          · cases hfault
            exact hstep
          · exact absurd (mem_of_mem_settled hmem) (h.whole fault)
      · next heq =>
          rw [heq] at hstep
          exact ih (hstep.1 _ rfl) hmem
      · next heq =>
          rw [heq] at hstep
          exact absurd hmem (hstep.2.whole fault)

end Scan

/-- The tokens of a text break off with a fault of the notation, with a value that there is none of,
or with what is wrong behind the text. -/
theorem isScanFault_of_broken_mem_tokens {text : Source} {fault : Fault}
    (h : .broken fault ∈ tokens text) : IsScanFault text.beyond fault := by
  rw [tokens, List.mem_reverse] at h
  exact Scan.run_broken _ ⟨rfl, fun _ => List.not_mem_nil⟩ h

end WidgetContracts.Markup
