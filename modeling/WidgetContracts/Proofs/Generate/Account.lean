/-
Every entry of a configuration is accounted for.

* `Fate`, `Share`: what becomes of an entry in a batch, and what it adds to the batch.
* `Entry.settled`: the share of an entry whose collection is asked for, by the answer.
* `Accounts`, `existsUnique_accounts`: every entry has exactly one share: it is left out, asks for
  nothing, or is settled by the answer to the one fetch for it.
* `generateAll_records_perm`, `generateAll_asked_perm`: the records and the fetches of a batch are
  gathered from its entries.
* `every_entry_is_accounted_for`: a batch is made of the shares of its entries.
-/
import WidgetContracts.Proofs.Entry.Duplicates
import WidgetContracts.Proofs.Generate.Alike
import WidgetContracts.Proofs.Resolve.Requests

namespace WidgetContracts

/-! ### Shares -/

/-- What becomes of an entry: it may not be processed, it asks for no widget, or its collection is
asked for and is shown, is unknown, comes late, or cannot be processed. -/
inductive Fate where
  | rejected
  | idle
  | shown
  | unknown
  | late
  | failed
  deriving DecidableEq, Repr

/-- Whether the collection of an entry is asked for. -/
def Fate.isSelected : Fate → Bool
  | rejected | idle => false
  | shown | unknown | late | failed => true

/-- What an entry adds to a batch: contracts, records, what is asked for the entry itself, and what
is asked for the references of its collection. -/
structure Share where
  fate : Fate
  contracts : List (Widget × Contract)
  records : List Record
  asked : List String
  embedded : List String

namespace Entry

/-- An entry may be processed among others, and its components ask for a widget. -/
structure Selected (e : Entry) (es : List Entry) (c : Components) : Prop where
  sound : e.faultsAmong es = []
  components : e.components = some c
  wanted : c.wanted ≠ []

/-- The share of an entry whose collection is asked for: one contract and one record for each widget
that its components ask for, or a single record that says why there are none. -/
def settled (s : Source) (e : Entry) (c : Components) : Answer → Share
  | .found r =>
    let run := resolve (some s) [] r e
    ⟨.shown, c.wanted.map fun w => (w, run.value.contract w),
      run.records ++ c.wanted.map (generatedRecord run.value), [e.collectionId], run.asked⟩
  | .unknown =>
    ⟨.unknown, [], [.warning e.collectionId "Collection not found, skipping"], [e.collectionId], []⟩
  | .late =>
    ⟨.late, [], [.warning e.collectionId "Timed out fetching collection schema"],
      if s.hasNoTime then [] else [e.collectionId], []⟩
  | .failed fault => ⟨.failed, [], [failedRecord e fault], [e.collectionId], []⟩

end Entry

/-- The share of an entry `e` among the entries `es` of a batch. -/
inductive Accounts (s : Source) (es : List Entry) (e : Entry) : Share → Prop
  | rejected (faulty : e.faultsAmong es ≠ []) :
      Accounts s es e ⟨.rejected, [], [e.skipped (e.faultsAmong es)], [], []⟩
  | idle {c : Components} (sound : e.faultsAmong es = []) (components : e.components = some c)
      (idle : c.wanted = []) : Accounts s es e ⟨.idle, [], [], [], []⟩
  | selected {c : Components} (selected : e.Selected es c) :
      Accounts s es e (e.settled s c (s.ask e.collectionId).value)

section

variable {s : Source} {es : List Entry} {e : Entry}

/-- An entry has one share at most. -/
lemma Accounts.unique {x y : Share} (hx : Accounts s es e x) (hy : Accounts s es e y) : x = y := by
  cases hx with
  | rejected faulty =>
      cases hy with
      | rejected => rfl
      | idle sound => exact absurd sound faulty
      | selected h => exact absurd h.sound faulty
  | idle sound components idle =>
      cases hy with
      | rejected faulty => exact absurd sound faulty
      | idle => rfl
      | selected h =>
          obtain rfl := Option.some.inj (components.symm.trans h.components)
          exact absurd idle h.wanted
  | selected h =>
      cases hy with
      | rejected faulty => exact absurd h.sound faulty
      | idle sound components idle =>
          obtain rfl := Option.some.inj (components.symm.trans h.components)
          exact absurd idle h.wanted
      | selected h' =>
          obtain rfl := Option.some.inj (h.components.symm.trans h'.components)
          rfl

/-- Every entry has exactly one share. -/
theorem existsUnique_accounts (s : Source) (es : List Entry) (e : Entry) :
    ∃ x, ∀ y, Accounts s es e y ↔ y = x := by
  have hexists : ∃ x, Accounts s es e x := by
    by_cases hfaults : e.faultsAmong es = []
    · have hown : e.faults = [] := (Entry.faultsAmong_eq_nil_iff.mp hfaults).1
      obtain ⟨c, hc⟩ := Option.isSome_iff_exists.mp (Entry.components_isSome_of_faults hown)
      by_cases hwanted : c.wanted = []
      · exact ⟨_, .idle hfaults hc hwanted⟩
      · exact ⟨_, .selected ⟨hfaults, hc, hwanted⟩⟩
    · exact ⟨_, .rejected hfaults⟩
  obtain ⟨x, hx⟩ := hexists
  refine ⟨x, fun y => ⟨fun hy => hy.unique hx, ?_⟩⟩
  rintro rfl
  exact hx

end

/-! ### What a run gathers from its entries -/

/-- Whether an entry may be processed among others and asks for any widget. -/
def Entry.isSelectedAmong (e : Entry) (es : List Entry) : Bool :=
  e.asksForAny && (e.faultsAmong es).isEmpty

/-- The fetch for an entry, if there is one. -/
def Entry.fetched (s : Source) (es : List Entry) (e : Entry) : Traced (Option CollectionShape) :=
  if e.isSelectedAmong es then shapeOf s e else pure none

section

variable (s : Source) (es : List Entry)

/-- The entries for which there is a fetch. -/
lemma acceptedEntries_filter_asksForAny :
    (acceptedEntries es).value.filter Entry.asksForAny = es.filter (·.isSelectedAmong es) := by
  rw [acceptedEntries_value, List.filter_filter]
  rfl

/-- What the fetches of the selected entries give, gathered from all entries. -/
lemma flatMap_fetched {α : Type} (f : Traced (Option CollectionShape) → List α)
    (hf : f (pure none) = []) :
    (es.filter (·.isSelectedAmong es)).flatMap (fun e => f (shapeOf s e)) =
      es.flatMap fun e => f (e.fetched s es) := by
  rw [flatMap_filter_eq]
  refine List.flatMap_congr fun e _ => ?_
  rw [Entry.fetched]
  split
  · rfl
  · exact hf.symm

/-- The records of the contracts that are built for a fetched shape. -/
def builtRecords (fetched : Traced (Option CollectionShape)) : List Record :=
  fetched.value.toList.flatMap fun t => (buildWanted t).records

/-- A batch writes the warnings about the entries left out, then what the fetches leave, and then
what building leaves. -/
lemma generateAll_records : (generateAll s es).records =
    es.flatMap (Entry.skippedAmong es) ++ (es.flatMap (fun e => (e.fetched s es).records) ++
      es.flatMap fun e => builtRecords (e.fetched s es)) := by
  have hbuilt : ((es.filter (·.isSelectedAmong es)).filterMap fun e => (shapeOf s e).value).flatMap
      (fun t => (buildWanted t).records) = es.flatMap fun e => builtRecords (e.fetched s es) := by
    rw [List.filterMap_eq_flatMap_toList, List.flatMap_assoc]
    exact flatMap_fetched s es builtRecords rfl
  rw [generateAll, Traced.bind_records, selectBy_wantsAny, acceptedEntries_filter_asksForAny]
  simp only [Traced.bind_records, Traced.traverse_records, shapesOf_records, shapesOf_value]
  rw [acceptedEntries_records, flatMap_fetched s es (·.records) rfl, hbuilt]
  -- gathering the contracts itself writes nothing, whether it fails or not
  split <;> rw [Traced.pure_records, List.append_nil]

/-- A batch asks for what the fetches ask for. -/
lemma generateAll_asked :
    (generateAll s es).asked = es.flatMap fun e => (e.fetched s es).asked := by
  rw [generateAll, Traced.bind_asked, selectBy_wantsAny, acceptedEntries_filter_asksForAny]
  simp only [Traced.bind_asked, Traced.traverse_asked, shapesOf_asked, buildWanted_asked]
  rw [acceptedEntries_asked, flatMap_fetched s es (·.asked) rfl,
    List.flatMap_eq_nil_iff.mpr fun _ _ => rfl]
  split <;> rw [Traced.pure_asked, List.append_nil, List.append_nil, List.nil_append]

end

/-! ### Shares and what is gathered -/

/-- Without time every answer is late. -/
lemma Source.ask_of_hasNoTime {s : Source} (h : s.hasNoTime = true) (id : String) :
    (s.ask id).value = .late := by
  rw [ask, if_pos h]

/-- A share is made of the warning that the entry is left out, if it is, and of what the fetch for
it gives. -/
structure Share.MadeOf (x : Share) (s : Source) (es : List Entry) (e : Entry) : Prop where
  contracts : ∀ w, ofWidget w x.contracts =
    if (e.faultsAmong es).isEmpty then e.contracts s w else []
  records : x.records =
    Entry.skippedAmong es e ++ ((e.fetched s es).records ++ builtRecords (e.fetched s es))
  asked : x.asked ++ x.embedded = (e.fetched s es).asked

section

variable {s : Source} {es : List Entry} {e : Entry} {c : Components}

/-- A faulty entry adds nothing but its warning. -/
lemma madeOf_rejected (h : e.faultsAmong es ≠ []) :
    Share.MadeOf ⟨.rejected, [], [e.skipped (e.faultsAmong es)], [], []⟩ s es e := by
  have hfaulty : (e.faultsAmong es).isEmpty = false := by simpa using h
  have hfetched : e.fetched s es = pure none := by
    rw [Entry.fetched, Entry.isSelectedAmong, hfaulty, Bool.and_false]
    rfl
  refine ⟨fun w => ?_, ?_, ?_⟩
  · rw [hfaulty]
    rfl
  · rw [hfetched, Entry.skippedAmong, hfaulty]
    rfl
  · rw [hfetched]
    rfl

/-- An entry that asks for no widget adds nothing. -/
lemma madeOf_idle (hsound : e.faultsAmong es = []) (hc : e.components = some c)
    (hidle : c.wanted = []) : Share.MadeOf ⟨.idle, [], [], [], []⟩ s es e := by
  have hasks : e.asksForAny = false := by
    rw [Entry.asksForAny, hc, Option.any_some, hidle]
    rfl
  have hfetched : e.fetched s es = pure none := by
    rw [Entry.fetched, Entry.isSelectedAmong, hasks, Bool.false_and]
    rfl
  refine ⟨fun w => ?_, ?_, ?_⟩
  · rw [hsound, Entry.contracts_of_not_asksForAny s w (by simp [hasks])]
    rfl
  · rw [hfetched, Entry.skippedAmong, hsound]
    rfl
  · rw [hfetched]
    rfl

/-- A collection that is found leaves what resolving it leaves, after the fetch. -/
lemma shapeOf_of_found {r : Collection} (h : (s.ask e.collectionId).value = .found r) :
    shapeOf s e = ⟨some (resolve (some s) [] r e).value, (resolve (some s) [] r e).records,
      e.collectionId :: (resolve (some s) [] r e).asked⟩ := by
  rw [shapeOf, Traced.bind_eq, Source.ask_records, Source.ask_asked,
    Source.hasNoTime_eq_false_of_ask h, h]
  simp [Traced.bind_eq]

/-- A collection that is not found leaves one record, after the fetch. -/
lemma shapeOf_of_not_found {answer : Answer} (h : (s.ask e.collectionId).value = answer)
    (hmissed : ∀ r, answer ≠ .found r) : shapeOf s e =
      ⟨none, (e.settled s c answer).records, (e.settled s c answer).asked⟩ := by
  have htime : answer ≠ .late → s.hasNoTime = false := by
    intro hlate
    rw [← Bool.not_eq_true]
    exact fun htime => hlate (h.symm.trans (Source.ask_of_hasNoTime htime _))
  rw [shapeOf, Traced.bind_eq, Source.ask_records, Source.ask_asked, h]
  cases answer with
  | found r => exact absurd rfl (hmissed r)
  | unknown | failed =>
      rw [htime (by simp)]
      rfl
  | late => simp [Traced.logging, Entry.settled]

/-- A selected entry adds what its fetch gives, and what building gives after that. -/
lemma madeOf_selected (h : e.Selected es c) :
    (e.settled s c (s.ask e.collectionId).value).MadeOf s es e := by
  have hasks : e.isSelectedAmong es = true := by
    rw [Entry.isSelectedAmong, Entry.asksForAny, h.components, h.sound]
    simpa using h.wanted
  have hfetched : e.fetched s es = shapeOf s e := by rw [Entry.fetched, if_pos hasks]
  have hskipped : Entry.skippedAmong es e = [] := by
    rw [Entry.skippedAmong, h.sound]
    rfl
  cases hask : (s.ask e.collectionId).value with
  | found r =>
      have hshape := shapeOf_of_found hask
      have hcomponents : (resolve (some s) [] r e).value.entry.components = some c := by
        rw [resolve_entry, h.components]
      refine ⟨fun w => ?_, ?_, ?_⟩
      · rw [h.sound, Entry.contracts, Entry.asksFor, h.components, hshape]
        exact ofWidget_map_wanted c _ w
      · rw [hskipped, hfetched, hshape, builtRecords, Option.toList_some, List.flatMap_singleton,
          buildWanted_records hcomponents]
        rfl
      · rw [hfetched, hshape]
        rfl
  | unknown | late | failed =>
      have hshape := shapeOf_of_not_found (c := c) hask (by simp)
      refine ⟨fun w => ?_, ?_, ?_⟩
      · rw [h.sound, List.isEmpty_nil, if_pos rfl, Entry.contracts, hshape]
        split <;> rfl
      · rw [hskipped, hfetched, hshape]
        rfl
      · rw [hfetched, hshape]
        exact List.append_nil _

/-- Every share is made of what the run has for its entry. -/
lemma Accounts.madeOf {x : Share} (h : Accounts s es e x) : x.MadeOf s es e := by
  cases h with
  | rejected faulty => exact madeOf_rejected faulty
  | idle sound components idle => exact madeOf_idle sound components idle
  | selected h => exact madeOf_selected h

/-- With time, an entry whose collection is asked for makes one fetch, and any other makes none. -/
lemma Accounts.asked_eq {x : Share} (h : Accounts s es e x) (hs : s.GivesTime) :
    x.asked = if x.fate.isSelected then [e.collectionId] else [] := by
  cases h with
  | rejected | idle => rfl
  | selected =>
      cases (s.ask e.collectionId).value with
      | found | unknown | failed => rfl
      | late =>
          rw [Entry.settled, hs.hasNoTime_eq_false]
          rfl

/-- Without time, every collection that is asked for comes late, and no fetch is made. -/
lemma Accounts.late_of_hasNoTime {x : Share} (h : Accounts s es e x) (hs : s.hasNoTime = true) :
    (x.fate.isSelected = true → x.fate = .late) ∧ x.contracts = [] ∧ x.asked = [] ∧
      x.embedded = [] := by
  cases h with
  | rejected | idle => exact ⟨nofun, rfl, rfl, rfl⟩
  | selected =>
      rw [Source.ask_of_hasNoTime hs, Entry.settled, hs]
      exact ⟨fun _ => rfl, rfl, rfl, rfl⟩

end

/-! ### The whole batch -/

section

variable {s : Source} {es : List Entry} {share : Entry → Share}

/-- Of each widget there are the contracts of all shares. -/
lemma generateAll_contracts (h : ∀ e, Accounts s es e (share e)) : (generateAll s es).value =
    .ok fun w => (es.map share).flatMap fun x => ofWidget w x.contracts := by
  rw [generateAll_value, acceptedEntries_value]
  refine congrArg Except.ok (funext fun w => ?_)
  rw [flatMap_filter_eq, List.flatMap_map]
  exact List.flatMap_congr fun e _ => ((h e).madeOf.contracts w).symm

/-- The records of a batch are those of all shares. -/
lemma generateAll_records_perm (h : ∀ e, Accounts s es e (share e)) :
    (generateAll s es).records.Perm ((es.map share).flatMap (·.records)) := by
  have hshares : (es.map share).flatMap (·.records) = es.flatMap fun e =>
      Entry.skippedAmong es e ++ ((e.fetched s es).records ++ builtRecords (e.fetched s es)) := by
    rw [List.flatMap_map]
    exact List.flatMap_congr fun e _ => (h e).madeOf.records
  -- a batch goes through all entries three times, a share gathers what is about one entry
  rw [generateAll_records, hshares]
  exact ((List.flatMap_append_perm es _ _).append_left _).trans (List.flatMap_append_perm es _ _)

/-- The fetches of a batch are those for the entries and those for the references. -/
lemma generateAll_asked_perm (h : ∀ e, Accounts s es e (share e)) :
    (generateAll s es).asked.Perm
      ((es.map share).flatMap (·.asked) ++ (es.map share).flatMap (·.embedded)) := by
  have hshares : (generateAll s es).asked =
      (es.map share).flatMap fun x => x.asked ++ x.embedded := by
    rw [generateAll_asked, List.flatMap_map]
    exact List.flatMap_congr fun e _ => (h e).madeOf.asked.symm
  rw [hshares]
  exact (List.flatMap_append_perm _ _ _).symm

/-- Without time nothing is asked for, and there are no contracts. -/
lemma generateAll_of_hasNoTime (h : ∀ e, Accounts s es e (share e)) (hs : s.hasNoTime = true) :
    (generateAll s es).asked = [] ∧ (generateAll s es).value = .ok fun _ => [] := by
  have hlate := fun e => (h e).late_of_hasNoTime hs
  constructor
  · refine List.perm_nil.mp ((generateAll_asked_perm h).trans (.of_eq ?_))
    rw [List.flatMap_map, List.flatMap_map, List.append_eq_nil_iff]
    exact ⟨List.flatMap_eq_nil_iff.mpr fun e _ => (hlate e).2.2.1,
      List.flatMap_eq_nil_iff.mpr fun e _ => (hlate e).2.2.2⟩
  · rw [generateAll_contracts h]
    refine congrArg Except.ok (funext fun w => ?_)
    rw [List.flatMap_map, List.flatMap_eq_nil_iff]
    intro e _
    rw [(hlate e).2.1]
    rfl

end

/-- **Every entry is accounted for**: it has exactly one share, by which it is left out with one
warning, asks for no widget and leaves nothing, or is selected. A selected entry ends with one
contract and one record for each widget that it asks for, with one warning, or with one error. The
contracts of a batch are those of the shares, in order, and its records and fetches are those of the
shares, whatever their order. With time, there is one fetch for each selected entry, whatever number
of widgets it asks for; without time there is none, and each selected entry ends as late. -/
theorem every_entry_is_accounted_for (s : Source) (es : List Entry) :
    ∃ shares : List Share,
      List.Forall₂ (fun e x => ∀ y, Accounts s es e y ↔ y = x) es shares ∧
      (generateAll s es).value = .ok (fun w => shares.flatMap fun x => ofWidget w x.contracts) ∧
      (generateAll s es).records.Perm (shares.flatMap (·.records)) ∧
      (generateAll s es).asked.Perm (shares.flatMap (·.asked) ++ shares.flatMap (·.embedded)) ∧
      (s.GivesTime → List.Forall₂
        (fun e x => x.asked = if x.fate.isSelected then [e.collectionId] else []) es shares) ∧
      ∀ t, s.timeout = some t → t ≤ 0 →
        (generateAll s es).asked = [] ∧
        (generateAll s es).value = .ok (fun _ => []) ∧
        ∀ x ∈ shares, x.fate.isSelected = true → x.fate = .late := by
  choose share hshare using existsUnique_accounts s es
  have haccounts : ∀ e, Accounts s es e (share e) := fun e => (hshare e _).mpr rfl
  refine ⟨es.map share, ?_, generateAll_contracts haccounts, generateAll_records_perm haccounts,
    generateAll_asked_perm haccounts, fun htime => ?_, fun t ht hle => ?_⟩
  · rw [List.forall₂_map_right_iff, List.forall₂_same]
    exact fun e _ => hshare e
  · rw [List.forall₂_map_right_iff, List.forall₂_same]
    exact fun e _ => (haccounts e).asked_eq htime
  · have hs := Source.hasNoTime_of_le ht hle
    obtain ⟨hasked, hvalue⟩ := generateAll_of_hasNoTime haccounts hs
    refine ⟨hasked, hvalue, fun x hx => ?_⟩
    obtain ⟨e, -, rfl⟩ := List.mem_map.mp hx
    exact ((haccounts e).late_of_hasNoTime hs).1

/-! ### A batch with four fates -/

namespace Sample

/-- Posts with every widget, presses, which the store does not know, an entry without an
identifier, and one that asks for no widget. -/
def assortment : List Entry := entries ++ [shelf "" "/loose", shelf "Maps" "/maps"]

/-- The shares of the assortment. -/
def assortmentShares : List Share :=
  [{ entry with components := some ⟨true, true, false, true, true⟩ }.settled source
      ⟨true, true, false, true, true⟩ (.found posts),
    ⟨.unknown, [], [.warning "Presses" "Collection not found, skipping"], ["Presses"], []⟩,
    ⟨.rejected, [], [.warning "-"
      "Skipping collection with configuration errors: collectionId is required"], [], []⟩,
    ⟨.idle, [], [], [], []⟩]

lemma accounts_assortment :
    List.Forall₂ (Accounts source assortment) assortment assortmentShares := by
  have hposts : (source.ask "Posts").value = .found posts :=
    (Source.ask_found_iff givesTime).mpr answers_posts
  have hpresses : (source.ask "Presses").value = .unknown := by
    rw [Source.ask, givesTime.hasNoTime_eq_false]
    rfl
  refine .cons ?_ (.cons ?_ (.cons (.rejected (by decide)) (.cons ?_ .nil)))
  · rw [← hposts]
    exact .selected ⟨by decide, rfl, by decide⟩
  · have h : Accounts source assortment _ _ :=
      .selected (e := ⟨"Presses", "/presses", "slug", [], none,
        some ⟨true, false, false, false, false⟩⟩) ⟨by decide, rfl, by decide⟩
    rw [hpresses] at h
    exact h
  · exact .idle (by decide) rfl (by decide)

end Sample

theorem every_entry_is_accounted_for_sample :
    Sample.source.GivesTime ∧
      (Sample.assortmentShares.map (·.fate) = [.shown, .unknown, .rejected, .idle] ∧
        Sample.assortmentShares.flatMap (·.asked) = ["Posts", "Presses"] ∧
        (generateAll Sample.source Sample.assortment).records.Perm
          (Sample.assortmentShares.flatMap (·.records))) ∧
      Sample.hurried.timeout = some 0 ∧ (0 : Float) ≤ 0 ∧
      (generateAll Sample.hurried Sample.assortment).asked = [] := by
  obtain ⟨shares, haccounts, -, hrecords, -, -, -⟩ :=
    every_entry_is_accounted_for Sample.source Sample.assortment
  obtain ⟨_, -, -, -, -, -, hlate⟩ := every_entry_is_accounted_for Sample.hurried Sample.assortment
  have hzero : (0 : Float) ≤ 0 := by decide
  have hunique : Relator.RightUnique (Accounts Sample.source Sample.assortment) :=
    fun _ _ _ hx hy => hx.unique hy
  have hshares : shares = Sample.assortmentShares :=
    List.right_unique_forall₂' hunique (haccounts.imp fun _ x h => (h x).mpr rfl)
      Sample.accounts_assortment
  rw [hshares] at hrecords
  exact ⟨Sample.givesTime, ⟨rfl, rfl, hrecords⟩, rfl, hzero, (hlate 0 rfl hzero).1⟩

end WidgetContracts
