/-
Where the target of a reference is taken from.

A field gives the target of its reference under the first of two names, or the metadata of its type
gives it, for a single reference or for a multiple one. What the field gives itself comes first.

* `ownTarget?`, `metadataTarget?`: what is given in either place.
* `Field.TakesTarget`: the target that a field takes, by the place that it is taken from.
* `valueUnder_lifted`: what a target is read from after lifting.
* `target_is_taken`: every field that is accepted takes its target so, and where it gives one
  itself, metadata of whatever kind changes nothing.
* `other_name_yields`: a target under the second name alone does yield to metadata.
-/
import WidgetContracts.Collection
import WidgetContracts.Proofs.Reading.Keys

namespace WidgetContracts

open Reading

/-! ### The places of a target -/

/-- The key of the metadata of a type. -/
def metadataKey : String := "typeMetadata"

/-- The names of a target. -/
def targetNames : List String := [targetKey, "referenced_collection_id"]

section

variable (entries : List (Scalar × Value))

/-- What a field itself gives as its target under the first name. -/
def ownTarget? : Option Value := (find? targetKey entries).filter (·.isTruthy)

/-- What the metadata of a field's type gives as the target of a kind of reference. -/
def metadataTargetIn? (kind : String) : Option Value :=
  (((find? metadataKey entries).bind (·.get? kind)).bind (·.get? targetKey)).filter (·.isTruthy)

/-- What the metadata of a field's type gives as its target, first for a single reference. -/
def metadataTarget? : Option Value :=
  (metadataTargetIn? entries "reference").or (metadataTargetIn? entries "multiReference")

/-- The target that a field takes, and where from: from itself, then from the metadata of its type.
Where neither gives one, it is read under the first present name, and may be missing. -/
inductive Field.TakesTarget : Option String → Prop where
  | own {v : Value} {s : String} (given : ownTarget? entries = some v) (reads : text v = .ok s) :
      TakesTarget (some s)
  | metadata {v : Value} {s : String} (notOwn : ownTarget? entries = none)
      (given : metadataTarget? entries = some v) (reads : text v = .ok s) : TakesTarget (some s)
  | present {v : Value} {target : Option String} (notOwn : ownTarget? entries = none)
      (notMetadata : metadataTarget? entries = none)
      (stands : valueUnder targetNames entries = some v) (reads : nullableText v = .ok target) :
      TakesTarget target
  | nowhere (absent : valueUnder targetNames entries = none)
      (notMetadata : metadataTarget? entries = none) : TakesTarget none

end

/-! ### Lifting -/

section

variable {entries lifted : List (Scalar × Value)} {v : Value}

/-- Under a key of the entries of a value stands what stands under that key of the value. -/
lemma find?_of_entriesOf? {o : Option Value} {m : List (Scalar × Value)} (h : entriesOf? o = .ok m)
    (key : String) : find? key m = o.bind (·.get? key) := by
  cases o with
  | none =>
      obtain rfl := Except.ok.inj h
      rfl
  | some v =>
      cases v with
      | map es =>
          cases es with
          | nil =>
              obtain rfl := Except.ok.inj h
              rfl
          | cons p r =>
              obtain rfl := Except.ok.inj h
              rfl
      | scalar | list | set | pair | shared =>
          simp only [entriesOf?] at h
          split at h
          · cases h
          · obtain rfl := Except.ok.inj h
            rfl

lemma targetIn_eq_ok {metadata : List (Scalar × Value)} {kind : String} {o : Option Value}
    (hmetadata : entriesOf? (find? metadataKey entries) = .ok metadata)
    (h : targetIn kind metadata = .ok o) : o = metadataTargetIn? entries kind := by
  obtain ⟨reference, hreference, hfilter⟩ := bind_eq_ok_iff.mp h
  obtain rfl := Except.ok.inj hfilter
  rw [metadataTargetIn?, find?_of_entriesOf? hreference, find?_of_entriesOf? hmetadata]

lemma isSome_ownTarget? :
    (ownTarget? entries).isSome = (find? targetKey entries).any (·.isTruthy) :=
  Option.isSome_filter

/-- A field that gives its target itself is left as it is, whatever its metadata. -/
lemma liftTarget_of_own (h : ownTarget? entries = some v) : liftTarget entries = .ok entries := by
  rw [liftTarget, ← isSome_ownTarget?, h]
  rfl

/-- Where a field gives no target itself, the one that its metadata gives is written, if any. -/
lemma liftTarget_eq_ok (hown : ownTarget? entries = none) (h : liftTarget entries = .ok lifted) :
    lifted = match metadataTarget? entries with
      | some v => put (.text targetKey) v entries
      | none => entries := by
  rw [liftTarget, ← isSome_ownTarget?, hown, Option.isSome_none, if_neg Bool.false_ne_true] at h
  obtain ⟨metadata, hmetadata, h⟩ := bind_eq_ok_iff.mp h
  obtain ⟨single, hsingle, h⟩ := bind_eq_ok_iff.mp h
  have hs := targetIn_eq_ok hmetadata hsingle
  cases single with
  | some v =>
      rw [metadataTarget?, ← hs, Option.some_or]
      exact (Except.ok.inj h).symm
  | none =>
      obtain ⟨multiple, hmultiple, h⟩ := bind_eq_ok_iff.mp h
      have hm := targetIn_eq_ok hmetadata hmultiple
      rw [metadataTarget?, ← hs, ← hm, Option.none_or]
      cases multiple with
      | some v => exact (Except.ok.inj h).symm
      | none => exact (Except.ok.inj h).symm

/-- After lifting, a target is read from what the metadata gives, and else from where it stands. -/
lemma valueUnder_lifted (hown : ownTarget? entries = none) (h : liftTarget entries = .ok lifted) :
    valueUnder targetNames lifted =
      (metadataTarget? entries).or (valueUnder targetNames entries) := by
  rw [liftTarget_eq_ok hown h]
  cases metadataTarget? entries with
  | some v => rw [targetNames, valueUnder_cons, find?_put_self, Option.some_or, Option.some_or]
  | none => exact Option.none_or.symm

end

/-! ### Reading -/

namespace Field

variable {entries others : List (Scalar × Value)}

/-- A field that is accepted takes its target from what was lifted. -/
lemma target_of_readLifted {lifted : List (Scalar × Value)} {f : Field}
    (h : readLifted lifted = .ok f) :
    optional targetNames none nullableText lifted = .ok f.target := by
  obtain ⟨⟨k, d, t, r, c⟩, hall, rfl⟩ := Checked.map_eq_ok_iff.mp h
  simp only [Checked.both_eq_ok_iff] at hall
  obtain ⟨-, -, -, -, htarget⟩ := hall
  exact htarget

/-- Once the target is lifted, metadata is not looked at. -/
lemma readLifted_congr (h : ∀ key, key ≠ metadataKey → find? key others = find? key entries) :
    readLifted others = readLifted entries := by
  have hlookup : ∀ names, metadataKey ∉ names → lookup names others = lookup names entries :=
    fun names hnames => lookup_congr fun name hname => h name (ne_of_mem_of_not_mem hname hnames)
  simp (disch := decide) only [readLifted, Reading.required, Reading.optional, hlookup]

lemma read_map_eq_ok {f : Field} (h : read (.map entries) = .ok (.ok f)) :
    ∃ lifted, liftTarget entries = .ok lifted ∧ readLifted lifted = .ok f := by
  obtain ⟨lifted, hlifted, hread⟩ := bind_eq_ok_iff.mp h
  exact ⟨lifted, hlifted, Except.ok.inj hread⟩

/-- Truthy values are not null, so that a target read from one is a text. -/
lemma exists_of_nullableText {v : Value} {target : Option String} (hv : v.isTruthy = true)
    (h : nullableText v = .ok target) : ∃ s, text v = .ok s ∧ target = some s := by
  have hnull : v.isNull = false := by
    cases v with
    | scalar s =>
        cases s with
        | null => cases hv
        | bool | int | float | text | loose | bytes | day | moment => rfl
    | list | map | set | pair | shared => rfl
  rw [nullableText, nullable, hnull, if_neg Bool.false_ne_true, Checked.map_eq_ok_iff] at h
  obtain ⟨s, hs, rfl⟩ := h
  exact ⟨s, hs, rfl⟩

lemma isTruthy_of_metadataTarget? {v : Value} (h : metadataTarget? entries = some v) :
    v.isTruthy = true := by
  rw [metadataTarget?, Option.or_eq_some_iff] at h
  rcases h with hsingle | ⟨-, hmultiple⟩
  · exact (Option.filter_eq_some_iff.mp hsingle).2
  · exact (Option.filter_eq_some_iff.mp hmultiple).2

/-- A field that is accepted has for its target the text of a truthy value that it is read from. -/
lemma exists_target_of_readLifted {lifted : List (Scalar × Value)} {f : Field} {v : Value}
    (h : readLifted lifted = .ok f) (hvalue : valueUnder targetNames lifted = some v)
    (hv : v.isTruthy = true) : ∃ s, text v = .ok s ∧ f.target = some s := by
  rcases optional_eq_ok_iff_valueUnder.mp (target_of_readLifted h) with ⟨w, hw, hread⟩ | ⟨hnone, -⟩
  · obtain rfl := Option.some.inj (hvalue.symm.trans hw)
    exact exists_of_nullableText hv hread
  · cases hvalue.symm.trans hnone

/-- Where a field gives a target itself, it is what the target is read from. -/
lemma valueUnder_of_ownTarget? {v : Value} (h : ownTarget? entries = some v) :
    valueUnder targetNames entries = some v ∧ v.isTruthy = true := by
  obtain ⟨hfind, hv⟩ := Option.filter_eq_some_iff.mp h
  refine ⟨?_, hv⟩
  rw [targetNames, valueUnder_cons, hfind, Option.some_or]

/-- A field that is accepted takes its target from itself, or else from its metadata. -/
lemma takesTarget_of_read {f : Field} (h : read (.map entries) = .ok (.ok f)) :
    TakesTarget entries f.target := by
  obtain ⟨lifted, hlifted, hread⟩ := read_map_eq_ok h
  cases hown : ownTarget? entries with
  | some v =>
      obtain rfl := Except.ok.inj ((liftTarget_of_own hown).symm.trans hlifted)
      obtain ⟨hvalue, hv⟩ := valueUnder_of_ownTarget? hown
      obtain ⟨s, hs, htarget⟩ := exists_target_of_readLifted hread hvalue hv
      rw [htarget]
      exact .own hown hs
  | none =>
      have hvalue := valueUnder_lifted hown hlifted
      cases hmetadata : metadataTarget? entries with
      | some v =>
          rw [hmetadata, Option.some_or] at hvalue
          obtain ⟨s, hs, htarget⟩ :=
            exists_target_of_readLifted hread hvalue (isTruthy_of_metadataTarget? hmetadata)
          rw [htarget]
          exact .metadata hown hmetadata hs
      | none =>
          rw [hmetadata, Option.none_or] at hvalue
          have htarget := optional_eq_ok_iff_valueUnder.mp (target_of_readLifted hread)
          rw [hvalue] at htarget
          rcases htarget with ⟨w, hw, htext⟩ | ⟨hnone, heq⟩
          · exact .present hown hmetadata hw htext
          · rw [← heq]
            exact .nowhere hnone hmetadata

/-- A field that gives its target itself is read alike whatever its metadata. -/
lemma read_of_own {v : Value} (hown : ownTarget? entries = some v)
    (hothers : ∀ key, key ≠ metadataKey → find? key others = find? key entries) :
    read (.map others) = .ok (readLifted entries) := by
  have hothersOwn : ownTarget? others = some v := by
    rw [ownTarget?, hothers targetKey (by decide)]
    exact hown
  calc read (.map others)
      = (liftTarget others).map readLifted := rfl
    _ = .ok (readLifted others) := by
      rw [liftTarget_of_own hothersOwn]
      rfl
    _ = .ok (readLifted entries) := by rw [readLifted_congr hothers]

end Field

/-- **The target that a field gives itself comes first**: every field that is accepted takes its
target from what it gives under the first name, else from what the metadata of its type gives for a
single reference, then for a multiple one, else from what stands under either name; and where it
gives a target under the first name, it is read alike whatever its metadata, and has that target if
it is accepted. -/
theorem target_is_taken (entries : List (Scalar × Value)) :
    (∀ f, Field.read (.map entries) = .ok (.ok f) → Field.TakesTarget entries f.target) ∧
      ∀ v, ownTarget? entries = some v → ∃ c : Checked Field,
        (∀ others, (∀ key, key ≠ metadataKey → find? key others = find? key entries) →
          Field.read (.map others) = .ok c) ∧
        ∀ f, c = .ok f → ∃ s, text v = .ok s ∧ f.target = some s := by
  refine ⟨fun f => Field.takesTarget_of_read, fun v hv => ⟨Field.readLifted entries, ?_, ?_⟩⟩
  · exact fun others => Field.read_of_own hv
  · intro f hf
    obtain ⟨hvalue, htruthy⟩ := Field.valueUnder_of_ownTarget? hv
    exact Field.exists_target_of_readLifted hf hvalue htruthy

/-! ### Fields with several targets -/

namespace Sample

/-- A field that gives its target itself. -/
def ownTarget : List (Scalar × Value) :=
  [(.text "key", .text "author"), (.text targetKey, .text "Authors")]

/-- The same field with metadata that is no mapping. -/
def ownTargetAndMetadata : List (Scalar × Value) := (.text metadataKey, .int 7) :: ownTarget

/-- A field whose metadata gives an empty target for a single reference, and one for a multiple
reference. -/
def multipleTarget : List (Scalar × Value) :=
  [(.text "key", .text "tags"), (.text targetKey, .null),
    (.text metadataKey, .object [("reference", .object [(targetKey, .text "")]),
      ("multiReference", .object [(targetKey, .text "Tags")])])]

/-- A field that gives a target under the second name, and another one in its metadata. -/
def otherTarget : List (Scalar × Value) :=
  [(.text "key", .text "author"), (.text "referenced_collection_id", .text "Authors"),
    (.text metadataKey, .object [("reference", .object [(targetKey, .text "Editors")])])]

end Sample

theorem target_is_taken_sample :
    Field.read (.map Sample.ownTargetAndMetadata) =
        .ok (.ok ⟨"author", none, "TEXT", false, some "Authors"⟩) ∧
      Field.read (.map Sample.multipleTarget) =
        .ok (.ok ⟨"tags", none, "TEXT", false, some "Tags"⟩) ∧
      Field.TakesTarget Sample.multipleTarget (some "Tags") := by
  obtain ⟨-, hown⟩ := target_is_taken Sample.ownTarget
  obtain ⟨c, hc, -⟩ := hown (.text "Authors") rfl
  have hplain : Field.read (.map Sample.ownTarget) = .ok c := hc _ fun _ _ => rfl
  have hmetadata : Field.read (.map Sample.ownTargetAndMetadata) = .ok c :=
    hc _ fun key hkey => find?_cons_of_not_isText (Scalar.isText_text_of_ne hkey.symm)
  have hmultiple : Field.read (.map Sample.multipleTarget) =
      .ok (.ok ⟨"tags", none, "TEXT", false, some "Tags"⟩) := rfl
  exact ⟨hmetadata.trans hplain.symm, hmultiple,
    (target_is_taken Sample.multipleTarget).1 _ hmultiple⟩

/-- A target under the second name alone does not come first: metadata takes its place. -/
theorem other_name_yields : ¬∀ (entries : List (Scalar × Value)) (s : String) (f : Field), s ≠ "" →
    find? targetKey entries = none →
    find? "referenced_collection_id" entries = some (.text s) →
    Field.read (.map entries) = .ok (.ok f) → f.target = some s := by
  intro h
  have htarget := h Sample.otherTarget "Authors"
    ⟨"author", none, "TEXT", false, some "Editors"⟩ (by decide) rfl rfl rfl
  exact absurd htarget (by decide)

end WidgetContracts
