/-
The addresses under which collections are asked for.

* `Url.pathOf`, `Url.queryOf`, `Url.fragmentOf`: what follows the host of an address, in its parts;
  `Url.readParts_eq_ok_iff`.
* `Url.readParts_append`: an address that is extended is read with a longer path.
* `Client.HasBase`: the store has an address with a path, under which the collections are;
  `Client.HasBase.exists_path`: where a collection is asked for.
* `Request.IsFor`: a request goes to the one segment below the collections that stands for an id.
* `IsPlainId`: an id that keeps its meaning inside an address.
* `plain_ids_have_their_own_addresses`: a request goes to the segment of its id exactly if the id is
  plain, and different plain ids never share an address; `ids_may_share_addresses`: others may.
-/
import Mathlib.Data.List.TakeWhile
import WidgetContracts.Proofs.Reading.Outcomes
import WidgetContracts.Proofs.Remote.Paths
import WidgetContracts.Proofs.Store.Replies
import WidgetContracts.Remote.Client

namespace WidgetContracts

/-! ### Taking a text up to a mark -/

section

variable {α : Type} {p : α → Bool} {x : α}

lemma takeWhile_append_cons (hx : p x = false) (as bs : List α) :
    (as ++ x :: bs).takeWhile p = as.takeWhile p := by
  induction as with
  | nil => exact List.takeWhile_cons_of_neg (by simp [hx])
  | cons a r ih => rw [List.cons_append, List.takeWhile_cons, List.takeWhile_cons, ih]

lemma dropWhile_append_cons (hx : p x = false) (as bs : List α) :
    (as ++ x :: bs).dropWhile p = as.dropWhile p ++ x :: bs := by
  induction as with
  | nil => exact List.dropWhile_cons_of_neg (by simp [hx])
  | cons a r ih =>
      rw [List.cons_append, List.dropWhile_cons, List.dropWhile_cons, ih]
      split_ifs <;> rfl

end

namespace Url

/-! ### What follows the host -/

/-- Whether a character stands in a path: it begins neither a query nor a fragment. -/
def isInPath (c : Char) : Bool := c != '?' && c != '#'

/-- The path in what follows the host of an address. -/
def pathOf (tail : List Char) : List Char := tail.takeWhile isInPath

/-- The query and what follows it, in what follows the host of an address. -/
def markedOf (tail : List Char) : Option (List Char) × List Char :=
  takeMarked '?' (· != '#') (tail.drop (pathOf tail).length)

/-- The query in what follows the host of an address. -/
def queryOf (tail : List Char) : Option (List Char) :=
  (markedOf tail).1.map (escape escapedInQuery)

/-- The fragment in what follows the host of an address. -/
def fragmentOf (tail : List Char) : Option (List Char) :=
  (takeMarked '#' (fun _ => true) (markedOf tail).2).1.map (escape escapedInFragment)

/-- Whether an address has neither a scheme nor an authority. -/
def isBare (scheme user : List Char) (host : Host) (port : Option Int) : Bool :=
  scheme.isEmpty && user.isEmpty && host.isNone && port.isNone

/-- When a text is an address, and what its parts are. -/
lemma readParts_eq_ok_iff {cs scheme r authority tail : List Char} {url : Url}
    (hscheme : takeScheme cs = (scheme, r)) (hauthority : takeAuthority r = (authority, tail)) :
    readParts cs = .ok url ↔
      ∃ host, Host.read? (splitPort (splitUser authority).2).1 = some host ∧
        ∃ port, readPort scheme (splitPort (splitUser authority).2).2 = .ok port ∧
          (if isBare scheme (splitUser authority).1 host port
            then badStarts.find? (·.isPrefixOf (pathOf tail)) else none) = none ∧
          url = { scheme := Decimal.lowerAscii scheme
                  user := escape escapedInUser (splitUser authority).1
                  host := host
                  port := port
                  path := escape escapedInPath
                    (if isBare scheme (splitUser authority).1 host port then pathOf tail
                      else settle (pathOf tail))
                  query := queryOf tail
                  fragment := fragmentOf tail } := by
  rw [readParts, hscheme]
  dsimp only
  rw [hauthority]
  dsimp only
  cases Host.read? (splitPort (splitUser authority).2).1 with
  | none =>
      constructor
      · intro h
        cases h
      · rintro ⟨host, h, -⟩
        cases h
  | some host =>
      change (readPort scheme _ >>= _) = _ ↔ _
      rw [bind_eq_ok_iff]
      simp only [Option.some.injEq, exists_eq_left']
      refine exists_congr fun port => and_congr_right fun _ => ?_
      have hbare : (scheme.isEmpty && (splitUser authority).1.isEmpty && host.isNone &&
        port.isNone) = isBare scheme (splitUser authority).1 host port := rfl
      have hpath : tail.takeWhile (fun c => c != '?' && c != '#') = pathOf tail := rfl
      rw [hbare, hpath]
      cases (if isBare scheme (splitUser authority).1 host port then
          badStarts.find? (·.isPrefixOf (pathOf tail)) else none) with
      | some start =>
          constructor
          · intro h
            cases h
          · rintro ⟨h, -⟩
            cases h
      | none => exact ⟨fun h => ⟨rfl, (Except.ok.inj h).symm⟩, fun h => congrArg Except.ok h.2.symm⟩

/-- What follows the host is a path if there is neither a query nor a fragment. -/
lemma pathOf_eq_self_iff {tail : List Char} :
    pathOf tail = tail ↔ queryOf tail = none ∧ fragmentOf tail = none := by
  have hparts : pathOf tail ++ tail.dropWhile isInPath = tail := List.takeWhile_append_dropWhile
  have hrest : tail.drop (pathOf tail).length = tail.dropWhile isInPath := by
    have h := congrArg (List.drop (pathOf tail).length) hparts
    rw [List.drop_left] at h
    exact h.symm
  rw [queryOf, fragmentOf, markedOf, hrest]
  cases hdrop : tail.dropWhile isInPath with
  | nil =>
      rw [hdrop, List.append_nil] at hparts
      exact ⟨fun _ => ⟨rfl, rfl⟩, fun _ => hparts⟩
  | cons c r =>
      refine ⟨fun h => ?_, fun ⟨hquery, hfragment⟩ => ?_⟩
      · rw [hdrop, h] at hparts
        exact absurd (List.append_right_eq_self.mp hparts) (List.cons_ne_nil c r)
      · have hmark := List.head?_dropWhile_not isInPath tail
        rw [hdrop] at hmark
        change ((c != '?') && (c != '#')) = false at hmark
        have hquestion : c ≠ '?' := by
          rintro rfl
          cases hquery
        have hhash : c ≠ '#' := by
          rintro rfl
          cases hfragment
        rw [bne_iff_ne.mpr hquestion, bne_iff_ne.mpr hhash] at hmark
        cases hmark

/-- A text is a path if no query and no fragment begins in it. -/
lemma pathOf_eq_self_iff_notMem {cs : List Char} : pathOf cs = cs ↔ '?' ∉ cs ∧ '#' ∉ cs := by
  rw [pathOf, List.takeWhile_eq_self_iff]
  constructor
  · exact fun h => ⟨fun hmem => absurd (h _ hmem) (by decide),
      fun hmem => absurd (h _ hmem) (by decide)⟩
  · rintro ⟨hquestion, hhash⟩ c hc
    exact Bool.and_eq_true_iff.mpr ⟨bne_iff_ne.mpr (ne_of_mem_of_not_mem hc hquestion),
      bne_iff_ne.mpr (ne_of_mem_of_not_mem hc hhash)⟩

lemma pathOf_append {tail : List Char} (h : pathOf tail = tail) (x : List Char) :
    pathOf (tail ++ x) = tail ++ pathOf x :=
  List.takeWhile_append_of_pos (List.takeWhile_eq_self_iff.mp h)

/-- A scheme ends at the first colon. -/
lemma takeScheme_eq_iff {cs scheme r : List Char} (hne : scheme ≠ []) :
    takeScheme cs = (scheme, r) ↔ cs = scheme ++ ':' :: r ∧
      (∀ c ∈ scheme, isSchemeCharacter c = true) ∧ scheme.head?.all Char.isAlpha = true := by
  constructor
  · intro h
    have hparts : cs.takeWhile isSchemeCharacter ++
        cs.drop (cs.takeWhile isSchemeCharacter).length = cs :=
      List.prefix_iff_eq_append.mp (List.takeWhile_prefix _)
    rw [takeScheme] at h
    split at h
    · rename_i r' hdrop
      split_ifs at h with hletter
      · obtain ⟨rfl, rfl⟩ := Prod.mk.inj h
        rw [hdrop] at hparts
        exact ⟨hparts.symm, fun c hc => List.mem_takeWhile_imp hc, hletter⟩
      · exact absurd (Prod.mk.inj h).1.symm hne
    · exact absurd (Prod.mk.inj h).1.symm hne
  · rintro ⟨rfl, hall, hletter⟩
    have hscheme : (scheme ++ ':' :: r).takeWhile isSchemeCharacter = scheme := by
      rw [takeWhile_append_cons (by decide), List.takeWhile_eq_self_iff.mpr hall]
    rw [takeScheme, hscheme, List.drop_left]
    exact if_pos hletter

lemma takeScheme_append {cs scheme r : List Char} (h : takeScheme cs = (scheme, r))
    (hne : scheme ≠ []) (x : List Char) : takeScheme (cs ++ x) = (scheme, r ++ x) := by
  obtain ⟨rfl, hall, hletter⟩ := (takeScheme_eq_iff hne).mp h
  exact (takeScheme_eq_iff hne).mpr ⟨List.append_assoc _ _ _, hall, hletter⟩

/-- An authority stands behind two slashes. -/
lemma of_takeAuthority {r authority tail : List Char} (h : takeAuthority r = (authority, tail))
    (hne : authority ≠ []) :
    ∃ r', r = '/' :: '/' :: r' ∧
      authority = r'.takeWhile (fun c => c != '/' && c != '?' && c != '#') ∧
      tail = r'.dropWhile (fun c => c != '/' && c != '?' && c != '#') := by
  rw [takeAuthority.eq_def] at h
  split at h
  · obtain ⟨hauthority, htail⟩ := Prod.mk.inj h
    exact ⟨_, rfl, hauthority.symm, htail.symm⟩
  · exact absurd (Prod.mk.inj h).1.symm hne

/-- What is put behind an address belongs to what follows the host. -/
lemma takeAuthority_append {r authority tail : List Char} (h : takeAuthority r = (authority, tail))
    (hne : authority ≠ []) (s : List Char) :
    takeAuthority (r ++ '/' :: s) = (authority, tail ++ '/' :: s) := by
  obtain ⟨r', rfl, rfl, rfl⟩ := of_takeAuthority h hne
  rw [List.cons_append, List.cons_append, takeAuthority]
  rw [takeWhile_append_cons (by decide), dropWhile_append_cons (by decide)]

/-- A path that follows a host begins with a slash. -/
lemma fromRoot_of_takeAuthority {r authority tail : List Char}
    (h : takeAuthority r = (authority, tail)) (hne : authority ≠ []) (htail : pathOf tail = tail) :
    FromRoot tail := by
  obtain ⟨r', rfl, rfl, rfl⟩ := of_takeAuthority h hne
  intro c hc
  have hstop := List.head?_dropWhile_not (fun c => c != '/' && c != '?' && c != '#') r'
  rw [Option.mem_def.mp hc] at hstop
  have hin : isInPath c = true := by
    have hmem := List.mem_of_mem_head? hc
    rw [← htail] at hmem
    exact List.mem_takeWhile_imp hmem
  change ((c != '/') && (c != '?') && (c != '#')) = false at hstop
  rw [isInPath] at hin
  rw [Bool.and_assoc, hin, Bool.and_true] at hstop
  simpa using hstop

lemma readParts_of_read {cs : List Char} {url : Url} (h : read cs = .ok url) :
    readParts cs = .ok url := by
  rw [read] at h
  split_ifs at h
  split at h
  · cases h
  · exact h

/-- **An address that is extended is read with a longer path.** -/
lemma readParts_append {cs : List Char} {base : Url} (h : readParts cs = .ok base)
    (habsolute : base.isAbsolute = true) (hquery : base.query = none)
    (hfragment : base.fragment = none) :
    ∃ path, FromRoot path ∧ base.path = escape escapedInPath (settle path) ∧
      ∀ s, ∃ query fragment, readParts (cs ++ '/' :: s) = .ok { base with
          path := escape escapedInPath (settle (path ++ '/' :: pathOf s))
          query := query
          fragment := fragment } ∧
        (pathOf s = s → query = none ∧ fragment = none) := by
  obtain ⟨scheme, r, hscheme⟩ : ∃ scheme r, takeScheme cs = (scheme, r) := ⟨_, _, rfl⟩
  obtain ⟨authority, tail, hauthority⟩ : ∃ authority tail, takeAuthority r = (authority, tail) :=
    ⟨_, _, rfl⟩
  obtain ⟨host, hhost, port, hport, -, rfl⟩ := (readParts_eq_ok_iff hscheme hauthority).mp h
  obtain ⟨hlower, hnamed⟩ := Bool.and_eq_true_iff.mp habsolute
  have hscheme_ne : scheme ≠ [] := by
    rintro rfl
    cases hlower
  have hauthority_ne : authority ≠ [] := by
    rintro rfl
    obtain rfl := Option.some.inj hhost
    cases hnamed
  have hbare : isBare scheme (splitUser authority).1 host port = false := by
    rw [isBare, List.isEmpty_eq_false_iff.mpr hscheme_ne]
    rfl
  have htail : pathOf tail = tail := pathOf_eq_self_iff.mpr ⟨hquery, hfragment⟩
  refine ⟨tail, fromRoot_of_takeAuthority hauthority hauthority_ne htail, ?_, fun s => ?_⟩
  · change escape escapedInPath (if isBare _ _ _ _ then _ else _) = _
    rw [hbare, htail]
    rfl
  · have hlonger : pathOf (tail ++ '/' :: s) = tail ++ '/' :: pathOf s := pathOf_append htail _
    refine ⟨queryOf (tail ++ '/' :: s), fragmentOf (tail ++ '/' :: s), ?_, fun hs => ?_⟩
    · rw [readParts_eq_ok_iff (takeScheme_append hscheme hscheme_ne _)
        (takeAuthority_append hauthority hauthority_ne s)]
      refine ⟨host, hhost, port, hport, ?_, ?_⟩
      · rw [hbare]
        rfl
      · rw [hbare, hlonger]
        rfl
    · rw [hs] at hlonger
      exact pathOf_eq_self_iff.mp hlonger

/-! ### Texts of addresses -/

/-- The text of an address that differs from another in what follows the host. -/
lemma text_eq_iff {base : Url} {path path' : List Char} {query fragment : Option (List Char)} :
    ({ base with path := path, query := query, fragment := fragment } : Url).text =
        ({ base with path := path', query := none, fragment := none } : Url).text ↔
      path ++ (marked '?' query ++ marked '#' fragment) = path' := by
  rw [text, text]
  dsimp only
  constructor
  · intro h
    have h' := String.ofList_injective h
    simp only [place, List.append_assoc, List.append_cancel_left_eq] at h'
    simpa [marked] using h'
  · rintro rfl
    simp [marked, place]

/-- Where no mark of a query or fragment stands, there is only a path. -/
lemma eq_of_append_marked {path path' : List Char} {query fragment : Option (List Char)}
    (h : path ++ (marked '?' query ++ marked '#' fragment) = path') (hquestion : '?' ∉ path')
    (hhash : '#' ∉ path') : path = path' := by
  subst h
  cases query with
  | some q => exact absurd (by simp [marked]) hquestion
  | none =>
      cases fragment with
      | some f => exact absurd (by simp [marked]) hhash
      | none => exact (List.append_nil path).symm

end Url

/-! ### The address of a collection -/

/-- The path of all collections, below the path of the store. -/
def collectionsPath : List Char := "/wix-data/v2/collections".toList

namespace Client

/-- The store has an address with a host and a path, under which the collections are. -/
structure HasBase (c : Client) (base : Url) : Prop where
  read : Url.read c.apiBase.toList = .ok base
  absolute : base.isAbsolute = true
  query : base.query = none
  fragment : base.fragment = none

variable {c : Client} {base : Url}

open Url (FromRoot escape escapedInPath settle pathOf)

lemma settle_collections {path : List Char} (h : FromRoot path) :
    settle (path ++ collectionsPath) = settle path ++ collectionsPath := by
  have hsplit (front : List Char) : front ++ collectionsPath =
      front ++ '/' :: "wix-data".toList ++ '/' :: "v2".toList ++ '/' :: "collections".toList := by
    rw [List.append_assoc, List.append_assoc]
    rfl
  have hdata := h.append "wix-data".toList
  rw [hsplit, hsplit, Url.settle_push (hdata.append _) (by decide) (by decide),
    Url.settle_push hdata (by decide) (by decide), Url.settle_push h (by decide) (by decide)]

/-- **Where a collection is asked for.** -/
lemma HasBase.exists_path (h : c.HasBase base) :
    ∃ path, FromRoot path ∧
      escape escapedInPath (settle path) = base.path ++ collectionsPath ∧
      ∀ id url, c.target id = .ok url → ∃ query fragment,
        url = { base with
          path := escape escapedInPath (settle (path ++ '/' :: pathOf id.toList))
          query := query
          fragment := fragment } ∧
        (pathOf id.toList = id.toList → query = none ∧ fragment = none) := by
  obtain ⟨path, hroot, hpath, hread⟩ := Url.readParts_append (Url.readParts_of_read h.read)
    h.absolute h.query h.fragment
  refine ⟨path ++ collectionsPath, hroot.append _, ?_, fun id url htarget => ?_⟩
  · rw [settle_collections hroot, Url.escape_append, hpath]
    rfl
  · let front := "wix-data/v2/collections/".toList
    have hpathOf : pathOf (front ++ id.toList) = front ++ pathOf id.toList :=
      Url.pathOf_append (by decide) _
    have haddress : (c.address id).toList = c.apiBase.toList ++ '/' :: (front ++ id.toList) := by
      rw [address, String.toList_append, String.toList_append, List.append_assoc]
      rfl
    obtain ⟨query, fragment, hparts, hnone⟩ := hread (front ++ id.toList)
    rw [target, bind_eq_ok_iff] at htarget
    obtain ⟨url', hurl', hrooted⟩ := htarget
    have hsame := Url.readParts_of_read (mapError_eq_ok_iff.mp hurl')
    rw [haddress, hparts] at hsame
    obtain rfl := Except.ok.inj hsame
    rw [mapError_eq_ok_iff, Url.rooted] at hrooted
    refine ⟨query, fragment, ?_, fun hid => hnone (by rw [hpathOf, hid])⟩
    have hurl := Except.ok.inj ((if_pos h.absolute).symm.trans hrooted)
    rw [← hurl, hpathOf, List.append_assoc]
    rfl

/-- A request is sent to the address of a collection. -/
lemma of_mem_fetch {reply : Reply} {id : String} {request : Request}
    (h : request ∈ (c.fetch reply id).1) :
    ∃ url, c.target id = .ok url ∧ request.url = url.text := by
  rw [fetch] at h
  split at h
  · cases h
  · rename_i url htarget
    split at h
    · cases h
    · rename_i request' hrequest
      obtain rfl := List.mem_singleton.mp h
      rw [Client.request] at hrequest
      split at hrequest
      · cases hrequest
      · obtain rfl := Except.ok.inj hrequest
        exact ⟨url, htarget, rfl⟩

end Client

/-! ### Ids in addresses -/

/-- A request goes to the one segment below the collections that stands for an id: the path of its
address has no other segment there, and there is neither a query nor a fragment. -/
def Request.IsFor (request : Request) (base : Url) (id : String) : Prop :=
  ∃ segment : List Char, ('/' ∉ segment ∧ '?' ∉ segment ∧ '#' ∉ segment) ∧
    Url.unescape segment = Text.Utf8.encode id.toList ∧
    request.url = ({ base with
      path := base.path ++ collectionsPath ++ '/' :: segment
      query := none
      fragment := none } : Url).text

/-- An id that keeps its meaning inside an address. -/
structure IsPlainId (id : String) : Prop where
  noMarks : '/' ∉ id.toList ∧ '?' ∉ id.toList ∧ '#' ∉ id.toList
  noDots : ¬Url.IsDots id.toList
  noEscape : ¬Url.HasEscape id.toList

/-- Requests for different ids do not go to the same address. -/
lemma Request.IsFor.id_eq {request request' : Request} {base : Url} {id id' : String}
    (h : request.IsFor base id) (h' : request'.IsFor base id') (hurl : request.url = request'.url) :
    id = id' := by
  obtain ⟨segment, -, hid, heq⟩ := h
  obtain ⟨segment', -, hid', heq'⟩ := h'
  rw [heq, heq', Url.text_eq_iff] at hurl
  have hsegment : segment = segment' := by
    simpa [Url.marked] using hurl
  rw [hsegment, hid'] at hid
  exact String.toList_injective (Text.Utf8.encode_injective hid.symm)

section

variable {c : Client} {base : Url} {id : String} {reply : Reply} {request : Request}

/-- A request goes to the segment of its id if the id is plain. -/
lemma IsPlainId.isFor (h : IsPlainId id) (hbase : c.HasBase base)
    (hrequest : request ∈ (c.fetch reply id).1) : request.IsFor base id := by
  obtain ⟨path, hroot, hpath, htargets⟩ := hbase.exists_path
  obtain ⟨url, htarget, hurl⟩ := Client.of_mem_fetch hrequest
  obtain ⟨query, fragment, rfl, hnone⟩ := htargets id url htarget
  obtain ⟨hslash, hquestion, hhash⟩ := h.noMarks
  have hid := Url.pathOf_eq_self_iff_notMem.mpr ⟨hquestion, hhash⟩
  obtain ⟨rfl, rfl⟩ := hnone hid
  refine ⟨Url.escape Url.escapedInPath id.toList, ⟨Url.slash_notMem_escape_path hslash,
    Url.notMem_escape_path (by decide), Url.notMem_escape_path (by decide)⟩, ?_, ?_⟩
  · rw [Url.unescape_escape_path, Url.unescape_eq_encode h.noEscape]
  · rw [hurl, hid, Url.settle_push hroot hslash h.noDots, Url.escape_append, hpath]
    rfl

/-- An id is plain if its request goes to its segment. -/
lemma Request.IsFor.isPlainId (h : request.IsFor base id) (hbase : c.HasBase base)
    (hrequest : request ∈ (c.fetch reply id).1) : IsPlainId id := by
  obtain ⟨path, hroot, hpath, htargets⟩ := hbase.exists_path
  obtain ⟨url, htarget, hurl⟩ := Client.of_mem_fetch hrequest
  obtain ⟨query, fragment, rfl, -⟩ := htargets id url htarget
  obtain ⟨segment, ⟨hslash, hquestion, hhash⟩, hid, heq⟩ := h
  rw [hurl, Url.text_eq_iff, ← hpath] at heq
  have hnoMark {x : Char} (hx : x ∈ Url.escapedInPath) (hnot : x ∉ segment) (hne : x ≠ '/') :
      x ∉ Url.escape Url.escapedInPath (Url.settle path) ++ '/' :: segment := by
    rw [List.mem_append, List.mem_cons, not_or, not_or]
    exact ⟨Url.notMem_escape_path hx, hne, hnot⟩
  have hpaths := Url.eq_of_append_marked heq (hnoMark (by decide) hquestion (by decide))
    (hnoMark (by decide) hhash (by decide))
  -- the segment comes from a part of the id; it stands for the whole id, so that part is all of it
  obtain ⟨t, ht, hdots, rfl⟩ := Url.exists_of_settle_eq hroot hslash hpaths
  rw [Url.unescape_escape_path] at hid
  obtain ⟨hnoSlash, hpart⟩ := of_mem_splitOn ht
  have hfront : Url.pathOf id.toList <+: id.toList := List.takeWhile_prefix _
  obtain ⟨rfl, hnoEscape⟩ := Url.eq_of_infix_of_unescape_eq (hpart.trans hfront.isInfix) hid
  have hpathOf := hfront.eq_of_length_le hpart.length_le
  exact ⟨⟨hnoSlash, Url.pathOf_eq_self_iff_notMem.mp hpathOf⟩, hdots, hnoEscape⟩

end

/-- **Plain ids have their own addresses.** Where the store has an address, a request for a
collection goes to the one segment that stands for the id exactly if the id is plain, and plain ids
whose requests go to one address are equal. -/
theorem plain_ids_have_their_own_addresses (c : Client) (base : Url) (h : c.HasBase base) :
    (∀ reply id, ∀ request ∈ (c.fetch reply id).1, request.IsFor base id ↔ IsPlainId id) ∧
      ∀ reply reply' id id', IsPlainId id → IsPlainId id' →
        ∀ request ∈ (c.fetch reply id).1, ∀ request' ∈ (c.fetch reply' id').1,
          request.url = request'.url → id = id' := by
  constructor
  · intro reply id request hrequest
    exact ⟨fun hfor => hfor.isPlainId h hrequest, fun hplain => hplain.isFor h hrequest⟩
  · intro reply reply' id id' hid hid' request hrequest request' hrequest' hurl
    exact (hid.isFor h hrequest).id_eq (hid'.isFor h hrequest') hurl

/-! ### Requests of one client -/

namespace Sample

/-- The address of the store of `plainClient`. -/
def plainBase : Url := ⟨"https".toList, [], .named "data.test".toList, none, [], none, none⟩

/-- A store that does not know a collection. -/
def unknownReply : Reply := .response 404 []

/-- What `plainClient` sends to an address. -/
def requestTo (url : String) : Request :=
  ⟨"GET", url, [("Authorization", "key"), ("Accept", "application/json")]⟩

/-- The request for a collection whose id has a blank. -/
def spacedRequest : Request := requestTo "https://data.test/wix-data/v2/collections/my%20posts"

/-- The request for a collection whose id has a question mark. -/
def queryRequest : Request := requestTo "https://data.test/wix-data/v2/collections/Posts?draft"

lemma hasBase_plainClient : plainClient.HasBase plainBase := ⟨rfl, rfl, rfl, rfl⟩

lemma isPlainId_spaced : IsPlainId "my posts" :=
  ⟨by decide, by decide, Url.not_hasEscape_of_length_le (by decide)⟩

lemma isPlainId_percent : IsPlainId "50% off" :=
  ⟨by decide, by decide, Url.not_hasEscape_of_length_le (by decide)⟩

lemma fetch_spaced : (plainClient.fetch unknownReply "my posts").1 = [spacedRequest] := rfl

lemma fetch_query : (plainClient.fetch unknownReply "Posts?draft").1 = [queryRequest] := rfl

lemma spacedRequest_mem : spacedRequest ∈ (plainClient.fetch unknownReply "my posts").1 :=
  fetch_spaced ▸ List.mem_singleton_self spacedRequest

lemma queryRequest_mem : queryRequest ∈ (plainClient.fetch unknownReply "Posts?draft").1 :=
  fetch_query ▸ List.mem_singleton_self queryRequest

end Sample

theorem plain_ids_have_their_own_addresses_sample :
    (Sample.plainClient.fetch Sample.unknownReply "my posts").1 = [Sample.spacedRequest] ∧
      Sample.spacedRequest.IsFor Sample.plainBase "my posts" ∧
      ∀ request ∈ (Sample.plainClient.fetch Sample.unknownReply "50% off").1,
        request.url ≠ Sample.spacedRequest.url := by
  obtain ⟨hfor, hown⟩ := plain_ids_have_their_own_addresses Sample.plainClient Sample.plainBase
    Sample.hasBase_plainClient
  refine ⟨Sample.fetch_spaced, (hfor _ _ _ Sample.spacedRequest_mem).mpr Sample.isPlainId_spaced,
    fun request hrequest hurl => ?_⟩
  exact absurd (hown _ _ _ _ Sample.isPlainId_percent Sample.isPlainId_spaced _ hrequest _
    Sample.spacedRequest_mem hurl) (by decide)

/-- An id that is not plain asks for something else: behind a question mark stands a query. Two ids
ask for one resource if an escape stands in one of them. -/
theorem ids_may_share_addresses :
    (Sample.plainClient.fetch Sample.unknownReply "Posts?draft").1 = [Sample.queryRequest] ∧
      ¬Sample.queryRequest.IsFor Sample.plainBase "Posts?draft" ∧
      "my posts" ≠ "my%20posts" ∧
      (Sample.plainClient.fetch Sample.unknownReply "my posts").1 = [Sample.spacedRequest] ∧
      (Sample.plainClient.fetch Sample.unknownReply "my%20posts").1 = [Sample.spacedRequest] := by
  refine ⟨Sample.fetch_query, fun hfor => ?_, by decide, Sample.fetch_spaced, rfl⟩
  have hplain := hfor.isPlainId Sample.hasBase_plainClient Sample.queryRequest_mem
  exact absurd hplain.noMarks (by decide)

end WidgetContracts
