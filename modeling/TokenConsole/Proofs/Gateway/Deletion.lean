import TokenConsole.Gateway.Session
import TokenConsole.Proofs.Url.Literal

/-!
# Which mapping a deletion names

The id of a mapping is put behind the address of the list of mappings as it is. What is read there
as an address names the mapping if and only if the id has nothing in it that means something in an
address.
-/
namespace TokenConsole.Gateway.Session

open TokenConsole.Url (Trail Literal addedPath addedQuery addedFragment percentDecode)
open TokenConsole.Url.Literal (segment)

variable {s : Session} {l : Request}

/-- An address that is continued behind its path. -/
def continued (url : Url) (t : Trail) (id : String) : Url :=
  { url with path := t.path (addedPath id.toList), query := addedQuery id.toList
             fragment := addedFragment id.toList }

theorem withoutNames_continued (url : Url) (t : Trail) (id : String) :
    withoutNames (continued url t id) = continued (withoutNames url) t id := by
  unfold withoutNames continued
  dsimp only
  split
  · split <;> rfl
  · rfl

theorem withoutNames_parts (url : Url) : (withoutNames url).scheme = url.scheme ∧
    (withoutNames url).path = url.path ∧ (withoutNames url).query = url.query ∧
    (withoutNames url).fragment = url.fragment := by
  unfold withoutNames
  split
  · split <;> exact ⟨rfl, rfl, rfl, rfl⟩
  · exact ⟨rfl, rfl, rfl, rfl⟩

/-- How the request for the list is made. -/
theorem request_listMappings (h : s.request .listMappings = .ok l) : ∃ url a,
    Url.read (s.base ++ "/mappings/") = .ok url ∧ url.authority = some a ∧ a.host ≠ .name "" ∧
      isServed (withoutNames url) a.host = true ∧ l.url = withoutNames url ∧
      l.authorization = authorization? a := by
  have hlist : Call.path .listMappings = "/mappings/" := rfl
  rw [request, hlist] at h
  split at h
  · cases h
  · next url hread =>
    split at h
    · cases h
    · next a hauthority =>
      dsimp only at h
      split at h
      · cases h
      · next hhost =>
        split at h
        · cases h
        · next hserved =>
          cases h
          exact ⟨url, a, hread, hauthority, hhost, by simpa using hserved, rfl, rfl⟩

theorem authority_of_listMappings (h : s.request .listMappings = .ok l) :
    ∃ a, l.url.authority = some a := by
  obtain ⟨url, a, -, hauthority, -, -, hurl, -⟩ := request_listMappings h
  rw [hurl, withoutNames, hauthority]
  dsimp only
  split
  · exact ⟨_, rfl⟩
  · exact ⟨a, hauthority⟩

theorem family_of_isServed {url : Url} {host : Url.Host} (h : isServed url host = true) :
    Url.family url.scheme = .web := by
  unfold isServed at h
  obtain ⟨⟨hscheme, -⟩, -⟩ := by simpa only [Bool.and_eq_true] using h
  rcases Bool.or_eq_true_iff.1 hscheme with hscheme | hscheme <;> rw [eq_of_beq hscheme] <;> decide

/-- Only the length of an address changes with what it is continued with. -/
theorem isServed_continued {url : Url} {host : Url.Host} (h : isServed url host = true)
    (t : Trail) (id : String) : isServed (continued url t id) host =
      decide ((continued url t id).text.utf8ByteSize ≤ maxAddress) := by
  unfold isServed at h ⊢
  have hfit := (Bool.and_eq_true_iff.1 h).1
  change ((url.scheme == "http" || url.scheme == "https") && !host.text.toList.any isUnfit &&
    decide _) = _
  rw [hfit, Bool.true_and]

/-- The request for a deletion goes on from the address of the list. It is made unless the address
gets too long. -/
theorem request_deleteMapping (h : s.request .listMappings = .ok l) (hquery : l.url.query = none)
    (hfragment : l.url.fragment = none) : ∃ t : Trail, l.url.path = t.path [] ∧ ∀ id, ∃ cookies,
      s.request (.deleteMapping id) =
        if (continued l.url t id).text.utf8ByteSize ≤ maxAddress then
          .ok ⟨.delete, continued l.url t id, l.authorization, cookies, none⟩
        else .error (refused (continued l.url t id)) := by
  obtain ⟨url, a, hread, hauthority, hhost, hserved, hurl, hnames⟩ := request_listMappings h
  obtain ⟨hscheme, hpath, hquery', hfragment'⟩ := withoutNames_parts url
  rw [hurl, hquery'] at hquery
  rw [hurl, hfragment'] at hfragment
  have hweb : Url.family url.scheme = .web := hscheme ▸ family_of_isServed hserved
  have hfront : (s.base ++ "/mappings/").toList =
      (s.base.toList ++ "/mapping".toList) ++ ['s', '/'] := by
    rw [String.toList_append, List.append_assoc]
    rfl
  obtain ⟨t, ht, hmore⟩ := Url.read_append hfront (by decide) (by decide) (by decide) (by decide)
    hread hweb hquery hfragment
  refine ⟨t, by rw [hurl, hpath, ht], fun id =>
    ⟨s.cookiesFor url.scheme a.host (continued url t id).path.text, ?_⟩⟩
  have hread' : Url.read (s.base ++ Call.path (.deleteMapping id)) = .ok (continued url t id) := by
    change Url.read (s.base ++ ("/mappings/" ++ id)) = _
    rw [← String.append_assoc, hmore]
    rfl
  have hauthority' : (continued url t id).authority = some a := hauthority
  unfold request
  rw [hread']
  dsimp only
  rw [hauthority']
  dsimp only
  rw [withoutNames_continued, if_neg hhost, ← hurl, isServed_continued (hurl ▸ hserved), hnames]
  by_cases hsize : (continued l.url t id).text.utf8ByteSize ≤ maxAddress
  · rw [decide_eq_true hsize, if_pos hsize]
    rfl
  · rw [decide_eq_false hsize, if_neg hsize]
    rfl

/-! ### What a server is told -/

theorem target_of_no_query {q : Request} (h : q.url.query = none) : q.target = q.url.path.text := by
  rw [Request.target, h]
  exact String.append_empty

theorem text_of_authority {url : Url} {a : Url.Authority} (ha : url.authority = some a)
    (hquery : url.query = none) (hfragment : url.fragment = none) :
    url.text = url.scheme ++ ":" ++ ("//" ++ a.text ++ url.path.text) := by
  rw [Url.text, ha, hquery, hfragment]
  simp

theorem path_text_of_literal {url : Url} {t : Trail} {id : String} (hpath : url.path = t.path [])
    (hid : Literal id) :
    (continued url t id).path.text = url.path.text ++ String.ofList (segment id) := by
  rw [← String.toList_inj, String.toList_append, String.toList_ofList, hpath]
  exact hid.toList_text_path t

theorem text_of_literal {url : Url} {t : Trail} {a : Url.Authority} {id : String}
    (ha : url.authority = some a) (hpath : url.path = t.path []) (hquery : url.query = none)
    (hfragment : url.fragment = none) (hid : Literal id) :
    (continued url t id).text = url.text ++ String.ofList (segment id) := by
  have ha' : (continued url t id).authority = some a := ha
  rw [text_of_authority ha' hid.addedQuery_eq hid.addedFragment_eq,
    text_of_authority ha hquery hfragment, path_text_of_literal hpath hid]
  simp only [String.append_assoc]
  rfl

/-- The path of the request is that of the list with one segment more, and the id can be read from
this segment. -/
def Names (l q : Request) (id : String) : Prop :=
  ∃ name, '/' ∉ name ∧ q.url.path.text.toList = l.url.path.text.toList ++ name ∧
    percentDecode name = Text.Utf8.encode id

/-- A deletion names its mapping if and only if the id is literal. A literal id is sent as long as
the address is not too long, and no two of them are sent alike; but a hash sign behind it, with
anything after it, is not sent at all. -/
theorem deletion_names_iff (h : s.request .listMappings = .ok l) (hquery : l.url.query = none)
    (hfragment : l.url.fragment = none) :
    (∀ id q, s.request (.deleteMapping id) = .ok q →
      q.method = .delete ∧ (Names l q id ↔ Literal id)) ∧
    (∀ id, Literal id →
      (l.url.text ++ String.ofList (segment id)).utf8ByteSize ≤ maxAddress →
        ∃ q, s.request (.deleteMapping id) = .ok q ∧
          q.target = l.target ++ String.ofList (segment id)) ∧
    (∀ id id' q q', Literal id → Literal id' → s.request (.deleteMapping id) = .ok q →
      s.request (.deleteMapping id') = .ok q' → q.target = q'.target → id = id') ∧
    ∀ id rest q q', Literal id → s.request (.deleteMapping id) = .ok q →
      s.request (.deleteMapping (id ++ "#" ++ rest)) = .ok q' →
        q'.method = q.method ∧ q'.target = q.target := by
  obtain ⟨t, hpath, hrequest⟩ := request_deleteMapping h hquery hfragment
  have hsent : ∀ {id q}, s.request (.deleteMapping id) = .ok q →
      q.method = .delete ∧ q.url = continued l.url t id := by
    intro id q hq
    obtain ⟨cookies, heq⟩ := hrequest id
    rw [heq] at hq
    split at hq
    · cases hq
      exact ⟨rfl, rfl⟩
    · cases hq
  have htarget : ∀ {id} {q : Request}, Literal id → q.url = continued l.url t id →
      q.target = l.target ++ String.ofList (segment id) := by
    intro id q hid hq
    have hnone : q.url.query = none := by rw [hq]; exact hid.addedQuery_eq
    rw [target_of_no_query hnone, target_of_no_query hquery, hq, path_text_of_literal hpath hid]
  refine ⟨fun id q hq => ?_, fun id hid hsize => ?_, fun id id' q q' hid hid' hq hq' heq => ?_,
    fun id rest q q' hid hq hq' => ?_⟩
  · obtain ⟨hmethod, hurl⟩ := hsent hq
    refine ⟨hmethod, ?_⟩
    rw [Names, hurl, hpath]
    exact Url.path_names_iff t id
  · obtain ⟨a, ha⟩ := authority_of_listMappings h
    obtain ⟨cookies, hq⟩ := hrequest id
    rw [text_of_literal ha hpath hquery hfragment hid, if_pos hsize] at hq
    exact ⟨_, hq, htarget hid rfl⟩
  · rw [htarget hid (hsent hq).2, htarget hid' (hsent hq').2, ← String.toList_inj,
      String.toList_append, String.toList_append, List.append_cancel_left_eq,
      String.toList_ofList, String.toList_ofList] at heq
    rw [← Text.Utf8.encode_inj, ← hid.percentDecode_segment, ← hid'.percentDecode_segment, heq]
  · obtain ⟨hmethod, hurl⟩ := hsent hq
    obtain ⟨hmethod', hurl'⟩ := hsent hq'
    obtain ⟨hsame, hsame'⟩ := hid.added_hash rest
    refine ⟨hmethod'.trans hmethod.symm, ?_⟩
    rw [Request.target, Request.target, hurl, hurl', continued, continued, hsame, hsame']

/-- A session with a gateway on this machine. -/
def onThisMachine : Session := fresh "http://[::1]:8080/api/v1"

theorem literal_of_token : Literal "t-1" where
  unmarked := by simp
  ending := by
    rintro c ⟨⟩
    decide
  no_dots := by decide
  no_escape := by decide

/-- An id of letters, digits and hyphens names its mapping. -/
theorem token_is_named : ∃ l q, onThisMachine.request .listMappings = .ok l ∧
    l.url.query = none ∧ l.url.fragment = none ∧
    onThisMachine.request (.deleteMapping "t-1") = .ok q ∧ Names l q "t-1" := by
  have hlist : (onThisMachine.request .listMappings).toOption.any (fun l =>
      l.url.query == none && l.url.fragment == none &&
        (l.url.text ++ String.ofList (segment "t-1")).utf8ByteSize ≤ maxAddress) = true := by
    decide +kernel
  obtain ⟨l, hl, htest⟩ := exists_of_any_toOption hlist
  simp only [Bool.and_eq_true, beq_iff_eq, decide_eq_true_eq] at htest
  obtain ⟨⟨hquery, hfragment⟩, hsize⟩ := htest
  obtain ⟨hnames, hsent, -, -⟩ := deletion_names_iff hl hquery hfragment
  obtain ⟨q, hq, -⟩ := hsent "t-1" literal_of_token hsize
  exact ⟨l, q, hl, hquery, hfragment, hq, (hnames "t-1" q hq).2.2 literal_of_token⟩

/-- What the gateway is told when a mapping is deleted. -/
def told (s : Session) (id : String) : Option (Method × String) :=
  (s.request (.deleteMapping id)).toOption.map fun q => (q.method, q.target)

/-- Three ids, one request: each of them deletes the first one. -/
theorem three_ids_sent_alike :
    told onThisMachine "t-1" = some (.delete, "/api/v1/mappings/t-1") ∧
    told onThisMachine "x/../t-1" = some (.delete, "/api/v1/mappings/t-1") ∧
    told onThisMachine "t-1#2" = some (.delete, "/api/v1/mappings/t-1") := by
  refine ⟨?_, ?_, ?_⟩ <;> decide +kernel

end TokenConsole.Gateway.Session
