import TokenConsole.Proofs.Except
import TokenConsole.Proofs.Url.Path

/-!
# Addresses with text behind them

A web address that ends in a slash may be continued. Its scheme and its authority stay as they are,
and so does the place where its path leads; what is added goes on from there, up to a question mark
or a hash sign.
-/
namespace TokenConsole.Url

variable {scheme : String} {c : Char} {s : List Char}

/-! ### The authority -/

theorem authority?_slash (scheme : String) (goesOn : Bool) (s rest : List Char) :
    authority? scheme goesOn (s ++ '/' :: rest) =
      (authority? scheme true s).map fun (a, more) => (a, more ++ '/' :: rest) := by
  unfold authority?
  dsimp only
  rw [Text.takeWhile_append_stop (by rfl), Text.dropWhile_append_stop (by rfl)]
  generalize (s.takeWhile _) = all
  generalize (s.dropWhile _) = behind
  have hmore : behind ++ '/' :: rest ≠ [] :=
    List.append_ne_nil_of_right_ne_nil behind (List.cons_ne_nil '/' rest)
  simp only [hmore, ne_eq, not_false_eq_true, or_true, true_or, and_true]
  generalize ((Text.cutLastWhere? (fun x => x == '@') all).getD ([], all)) = cut
  generalize ((Text.cutWhere? (fun x => x == ':') cut.1).getD (cut.1, [])) = names
  split
  · rfl
  · cases place? scheme cut.2 with
    | error e => rfl
    | ok place =>
      simp only [bind, Except.bind]
      split
      · rfl
      · simp only [pure, Except.pure, Except.map, List.append_assoc]

/-- Where a path leads that is followed by a slash. -/
def placeBehind : List Char → Trail
  | [] => Trail.start
  | c :: s => (Text.splitWhere isAnySlash (dropSlash isAnySlash (c :: s))).foldl Trail.through
      Trail.start

theorem pathOf_slash (s rest : List Char) :
    pathOf isAnySlash (dropSlash isAnySlash (s ++ '/' :: rest)) = (placeBehind s).path rest := by
  cases s with
  | nil => rfl
  | cons c s =>
    have hdrop : dropSlash isAnySlash (c :: s ++ '/' :: rest) =
        dropSlash isAnySlash (c :: s) ++ '/' :: rest := by
      rw [List.cons_append, dropSlash, dropSlash]
      split <;> rfl
    rw [hdrop, pathOf, segmentsOf, trailOf, Text.splitWhere_append (by rfl),
      Trail.follow_append _ (Text.splitWhere_ne_nil _ _)]
    rfl

theorem webParts_slash (hc : isAnySlash c = false) (scheme : String) (goesOn : Bool)
    (s rest : List Char) : webParts scheme goesOn (s ++ c :: '/' :: rest) =
      (authority? scheme true (s.dropWhile isAnySlash ++ [c])).map fun (a, more) =>
        (some a, (placeBehind more).path rest) := by
  have hstop : (s ++ c :: '/' :: rest).dropWhile isAnySlash =
      (s.dropWhile isAnySlash ++ [c]) ++ '/' :: rest := by
    rw [Text.dropWhile_append_stop hc, List.append_assoc, List.singleton_append]
  rw [webParts, hstop, authority?_slash]
  cases authority? scheme true (s.dropWhile isAnySlash ++ [c]) with
  | error e => rfl
  | ok parts => exact congrArg (fun path => Except.ok (some parts.1, path)) (pathOf_slash _ _)

/-! ### The text in front -/

def isOuter (c : Char) : Bool := c.toNat ≤ 0x20

/-- What stays of a text at the end of an address. -/
def kept (s : List Char) : List Char := Text.dropEndWhile isOuter s

theorem trimmed_append (hc : isOuter c = false) (s rest : List Char) :
    trimmed (s ++ c :: '/' :: rest) = s.dropWhile isOuter ++ c :: '/' :: kept rest := by
  change Text.dropEndWhile isOuter ((s ++ c :: '/' :: rest).dropWhile isOuter) = _
  rw [Text.dropWhile_append_stop hc, List.append_cons, Text.dropEndWhile_append_stop (by rfl),
    ← List.append_cons]
  rfl

/-- The scheme that a text before a colon names. -/
def schemeName? (name : List Char) : Option String :=
  if (unbroken name).head?.any Char.isAlpha && (unbroken name).all isSchemeChar then
    some (String.ofList ((unbroken name).map Char.toLower))
  else none

theorem scheme?_eq_some_iff {rest : List Char} : scheme? s = some (scheme, rest) ↔
    ∃ name, Text.cutWhere? (· == ':') s = some (name, rest) ∧ schemeName? name = some scheme := by
  unfold scheme? schemeName?
  cases Text.cutWhere? (· == ':') s with
  | none => simp
  | some parts =>
    dsimp only
    constructor
    · intro h
      split at h
      · next hname =>
        cases h
        exact ⟨parts.1, rfl, if_pos hname⟩
      · cases h
    · rintro ⟨name, ⟨⟩, hname⟩
      split at hname
      · next hall =>
        cases hname
        exact if_pos hall
      · cases hname

theorem scheme?_append {rest : List Char} (h : scheme? s = some (scheme, rest))
    (more : List Char) : scheme? (s ++ more) = some (scheme, rest ++ more) := by
  obtain ⟨name, hcut, hname⟩ := scheme?_eq_some_iff.1 h
  exact scheme?_eq_some_iff.2 ⟨name, Text.cutWhere?_append hcut more, hname⟩

/-- The end of an address stands behind its scheme. -/
theorem rest_of_scheme? {rest : List Char} (hc : c ≠ ':')
    (h : scheme? (s ++ [c, '/']) = some (scheme, rest)) : ∃ r, rest = r ++ [c, '/'] := by
  obtain ⟨name, hcut, -⟩ := scheme?_eq_some_iff.1 h
  obtain ⟨d, hd, -, hparts⟩ := Text.cutWhere?_eq_some_iff.1 hcut
  rw [eq_of_beq hd] at hparts
  rcases List.append_eq_append_iff.1 hparts with ⟨r, -, hr⟩ | ⟨r, -, hr⟩
  · -- the colon would be one of the two last characters
    have hcolon : ':' ∈ [c, '/'] := by simp [hr]
    simp [Ne.symm hc] at hcolon
  · cases r with
    | nil =>
      cases hr
      exact absurd rfl hc
    | cons e r => exact ⟨r, (List.cons.inj hr).2⟩

/-! ### Marks -/

theorem drop_length_takeWhile (p : Char → Bool) (s : List Char) :
    s.drop (s.takeWhile p).length = s.dropWhile p := by
  conv => lhs; arg 2; rw [← List.takeWhile_append_dropWhile (p := p) (l := s)]
  rw [List.drop_left]

theorem marked?_eq_none_iff {mark : Char} {set : Char → Bool} :
    marked? mark set (s.drop (s.takeWhile (· != mark)).length) = none ↔ mark ∉ s := by
  rw [drop_length_takeWhile]
  cases hdrop : s.dropWhile (· != mark) with
  | nil =>
    have hall := List.dropWhile_eq_nil_iff.1 hdrop
    exact iff_of_true rfl fun hmark => by simpa using hall mark hmark
  | cons d rest =>
    have hd : (d != mark) = false := Text.head_dropWhile s d (by rw [hdrop]; rfl)
    have hmem : d ∈ s := (List.dropWhile_sublist (· != mark)).subset (hdrop ▸ List.mem_cons_self)
    have heq : d = mark := by simpa using hd
    rw [heq] at hmem ⊢
    simp [marked?, hmem]

theorem takeWhile_append_of_not_mem {mark : Char} (h : mark ∉ s) (rest : List Char) :
    (s ++ rest).takeWhile (· != mark) = s ++ rest.takeWhile (· != mark) :=
  List.takeWhile_append_of_pos fun c hc => by
    rw [bne_iff_ne]
    rintro rfl
    exact h hc

theorem takeWhile_of_not_mem {mark : Char} (h : mark ∉ s) : s.takeWhile (· != mark) = s := by
  simpa using takeWhile_append_of_not_mem h []

/-- What a text adds to a path: all before a question mark or a hash sign. -/
def addedPath (s : List Char) : List Char :=
  unbroken (((kept s).takeWhile (· != '#')).takeWhile (· != '?'))

def addedQuery (s : List Char) : Option String :=
  let before := (kept s).takeWhile (· != '#')
  marked? '?' inWebQuerySet (before.drop (before.takeWhile (· != '?')).length)

def addedFragment (s : List Char) : Option String :=
  marked? '#' inFragmentSet ((kept s).drop ((kept s).takeWhile (· != '#')).length)

/-! ### Reading -/

/-- The parts of a web address behind its scheme, put together. -/
def webUrl (scheme : String) (goesOn : Bool) (rest : List Char) : Except Fault Url :=
  let before := rest.takeWhile (· != '#')
  let place := before.takeWhile (· != '?')
  (webParts scheme goesOn (unbroken place)).map fun (authority, path) =>
    { scheme, authority, path
      query := marked? '?' inWebQuerySet (before.drop place.length)
      fragment := marked? '#' inFragmentSet (rest.drop before.length) }

theorem read_of_web {text : String} {rest : List Char}
    (hscheme : scheme? (trimmed text.toList) = some (scheme, rest)) (hweb : family scheme = .web) :
    ∃ goesOn, Url.read text = webUrl scheme goesOn rest := by
  refine ⟨decide (((rest.takeWhile (· != '#')).takeWhile (· != '?')).length < rest.length), ?_⟩
  rw [Url.read, hscheme]
  dsimp only
  rw [hweb]
  rfl

theorem marks_of_webUrl {goesOn : Bool} {rest : List Char} {u : Url}
    (h : webUrl scheme goesOn rest = .ok u) (hquery : u.query = none)
    (hfragment : u.fragment = none) : '#' ∉ rest ∧ '?' ∉ rest := by
  obtain ⟨parts, -, rfl⟩ := map_eq_ok_iff.1 h
  have hhash : '#' ∉ rest := marked?_eq_none_iff.1 hfragment
  have hmark : '?' ∉ rest.takeWhile (· != '#') := marked?_eq_none_iff.1 hquery
  exact ⟨hhash, takeWhile_of_not_mem hhash ▸ hmark⟩

/-- What a text adds behind an address that has no marks. -/
theorem webUrl_append {r : List Char} (hbreak : isBreak c = false) (hslash : isAnySlash c = false)
    (hhash : '#' ∉ r ++ [c, '/']) (hmark : '?' ∉ r ++ [c, '/']) (goesOn : Bool)
    (back : List Char) : webUrl scheme goesOn (r ++ [c, '/'] ++ kept back) =
      (authority? scheme true ((unbroken r).dropWhile isAnySlash ++ [c])).map fun (a, more) =>
        { scheme, authority := some a, path := (placeBehind more).path (addedPath back)
          query := addedQuery back, fragment := addedFragment back } := by
  have hunbroken : ∀ s, unbroken (r ++ [c, '/'] ++ s) = unbroken r ++ c :: '/' :: unbroken s := by
    intro s
    have hkeep : unbroken (c :: '/' :: s) = c :: '/' :: unbroken s := by
      simp [unbroken, hbreak, show isBreak '/' = false from rfl]
    rw [List.append_assoc, unbroken, List.filter_append]
    exact congrArg (unbroken r ++ ·) hkeep
  have hdrop : ∀ front b d : List Char, (front ++ d).drop (front ++ b).length = d.drop b.length :=
    fun front b d => by rw [List.length_append, List.drop_length_add_append]
  unfold webUrl
  dsimp only
  rw [takeWhile_append_of_not_mem hhash, takeWhile_append_of_not_mem hmark, hunbroken,
    webParts_slash hslash, hdrop, hdrop]
  cases authority? scheme true ((unbroken r).dropWhile isAnySlash ++ [c]) <;> rfl

theorem scheme_of_read {text : String} {u : Url} (h : Url.read text = .ok u) :
    ∃ rest, scheme? (trimmed text.toList) = some (u.scheme, rest) := by
  unfold Url.read at h
  split at h
  · cases h
  · next scheme rest hscheme =>
    have hu : u.scheme = scheme := by
      dsimp only at h
      split at h
      all_goals
        obtain ⟨parts, -, hu⟩ := bind_eq_ok_iff.1 h
        cases hu
        rfl
    exact ⟨rest, hu ▸ hscheme⟩

/-- A web address in front of a slash may be continued: the scheme and the authority stay, the path
goes on from one place, and marks in what is added start a query and a fragment. -/
theorem read_append {front : String} {stem : List Char} {u : Url}
    (hfront : front.toList = stem ++ [c, '/']) (houter : isOuter c = false) (hcolon : c ≠ ':')
    (hbreak : isBreak c = false) (hslash : isAnySlash c = false) (hread : Url.read front = .ok u)
    (hweb : family u.scheme = .web) (hquery : u.query = none) (hfragment : u.fragment = none) :
    ∃ t : Trail, u.path = t.path [] ∧ ∀ back : String, Url.read (front ++ back) =
      .ok { u with path := t.path (addedPath back.toList)
                   query := addedQuery back.toList
                   fragment := addedFragment back.toList } := by
  obtain ⟨rest, hscheme⟩ := scheme_of_read hread
  obtain ⟨goesOn, hparts⟩ := read_of_web hscheme hweb
  have htrimmed : trimmed front.toList = stem.dropWhile isOuter ++ [c, '/'] := by
    rw [hfront, trimmed_append houter]
    rfl
  rw [htrimmed] at hscheme
  obtain ⟨r, rfl⟩ := rest_of_scheme? hcolon hscheme
  rw [hread] at hparts
  obtain ⟨hhash, hmark⟩ := marks_of_webUrl hparts.symm hquery hfragment
  have hfirst : webUrl u.scheme goesOn (r ++ [c, '/'] ++ kept []) = _ :=
    webUrl_append hbreak hslash hhash hmark goesOn []
  have hnil : kept [] = [] := rfl
  rw [hnil, List.append_nil, ← hparts] at hfirst
  obtain ⟨⟨a, more⟩, hauthority, hu⟩ := map_eq_ok_iff.1 hfirst.symm
  refine ⟨placeBehind more, by rw [← hu]; rfl, fun back => ?_⟩
  have hscheme' : scheme? (trimmed (front ++ back).toList) =
      some (u.scheme, r ++ [c, '/'] ++ kept back.toList) := by
    rw [String.toList_append, hfront, List.append_assoc]
    change scheme? (trimmed (stem ++ c :: '/' :: back.toList)) = _
    rw [trimmed_append houter, ← scheme?_append hscheme, List.append_assoc]
    rfl
  obtain ⟨goesOn', hback⟩ := read_of_web hscheme' hweb
  rw [hback, webUrl_append hbreak hslash hhash hmark, hauthority, ← hu]
  rfl

end TokenConsole.Url
