import TokenConsole.Config
import TokenConsole.Gateway.Session
import TokenConsole.Proofs.Text.Blank

/-!
# The address of the gateway

The first source that gives an address decides. White space around the address is left out, and
after that the slashes at its end; white space in front of these slashes stays.
-/
namespace TokenConsole.Config

open TokenConsole.Text (isSpace trimChars dropEndWhile)

/-- The address of the first source that gives one. -/
def firstGiven : Option String → Option String → Config → String
  | some url, _, _ => url
  | none, some url, _ => url
  | none, none, c => c.apiBaseUrl.getD defaultApiUrl

/-- White space in front of the slashes at the end of an address, outer white space apart. -/
def HidesSpace (given : String) : Prop :=
  ∃ before c slashes, (Text.trim given).toList = before ++ c :: slashes ∧ isSpace c = true ∧
    ∀ d ∈ slashes, d = '/'

/-- An address without white space at its ends and without slashes at its end. -/
structure IsNormal (url : String) : Prop where
  front : ∀ c ∈ url.toList.head?, isSpace c = false
  back : ∀ c ∈ url.toList.getLast?, isSpace c = false
  unslashed : ∀ c ∈ url.toList.getLast?, c ≠ '/'

/-! ### What is left of an address -/

def stripped (given : String) : String := Text.trimEnd '/' (Text.trim given)

theorem toList_stripped (given : String) :
    (stripped given).toList = dropEndWhile (· == '/') (trimChars given.toList) := by
  rw [stripped, Text.trimEnd, Text.trim, String.toList_ofList, String.toList_ofList]

theorem baseUrl_eq_ok_iff {given url : String} :
    baseUrl given = .ok url ↔ url = stripped given ∧ ∃ u, Url.read url = .ok u := by
  unfold baseUrl
  dsimp only
  rw [← stripped]
  cases hread : Url.read (stripped given) with
  | error fault =>
    refine iff_of_false nofun ?_
    rintro ⟨hurl, u, hu⟩
    rw [hurl, hread] at hu
    cases hu
  | ok u =>
    rw [Except.ok.injEq, eq_comm]
    exact ⟨fun hurl => ⟨hurl, u, hurl ▸ hread⟩, And.left⟩

theorem stripped_front (given : String) :
    ∀ c ∈ (stripped given).toList.head?, isSpace c = false := by
  obtain ⟨hfront, -⟩ := Text.trimChars_eq_self_iff.1 (Text.trimChars_trimChars given.toList)
  obtain ⟨slashes, hslashes⟩ :=
    Text.dropEndWhile_prefix_self (· == '/') (trimChars given.toList)
  rw [toList_stripped]
  intro c hc
  apply hfront
  rw [← hslashes, List.head?_append, Option.mem_def.1 hc]
  rfl

theorem stripped_unslashed (given : String) :
    ∀ c ∈ (stripped given).toList.getLast?, c ≠ '/' := by
  intro c hc
  rw [toList_stripped, Text.mem_getLast?_dropEndWhile_iff] at hc
  exact ne_of_beq_false hc.1

theorem hidesSpace_iff {given : String} :
    HidesSpace given ↔ ∃ c ∈ (stripped given).toList.getLast?, isSpace c = true := by
  have hslash : ∀ c, isSpace c = true → (c == '/') = false := by
    intro c hspace
    rw [beq_eq_false_iff_ne]
    rintro rfl
    cases hspace
  unfold HidesSpace
  simp only [toList_stripped, Text.mem_getLast?_dropEndWhile_iff, Text.trim, String.toList_ofList,
    beq_iff_eq]
  constructor
  · rintro ⟨before, c, slashes, hparts, hspace, hslashes⟩
    exact ⟨c, ⟨hslash c hspace, before, slashes, hparts, hslashes⟩, hspace⟩
  · rintro ⟨c, ⟨-, before, slashes, hparts, hslashes⟩, hspace⟩
    exact ⟨before, c, slashes, hparts, hspace, hslashes⟩

/-- Stripping leaves an address as it is if and only if it is normal. -/
theorem stripped_eq_self_iff {url : String} : stripped url = url ↔ IsNormal url := by
  constructor
  · intro h
    have hchars := congrArg String.toList h
    rw [toList_stripped] at hchars
    have htrim : trimChars url.toList = url.toList := by
      apply (Text.trimChars_sublist url.toList).eq_of_length_le
      have hprefix := Text.dropEndWhile_prefix_self (· == '/') (trimChars url.toList)
      rw [hchars] at hprefix
      exact hprefix.length_le
    obtain ⟨hfront, hback⟩ := Text.trimChars_eq_self_iff.1 htrim
    exact ⟨hfront, hback, h ▸ stripped_unslashed url⟩
  · rintro ⟨hfront, hback, hunslashed⟩
    rw [← String.toList_inj, toList_stripped, Text.trimChars_eq_self_iff.2 ⟨hfront, hback⟩,
      Text.dropEndWhile_eq_self_iff]
    exact fun c hc => beq_false_of_ne (hunslashed c hc)

theorem isNormal_stripped_iff {given : String} : IsNormal (stripped given) ↔ ¬HidesSpace given := by
  rw [hidesSpace_iff]
  constructor
  · rintro hnormal ⟨c, hc, hspace⟩
    rw [hnormal.back c hc] at hspace
    cases hspace
  · intro h
    refine ⟨stripped_front given, fun c hc => ?_, stripped_unslashed given⟩
    exact Bool.eq_false_iff.2 fun hspace => h ⟨c, hc, hspace⟩

/-! ### What is settled -/

theorem resolveApiUrl_eq (commandLine environment : Option String) (c : Config) :
    resolveApiUrl commandLine environment c = baseUrl (firstGiven commandLine environment c) := by
  cases commandLine <;> cases environment <;> rfl

/-- The outcome depends on nothing but the address of the first source. An address that is settled
has no white space in front and no slash at its end. It is normal, and settled again as it is from
whatever source, if and only if no white space stands in front of the slashes that were given. -/
theorem settled_url_normal_iff (commandLine environment : Option String) (c : Config) :
    (∀ commandLine' environment' c',
      firstGiven commandLine' environment' c' = firstGiven commandLine environment c →
        resolveApiUrl commandLine' environment' c' = resolveApiUrl commandLine environment c) ∧
    ∀ url, resolveApiUrl commandLine environment c = .ok url →
      (∀ d ∈ url.toList.head?, isSpace d = false) ∧ (∀ d ∈ url.toList.getLast?, d ≠ '/') ∧
      (IsNormal url ↔ ¬HidesSpace (firstGiven commandLine environment c)) ∧
      ((∀ commandLine' environment' c', firstGiven commandLine' environment' c' = url →
        resolveApiUrl commandLine' environment' c' = .ok url) ↔
          ¬HidesSpace (firstGiven commandLine environment c)) := by
  refine ⟨fun commandLine' environment' c' hsame => ?_, fun url hurl => ?_⟩
  · rw [resolveApiUrl_eq, resolveApiUrl_eq, hsame]
  · rw [resolveApiUrl_eq] at hurl
    generalize firstGiven commandLine environment c = given at hurl ⊢
    obtain ⟨rfl, u, hread⟩ := baseUrl_eq_ok_iff.1 hurl
    refine ⟨stripped_front given, stripped_unslashed given, isNormal_stripped_iff, ?_⟩
    rw [← isNormal_stripped_iff, ← stripped_eq_self_iff]
    constructor
    · intro h
      have hagain : baseUrl (stripped given) = .ok (stripped given) :=
        h (some (stripped given)) none c rfl
      exact (baseUrl_eq_ok_iff.1 hagain).1.symm
    · intro h commandLine' environment' c' hgiven
      rw [resolveApiUrl_eq, hgiven]
      exact baseUrl_eq_ok_iff.2 ⟨h.symm, u, hread⟩

/-- An address from the environment, with white space around it and slashes at its end. -/
theorem settled_of_environment :
    resolveApiUrl none (some " http://[::1]:8080/api/v1// ") empty =
      .ok "http://[::1]:8080/api/v1" ∧
    ¬HidesSpace " http://[::1]:8080/api/v1// " ∧ IsNormal "http://[::1]:8080/api/v1" ∧
    resolveApiUrl (some "http://[::1]:8080/api/v1") none empty =
      .ok "http://[::1]:8080/api/v1" := by
  have hsettled : resolveApiUrl none (some " http://[::1]:8080/api/v1// ") empty =
      .ok "http://[::1]:8080/api/v1" := by decide +kernel
  have hlast : "http://[::1]:8080/api/v1".toList.getLast? = some '1' := by decide +kernel
  have hplain : ¬HidesSpace " http://[::1]:8080/api/v1// " := by
    have hstripped : "http://[::1]:8080/api/v1" = stripped " http://[::1]:8080/api/v1// " :=
      (baseUrl_eq_ok_iff.1 hsettled).1
    rw [hidesSpace_iff, ← hstripped, hlast]
    rintro ⟨c, hc, hspace⟩
    cases hc
    cases hspace
  obtain ⟨-, hurl⟩ := settled_url_normal_iff none (some " http://[::1]:8080/api/v1// ") empty
  obtain ⟨-, -, hnormal, hagain⟩ := hurl _ hsettled
  exact ⟨hsettled, hplain, hnormal.2 hplain, hagain.2 hplain _ _ _ rfl⟩

/-- White space in front of the last slash stays at the end. It is gone when the address is settled
again, and is part of the path of every request until then. -/
theorem space_stays_at_end :
    resolveApiUrl (some "http://[::1]:8080/api/v1 /") none empty =
      .ok "http://[::1]:8080/api/v1 " ∧
    ¬IsNormal "http://[::1]:8080/api/v1 " ∧
    resolveApiUrl (some "http://[::1]:8080/api/v1 ") none empty =
      .ok "http://[::1]:8080/api/v1" ∧
    ((Gateway.Session.fresh "http://[::1]:8080/api/v1 ").request .listMappings).toOption.map
      Gateway.Request.target = some "/api/v1%20/mappings/" := by
  refine ⟨by decide +kernel, fun h => ?_, by decide +kernel, by decide +kernel⟩
  have hlast : isSpace ' ' = false := h.back ' ' (by decide +kernel)
  cases hlast

end TokenConsole.Config
