/-
  Lightning addresses and the URLs that they resolve through.

  * `LightningAddress.IsAddress`: the two sides of a well-formed address.
  * `LightningAddress.IsFirst`: what stands before and after the first occurrence of a text.
  * `LightningAddress.exists_middle`: a text that has the path of the lookup in front and again later.
  * `LightningAddress.IsShifted`: two addresses with one URL, of which one has more of it in its
    domain.
  * `LightningAddress.wellKnownUrl_shared_iff_shifted`: where a URL tells the two sides apart.
-/
import LightningLottery.LightningAddress
import LightningLottery.Proofs.Text.Split

namespace LightningLottery.LightningAddress

/-! ## Well-formed addresses -/

/-- An address with a name and a domain. -/
structure IsAddress (address name domain : String) : Prop where
  eq : address = name ++ "@" ++ domain
  name_ne : name ≠ ""
  sign_notMem_name : '@' ∉ name.toList
  sign_notMem_domain : '@' ∉ domain.toList
  dot : '.' ∈ domain.toList
  unblank : ∀ c ∈ address.toList, isBlank c = false

theorem toList_at (name domain : String) :
    (name ++ "@" ++ domain).toList = name.toList ++ '@' :: domain.toList := by
  rw [String.toList_append, String.toList_append, List.append_assoc]
  rfl

theorem parts?_eq_some_iff {address : String} {name domain : List Char} :
    parts? address = some (name, domain) ↔
      IsAddress address (String.ofList name) (String.ofList domain) := by
  have hcut : splitFirst? '@' address.toList = some (name, domain) ↔
      address = String.ofList name ++ "@" ++ String.ofList domain ∧ '@' ∉ name := by
    rw [splitFirst?_eq_some_iff, ← String.toList_inj, toList_at, String.toList_ofList,
      String.toList_ofList]
  have hchecks : (!name.isEmpty && !domain.isEmpty && !domain.contains '@' && domain.contains '.' &&
      !address.toList.any isBlank) = true ↔
        name ≠ [] ∧ '@' ∉ domain ∧ '.' ∈ domain ∧ ∀ c ∈ address.toList, isBlank c = false := by
    simp only [Bool.and_eq_true, Bool.not_eq_true', List.isEmpty_eq_false_iff, List.any_eq_false,
      List.contains_eq_mem, decide_eq_false_iff_not, decide_eq_true_eq, Bool.not_eq_true]
    constructor
    · rintro ⟨⟨⟨⟨hname, -⟩, hsign⟩, hdot⟩, hblank⟩
      exact ⟨hname, hsign, hdot, hblank⟩
    · rintro ⟨hname, hsign, hdot, hblank⟩
      exact ⟨⟨⟨⟨hname, List.ne_nil_of_mem hdot⟩, hsign⟩, hdot⟩, hblank⟩
  constructor
  · intro h
    unfold parts? at h
    split at h
    · cases h
    · next name' domain' heq =>
      split at h
      · next hif =>
        cases h
        obtain ⟨haddress, hname⟩ := hcut.1 heq
        obtain ⟨hne, hsign, hdot, hblank⟩ := hchecks.1 hif
        refine ⟨haddress, fun he => hne ?_, ?_, ?_, ?_, hblank⟩
        · rw [← String.toList_ofList (l := name), he]
          rfl
        all_goals rwa [String.toList_ofList]
      · cases h
  · intro h
    have hname := h.sign_notMem_name
    have hsign := h.sign_notMem_domain
    have hdot := h.dot
    rw [String.toList_ofList] at hname hsign hdot
    have hne : name ≠ [] := fun he => h.name_ne (he ▸ rfl)
    rw [parts?, hcut.2 ⟨h.eq, hname⟩]
    exact if_pos (hchecks.2 ⟨hne, hsign, hdot, h.unblank⟩)

/-- **`validate` accepts exactly what is an `IsAddress`.** -/
theorem validate_eq_ok_iff {address : String} :
    validate address = .ok () ↔ ∃ name domain, IsAddress address name domain := by
  have hsome : validate address = .ok () ↔ ∃ sides, parts? address = some sides := by
    rw [validate, ← Option.isSome_iff_exists]
    split
    · next h => exact iff_of_true rfl h
    · next h => exact iff_of_false nofun h
  rw [hsome]
  constructor
  · rintro ⟨⟨name, domain⟩, h⟩
    exact ⟨_, _, parts?_eq_some_iff.1 h⟩
  · rintro ⟨name, domain, h⟩
    refine ⟨(name.toList, domain.toList), parts?_eq_some_iff.2 ?_⟩
    rwa [String.ofList_toList, String.ofList_toList]

/-! ## The path of the lookup -/

/-- What stands between the two sides of an address in its URL. -/
def lookupPath : List Char := "/.well-known/lnurlp/".toList

/-- The same without the slash at its end. -/
def lookupStem : List Char := "/.well-known/lnurlp".toList

theorem lookupPath_eq : lookupPath = lookupStem ++ ['/'] := by decide

/-- The path of the lookup does not overlap itself, but for its last slash. -/
theorem not_drop_isPrefix : ∀ n < lookupStem.length, 0 < n →
    ¬ lookupPath.drop n <+: lookupPath := by decide

/-- **If a text starts with the path of the lookup, and has it another time behind `front`, then
    `front` starts with that path**, but perhaps for its last slash. -/
theorem exists_middle {front after later : List Char} (hne : front ≠ [])
    (h : front ++ (lookupPath ++ after) = lookupPath ++ later) :
    ∃ middle, front = lookupStem ++ middle ∧ '/' :: later = middle ++ (lookupPath ++ after) := by
  have hstem : front ++ (lookupPath ++ after) = lookupStem ++ '/' :: later := by
    rw [h, lookupPath_eq, List.append_assoc, List.singleton_append]
  rcases List.append_eq_append_iff.1 hstem with ⟨rest, hrest, hafter⟩ | ⟨middle, hfront, hlater⟩
  · rcases List.eq_nil_or_concat rest with rfl | ⟨_, _, hconcat⟩
    · rw [List.append_nil] at hrest
      exact ⟨[], by rw [List.append_nil, hrest], hafter.symm⟩
    · -- The front ends within the path, and what is left of the path would have to start it again.
      have hlength : front.length < lookupStem.length := by
        rw [hrest, List.length_append, hconcat, List.concat_eq_append, List.length_append]
        exact Nat.lt_add_of_pos_right (Nat.succ_pos _)
      have hleft : lookupPath.drop front.length = rest ++ ['/'] := by
        rw [lookupPath_eq, hrest, List.append_assoc, List.drop_left]
      have hstarts : rest ++ ['/'] <+: lookupPath ++ after :=
        ⟨later, by rw [hafter, List.append_assoc, List.singleton_append]⟩
      refine absurd ?_ (not_drop_isPrefix front.length hlength (List.length_pos_iff.2 hne))
      refine List.prefix_of_prefix_length_le (hleft ▸ hstarts) (List.prefix_append _ _) ?_
      rw [List.length_drop]
      exact Nat.sub_le _ _
  · exact ⟨middle, hfront, hlater⟩

/-! ## The first occurrence of a text -/

/-- What stands before and after the first occurrence of a text in another one. -/
structure IsFirst (part text before after : List Char) : Prop where
  eq : text = before ++ (part ++ after)
  first : ∀ front back, text = front ++ (part ++ back) → before.length ≤ front.length

/-- The path of the lookup stands first where it was put, unless the text before, with a slash
    behind it, holds it. -/
theorem isFirst_lookupPath_iff {start name : List Char} :
    (∃ before, IsFirst lookupPath (start ++ (lookupPath ++ name)) before name) ↔
      ¬ lookupPath <:+: start ++ ['/'] := by
  constructor
  · rintro ⟨before, heq, hfirst⟩ ⟨front, back, hinfix⟩
    have hbefore : start = before := List.append_cancel_right heq
    have hslash : start ++ (lookupPath ++ name) =
        front ++ (lookupPath ++ (back ++ lookupPath.tail ++ name)) := by
      have hpath : lookupPath ++ name = '/' :: (lookupPath.tail ++ name) := rfl
      rw [hpath, ← List.singleton_append, ← List.append_assoc, ← hinfix]
      simp only [List.append_assoc]
    have hle := hfirst _ _ hslash
    have hlength := congrArg List.length hinfix
    simp only [List.length_append, List.length_singleton, ← hbefore] at hle hlength
    have hpath : 1 < lookupPath.length := by decide
    omega
  · intro hnone
    refine ⟨start, rfl, fun front back heq => Nat.le_of_not_lt fun hlt => hnone ?_⟩
    rcases List.append_eq_append_iff.1 heq with ⟨rest, hrest, -⟩ | ⟨rest, hrest, hback⟩
    · rw [hrest, List.length_append] at hlt
      exact absurd hlt (Nat.not_lt.2 (Nat.le_add_right _ _))
    · have hne : rest ≠ [] := by
        rintro rfl
        rw [hrest, List.append_nil] at hlt
        exact Nat.lt_irrefl _ hlt
      obtain ⟨middle, hmiddle, hlater⟩ := exists_middle hne hback.symm
      -- What follows the stem in front of the path is its slash, or the slash of the path itself.
      have hslash : ∃ others, middle ++ ['/'] = '/' :: others := by
        cases middle with
        | nil => exact ⟨[], rfl⟩
        | cons c middle => exact ⟨middle ++ ['/'], by rw [List.head_eq_of_cons_eq hlater]; rfl⟩
      obtain ⟨others, hothers⟩ := hslash
      refine ⟨front, others, ?_⟩
      rw [hrest, hmiddle, lookupPath_eq]
      simp only [List.append_assoc, hothers, List.singleton_append]

/-! ## The URL of an address -/

/-- What stands in front of the domain in the URL of an address. -/
def secureStart : List Char := "https://".toList

/-- The start of the URL has no part in an occurrence of the path of the lookup. -/
theorem isInfix_secureStart_iff {cs : List Char} :
    lookupPath <:+: secureStart ++ cs ↔ lookupPath <:+: '/' :: cs := by
  have hskip : ∀ {c : Char} {ds : List Char}, ¬ lookupPath <+: c :: ds →
      (lookupPath <:+: c :: ds ↔ lookupPath <:+: ds) := fun hne =>
    List.infix_cons_iff.trans (or_iff_right hne)
  have hletter : ∀ {c : Char} {ds : List Char}, c ≠ '/' → ¬ lookupPath <+: c :: ds :=
    fun hne hprefix => hne (List.cons_prefix_cons.1 hprefix).1.symm
  have hslashes : ∀ {ds : List Char}, ¬ lookupPath <+: '/' :: '/' :: ds := fun hprefix =>
    absurd (List.cons_prefix_cons.1 (List.cons_prefix_cons.1 hprefix).2).1 (by decide)
  show lookupPath <:+: 'h' :: 't' :: 't' :: 'p' :: 's' :: ':' :: '/' :: '/' :: cs ↔ _
  rw [hskip (hletter (by decide)), hskip (hletter (by decide)), hskip (hletter (by decide)),
    hskip (hletter (by decide)), hskip (hletter (by decide)), hskip (hletter (by decide)),
    hskip hslashes]

variable {address name domain : String}

theorem IsAddress.parts? (h : IsAddress address name domain) :
    parts? address = some (name.toList, domain.toList) := by
  rw [parts?_eq_some_iff, String.ofList_toList, String.ofList_toList]
  exact h

theorem IsAddress.sides_unique {otherName otherDomain : String} (h : IsAddress address name domain)
    (hother : IsAddress address otherName otherDomain) :
    name.toList = otherName.toList ∧ domain.toList = otherDomain.toList := by
  have hsides := h.parts?.symm.trans hother.parts?
  rwa [Option.some.injEq, Prod.mk.injEq] at hsides

theorem IsAddress.wellKnownUrl (h : IsAddress address name domain) :
    ∃ url, wellKnownUrl address = .ok url ∧
      url.toList = secureStart ++ (domain.toList ++ (lookupPath ++ name.toList)) := by
  refine ⟨_, by rw [LightningAddress.wellKnownUrl, h.parts?], ?_⟩
  simp only [String.toList_append, String.toList_ofList, List.append_assoc]
  rfl

theorem takeWhile_domain (domain name : List Char) :
    (domain ++ (lookupPath ++ name)).takeWhile (· != '/') = domain.takeWhile (· != '/') := by
  rw [List.takeWhile_append]
  split
  · next hall =>
    have hpath : (lookupPath ++ name).takeWhile (· != '/') = [] := rfl
    rw [hpath, List.append_nil]
    exact ((List.takeWhile_prefix _).eq_of_length hall).symm
  · rfl

theorem takeWhile_eq_self_iff {cs : List Char} :
    cs.takeWhile (· != '/') = cs ↔ '/' ∉ cs := by
  simp only [List.takeWhile_eq_self_iff, bne_iff_ne]
  exact ⟨fun h hm => h _ hm rfl, fun h c hc he => h (he ▸ hc)⟩

/-- Two addresses with one URL: the domain of the second one goes on with the path of the lookup,
    and what stands there then stands in the name of the first one. -/
def IsShifted (name domain otherName otherDomain : List Char) : Prop :=
  ∃ middle, otherDomain = domain ++ (lookupStem ++ middle) ∧
    '/' :: name = middle ++ (lookupPath ++ otherName)

theorem IsShifted.eq {name domain otherName otherDomain : List Char}
    (h : IsShifted name domain otherName otherDomain) :
    domain ++ (lookupPath ++ name) = otherDomain ++ (lookupPath ++ otherName) := by
  obtain ⟨middle, rfl, hname⟩ := h
  have hpath : lookupPath ++ name = lookupStem ++ '/' :: name := by
    rw [lookupPath_eq, List.append_assoc, List.singleton_append]
  rw [hpath, hname]
  simp only [List.append_assoc]

/-- **Two domains and names make the same text around the path of the lookup if and only if they are
    equal or `IsShifted`.** -/
theorem sides_eq_iff {name domain otherName otherDomain : List Char} :
    domain ++ (lookupPath ++ name) = otherDomain ++ (lookupPath ++ otherName) ↔
      (name = otherName ∧ domain = otherDomain) ∨ IsShifted name domain otherName otherDomain ∨
        IsShifted otherName otherDomain name domain := by
  have hright {name domain otherName rest : List Char}
      (h : lookupPath ++ name = rest ++ (lookupPath ++ otherName)) :
      (name = otherName ∧ domain = domain ++ rest) ∨
        IsShifted name domain otherName (domain ++ rest) := by
    rcases eq_or_ne rest [] with rfl | hne
    · exact Or.inl ⟨List.append_cancel_left h, (List.append_nil _).symm⟩
    · obtain ⟨middle, rfl, hname⟩ := exists_middle hne h.symm
      exact Or.inr ⟨middle, rfl, hname⟩
  constructor
  · intro h
    rcases List.append_eq_append_iff.1 h with ⟨rest, rfl, hrest⟩ | ⟨rest, rfl, hrest⟩
    · rcases hright hrest with ⟨hname, hdomain⟩ | hshifted
      · exact Or.inl ⟨hname, hdomain⟩
      · exact Or.inr (Or.inl hshifted)
    · rcases hright hrest with ⟨hname, hdomain⟩ | hshifted
      · exact Or.inl ⟨hname.symm, hdomain.symm⟩
      · exact Or.inr (Or.inr hshifted)
  · rintro (⟨rfl, rfl⟩ | hshifted | hshifted)
    · rfl
    · exact hshifted.eq
    · exact hshifted.eq.symm

/-- **Two addresses share their URL if and only if they are equal or one `IsShifted` against the
    other**, which takes a domain that holds the path of the lookup. Up to its first slash the rest
    of the URL is the domain exactly if the domain has no slash, and behind the first path of the
    lookup it is the name exactly if the domain does not hold that path between slashes. -/
theorem wellKnownUrl_shared_iff_shifted :
    (∀ address, validate address = .ok () ↔ ∃ name domain, IsAddress address name domain) ∧
    (∀ address name domain, IsAddress address name domain → ∃ url rest,
      wellKnownUrl address = .ok url ∧ url.toList = "https://".toList ++ rest ∧
      rest.takeWhile (· != '/') = domain.toList.takeWhile (· != '/') ∧
      (rest.takeWhile (· != '/') = domain.toList ↔ '/' ∉ domain.toList) ∧
      ((∃ before, IsFirst lookupPath url.toList before name.toList) ↔
        ¬ lookupPath <:+: '/' :: domain.toList ++ ['/'])) ∧
    ∀ address name domain other otherName otherDomain, IsAddress address name domain →
      IsAddress other otherName otherDomain →
      (wellKnownUrl address = wellKnownUrl other ↔ address = other ∨
        IsShifted name.toList domain.toList otherName.toList otherDomain.toList ∨
        IsShifted otherName.toList otherDomain.toList name.toList domain.toList) := by
  refine ⟨fun address => validate_eq_ok_iff, fun address name domain h => ?_,
    fun address name domain other otherName otherDomain h hother => ?_⟩
  · obtain ⟨url, hurl, htext⟩ := h.wellKnownUrl
    refine ⟨url, _, hurl, htext, takeWhile_domain _ _, ?_, ?_⟩
    · rw [takeWhile_domain, takeWhile_eq_self_iff]
    · rw [htext, ← List.append_assoc, isFirst_lookupPath_iff, List.append_assoc,
        isInfix_secureStart_iff]
      rfl
  · obtain ⟨url, hurl, htext⟩ := h.wellKnownUrl
    obtain ⟨otherUrl, hotherUrl, hotherText⟩ := hother.wellKnownUrl
    have hsame : wellKnownUrl address = wellKnownUrl other ↔
        domain.toList ++ (lookupPath ++ name.toList) =
          otherDomain.toList ++ (lookupPath ++ otherName.toList) := by
      rw [hurl, hotherUrl, Except.ok.injEq, ← String.toList_inj, htext, hotherText,
        List.append_cancel_left_eq]
    rw [hsame, sides_eq_iff]
    refine or_congr_left ?_
    exact ⟨fun ⟨hname, hdomain⟩ => by
        rw [h.eq, hother.eq, String.toList_inj.1 hname, String.toList_inj.1 hdomain],
      fun he => h.sides_unique (he ▸ hother)⟩

/-! ## A path of the lookup in a domain -/

/-- An address with the path of the lookup in its name. -/
def pathInName : String := "x/.well-known/lnurlp/a@b.c"

/-- An address with the path of the lookup in its domain. -/
def pathInDomain : String := "a@b.c/.well-known/lnurlp/x"

theorem isAddress_pathInDomain : IsAddress pathInDomain "a" "b.c/.well-known/lnurlp/x" where
  eq := by decide
  name_ne := by decide
  sign_notMem_name := by decide
  sign_notMem_domain := by decide
  dot := by decide
  unblank := by
    have hall : pathInDomain.toList.all (fun c => !isBlank c) = true := by decide
    simpa using hall

/-- Two different addresses with one URL, in which neither domain nor name of the second stand where
    they should. -/
theorem pathInDomain_shares_url :
    validate pathInName = .ok () ∧ validate pathInDomain = .ok () ∧ pathInName ≠ pathInDomain ∧
      wellKnownUrl pathInName = wellKnownUrl pathInDomain ∧
      ∃ url rest, wellKnownUrl pathInDomain = .ok url ∧ url.toList = "https://".toList ++ rest ∧
        rest.takeWhile (· != '/') ≠ "b.c/.well-known/lnurlp/x".toList ∧
        ¬ ∃ before, IsFirst lookupPath url.toList before "a".toList := by
  obtain ⟨url, hurl, htext⟩ := isAddress_pathInDomain.wellKnownUrl
  refine ⟨by decide, by decide, by decide, by decide, url, _, hurl, htext, ?_, ?_⟩
  · rw [takeWhile_domain]
    decide
  · rw [htext, ← List.append_assoc, isFirst_lookupPath_iff, not_not]
    exact ⟨"https://b.c".toList, "x/".toList, by decide⟩

end LightningLottery.LightningAddress
