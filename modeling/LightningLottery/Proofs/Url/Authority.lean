/-
  The authority of a URL over HTTP holds no sign that ends a part of a URL.

  * `Punycode.disjoint_encode`, `Punycode.disjoint_of_decode?`: numbers in Punycode are written
    with letters and digits.
  * `Domain.disjoint_toAscii?`: so a name in ASCII holds none of these signs.
  * `Url.disjoint_readSpecialHost`: nor does a host, whether a name or an address.
  * `Url.authority_of_parse`: the authority of a URL that is read.
-/
import LightningLottery.Proofs.Text.Hex
import LightningLottery.Proofs.Text.Radix
import LightningLottery.Proofs.Url.Segments
import Mathlib.Data.List.Forall2
import Mathlib.Data.List.InsertIdx

namespace LightningLottery

open Url (delimiters)

/-! ## Punycode -/

namespace Punycode

theorem threshold_le (place bias : Nat) : threshold place bias ≤ 26 := Nat.min_le_left _ _

theorem digit_notMem : ∀ value < base, digit value ∉ delimiters := by decide

theorem add_mod_lt {t : Nat} (ht : t ≤ 26) (n : Nat) : t + (n - t) % (base - t) < base := by
  have hrest : (n - t) % (base - t) < base - t := Nat.mod_lt _ (by rw [base]; omega)
  omega

theorem disjoint_writeNumber (bias place n : Nat) :
    (writeNumber bias place n).Disjoint delimiters := by
  fun_induction writeNumber bias place n
  · next place n t hlt =>
    have hdigit : n < base := Nat.lt_of_lt_of_le hlt ((threshold_le place bias).trans (by decide))
    exact List.disjoint_cons_left.2 ⟨digit_notMem n hdigit, List.disjoint_nil_left _⟩
  · next place n t hle ih =>
    have hdigit := add_mod_lt (threshold_le place bias) n
    exact List.disjoint_cons_left.2 ⟨digit_notMem _ hdigit, ih⟩

theorem disjoint_placeAll (basicCount code : Nat) (text : List Char) (w : Writer) :
    (placeAll basicCount code text w).1.Disjoint delimiters := by
  induction text generalizing w with
  | nil => exact List.disjoint_nil_left _
  | cons c text ih =>
    rw [placeAll]
    split
    · exact ih _
    · split
      · exact List.disjoint_append_left.2 ⟨disjoint_writeNumber _ _ _, ih _⟩
      · exact ih _

theorem disjoint_placeCodes (text : List Char) (basicCount : Nat) (codes : List Nat) :
    ∀ (next : Nat) (w : Writer),
      (placeCodes text basicCount next w codes).Disjoint delimiters := by
  induction codes with
  | nil => exact fun _ _ => List.disjoint_nil_left _
  | cons code codes ih =>
    exact fun _ _ => List.disjoint_append_left.2 ⟨disjoint_placeAll _ _ _ _, ih _ _⟩

/-- A written form holds no delimiters, if the text holds none. -/
theorem disjoint_encode {text : List Char} (h : text.Disjoint delimiters) :
    (encode text).Disjoint delimiters := by
  have hbasic : (text.filter isBasic).Disjoint delimiters :=
    List.disjoint_of_subset_left (List.filter_subset_self _) h
  refine List.disjoint_append_left.2 ⟨?_, disjoint_placeCodes _ _ _ _ _⟩
  split
  · exact List.disjoint_nil_left _
  · exact List.disjoint_append_left.2 ⟨hbasic, List.singleton_disjoint.2 (by decide)⟩

theorem digitValue?_of_mem : ∀ c ∈ delimiters, digitValue? c = none :=
  List.forall_iff_forall_mem.1 ⟨rfl, rfl, rfl⟩

/-- A number is read from digits, so that what follows it holds all delimiters. -/
theorem mem_of_readNumber? {bias place weight n : Nat} {cs rest : List Char} {sign : Char}
    (h : readNumber? bias place weight cs = some (n, rest)) (hsign : sign ∈ delimiters)
    (hm : sign ∈ cs) : sign ∈ rest := by
  induction cs generalizing place weight n with
  | nil => cases hm
  | cons c cs ih =>
    obtain ⟨d, hd, h⟩ := Option.bind_eq_some_iff.1 h
    have hne : sign ≠ c := by
      rintro rfl
      rw [digitValue?_of_mem sign hsign] at hd
      cases hd
    have hlater : sign ∈ cs := (List.mem_cons.1 hm).resolve_left hne
    simp only at h
    split at h
    · cases h
      exact hlater
    · obtain ⟨⟨m, tail⟩, hread, h⟩ := Option.bind_eq_some_iff.1 h
      cases h
      exact ih hread hlater

/-- The numbers of a text that can be read hold no delimiters, and the characters that are there
    stay. -/
theorem insertAll_spec {code place bias : Nat} {first : Bool} {text cs out : List Char}
    (h : insertAll code place bias first text cs = some out) :
    cs.Disjoint delimiters ∧ text ⊆ out := by
  fun_induction insertAll code place bias first text cs with
  | case1 code place bias first text cs hnone hempty =>
    cases h
    rw [List.isEmpty_iff.1 hempty]
    exact ⟨List.disjoint_nil_left _, List.Subset.refl _⟩
  | case2 => cases h
  | case3 code place bias first text cs n rest hread count code' place' hvalid hshorter ih =>
    obtain ⟨hrest, htext⟩ := ih h
    have hplace : place' ≤ text.length := Nat.le_of_lt_succ (Nat.mod_lt _ (Nat.succ_pos _))
    refine ⟨fun sign hm hsign => hrest (mem_of_readNumber? hread hsign hm) hsign,
      fun c hc => htext ?_⟩
    exact (List.mem_insertIdx hplace).2 (Or.inr hc)
  | case4 => cases h

theorem mem_splitBasic {cs : List Char} {c : Char} (h : c ∈ cs) :
    c ∈ (splitBasic cs).1 ∨ c = '-' ∨ c ∈ (splitBasic cs).2 := by
  unfold splitBasic
  split
  · exact Or.inr (Or.inr h)
  · exact Or.inr (Or.inr h)
  · next after before hne hsplit =>
    have hcs := congrArg List.reverse (splitFirst?_eq_some_iff.1 hsplit).1
    rw [List.reverse_reverse, List.reverse_append, List.reverse_cons, List.append_assoc,
      List.singleton_append] at hcs
    rw [hcs, List.mem_append, List.mem_cons] at h
    exact h

/-- A written form holds no delimiters, if the text that it stands for holds none. -/
theorem disjoint_of_decode? {cs out : List Char} (h : decode? cs = some out)
    (hout : out.Disjoint delimiters) : cs.Disjoint delimiters := by
  simp only [decode?] at h
  split at h
  · obtain ⟨hnumbers, hbasic⟩ := insertAll_spec h
    intro sign hm hsign
    rcases mem_splitBasic hm with hm | rfl | hm
    · exact hout (hbasic hm) hsign
    · exact absurd hsign (by decide)
    · exact hnumbers hm hsign
  · cases h

end Punycode

/-! ## Names -/

namespace Domain

theorem isForbidden_of_mem : ∀ c ∈ delimiters, isForbidden c = true :=
  List.forall_iff_forall_mem.1 ⟨rfl, rfl, rfl⟩

theorem disjoint_of_isLabel {cs : List Char} (h : isLabel cs = true) : cs.Disjoint delimiters := by
  rw [isLabel, Bool.and_eq_true, List.all_eq_true] at h
  intro c hm hsign
  have hfree := h.1 c hm
  rw [isForbidden_of_mem c hsign] at hfree
  cases hfree

theorem disjoint_aceStart : aceStart.Disjoint delimiters := by
  simp [aceStart, delimiters]

/-- A label in ASCII holds no delimiters, if the characters that it stands for make up a label. -/
theorem disjoint_written {label content : List Char} (h : content? label = some content)
    (hlabel : isLabel content = true) : (written label content).Disjoint delimiters := by
  have hcontent := disjoint_of_isLabel hlabel
  unfold written
  split
  · simp only [content?] at h
    split at h
    · next hstart =>
      split at h
      · cases h
      · obtain ⟨hdecode, -⟩ := Option.filter_eq_some_iff.1 h
        obtain ⟨later, rfl⟩ := List.isPrefixOf_iff_prefix.1 hstart
        rw [List.drop_left] at hdecode
        exact List.disjoint_append_left.2
          ⟨disjoint_aceStart, Punycode.disjoint_of_decode? hdecode hcontent⟩
    · cases h
      exact hcontent
  · exact List.disjoint_append_left.2 ⟨disjoint_aceStart, Punycode.disjoint_encode hcontent⟩

theorem disjoint_zipWith_written {labels contents : List (List Char)}
    (h : labels.mapM content? = some contents) (hlabels : contents.all isLabel = true) :
    ∀ piece ∈ List.zipWith written labels contents, piece.Disjoint delimiters := by
  induction labels generalizing contents with
  | nil => exact nofun
  | cons label labels ih =>
    rw [List.mapM_cons] at h
    obtain ⟨content, hcontent, h⟩ := Option.bind_eq_some_iff.1 h
    obtain ⟨rest, hrest, h⟩ := Option.bind_eq_some_iff.1 h
    cases h
    rw [List.all_cons, Bool.and_eq_true] at hlabels
    rw [List.zipWith_cons_cons]
    exact List.forall_mem_cons.2 ⟨disjoint_written hcontent hlabels.1, ih hrest hlabels.2⟩

/-- **A name in ASCII holds no delimiters.** -/
theorem disjoint_toAscii? {name ascii : List Char} (h : toAscii? name = some ascii) :
    ascii.Disjoint delimiters := by
  obtain ⟨folded, -, h⟩ := Option.bind_eq_some_iff.1 h
  obtain ⟨contents, hcontents, h⟩ := Option.bind_eq_some_iff.1 h
  split at h
  · next hfit =>
    cases h
    intro c hm hsign
    rcases mem_joinWith hm with rfl | ⟨piece, hpiece, hm⟩
    · exact absurd hsign (by decide)
    · exact disjoint_zipWith_written hcontents (Bool.and_eq_true _ _ |>.mp hfit).1 piece hpiece hm
        hsign
  · cases h

end Domain

/-! ## Addresses -/

theorem disjoint_append {s t : String} (hs : s.toList.Disjoint delimiters)
    (ht : t.toList.Disjoint delimiters) : (s ++ t).toList.Disjoint delimiters := by
  rw [String.toList_append]
  exact List.disjoint_append_left.2 ⟨hs, ht⟩

theorem disjoint_decimalText (n : Nat) : (decimalText n).toList.Disjoint delimiters := by
  have hsigns : ∀ c ∈ delimiters, ¬ c.isDigit = true := by simp [delimiters]
  intro c hm hsign
  rw [decimalText, String.toList_ofList] at hm
  exact hsigns c hsign (isDigit_of_mem_decimal hm)

theorem disjoint_hexDigitsOf (n : Nat) : (hexDigitsOf n).Disjoint delimiters := by
  have hdigit : ∀ value < 16, hexDigit value ∉ delimiters := by decide
  induction n using Nat.strongRecOn with
  | ind n ih =>
    rw [hexDigitsOf]
    split
    · next hlt => exact List.singleton_disjoint.2 (hdigit n hlt)
    · exact List.disjoint_append_left.2 ⟨ih _ (by omega),
        List.singleton_disjoint.2 (hdigit _ (Nat.mod_lt _ (by decide)))⟩

theorem disjoint_intercalate {separator : List Char} {pieces : List (List Char)}
    (hseparator : separator.Disjoint delimiters)
    (hpieces : ∀ piece ∈ pieces, piece.Disjoint delimiters) :
    (separator.intercalate pieces).Disjoint delimiters := by
  induction pieces with
  | nil => exact List.disjoint_nil_left _
  | cons piece pieces ih =>
    obtain ⟨hpiece, hrest⟩ := List.forall_mem_cons.1 hpieces
    cases pieces with
    | nil => simpa using hpiece
    | cons second pieces =>
      rw [List.intercalate_cons_cons]
      exact List.disjoint_append_left.2 ⟨List.disjoint_append_left.2 ⟨hpiece, hseparator⟩, ih hrest⟩

theorem disjoint_ipv4Text (address : Nat) : (ipv4Text address).toList.Disjoint delimiters := by
  rw [ipv4Text, String.toList_intercalate]
  refine disjoint_intercalate (List.singleton_disjoint.2 (by decide)) ?_
  simp only [List.forall_mem_map]
  exact fun _ _ => disjoint_decimalText _

theorem disjoint_ipv6Text (groups : List Nat) : (ipv6Text groups).toList.Disjoint delimiters := by
  have hcolon : [':'].Disjoint delimiters := List.singleton_disjoint.2 (by decide)
  have hjoin (gs : List Nat) : (":".intercalate (gs.map groupText)).toList.Disjoint delimiters := by
    rw [String.toList_intercalate]
    refine disjoint_intercalate hcolon ?_
    simp only [List.forall_mem_map, groupText, String.toList_ofList]
    exact fun g _ => disjoint_hexDigitsOf g
  unfold ipv6Text
  split
  split
  · exact hjoin groups
  · exact disjoint_append (disjoint_append (hjoin _) (by simp [delimiters])) (hjoin _)

/-! ## Authorities -/

namespace Url

theorem disjoint_bracketHost {cs : List Char} {host : Host} (h : bracketHost? cs = some (.ok host)) :
    host.text.toList.Disjoint delimiters := by
  unfold bracketHost? at h
  split at h
  · rw [Option.some.injEq] at h
    split at h
    · split at h
      · cases h
        exact disjoint_append (disjoint_append (by simp [delimiters]) (disjoint_ipv6Text _))
          (by simp [delimiters])
      · cases h
    · cases h
  · cases h

/-- **A host of a special scheme holds no delimiters**, whether it is a name or an address. -/
theorem disjoint_readSpecialHost {cs : List Char} {host : Host}
    (h : readSpecialHost cs = .ok host) : host.text.toList.Disjoint delimiters := by
  unfold readSpecialHost at h
  split at h
  · next hbracket =>
    rw [h] at hbracket
    exact disjoint_bracketHost hbracket
  · obtain ⟨name, hname, h⟩ := bind_eq_ok_iff.1 h
    split at h
    · cases h
    split at h
    · split at h
      · cases h
        exact disjoint_ipv4Text _
      · cases h
    · cases h
      unfold readName at hname
      split at hname
      · cases hname
      split at hname
      · cases hname
      · next hascii =>
        cases hname
        rw [Host.text, String.toList_ofList]
        exact Domain.disjoint_toAscii? hascii

theorem disjoint_encode_userinfo (cs : List Char) :
    (Percent.encode Percent.inUserinfo cs).Disjoint delimiters := by
  have hsigns : ∀ c ∈ delimiters, Percent.inUserinfo c = true :=
    List.forall_iff_forall_mem.1 ⟨rfl, rfl, rfl⟩
  exact fun c hm hsign => Percent.notMem_encode hsign (Or.inl (hsigns c hsign)) hm

theorem disjoint_readLogin (login : List Char) :
    (readLogin login).1.toList.Disjoint delimiters ∧
      ∀ password ∈ (readLogin login).2, password.toList.Disjoint delimiters := by
  have hencoded (cs : List Char) :
      (String.ofList (Percent.encode Percent.inUserinfo cs)).toList.Disjoint delimiters := by
    rw [String.toList_ofList]
    exact disjoint_encode_userinfo cs
  unfold readLogin
  split
  · exact ⟨hencoded _, nofun⟩
  · exact ⟨hencoded _, nofun⟩
  · refine ⟨hencoded _, fun password hpassword => ?_⟩
    cases hpassword
    exact hencoded _

/-- An authority holds no delimiters, if its parts hold none. -/
theorem disjoint_text {a : Authority} (huser : a.user.toList.Disjoint delimiters)
    (hpassword : ∀ password ∈ a.password, password.toList.Disjoint delimiters)
    (hhost : a.host.text.toList.Disjoint delimiters) : a.text.toList.Disjoint delimiters := by
  have hnone : "".toList.Disjoint delimiters := List.disjoint_nil_left _
  have hcolon : ":".toList.Disjoint delimiters := by simp [delimiters]
  unfold Authority.text
  refine disjoint_append (disjoint_append ?_ hhost) ?_
  · split
    · exact hnone
    · refine disjoint_append (disjoint_append huser ?_) (by simp [delimiters])
      split
      · next password hsome => exact disjoint_append hcolon (hpassword password hsome)
      · exact hnone
  · split
    · exact disjoint_append hcolon (disjoint_decimalText _)
    · exact hnone

/-- **An authority of a special scheme holds no delimiters.** -/
theorem disjoint_readAuthority {kind : SchemeKind} (hkind : kind.isSpecial = true) {cs rest : List Char}
    {a : Authority} (h : readAuthority kind cs = .ok (a, rest)) :
    a.text.toList.Disjoint delimiters := by
  simp only [readAuthority, hkind, ↓reduceIte] at h
  split at h
  · cases h
  obtain ⟨host, hhost, h⟩ := bind_eq_ok_iff.1 h
  split at h
  · cases h
  obtain ⟨⟨port, after⟩, -, h⟩ := bind_eq_ok_iff.1 h
  cases h
  obtain ⟨huser, hpassword⟩ := disjoint_readLogin _
  exact disjoint_text huser hpassword (disjoint_readSpecialHost hhost)

/-- **The authority of a URL over HTTP holds no delimiters.** -/
theorem authority_of_parse {given : String} {u : Url} (h : parse given = .ok u)
    (hhttp : u.isHttp = true) :
    ∃ authority, u.authority = some authority ∧ authority.text.toList.Disjoint delimiters := by
  obtain ⟨port, _, authority, _, _, hread, hauthority, -⟩ := exists_read_of_parse h hhttp
  exact ⟨authority, hauthority, disjoint_readAuthority rfl hread⟩

end Url
end LightningLottery
