/-
  LNURLs of URLs, and URLs of LNURLs.

  * `Lnurl.exists_encode_iff`, `Lnurl.encode_too_long`: URLs of up to 631 bytes have an LNURL.
  * `Lnurl.decode_shown`: an LNURL is read in either letter case, with and without a scheme in front,
    and between blanks.
-/
import LightningLottery.Proofs.Bech32.Inverse

namespace LightningLottery.Lnurl

theorem isHrp : Bech32.IsHrp hrp := by
  have h : Bech32.IsHrp (String.ofList ['l', 'n', 'u', 'r', 'l']) :=
    Bech32.isHrp_ofList_iff.2 ⟨by decide, by decide, by simp, Or.inl (by simp)⟩
  exact h

theorem asciiLower_hrp : asciiLower hrp = hrp := by decide +kernel

/-! ## Writing -/

/-- The greatest number of bytes of a URL that has an LNURL. -/
def maxUrlSize : Nat := 631

theorem encodedLength_le_iff (url : String) :
    Bech32.encodedLength hrp (utf8 url) ≤ maxLength ↔ url.utf8ByteSize ≤ maxUrlSize := by
  have hhrp : hrp.utf8ByteSize = 5 := by decide
  have hchecksum : Bech32.checksumLength = 6 := rfl
  rw [Bech32.encodedLength, length_utf8, hhrp, hchecksum, maxLength, maxUrlSize]
  omega

theorem encode_eq_ok_iff {url code : String} :
    encode url = .ok code ↔
      url.utf8ByteSize ≤ maxUrlSize ∧ Bech32.encode hrp (wordsOfBytes (utf8 url)) = .ok code := by
  rw [encode, Bech32.encodeBounded_eq_ok_iff isHrp, encodedLength_le_iff]

/-- **A URL has an LNURL if and only if it takes at most `maxUrlSize` bytes.** -/
theorem exists_encode_iff {url : String} :
    (∃ code, encode url = .ok code) ↔ url.utf8ByteSize ≤ maxUrlSize := by
  simp only [encode_eq_ok_iff, exists_and_left]
  exact and_iff_left ⟨_, Bech32.encode_eq isHrp _⟩

theorem encode_too_long {url : String} (h : maxUrlSize < url.utf8ByteSize) :
    encode url =
      .error (.validation (.urlTooLong (Bech32.encodedLength hrp (utf8 url)) maxLength)) := by
  obtain ⟨text, -, heq⟩ := Bech32.encodeBounded_eq isHrp (utf8 url) maxLength
  have hlong : maxLength < Bech32.encodedLength hrp (utf8 url) := by
    rw [← Nat.not_le, encodedLength_le_iff]
    exact Nat.not_le.2 h
  rw [encode, heq, if_pos hlong]

/-! ## Reading -/

/-- The schemes that an LNURL may have in front, and none. -/
def schemes : List String := ["", "lightning:", "LIGHTNING:"]

theorem isBlank_of_mem_scheme : ∀ scheme ∈ schemes, ∀ c ∈ scheme.toList, isBlank c = false := by
  simp [schemes, isBlank]

/-- A text begins as LNURLs do, in either letter case; no scheme begins so. -/
def Begins (s : String) : Prop := ['l', 'n'] <+: s.toList ∨ ['L', 'N'] <+: s.toList

theorem Begins.no_scheme {s : String} (h : Begins s) :
    stripStart? "lightning:" s = none ∧ stripStart? "LIGHTNING:" s = none := by
  rcases h with ⟨rest, hs⟩ | ⟨rest, hs⟩ <;>
    exact ⟨stripStart?_eq_none (by rw [startsWith, ← hs]; rfl),
      stripStart?_eq_none (by rw [startsWith, ← hs]; rfl)⟩

theorem withoutScheme_append {s : String} (h : Begins s) :
    ∀ scheme ∈ schemes, withoutScheme (scheme ++ s) = s := by
  obtain ⟨hsmall, hcapital⟩ := h.no_scheme
  intro scheme hscheme
  simp only [schemes, List.mem_cons, List.not_mem_nil, or_false] at hscheme
  rcases hscheme with rfl | rfl | rfl
  · rw [String.empty_append, withoutScheme, hsmall, hcapital]
    rfl
  · rw [withoutScheme, stripStart?_append]
  · have hother : stripStart? "lightning:" ("LIGHTNING:" ++ s) = none :=
      stripStart?_eq_none (by rw [startsWith, String.toList_append]; rfl)
    rw [withoutScheme, hother, stripStart?_append]
    rfl

theorem shown_spec {url code : String} (h : encode url = .ok code) :
    ∀ shown ∈ [code, asciiUpper code],
      (∀ c ∈ shown.toList, isBlank c = false) ∧ Begins shown := by
  have hcode := (encode_eq_ok_iff.1 h).2
  rw [Bech32.encode_eq isHrp, asciiLower_hrp] at hcode
  have hhrp : hrp.toList = ['l', 'n', 'u', 'r', 'l'] := by decide
  generalize wordsOfBytes (utf8 url) ++ Bech32.checksum hrp.toList _ = words at hcode
  have htext : code.toList = 'l' :: 'n' :: 'u' :: 'r' :: 'l' :: Bech32.separator ::
      words.map Bech32.charOf := by
    rw [← Except.ok.inj hcode, Bech32.toList_written, hhrp]
    rfl
  have hblank : ∀ c ∈ code.toList, isBlank c = false := by
    rw [← Except.ok.inj hcode]
    exact Bech32.isBlank_of_mem_written (by decide)
  intro shown hshown
  rcases List.mem_pair.1 hshown with rfl | rfl
  · exact ⟨hblank, Or.inl (htext ▸ List.prefix_append ['l', 'n'] _)⟩
  · rw [toList_asciiUpper, List.forall_mem_map]
    refine ⟨fun c hc => (isBlank_toUpper c).trans (hblank c hc), Or.inr ?_⟩
    rw [toList_asciiUpper, htext]
    exact List.prefix_append ['L', 'N'] _

/-- **An LNURL leads back to its URL** in either letter case, with and without a scheme in front, and
    between blanks. -/
theorem decode_shown {url code : String} (h : encode url = .ok code) :
    ∀ shown ∈ [code, asciiUpper code], ∀ scheme ∈ schemes, ∀ front back : String,
      IsBlanks front → IsBlanks back → decode (front ++ (scheme ++ shown) ++ back) = .ok url := by
  intro shown hshown scheme hscheme front back hfront hback
  obtain ⟨hblank, hbegins⟩ := shown_spec h shown hshown
  have htrim : trim (front ++ (scheme ++ shown) ++ back) = scheme ++ shown := by
    rw [trim_surrounded hfront hback]
    refine trim_of_not_blank ?_
    rw [String.toList_append, List.forall_mem_append]
    exact ⟨isBlank_of_mem_scheme scheme hscheme, hblank⟩
  obtain ⟨ws, hread, -, hbytes⟩ :=
    Bech32.read_of_encode isHrp (encode_eq_ok_iff.1 h).2 shown hshown
  rw [asciiLower_hrp] at hread
  unfold decode
  rw [htrim, withoutScheme_append hbegins scheme hscheme, hread]
  simp only [ne_eq, not_true_eq_false, if_false, hbytes, Utf8.decode_utf8]

end LightningLottery.Lnurl
