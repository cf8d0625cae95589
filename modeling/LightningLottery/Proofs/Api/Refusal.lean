/-
  The message of a refused request whose body is no message.

  * `fitting_spec`: the characters that fit are a start, and the next one would be too much.
  * `IsCut`: the two parts of a text that is cut at a limit. The first is the longest start within
    the limit, and the search for a boundary leads there. `isCut_append`: the second starts with the
    character that passes the limit; `IsCut.unique`: there is one way to do it.
  * `shortened_of_lt`: a text beyond the limit is cut so; `cutBack?_eq`: cutting it by searching
    gives the same, and never fails.
  * `refusalMessage_shortened`: all this of the body of a refusal.
-/
import LightningLottery.Api.Refusal
import LightningLottery.Proofs.Text.Boundary
import LightningLottery.Proofs.Text.Lossy
import LightningLottery.Proofs.Text.Radix

namespace LightningLottery

/-! ## What fits -/

/-- **`fitting` is the longest start within the budget.** -/
theorem fitting_spec (room : Nat) (cs : List Char) : ∃ left, fitting room cs ++ left = cs ∧
    (String.ofList (fitting room cs)).utf8ByteSize ≤ room ∧
    ∀ c rest, left = c :: rest →
      room < (String.ofList (fitting room cs)).utf8ByteSize + c.utf8Size := by
  induction cs generalizing room with
  | nil => exact ⟨[], rfl, Nat.zero_le _, nofun⟩
  | cons c cs ih =>
    rw [fitting]
    split
    · next hroom =>
      obtain ⟨left, happend, hfits, hnext⟩ := ih (room - c.utf8Size)
      refine ⟨left, congrArg (c :: ·) happend, ?_, fun d rest hleft => ?_⟩
      · rw [utf8ByteSize_cons]
        omega
      · have hlt := hnext d rest hleft
        rw [utf8ByteSize_cons]
        omega
    · next hroom =>
      refine ⟨c :: cs, rfl, Nat.zero_le _, fun d rest hleft => ?_⟩
      cases hleft
      rw [String.ofList_nil, String.utf8ByteSize_empty]
      omega

/-! ## Cutting a text -/

/-- The two parts of a text that is cut at a limit. -/
structure IsCut (limit : Nat) (text kept left : String) : Prop where
  append_eq : kept ++ left = text
  fits : kept.utf8ByteSize ≤ limit
  /-- One more character, which takes four bytes at most, would not fit. -/
  near : limit < kept.utf8ByteSize + 4
  longest : ∀ front back, front ++ back = text → front.utf8ByteSize ≤ limit →
    ∃ more, front ++ more = kept
  /-- The search for a boundary ends where the first part does. -/
  search : Utf8.boundaryBelow? (utf8 text) limit = some kept.utf8ByteSize
  /-- There the bytes can be cut without cutting a character. -/
  slice : Utf8.upTo? (utf8 text) kept.utf8ByteSize = some kept

variable {limit : Nat} {text : String}

/-- **A text is cut before the character that exceeds the limit**; the search skips the places
    inside that character. -/
theorem isCut_append {kept : String} {c : Char} (rest : List Char)
    (hfits : kept.utf8ByteSize ≤ limit) (hnext : limit < kept.utf8ByteSize + c.utf8Size) :
    IsCut limit (kept ++ String.ofList (c :: rest)) kept (String.ofList (c :: rest)) := by
  have hskipped : ∀ place, kept.utf8ByteSize < place → place ≤ limit →
      Utf8.isBoundary (utf8 (kept ++ String.ofList (c :: rest))) place = false :=
    fun place hlow hhigh => Utf8.not_isBoundary_inside kept c rest hlow (by omega)
  refine ⟨rfl, hfits, ?_, fun front back hfront hlimit => ?_, ?_, Utf8.upTo?_append kept _⟩
  · have hwidth := c.utf8Size_le_four
    omega
  · refine exists_append_of_le hfront (Nat.le_of_not_lt fun hlow => ?_)
    have hboundary := Utf8.isBoundary_append front back
    rw [hfront, hskipped _ hlow hlimit] at hboundary
    cases hboundary
  · exact Utf8.boundaryBelow?_eq_some hfits (Utf8.isBoundary_append kept _) hskipped

theorem IsCut.unique {kept left kept' left' : String} (h : IsCut limit text kept left)
    (h' : IsCut limit text kept' left') : kept = kept' ∧ left = left' := by
  have hend : kept.utf8ByteSize = kept'.utf8ByteSize :=
    Option.some.inj (h.search.symm.trans h'.search)
  have hkept : kept = kept' := Option.some.inj (h.slice.symm.trans (hend ▸ h'.slice))
  have happend := h.append_eq.trans h'.append_eq.symm
  rw [hkept, ← String.toList_inj, String.toList_append, String.toList_append] at happend
  exact ⟨hkept, String.toList_inj.1 (List.append_cancel_left happend)⟩

/-- **A text beyond the limit is cut, and the rest is counted.** -/
theorem shortened_of_lt (h : limit < text.utf8ByteSize) : ∃ kept left, IsCut limit text kept left ∧
    shortened limit text = kept ++ "...[+" ++ toString left.utf8ByteSize ++ "B]" := by
  obtain ⟨left, happend, hfits, hnext⟩ := fitting_spec limit text.toList
  generalize hkept : String.ofList (fitting limit text.toList) = kept at hfits hnext
  have htext : kept ++ String.ofList left = text := by
    rw [← hkept, ← String.ofList_append, happend, String.ofList_toList]
  have hsize : kept.utf8ByteSize + (String.ofList left).utf8ByteSize = text.utf8ByteSize := by
    rw [← String.utf8ByteSize_append, htext]
  obtain ⟨c, rest, rfl⟩ : ∃ c rest, left = c :: rest := by
    refine List.exists_cons_of_ne_nil fun hnil => ?_
    rw [hnil, String.ofList_nil, String.utf8ByteSize_empty] at hsize
    omega
  refine ⟨kept, String.ofList (c :: rest), ?_, ?_⟩
  · rw [← htext]
    exact isCut_append rest hfits (hnext c rest rfl)
  · have hcount : text.utf8ByteSize - kept.utf8ByteSize =
        (String.ofList (c :: rest)).utf8ByteSize := by omega
    rw [shortened, if_neg (Nat.not_le.2 h), hkept]
    simp only [hcount, decimalText_eq_toString]

theorem shortened_of_le (h : text.utf8ByteSize ≤ limit) : shortened limit text = text := if_pos h

/-- Cutting by a search through the bytes. It fails if the search does, or if it ends inside a
    character. -/
def cutBack? (limit : Nat) (text : String) : Option String :=
  if limit < text.utf8ByteSize then do
    let place ← Utf8.boundaryBelow? (utf8 text) limit
    let kept ← Utf8.upTo? (utf8 text) place
    return kept ++ "...[+" ++ toString (text.utf8ByteSize - place) ++ "B]"
  else some text

/-- **`cutBack?` never fails**, and gives the longest start. -/
theorem cutBack?_eq (limit : Nat) (text : String) :
    cutBack? limit text = some (shortened limit text) := by
  by_cases h : limit < text.utf8ByteSize
  · obtain ⟨kept, left, hcut, hshort⟩ := shortened_of_lt h
    have hcount : text.utf8ByteSize - kept.utf8ByteSize = left.utf8ByteSize := by
      rw [← hcut.append_eq, String.utf8ByteSize_append, Nat.add_sub_cancel_left]
    rw [cutBack?, if_pos h, hcut.search, Option.bind_eq_bind, Option.bind_some, hcut.slice,
      Option.bind_eq_bind, Option.bind_some, hcount, hshort]
    rfl
  · rw [cutBack?, if_neg h, shortened_of_le (Nat.not_lt.1 h)]

/-! ## Bodies -/

/-- **A body that is no message is shown as decoded, up to 512 bytes.** Of a longer one the longest
    start of at most 512 bytes is shown (`IsCut`), with the number of bytes left out; it has at
    least 509. The search `cutBack?` for its end never fails. -/
theorem refusalMessage_shortened {body : Bytes} (h : refusalText? body = none) :
    let text := Utf8.decodeLossy body
    cutBack? 512 text = some (refusalMessage body) ∧
      (text.utf8ByteSize ≤ 512 → refusalMessage body = text) ∧
      (512 < text.utf8ByteSize → ∃ kept left, IsCut 512 text kept left ∧
        509 ≤ kept.utf8ByteSize ∧
        refusalMessage body = kept ++ "...[+" ++ toString left.utf8ByteSize ++ "B]") := by
  intro text
  have hmessage : refusalMessage body = shortened 512 text := by
    rw [refusalMessage, h]
    rfl
  rw [hmessage]
  refine ⟨cutBack?_eq 512 text, shortened_of_le, fun hlong => ?_⟩
  obtain ⟨kept, left, hcut, hshort⟩ := shortened_of_lt hlong
  have hnear := hcut.near
  exact ⟨kept, left, hcut, by omega, hshort⟩

/-- A text of so many bytes. -/
def crosses (count : Nat) : String := String.ofList (List.replicate count 'x')

/-- A text one byte short of the limit and two bytes that are no UTF-8. Each of them is read as a
    character of three bytes, the first of which starts within the limit and ends beyond. -/
def brokenPage : Bytes := utf8 (crosses 511) ++ [0xFF, 0xFF]

theorem utf8ByteSize_crosses (count : Nat) : (crosses count).utf8ByteSize = count := by
  rw [crosses, utf8ByteSize_ascii, List.length_replicate]
  intro c hc
  rw [List.eq_of_mem_replicate hc]
  decide

theorem refusalText?_crosses (count : Nat) (bs : Bytes) :
    refusalText? (utf8 (crosses (count + 1)) ++ bs) = none := by
  have hcross : utf8 (crosses (count + 1)) ++ bs = 0x78 :: (utf8 (crosses count) ++ bs) := by
    rw [crosses, List.replicate_succ, utf8_cons]
    rfl
  have hparse (rest : Bytes) :
      Json.Node.parse (0x78 :: rest) = (.broken .malformed .malformed, false) := by
    rw [Json.Node.parse, Json.Node.ofBytes]
    rfl
  rw [hcross, refusalText?, hparse]

theorem decodeLossy_brokenPage : Utf8.decodeLossy brokenPage =
    crosses 511 ++ String.ofList [Utf8.replacement, Utf8.replacement] := by
  have hbroken : Utf8.lossyChars [0xFF, 0xFF] = [Utf8.replacement, Utf8.replacement] := by
    rw [Utf8.lossyChars_of_illFormed rfl, Utf8.lossyChars_of_illFormed rfl, Utf8.lossyChars_nil]
  rw [Utf8.decodeLossy, brokenPage, crosses, Utf8.lossyChars_utf8_append, hbroken,
    String.ofList_append]

theorem isCut_brokenPage : IsCut 512 (Utf8.decodeLossy brokenPage) (crosses 511)
    (String.ofList [Utf8.replacement, Utf8.replacement]) := by
  have hwidth : Utf8.replacement.utf8Size = 3 := by decide
  rw [decodeLossy_brokenPage]
  refine isCut_append [Utf8.replacement] ?_ ?_ <;> rw [utf8ByteSize_crosses] <;> omega

/-- The page is cut before the replacement character that exceeds the limit. -/
theorem refusalMessage_shortened_brokenPage :
    refusalText? brokenPage = none ∧ 512 < (Utf8.decodeLossy brokenPage).utf8ByteSize ∧
      refusalMessage brokenPage = crosses 511 ++ "...[+6B]" := by
  have hnone : refusalText? brokenPage = none := refusalText?_crosses 510 _
  have hbroken : (String.ofList [Utf8.replacement, Utf8.replacement]).utf8ByteSize = 6 := by decide
  have hlong : 512 < (Utf8.decodeLossy brokenPage).utf8ByteSize := by
    rw [decodeLossy_brokenPage, String.utf8ByteSize_append, utf8ByteSize_crosses, hbroken]
    decide
  obtain ⟨kept, left, hcut, -, hmessage⟩ := (refusalMessage_shortened hnone).2.2 hlong
  obtain ⟨hkept, hleft⟩ := hcut.unique isCut_brokenPage
  have hmark : "...[+" ++ (toString 6 ++ "B]") = "...[+6B]" := by decide
  refine ⟨hnone, hlong, ?_⟩
  rw [hmessage, hkept, hleft, hbroken, String.append_assoc, String.append_assoc, hmark]

end LightningLottery
