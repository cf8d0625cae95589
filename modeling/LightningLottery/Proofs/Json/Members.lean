/-
  Objects of texts that are written and read again.

  * `Json.ofTexts`: the object with these texts as members.
  * `Json.membersOfBytes_spread`: its members are read off, whatever follows.
  * `Json.parse_ofTexts`: so is the whole, which nothing follows.
  * `Identity.decode_content`: the record of an identity is read as that identity.
-/
import LightningLottery.Proofs.Json.Text
import LightningLottery.Storage.Basic
import Mathlib.Data.List.DropRight

namespace LightningLottery.Json

/-- The object with these texts as members. -/
def ofTexts (members : List (String × String)) : Json :=
  .object (members.map fun member => (member.1, .text member.2))

theorem skipBlanks_append {blanks : Bytes} (h : ∀ b ∈ blanks, isBlankByte b = true) {b : UInt8}
    (hb : isBlankByte b = false) (rest : Bytes) :
    skipBlanks (blanks ++ b :: rest) = b :: rest := by
  rw [skipBlanks, List.dropWhile_append_of_pos h]
  exact List.dropWhile_cons_of_neg (by simp [hb])

theorem skipBlanks_cons {b : UInt8} (hb : isBlankByte b = false) (rest : Bytes) :
    skipBlanks (b :: rest) = b :: rest :=
  List.dropWhile_cons_of_neg (by simp [hb])

theorem blank_newLine (depth : Nat) : ∀ b ∈ bytesOf (newLine depth), isBlankByte b = true := by
  intro b hb
  simp only [bytesOf, newLine, List.flatMap_cons, List.mem_append, List.mem_flatMap,
    List.mem_replicate] at hb
  rcases hb with hb | ⟨c, ⟨-, rfl⟩, hb⟩
  · rw [List.mem_singleton.1 hb]
    rfl
  · rw [List.mem_singleton.1 hb]
    rfl

namespace Node

/-- The tree of an object of texts. -/
def ofTexts (members : List (String × String)) : List (Except Fault String × Node) :=
  members.map fun member => (.ok member.1, .text (.ok member.2))

theorem ofBytes_text {blanks : Bytes} (h : ∀ b ∈ blanks, isBlankByte b = true) (s : String)
    (fuel : Nat) (rest : Bytes) :
    ofBytes (fuel + 1) (blanks ++ byte '"' :: (spelled s ++ byte '"' :: rest)) =
      (.text (.ok s), rest) := by
  have hquote : isBlankByte (byte '"') = false := by decide
  rw [ofBytes, skipBlanks_append h hquote]
  simp only [skipText_spelled, readText_spelled, leaf]
  rfl

/-- The bytes of a member, from its line on. -/
def memberBytes (depth : Nat) (member : String × String) : Bytes :=
  bytesOf (newLine (depth + 1)) ++ byte '"' :: (spelled member.1 ++ byte '"' ::
    byte ':' :: byte ' ' :: byte '"' :: (spelled member.2 ++ [byte '"']))

theorem bytesOf_member (depth : Nat) (member : String × String) (more : List Char) :
    bytesOf (newLine (depth + 1) ++ (literal member.1 ++ (':' :: ' ' ::
        ((Json.text member.2).spread (depth + 1) ++ more)))) =
      memberBytes depth member ++ bytesOf more := by
  have hvalue : (Json.text member.2).spread (depth + 1) = literal member.2 := rfl
  have hcolon (cs : List Char) : bytesOf (':' :: ' ' :: cs) = byte ':' :: byte ' ' :: bytesOf cs := by
    rw [bytesOf_ascii (by decide), bytesOf_ascii (by decide)]
  simp only [bytesOf_append, hcolon, hvalue, bytesOf_literal, memberBytes, List.append_assoc,
    List.cons_append, List.nil_append]

/-- The key and the value of a member are read off, and what follows them is looked at. -/
theorem membersOfBytes_member (depth : Nat) (member : String × String) (fuel : Nat) {b : UInt8}
    {tail rest : Bytes} (htail : skipBlanks tail = b :: rest) :
    membersOfBytes (fuel + 2) (memberBytes depth member ++ tail) =
      if b == byte ',' then
        let (members, stop, left) := membersOfBytes (fuel + 1) rest
        ((.ok member.1, .text (.ok member.2)) :: members, stop, left)
      else if b == byte '\x7d' then ([(.ok member.1, .text (.ok member.2))], none, rest)
      else ([(.ok member.1, .text (.ok member.2))], some .malformed, []) := by
  have hquote : isBlankByte (byte '"') = false := by decide
  have hcolon : isBlankByte (byte ':') = false := by decide
  have hspace : ∀ b ∈ [byte ' '], isBlankByte b = true := by
    intro b hb
    rw [List.mem_singleton.1 hb]
    rfl
  have hvalue := ofBytes_text hspace member.2 fuel tail
  simp only [List.nil_append, List.cons_append] at hvalue
  simp only [memberBytes, List.append_assoc, List.cons_append, List.nil_append]
  rw [membersOfBytes, skipBlanks_append (blank_newLine _) hquote]
  simp only [bne_self_eq_false, Bool.false_eq_true, if_false, skipText_spelled, readText_spelled,
    skipBlanks_cons hcolon, beq_self_eq_true, if_true, hvalue, htail]

/-- **The members of an object of texts are read off**, whatever follows it. -/
theorem membersOfBytes_spread (depth : Nat) (first : String × String)
    (members : List (String × String)) (fuel : Nat) (h : members.length ≤ fuel) (rest : Bytes) :
    membersOfBytes (fuel + 2) (memberBytes depth first ++
        (bytesOf (spreadMembers depth (members.map fun m => (m.1, .text m.2))) ++ rest)) =
      (ofTexts (first :: members), none, rest) := by
  -- the byte behind a value tells whether another member follows
  induction members generalizing first fuel with
  | nil =>
    have hbrace : isBlankByte (byte '\x7d') = false := by decide
    have htail : skipBlanks (bytesOf (spreadMembers depth []) ++ rest) = byte '\x7d' :: rest := by
      rw [spreadMembers, bytesOf_append, List.append_assoc, bytesOf_ascii (by decide)]
      exact skipBlanks_append (blank_newLine depth) hbrace rest
    rw [List.map_nil, membersOfBytes_member depth first fuel htail]
    rfl
  | cons second members ih =>
    obtain ⟨fuel, rfl⟩ : ∃ more, fuel = more + 1 := ⟨fuel - 1, by simp at h; omega⟩
    have hmore := ih second fuel (Nat.le_of_succ_le_succ h)
    have hcomma : isBlankByte (byte ',') = false := by decide
    have htail : skipBlanks (bytesOf (spreadMembers depth
        ((second :: members).map fun m => (m.1, Json.text m.2))) ++ rest) =
          byte ',' :: (memberBytes depth second ++
            (bytesOf (spreadMembers depth (members.map fun m => (m.1, .text m.2))) ++ rest)) := by
      rw [List.map_cons, spreadMembers]
      simp only [List.append_assoc, List.cons_append]
      rw [bytesOf_ascii (by decide), bytesOf_member, List.cons_append, List.append_assoc]
      exact skipBlanks_cons hcomma _
    rw [membersOfBytes_member depth first (fuel + 1) htail, if_pos (beq_self_eq_true _), hmore]
    rfl

theorem skipBlanks_member (depth : Nat) (member : String × String) (tail : Bytes) :
    ∃ more, skipBlanks (memberBytes depth member ++ tail) = byte '"' :: more := by
  have hquote : isBlankByte (byte '"') = false := by decide
  rw [memberBytes, List.append_assoc, List.cons_append,
    skipBlanks_append (blank_newLine _) hquote]
  exact ⟨_, rfl⟩

theorem membersOfBytes_skipBlanks (fuel : Nat) (bs : Bytes) :
    membersOfBytes (fuel + 1) (skipBlanks bs) = membersOfBytes (fuel + 1) bs := by
  have htwice : skipBlanks (skipBlanks bs) = skipBlanks bs :=
    List.dropWhile_idempotent isBlankByte bs
  rw [membersOfBytes, membersOfBytes, htwice]

/-- **An object of texts is read off**, whatever follows it. -/
theorem ofBytes_spread (depth : Nat) (first : String × String)
    (members : List (String × String)) (fuel : Nat) (h : members.length ≤ fuel) (rest : Bytes) :
    ofBytes (fuel + 3) (byte '\x7b' :: (memberBytes depth first ++
        (bytesOf (spreadMembers depth (members.map fun m => (m.1, .text m.2))) ++ rest))) =
      (.object (ofTexts (first :: members)) none, rest) := by
  have hbrace : isBlankByte (byte '\x7b') = false := by decide
  have hread := membersOfBytes_spread depth first members fuel h rest
  obtain ⟨more, hmore⟩ := skipBlanks_member depth first
    (bytesOf (spreadMembers depth (members.map fun m => (m.1, .text m.2))) ++ rest)
  rw [← membersOfBytes_skipBlanks, hmore] at hread
  rw [ofBytes, skipBlanks_cons hbrace]
  simp only [hmore, hread]
  rfl

theorem length_le_spread (depth : Nat) (members : List (String × String)) :
    members.length ≤ (bytesOf (spreadMembers depth
      (members.map fun m => (m.1, Json.text m.2)))).length := by
  induction members with
  | nil => exact Nat.zero_le _
  | cons member members ih =>
    rw [List.map_cons, spreadMembers]
    simp only [bytesOf_append, bytesOf_cons, List.length_append, List.length_cons,
      List.append_assoc, List.cons_append]
    have hcomma : (String.utf8EncodeChar ',').length = 1 := rfl
    omega

end Node

theorem indented_ofTexts (first : String × String) (members : List (String × String)) :
    utf8 (ofTexts (first :: members)).indented =
      byte '\x7b' :: (Node.memberBytes 0 first ++
        bytesOf (spreadMembers 0 (members.map fun m => (m.1, .text m.2)))) := by
  have hchars : utf8 (ofTexts (first :: members)).indented =
      bytesOf ((ofTexts (first :: members)).spread 0) := by
    rw [indented, utf8, String.toList_ofList, bytesOf]
  rw [hchars, ofTexts, List.map_cons, spread]
  simp only [List.append_assoc, List.cons_append]
  rw [bytesOf_ascii (by decide), Node.bytesOf_member]

/-- **An object of texts is read as what was written**, and nothing follows it. -/
theorem parse_ofTexts (members : List (String × String)) :
    Node.parse (utf8 (ofTexts members).indented) = (.object (Node.ofTexts members) none, false) := by
  cases members with
  | nil => rfl
  | cons first members =>
    have hspread := Node.length_le_spread 0 members
    have hlength := congrArg List.length (indented_ofTexts first members)
    rw [List.length_cons, List.length_append] at hlength
    obtain ⟨fuel, hfuel⟩ : ∃ fuel, 2 * (utf8 (ofTexts (first :: members)).indented).length + 2 =
        fuel + 3 := ⟨2 * (utf8 (ofTexts (first :: members)).indented).length - 1, by omega⟩
    have hread := Node.ofBytes_spread 0 first members fuel (by omega) []
    rw [List.append_nil] at hread
    rw [Node.parse, hfuel, indented_ofTexts, hread]
    rfl

end LightningLottery.Json

namespace LightningLottery

/-- **The record of an identity is read as that identity**, whatever its texts are. -/
theorem Identity.decode_content (identity : Identity) :
    (Wire.decode (RecordFile.content identity) : Except Json.Fault Identity) = .ok identity := by
  have hcontent : RecordFile.content identity = utf8 (Json.ofTexts
      [("privateKey", identity.privateKey), ("publicKey", identity.publicKey),
        ("nickname", identity.nickname)]).indented := rfl
  rw [Wire.decode, hcontent, Json.parse_ofTexts]
  rfl

end LightningLottery
