/-
  Values that are written without blanks and read again.

  * `Json.induction`: what holds of the parts of a value holds of the value.
  * `Json.Node.ofWritten`: the tree as which a value is read.
  * `Json.Reads`: a value is read off, whatever follows it; `Json.reads` says that all are.
  * `Json.parse_compact`: so the text of a value is read as its tree, and nothing follows.
  * `Json.Node.skipFault?_ofWritten`: whoever asks for nothing finds no problem in it.
  * `Json.Exact`, `Json.Exact.parse_compact`: the values that their text is read as.
-/
import LightningLottery.Proofs.Json.Members
import LightningLottery.Proofs.Json.Number

namespace LightningLottery.Json

/-- Induction over a value and its parts. -/
@[elab_as_elim]
theorem induction {P : Json → Prop} (null : P .null) (flag : ∀ b, P (.flag b))
    (number : ∀ n, P (.number n)) (text : ∀ s, P (.text s))
    (list : ∀ items, (∀ item ∈ items, P item) → P (.list items))
    (object : ∀ members : List (String × Json), (∀ member ∈ members, P member.2) →
      P (.object members)) (v : Json) : P v :=
  @Json.rec P (fun items => ∀ item ∈ items, P item) (fun members => ∀ member ∈ members, P member.2)
    (fun member => P member.2) null flag number text list object (fun _ => nofun)
    (fun _ _ hitem hitems => List.forall_mem_cons.2 ⟨hitem, hitems⟩) (fun _ => nofun)
    (fun _ _ hmember hmembers => List.forall_mem_cons.2 ⟨hmember, hmembers⟩) (fun _ _ h => h) v

namespace Node

mutual

/-- The tree as which a value is read: of a number, what its text denotes. -/
def ofWritten : Json → Node
  | .null => .null
  | .flag b => .flag b
  | .number n => .number (readNumber (bytesOf n.chars))
  | .text s => .text (.ok s)
  | .list items => .list (ofWrittenItems items) none
  | .object members => .object (ofWrittenMembers members) none

/-- The trees of a list of values. -/
def ofWrittenItems : List Json → List Node
  | [] => []
  | item :: items => ofWritten item :: ofWrittenItems items

/-- The trees of members. -/
def ofWrittenMembers : List (String × Json) → List (Except Fault String × Node)
  | [] => []
  | (key, v) :: members => (.ok key, ofWritten v) :: ofWrittenMembers members

end

theorem ofWrittenMembers_eq (members : List (String × Json)) :
    ofWrittenMembers members = members.map fun member => (.ok member.1, ofWritten member.2) := by
  induction members with
  | nil => rfl
  | cons member members ih => rw [ofWrittenMembers, ih, List.map_cons]

/-- **Skipping the tree of a value finds no fault.** -/
theorem skipFault?_ofWritten (v : Json) : (ofWritten v).skipFault? = none := by
  induction v using Json.induction with
  | null | flag | number | text => rfl
  | list items ih =>
    have hitems : skipFaultOfItems? (ofWrittenItems items) = none := by
      induction items with
      | nil => rfl
      | cons item items ih' =>
        obtain ⟨hitem, hitems⟩ := List.forall_mem_cons.1 ih
        rw [ofWrittenItems, skipFaultOfItems?, hitem, ih' hitems]
        rfl
    rw [ofWritten, skipFault?, hitems]
    rfl
  | object members ih =>
    have hmembers : skipFaultOfMembers? (ofWrittenMembers members) = none := by
      induction members with
      | nil => rfl
      | cons member members ih' =>
        obtain ⟨hmember, hmembers⟩ := List.forall_mem_cons.1 ih
        rw [ofWrittenMembers, skipFaultOfMembers?, hmember, ih' hmembers]
        rfl
    rw [ofWritten, skipFault?, hmembers]
    rfl

end Node

open Node

/-- A value is read off, whatever follows it; a unit of fuel for each of its bytes is enough. -/
def Reads (v : Json) : Prop :=
  ∀ fuel rest, (bytesOf v.chars).length ≤ fuel + 1 → Ends rest →
    ofBytes (fuel + 1) (bytesOf v.chars ++ rest) = (ofWritten v, rest)

/-! ## Leaves -/

theorem reads_null : Reads .null := fun _ _ _ _ => rfl

theorem reads_flag (b : Bool) : Reads (.flag b) := by
  intro fuel rest _ _
  cases b <;> rfl

theorem reads_text (s : String) : Reads (.text s) := by
  intro fuel rest _ _
  have h := @ofBytes_text [] nofun s fuel rest
  rw [List.nil_append] at h
  rw [chars, bytesOf_literal, List.append_assoc, List.cons_append, List.singleton_append]
  exact h

theorem exists_number_cons (n : JsonNumber) :
    ∃ b more, bytesOf n.chars = b :: more ∧ (b == byte '-' || isDigitByte b) = true ∧
      b ∉ [byte 'n', byte 't', byte 'f', byte ']'] ∧ isBlankByte b = false := by
  have hdigit : ∀ d < 10, (byte (decimalDigit d) == byte '-' || isDigitByte (byte (decimalDigit d)))
      = true ∧ byte (decimalDigit d) ∉ [byte 'n', byte 't', byte 'f', byte ']'] ∧
        isBlankByte (byte (decimalDigit d)) = false := by decide
  have hsigned (negative : Bool) (n : Nat) (tail : List Char) :
      ∃ b more, bytesOf ((if negative then ['-'] else []) ++ decimal n ++ tail) = b :: more ∧
        (b == byte '-' || isDigitByte b) = true ∧ b ∉ [byte 'n', byte 't', byte 'f', byte ']'] ∧
        isBlankByte b = false := by
    cases negative with
    | true => exact ⟨_, _, bytesOf_ascii (by decide) _, by decide, by decide, by decide⟩
    | false =>
      obtain ⟨d, hd, more, hmore⟩ := exists_decimal_cons n
      refine ⟨_, more ++ bytesOf tail, ?_, hdigit d hd⟩
      simp only [Bool.false_eq_true, if_false, List.nil_append, bytesOf_append, hmore,
        List.cons_append]
  cases n with
  | whole n =>
    have h := hsigned (decide (n < 0)) n.natAbs []
    rw [List.append_nil, ← signedText_eq] at h
    exact h
  | real negative significand exponent => exact hsigned negative significand _

theorem reads_number (n : JsonNumber) : Reads (.number n) := by
  intro fuel rest _ hends
  obtain ⟨b, more, hb, hfirst, hother, hblank⟩ := exists_number_cons n
  have hskip := skipNumber_chars n hends
  have hread := readNumber_append n hends
  simp only [List.mem_cons, not_or] at hother
  obtain ⟨hn, ht, hf, -⟩ := hother
  rw [hb] at hskip hread
  rw [chars, ofWritten, hb, List.cons_append, ofBytes, skipBlanks_cons hblank]
  simp only [beq_iff_eq, hn, ht, hf, if_false, hfirst, if_true]
  rw [← List.cons_append, hskip, hread]
  rfl

/-! ## Lists and objects -/

/-- The characters of a member. -/
def memberChars (member : String × Json) : List Char :=
  literal member.1 ++ ':' :: member.2.chars

theorem chars_list_cons (item : Json) (items : List Json) :
    (Json.list (item :: items)).chars = '[' :: (item.chars ++ charsOfItems items) := rfl

theorem charsOfItems_cons (item : Json) (items : List Json) :
    charsOfItems (item :: items) = ',' :: (item.chars ++ charsOfItems items) := rfl

theorem chars_object_cons (member : String × Json) (members : List (String × Json)) :
    (Json.object (member :: members)).chars =
      '\x7b' :: (memberChars member ++ charsOfMembers members) := by
  rw [chars, memberChars, List.append_assoc, List.cons_append, List.cons_append, List.append_assoc]
  rfl

theorem charsOfMembers_cons (member : String × Json) (members : List (String × Json)) :
    charsOfMembers (member :: members) =
      ',' :: (memberChars member ++ charsOfMembers members) := by
  rw [charsOfMembers, memberChars, List.append_assoc, List.cons_append, List.cons_append,
    List.append_assoc]
  rfl

theorem exists_chars_cons (v : Json) :
    ∃ b more, bytesOf v.chars = b :: more ∧ isBlankByte b = false ∧ b ≠ byte ']' := by
  cases v with
  | null => exact ⟨byte 'n', _, rfl, by decide, by decide⟩
  | flag b =>
    cases b with
    | true => exact ⟨byte 't', _, rfl, by decide, by decide⟩
    | false => exact ⟨byte 'f', _, rfl, by decide, by decide⟩
  | number n =>
    obtain ⟨b, more, hb, -, hother, hblank⟩ := exists_number_cons n
    exact ⟨b, more, hb, hblank, fun he => hother (by rw [he]; decide)⟩
  | text s => exact ⟨byte '"', _, bytesOf_literal s, by decide, by decide⟩
  | list items =>
    cases items with
    | nil => exact ⟨byte '[', _, rfl, by decide, by decide⟩
    | cons item items => exact ⟨byte '[', _, bytesOf_ascii (by decide) _, by decide, by decide⟩
  | object members =>
    cases members with
    | nil => exact ⟨byte '\x7b', _, rfl, by decide, by decide⟩
    | cons member members =>
      exact ⟨byte '\x7b', _, bytesOf_ascii (by decide) _, by decide, by decide⟩

theorem one_le_length_chars (v : Json) : 1 ≤ (bytesOf v.chars).length := by
  obtain ⟨b, more, hb, -⟩ := exists_chars_cons v
  rw [hb, List.length_cons]
  exact Nat.le_add_left _ _

theorem Reads.cons {v : Json} (h : Reads v) {fuel : Nat}
    (hfuel : (bytesOf v.chars).length ≤ fuel + 1) {c : Char}
    (hc : byte c ∈ [byte ',', byte ']', byte '\x7d']) (hascii : c.toNat < 128) (tail : List Char)
    (rest : Bytes) :
    ofBytes (fuel + 1) (bytesOf (v.chars ++ c :: tail) ++ rest) =
      (ofWritten v, byte c :: (bytesOf tail ++ rest)) := by
  have hends : Ends (byte c :: (bytesOf tail ++ rest)) := fun b hb => Option.some.inj hb ▸ hc
  rw [bytesOf_append, bytesOf_ascii hascii, List.append_assoc, List.cons_append]
  exact h fuel _ hfuel hends

/-- **The items of a list are read off**, whatever follows it. -/
theorem itemsOfBytes_chars {first : Json} {items : List Json} (hfirst : Reads first)
    (hitems : ∀ item ∈ items, Reads item) (fuel : Nat) (rest : Bytes)
    (h : (bytesOf (first.chars ++ charsOfItems items)).length ≤ fuel) :
    itemsOfBytes fuel (bytesOf (first.chars ++ charsOfItems items) ++ rest) =
      (ofWrittenItems (first :: items), none, rest) := by
  -- the byte behind an item tells whether another one follows
  have hone := one_le_length_chars first
  induction items generalizing first fuel with
  | nil =>
    rw [charsOfItems, bytesOf_append, List.length_append, bytesOf_ascii (by decide),
      List.length_cons] at h
    obtain ⟨fuel, rfl⟩ : ∃ more, fuel = more + 2 := ⟨fuel - 2, by omega⟩
    rw [itemsOfBytes, charsOfItems, hfirst.cons (by omega) (by decide) (by decide)]
    rfl
  | cons second items ih =>
    obtain ⟨hsecond, hitems⟩ := List.forall_mem_cons.1 hitems
    rw [charsOfItems_cons, bytesOf_append, List.length_append, bytesOf_ascii (by decide),
      List.length_cons] at h
    obtain ⟨fuel, rfl⟩ : ∃ more, fuel = more + 2 := ⟨fuel - 2, by omega⟩
    have hmore := ih hsecond hitems (fuel + 1) (by omega) (one_le_length_chars second)
    rw [itemsOfBytes, charsOfItems_cons, hfirst.cons (by omega) (by decide) (by decide)]
    simp only [skipBlanks_cons (b := byte ',') (by decide), beq_self_eq_true, if_true, hmore]
    rfl

theorem reads_list {items : List Json} (hitems : ∀ item ∈ items, Reads item) :
    Reads (.list items) := by
  intro fuel rest h _
  cases items with
  | nil => rfl
  | cons item items =>
    obtain ⟨hitem, hitems⟩ := List.forall_mem_cons.1 hitems
    obtain ⟨b, more, hb, hblank, hne⟩ := exists_chars_cons item
    rw [chars_list_cons, bytesOf_ascii (by decide), List.length_cons] at h
    have hread := itemsOfBytes_chars hitem hitems fuel rest (by omega)
    rw [chars_list_cons, bytesOf_ascii (by decide), List.cons_append, ofBytes,
      skipBlanks_cons (b := byte '[') (by decide)]
    rw [bytesOf_append, hb, List.append_assoc, List.cons_append] at hread ⊢
    simp only [skipBlanks_cons hblank, beq_iff_eq, hne, if_false, hread]
    rfl

theorem bytesOf_memberChars (member : String × Json) (tail : List Char) :
    bytesOf (memberChars member ++ tail) = byte '"' :: (spelled member.1 ++
      byte '"' :: byte ':' :: bytesOf (member.2.chars ++ tail)) := by
  have hcolon (cs : List Char) : bytesOf (':' :: cs) = byte ':' :: bytesOf cs :=
    bytesOf_ascii (by decide) cs
  simp only [memberChars, List.append_assoc, List.cons_append, bytesOf_append, bytesOf_literal,
    hcolon, List.nil_append]

/-- The key and the value of a member are read off, and what follows them is looked at. -/
theorem membersOfBytes_memberChars {member : String × Json} (h : Reads member.2) {fuel : Nat}
    (hfuel : (bytesOf member.2.chars).length ≤ fuel + 1) {c : Char}
    (hc : byte c ∈ [byte ',', byte ']', byte '\x7d']) (hascii : c.toNat < 128) (tail : List Char)
    (rest : Bytes) :
    membersOfBytes (fuel + 2) (bytesOf (memberChars member ++ c :: tail) ++ rest) =
      if byte c == byte ',' then
        let (members, stop, left) := membersOfBytes (fuel + 1) (bytesOf tail ++ rest)
        ((.ok member.1, ofWritten member.2) :: members, stop, left)
      else if byte c == byte '\x7d' then
        ([(.ok member.1, ofWritten member.2)], none, bytesOf tail ++ rest)
      else ([(.ok member.1, ofWritten member.2)], some .malformed, []) := by
  have hquote : isBlankByte (byte '"') = false := by decide
  have hcolon : isBlankByte (byte ':') = false := by decide
  have hblank : isBlankByte (byte c) = false := by
    have hall : ∀ b ∈ [byte ',', byte ']', byte '\x7d'], isBlankByte b = false := by
      decide +kernel
    exact hall _ hc
  have hvalue := h.cons hfuel hc hascii tail rest
  rw [bytesOf_memberChars, List.cons_append, List.append_assoc, List.cons_append, List.cons_append,
    membersOfBytes, skipBlanks_cons hquote]
  simp only [bne_self_eq_false, Bool.false_eq_true, if_false, skipText_spelled, readText_spelled,
    skipBlanks_cons hcolon, beq_self_eq_true, if_true, hvalue, skipBlanks_cons hblank]

/-- **The members of an object are read off**, whatever follows it. -/
theorem membersOfBytes_chars {first : String × Json} {members : List (String × Json)}
    (hfirst : Reads first.2) (hmembers : ∀ member ∈ members, Reads member.2) (fuel : Nat)
    (rest : Bytes) (h : (bytesOf (memberChars first ++ charsOfMembers members)).length ≤ fuel) :
    membersOfBytes fuel (bytesOf (memberChars first ++ charsOfMembers members) ++ rest) =
      (ofWrittenMembers (first :: members), none, rest) := by
  have hone := one_le_length_chars first.2
  induction members generalizing first fuel with
  | nil =>
    rw [charsOfMembers, bytesOf_memberChars, bytesOf_append] at h
    simp only [List.length_cons, List.length_append] at h
    obtain ⟨fuel, rfl⟩ : ∃ more, fuel = more + 2 := ⟨fuel - 2, by omega⟩
    rw [charsOfMembers, membersOfBytes_memberChars hfirst (by omega) (by decide) (by decide)]
    rfl
  | cons second members ih =>
    obtain ⟨hsecond, hmembers⟩ := List.forall_mem_cons.1 hmembers
    rw [charsOfMembers_cons, bytesOf_memberChars, bytesOf_append, bytesOf_ascii (by decide)] at h
    simp only [List.length_cons, List.length_append] at h
    obtain ⟨fuel, rfl⟩ : ∃ more, fuel = more + 2 := ⟨fuel - 2, by omega⟩
    have hmore := ih hsecond hmembers (fuel + 1) (by omega) (one_le_length_chars second.2)
    rw [charsOfMembers_cons, membersOfBytes_memberChars hfirst (by omega) (by decide) (by decide),
      if_pos (beq_self_eq_true _), hmore]
    rfl

theorem reads_object {members : List (String × Json)}
    (hmembers : ∀ member ∈ members, Reads member.2) : Reads (.object members) := by
  intro fuel rest h _
  cases members with
  | nil => rfl
  | cons member members =>
    obtain ⟨hmember, hmembers⟩ := List.forall_mem_cons.1 hmembers
    rw [chars_object_cons, bytesOf_ascii (by decide), List.length_cons] at h
    have hread := membersOfBytes_chars hmember hmembers fuel rest (by omega)
    have hquote : isBlankByte (byte '"') = false := by decide
    have hbrace : isBlankByte (byte '\x7b') = false := by decide
    rw [chars_object_cons, bytesOf_ascii (by decide), List.cons_append, ofBytes,
      skipBlanks_cons hbrace]
    rw [bytesOf_memberChars, List.cons_append] at hread ⊢
    simp only [skipBlanks_cons hquote, hread]
    rfl

/-! ## Values -/

/-- **Every value is read off**, whatever follows it. -/
theorem reads (v : Json) : Reads v := by
  induction v using Json.induction with
  | null => exact reads_null
  | flag b => exact reads_flag b
  | number n => exact reads_number n
  | text s => exact reads_text s
  | list items ih => exact reads_list ih
  | object members ih => exact reads_object ih

/-- **The text of a value is read as its tree**, and nothing follows it. -/
theorem parse_compact (v : Json) : Node.parse (utf8 v.compact) = (ofWritten v, false) := by
  have hchars : utf8 v.compact = bytesOf v.chars := by
    rw [compact, utf8, String.toList_ofList, bytesOf]
  have hread := reads v (2 * (bytesOf v.chars).length + 1) [] (by omega) ends_nil
  rw [List.append_nil] at hread
  rw [Node.parse, hchars, hread]
  rfl

/-! ## Values that are read as they are -/

/-- The whole numbers in a value are words, no object in it has a key twice, and it is nested at
    most `depth` levels deep. -/
inductive Exact : Nat → Json → Prop
  | null {depth : Nat} : Exact depth .null
  | flag {depth : Nat} (b : Bool) : Exact depth (.flag b)
  | word {depth : Nat} {n : Int} (h : IsWord n) : Exact depth (.number (.whole n))
  | text {depth : Nat} (s : String) : Exact depth (.text s)
  | list {depth : Nat} {items : List Json} (hitems : ∀ item ∈ items, Exact depth item) :
    Exact (depth + 1) (.list items)
  | object {depth : Nat} {members : List (String × Json)} (hkeys : (members.map (·.1)).Nodup)
    (hmembers : ∀ member ∈ members, Exact depth member.2) : Exact (depth + 1) (.object members)

namespace Node

theorem valuesOfItems_ofWritten {depth : Nat} {items : List Json}
    (h : ∀ item ∈ items, (ofWritten item).value depth = .ok item) :
    valuesOfItems depth (ofWrittenItems items) = .ok items := by
  induction items with
  | nil => rfl
  | cons item items ih =>
    obtain ⟨hitem, hitems⟩ := List.forall_mem_cons.1 h
    rw [ofWrittenItems, valuesOfItems, hitem, ih hitems]
    rfl

/-- Members whose keys are all distinct are added in order. -/
theorem valuesOfMembers_ofWritten {depth : Nat} {found members : List (String × Json)}
    (hkeys : ((found ++ members).map (·.1)).Nodup)
    (h : ∀ member ∈ members, (ofWritten member.2).value depth = .ok member.2) :
    valuesOfMembers depth found (ofWrittenMembers members) = .ok (found ++ members) := by
  induction members generalizing found with
  | nil => rw [ofWrittenMembers, valuesOfMembers, List.append_nil]
  | cons member members ih =>
    obtain ⟨key, v⟩ := member
    obtain ⟨hv, hmembers⟩ := List.forall_mem_cons.1 h
    rw [List.append_cons] at hkeys ⊢
    have hnew : found.any (·.1 == key) = false := by
      rw [List.map_append, List.map_append] at hkeys
      have hdisjoint := (List.nodup_append.1 (List.nodup_append.1 hkeys).1).2.2
      rw [List.any_eq_false]
      intro before hbefore hkey
      exact hdisjoint _ (List.mem_map_of_mem hbefore) key List.mem_cons_self (beq_iff_eq.1 hkey)
    have hput : putMember key v found = found ++ [(key, v)] := by
      rw [putMember, hnew, if_neg Bool.false_ne_true]
    rw [ofWrittenMembers, valuesOfMembers, hv, ← ih hkeys hmembers, ← hput]
    rfl

end Node

open Node (ofWritten ofWrittenItems ofWrittenMembers)

namespace Exact

variable {depth : Nat} {v : Json}

/-- **The value of `ofWritten v` is `v`**, if the text is read exactly (`Exact`). -/
theorem value_ofWritten (h : Exact depth v) : (ofWritten v).value depth = .ok v := by
  induction h with
  | null => rfl
  | flag b => rfl
  | word hn => rw [ofWritten, readNumber_whole hn]; rfl
  | text s => rfl
  | list _ ih =>
    rw [ofWritten, Node.value, Node.valuesOfItems_ofWritten ih]
    rfl
  | @object depth members hkeys _ ih =>
    have hvalues : Node.valuesOfMembers depth [] (ofWrittenMembers members) = .ok members :=
      Node.valuesOfMembers_ofWritten hkeys ih
    rw [ofWritten, Node.value, hvalues]
    rfl

/-- `ofWritten` is then the tree `ofValue` of the value. -/
theorem ofWritten_eq (h : Exact depth v) : ofWritten v = Node.ofValue v := by
  have hitems : ∀ items : List Json, (∀ item ∈ items, ofWritten item = Node.ofValue item) →
      ofWrittenItems items = Node.ofItems items := by
    intro items
    induction items with
    | nil => exact fun _ => rfl
    | cons item items ih =>
      intro heq
      obtain ⟨hitem, hitems⟩ := List.forall_mem_cons.1 heq
      rw [ofWrittenItems, Node.ofItems, hitem, ih hitems]
  have hmembers : ∀ members : List (String × Json),
      (∀ member ∈ members, ofWritten member.2 = Node.ofValue member.2) →
        ofWrittenMembers members = Node.ofMembers members := by
    intro members
    induction members with
    | nil => exact fun _ => rfl
    | cons member members ih =>
      intro heq
      obtain ⟨hmember, hmembers⟩ := List.forall_mem_cons.1 heq
      rw [ofWrittenMembers, Node.ofMembers, hmember, ih hmembers]
  induction h with
  | null => rfl
  | flag b => rfl
  | word hn => rw [ofWritten, Node.ofValue, readNumber_whole hn]
  | text s => rfl
  | list _ ih => rw [ofWritten, Node.ofValue, hitems _ ih]
  | object _ _ ih => rw [ofWritten, Node.ofValue, hmembers _ ih]

/-- **The text of a value is read as the value.** -/
theorem parse_compact (h : v.Exact maxDepth) : Json.parse (utf8 v.compact) = .ok v := by
  rw [Json.parse, Json.parse_compact]
  show (ofWritten v).value maxDepth >>= _ = _
  rw [h.value_ofWritten]
  rfl

end Exact
end LightningLottery.Json
