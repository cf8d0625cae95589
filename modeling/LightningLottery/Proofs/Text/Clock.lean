/-
  Clock texts with two digits in each component.

  * `formatTime_formatTime`: a text that was padded is not padded again.
  * `IsClock`, `clockText`: the components of a clock, and its text; `padded`: a component with two
    digits or more.
  * `PassedOver`: the text has the length of a complete clock, and yet a component of one digit.
  * `formatTime_pads_unless_passed_over`: all other clocks are padded.
-/
import LightningLottery.Proofs.Text.Split
import LightningLottery.Proofs.Text.Utf8
import LightningLottery.Text.Clock

namespace LightningLottery

/-! ## Any text -/

theorem byteCount_eq (cs : List Char) : byteCount cs = (String.ofList cs).utf8ByteSize := by
  have hfrom (n : Nat) : cs.foldl (fun n c => n + c.utf8Size) n =
      n + (String.ofList cs).utf8ByteSize := by
    induction cs generalizing n with
    | nil => rfl
    | cons c cs ih => rw [List.foldl_cons, ih, utf8ByteSize_cons, Nat.add_assoc]
  rw [byteCount, hfrom, Nat.zero_add]

theorem padComponent_padComponent (component : List Char) :
    padComponent (padComponent component) = padComponent component := by
  by_cases hone : byteCount component = 1
  · have htwo : byteCount ('0' :: component) = 2 := by
      rw [byteCount_eq, utf8ByteSize_cons, ← byteCount_eq, hone]
      rfl
    have hpadded : padComponent component = '0' :: component := if_pos hone
    rw [hpadded, padComponent, if_neg (by rw [htwo]; decide)]
  · have hkept : padComponent component = component := if_neg hone
    rw [hkept, hkept]

theorem colon_notMem_padComponent {component : List Char} (h : ':' ∉ component) :
    ':' ∉ padComponent component := by
  unfold padComponent
  split
  · rw [List.mem_cons, not_or]
    exact ⟨by decide, h⟩
  · exact h

theorem map_padComponent_splitOn_ne_nil (cs : List Char) :
    (splitOn ':' cs).map padComponent ≠ [] := by
  rw [splitOn_eq]
  exact fun h => List.splitOn_ne_nil ':' cs (List.map_eq_nil_iff.1 h)

theorem splitOn_padded (cs : List Char) :
    splitOn ':' (joinWith ':' ((splitOn ':' cs).map padComponent)) =
      (splitOn ':' cs).map padComponent := by
  refine splitOn_joinWith ?_ (map_padComponent_splitOn_ne_nil cs)
  rw [List.forall_mem_map, splitOn_eq]
  exact fun piece hpiece => colon_notMem_padComponent (notMem_of_mem_splitOn hpiece)

theorem formatTime_formatTime (s : String) : formatTime (formatTime s) = formatTime s := by
  by_cases hcomplete : s.utf8ByteSize = completeClockLength
  · have hkept : formatTime s = s := if_pos hcomplete
    rw [hkept, hkept]
  · have hpadded : formatTime s =
        String.ofList (joinWith ':' ((splitOn ':' s.toList).map padComponent)) := if_neg hcomplete
    rw [hpadded, formatTime]
    split
    · rfl
    · have hagain : padComponent ∘ padComponent = padComponent :=
        funext padComponent_padComponent
      rw [String.toList_ofList, splitOn_padded, List.map_map, hagain]

/-! ## Clocks -/

/-- The components of a clock: at least one, each of one digit or more. -/
structure IsClock (components : List (List Char)) : Prop where
  ne_nil : components ≠ []
  component_ne_nil : ∀ component ∈ components, component ≠ []
  isDigit : ∀ component ∈ components, ∀ c ∈ component, c.isDigit = true

/-- The text of a clock. -/
def clockText (components : List (List Char)) : String := String.ofList (joinWith ':' components)

/-- A component of one digit with a zero in front, any other one as it is. -/
def padded (component : List Char) : List Char :=
  if component.length = 1 then '0' :: component else component

/-- The text of a clock has eight characters, although a component has only one digit. -/
def PassedOver (components : List (List Char)) : Prop :=
  (clockText components).length = 8 ∧ ∃ component ∈ components, component.length = 1

theorem ascii_of_isDigit {c : Char} (h : c.isDigit = true) : c.toNat < 128 := by
  simp only [Char.isDigit, Bool.and_eq_true, decide_eq_true_eq, UInt32.le_iff_toNat_le] at h
  exact Nat.lt_of_le_of_lt h.2 (by decide)

theorem two_le_length_padded {component : List Char} (h : component ≠ []) :
    2 ≤ (padded component).length := by
  have hpos := List.length_pos_iff.2 h
  unfold padded
  split
  · next hone => rw [List.length_cons, hone]
  · omega

theorem map_padded_eq_self {components : List (List Char)}
    (h : ∀ component ∈ components, component.length ≠ 1) : components.map padded = components :=
  (List.map_congr_left fun component hmem => if_neg (h component hmem)).trans (List.map_id _)

namespace IsClock

variable {components : List (List Char)}

theorem colon_notMem (h : IsClock components) : ∀ component ∈ components, ':' ∉ component :=
  fun component hmem hcolon => absurd (h.isDigit component hmem ':' hcolon) (by decide)

theorem splitOn_text (h : IsClock components) :
    splitOn ':' (clockText components).toList = components := by
  rw [clockText, String.toList_ofList, splitOn_joinWith h.colon_notMem h.ne_nil]

theorem utf8ByteSize_text (h : IsClock components) :
    (clockText components).utf8ByteSize = (clockText components).length := by
  have hascii : ∀ c ∈ joinWith ':' components, c.toNat < 128 := by
    intro c hc
    rcases mem_joinWith hc with rfl | ⟨component, hcomponent, hmem⟩
    · decide
    · exact ascii_of_isDigit (h.isDigit component hcomponent c hmem)
  rw [clockText, utf8ByteSize_ascii _ hascii, String.length_ofList]

theorem map_padComponent (h : IsClock components) :
    components.map padComponent = components.map padded := by
  refine List.map_congr_left fun component hmem => ?_
  have hsize := utf8ByteSize_ascii component
    fun c hc => ascii_of_isDigit (h.isDigit component hmem c hc)
  rw [padComponent, byteCount_eq, hsize, padded]

theorem formatTime_text (h : IsClock components) :
    formatTime (clockText components) =
      if (clockText components).length = 8 then clockText components
      else clockText (components.map padded) := by
  rw [formatTime, h.utf8ByteSize_text, completeClockLength, h.splitOn_text, h.map_padComponent]
  rfl

theorem map_padded (h : IsClock components) : IsClock (components.map padded) := by
  refine ⟨fun hnil => h.ne_nil (List.map_eq_nil_iff.1 hnil), ?_, ?_⟩
  · rw [List.forall_mem_map]
    intro component hmem
    exact List.length_pos_iff.1 (Nat.lt_of_lt_of_le Nat.zero_lt_two
      (two_le_length_padded (h.component_ne_nil component hmem)))
  · rw [List.forall_mem_map]
    intro component hmem c hc
    unfold padded at hc
    split at hc
    · rcases List.mem_cons.1 hc with rfl | hc
      · decide
      · exact h.isDigit component hmem c hc
    · exact h.isDigit component hmem c hc

/-- A clock that is not passed over is padded, also where it has the length of a complete one. -/
theorem formatTime_of_not_passedOver (h : IsClock components) (hnot : ¬ PassedOver components) :
    formatTime (clockText components) = clockText (components.map padded) := by
  rw [h.formatTime_text]
  split
  · next hlength =>
    rw [map_padded_eq_self fun component hmem hone => hnot ⟨hlength, component, hmem, hone⟩]
  · rfl

theorem formatTime_of_passedOver (h : IsClock components) (hover : PassedOver components) :
    formatTime (clockText components) = clockText components := by
  rw [h.formatTime_text, if_pos hover.1]

/-- All components shown have two digits or more, unless the clock is passed over. -/
theorem two_le_length_iff (h : IsClock components) :
    (∀ component ∈ splitOn ':' (formatTime (clockText components)).toList,
      2 ≤ component.length) ↔ ¬ PassedOver components := by
  constructor
  · intro htwo hover
    obtain ⟨component, hmem, hone⟩ := hover.2
    rw [h.formatTime_of_passedOver hover, h.splitOn_text] at htwo
    have := htwo component hmem
    omega
  · intro hnot
    rw [h.formatTime_of_not_passedOver hnot, h.map_padded.splitOn_text, List.forall_mem_map]
    exact fun component hmem => two_le_length_padded (h.component_ne_nil component hmem)

/-- Hours, minutes and seconds are passed over where the hours have three or four digits and the
    whole has eight characters. -/
theorem passedOver_iff {hours minutes seconds : List Char} (h : IsClock [hours, minutes, seconds])
    (hminutes : minutes.length ≤ 2) (hseconds : seconds.length ≤ 2) :
    PassedOver [hours, minutes, seconds] ↔
      (hours.length, minutes.length, seconds.length) ∈ [(4, 1, 1), (3, 1, 2), (3, 2, 1)] := by
  have hlength : (clockText [hours, minutes, seconds]).length =
      hours.length + minutes.length + seconds.length + 2 := by
    rw [clockText, String.length_ofList]
    simp only [joinWith, List.length_append, List.length_cons]
    omega
  have hpos : ∀ component ∈ [hours, minutes, seconds], 0 < component.length :=
    fun component hmem => List.length_pos_iff.2 (h.component_ne_nil component hmem)
  simp only [List.forall_mem_cons] at hpos
  simp only [PassedOver, hlength, List.mem_cons, List.not_mem_nil, or_false, Prod.mk.injEq,
    exists_eq_or_imp, exists_eq_left]
  omega

end IsClock

/-- **`formatTime` pads every component to two digits, unless the clock is `PassedOver`**, that is,
    has the length of a complete clock and a component of one digit; such a clock stays as it is.
    `formatTime` is idempotent. -/
theorem formatTime_pads_unless_passed_over :
    (∀ components, IsClock components →
      (¬ PassedOver components →
        formatTime (clockText components) = clockText (components.map padded)) ∧
      (PassedOver components → formatTime (clockText components) = clockText components) ∧
      ((∀ component ∈ splitOn ':' (formatTime (clockText components)).toList,
        2 ≤ component.length) ↔ ¬ PassedOver components)) ∧
    (∀ hours minutes seconds, IsClock [hours, minutes, seconds] →
      minutes.length ≤ 2 → seconds.length ≤ 2 →
      (PassedOver [hours, minutes, seconds] ↔
        (hours.length, minutes.length, seconds.length) ∈ [(4, 1, 1), (3, 1, 2), (3, 2, 1)])) ∧
    ∀ s, formatTime (formatTime s) = formatTime s :=
  ⟨fun _ h => ⟨h.formatTime_of_not_passedOver, h.formatTime_of_passedOver, h.two_le_length_iff⟩,
    fun _ _ _ h => h.passedOver_iff, formatTime_formatTime⟩

/-- A clock of seven characters. -/
theorem formatTime_pads_minutes :
    IsClock [['1', '2'], ['5'], ['3', '0']] ∧ ¬ PassedOver [['1', '2'], ['5'], ['3', '0']] ∧
      formatTime (clockText [['1', '2'], ['5'], ['3', '0']]) =
        clockText [['1', '2'], ['0', '5'], ['3', '0']] := by
  have hclock : IsClock [['1', '2'], ['5'], ['3', '0']] := ⟨by decide, by decide, by simp⟩
  have hnot : ¬ PassedOver [['1', '2'], ['5'], ['3', '0']] := by
    rw [hclock.passedOver_iff (by decide) (by decide)]
    decide
  exact ⟨hclock, hnot, (formatTime_pads_unless_passed_over.1 _ hclock).1 hnot⟩

/-- Minutes and seconds of one digit stay behind hours of four. -/
theorem not_padded_behind_wide_hours :
    IsClock [['1', '2', '3', '4'], ['5'], ['6']] ∧
      formatTime (clockText [['1', '2', '3', '4'], ['5'], ['6']]) ≠
        clockText ([['1', '2', '3', '4'], ['5'], ['6']].map padded) := by
  have hclock : IsClock [['1', '2', '3', '4'], ['5'], ['6']] := ⟨by decide, by decide, by simp⟩
  have hover : PassedOver [['1', '2', '3', '4'], ['5'], ['6']] := by
    rw [hclock.passedOver_iff (by decide) (by decide)]
    decide
  refine ⟨hclock, ?_⟩
  rw [hclock.formatTime_of_passedOver hover, clockText, clockText, ne_eq, String.ofList_inj]
  decide

end LightningLottery
