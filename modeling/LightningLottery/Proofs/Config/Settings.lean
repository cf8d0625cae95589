/-
  Every configuration is usable, and the first unusable setting is named.

  * `SettingCall`, `Choices`: the calls of the builder, and what they choose of each setting.
  * `Settings.urlFault?`, `networkFault?`, `startFault?`, `boundsFault?`: what is wrong with one
    setting.
  * `Settings.ofCalls_eq`: the settings after any calls.
  * `Settings.build_eq`: the configuration with these settings.
  * `Config.ofLookup_eq`: named variables are calls of the builder with what they say.
  * `Config.usable_or_first_fault`: what a configuration promises, and which fault is told of.
-/
import Mathlib
import LightningLottery.Config.Basic
import LightningLottery.Proofs.Steps
import LightningLottery.Proofs.Stream.Backoff
import LightningLottery.Proofs.Text.Blank

namespace LightningLottery

/-! ## Calls of the builder -/

/-- A call of the builder. -/
inductive SettingCall where
  | apiUrl (given : String)
  | network (network : Network)
  | bolt11Prefix (given : String)
  | storageDir (given : String)
  | backoff (floor ceiling : Duration)
  deriving DecidableEq

/-- What is chosen of each setting, if anything is; the URL is still a text. -/
structure Choices where
  apiUrl : Option String
  network : Option Network
  bolt11Prefix : Option String
  storageDir : Option String
  backoff : Option (Duration × Duration)
  deriving DecidableEq

namespace Choices

/-- Nothing is chosen. -/
def empty : Choices := ⟨none, none, none, none, none⟩

/-- A later choice stands in the place of an earlier one. -/
def next (choices : Choices) : SettingCall → Choices
  | .apiUrl given => { choices with apiUrl := some given }
  | .network network => { choices with network := some network }
  | .bolt11Prefix given => { choices with bolt11Prefix := some given }
  | .storageDir given => { choices with storageDir := some given }
  | .backoff floor ceiling => { choices with backoff := some (floor, ceiling) }

/-- What calls choose. -/
def ofCalls (calls : List SettingCall) : Choices := calls.foldl next empty

/-- The calls that make these choices, one for each. -/
def calls (choices : Choices) : List SettingCall :=
  (choices.apiUrl.map .apiUrl).toList ++ (choices.network.map .network).toList ++
    (choices.bolt11Prefix.map .bolt11Prefix).toList ++
    (choices.storageDir.map .storageDir).toList ++
    (choices.backoff.map fun bounds => .backoff bounds.1 bounds.2).toList

theorem ofCalls_calls (choices : Choices) : ofCalls choices.calls = choices := by
  obtain ⟨url?, network?, start?, folder?, bounds?⟩ := choices
  cases url? <;> cases network? <;> cases start? <;> cases folder? <;> cases bounds? <;> rfl

/-- What invoices start with: the start that is chosen, in small letters, or that of the network. -/
def start (choices : Choices) : String :=
  (choices.bolt11Prefix.map asciiLower).getD (choices.network.getD .mainnet).bolt11Prefix

/-- The bounds of the delay: one second and sixty where none are chosen. -/
def bounds (choices : Choices) : Duration × Duration :=
  choices.backoff.getD (.ofParts 1 0, .ofParts 60 0)

end Choices

namespace Settings

/-- What a call makes of settings. -/
def next (s : Settings) : SettingCall → Except Error Settings
  | .apiUrl given => s.setApiUrl given
  | .network network => .ok { s with network := some network }
  | .bolt11Prefix given => .ok (s.setBolt11Prefix given)
  | .storageDir given => .ok (s.setStorageDir given)
  | .backoff floor ceiling => .ok (s.setBackoff floor ceiling)

/-- The settings after calls of the builder, up to the first that fails. -/
def ofCalls (calls : List SettingCall) : Except Error Settings := calls.foldlM next .empty

/-! ## What is wrong with a setting -/

/-- What is wrong with a text as the URL of the server. -/
def urlFault? (given : String) : Option Error :=
  match Url.parse given with
  | .error cause => some (.url cause)
  | .ok u =>
    if u.scheme = "http" ∨ u.scheme = "https" then none else some (.config (.notHttp given))

/-- What is wrong with a text as the name of a network. -/
def networkFault? (given : String) : Option Error :=
  if asciiLower (trim given) ∈ ["mainnet", "bitcoin", "testnet", "signet", "regtest"] then none
  else some (.config (.unknownNetwork (asciiLower (trim given))))

/-- What is wrong with a text as the start of invoices. -/
def startFault? (start : String) : Option Error :=
  if "ln".toList <+: start.toList then none else some (.config (.bolt11Prefix start))

/-- What is wrong with the bounds of the delay. -/
def boundsFault? (bounds : Duration × Duration) : Option Error :=
  if 0 < bounds.1.nanoseconds ∧ bounds.1.nanoseconds ≤ bounds.2.nanoseconds then none
  else some (.config .backoff)

/-- What is wrong with a call of the builder; all but that of the URL take any value. -/
def callFault? : SettingCall → Option Error
  | .apiUrl given => urlFault? given
  | _ => none

end Settings

/-! ## Settings by what is chosen -/

theorem Network.asciiLower_bolt11Prefix (network : Network) :
    asciiLower network.bolt11Prefix = network.bolt11Prefix := by
  rw [← String.toList_inj, toList_asciiLower]
  cases network <;> decide

namespace Choices

/-- The settings with these choices. -/
def settings (choices : Choices) : Settings :=
  ⟨choices.apiUrl.bind fun given => (Url.parse given).toOption, choices.network,
    choices.bolt11Prefix, choices.storageDir, choices.backoff⟩

/-- The configuration with these choices. -/
def config (choices : Choices) : Config :=
  ⟨choices.settings.apiUrl.getD Settings.defaultApiUrl, choices.network.getD .mainnet,
    choices.start, choices.storageDir.getD Settings.defaultStorageDir, choices.bounds.1,
    choices.bounds.2⟩

end Choices

namespace Settings

variable (choices : Choices)

theorem setApiUrl_eq (given : String) :
    choices.settings.setApiUrl given =
      unlessFault (urlFault? given) { choices with apiUrl := some given }.settings := by
  unfold setApiUrl urlFault?
  cases hparse : Url.parse given with
  | error cause => rfl
  | ok u =>
    by_cases hhttp : u.scheme = "http" ∨ u.scheme = "https"
    · simp [Url.isHttp, hhttp, unlessFault, Choices.settings, hparse, Except.toOption]
    · simp [Url.isHttp, hhttp, unlessFault]

theorem next_eq (call : SettingCall) :
    choices.settings.next call = unlessFault (callFault? call) (choices.next call).settings := by
  cases call with
  | apiUrl given => exact setApiUrl_eq choices given
  | network network => rfl
  | bolt11Prefix given => rfl
  | storageDir given => rfl
  | backoff floor ceiling => rfl

theorem foldlM_next_eq (calls : List SettingCall) :
    calls.foldlM next choices.settings =
      unlessFault (calls.findSome? callFault?) (calls.foldl Choices.next choices).settings := by
  induction calls generalizing choices with
  | nil => rfl
  | cons call calls ih =>
    rw [List.foldlM_cons, next_eq, List.foldl_cons, List.findSome?_cons]
    refine (unlessFault_bind (fun s => calls.foldlM next s) (ih _)).trans ?_
    cases callFault? call <;> rfl

/-- **`ofCalls` fails by the first wrong URL, and else builds the last choices.** -/
theorem ofCalls_eq (calls : List SettingCall) :
    ofCalls calls =
      unlessFault (calls.findSome? callFault?) (Choices.ofCalls calls).settings :=
  foldlM_next_eq .empty calls

theorem asciiLower_getD_start :
    asciiLower (choices.bolt11Prefix.getD (choices.network.getD .mainnet).bolt11Prefix) =
      choices.start := by
  unfold Choices.start
  cases choices.bolt11Prefix with
  | none => exact Network.asciiLower_bolt11Prefix _
  | some given => rfl

/-- **`build` checks the start of invoices, and then the bounds.** -/
theorem build_eq :
    choices.settings.build =
      unlessFault ((startFault? choices.start).or (boundsFault? choices.bounds))
        choices.config := by
  have hstart : asciiLower (choices.settings.bolt11Prefix.getD
      (choices.settings.network.getD .mainnet).bolt11Prefix) = choices.start :=
    asciiLower_getD_start choices
  have hbounds : choices.settings.backoff.getD (Backoff.defaultFloor, Backoff.defaultCeiling) =
      choices.bounds := rfl
  have hwrong : (choices.bounds.1.nanoseconds = 0 ||
      choices.bounds.2.nanoseconds < choices.bounds.1.nanoseconds) = true ↔
      ¬ (0 < choices.bounds.1.nanoseconds ∧
        choices.bounds.1.nanoseconds ≤ choices.bounds.2.nanoseconds) := by
    rw [Bool.or_eq_true, decide_eq_true_eq, decide_eq_true_eq]
    omega
  have hright : (!startsWith choices.start lightningStart) = true ↔
      ¬ "ln".toList <+: choices.start.toList := by
    rw [Bool.not_eq_true', ← Bool.not_eq_true, startsWith_iff]
    rfl
  simp only [build, hstart, hbounds, hright, hwrong, startFault?, boundsFault?]
  by_cases hln : "ln".toList <+: choices.start.toList
  · rw [if_neg (not_not.2 hln), if_pos hln, Option.none_or]
    by_cases hbound : 0 < choices.bounds.1.nanoseconds ∧
        choices.bounds.1.nanoseconds ≤ choices.bounds.2.nanoseconds
    · rw [if_neg (not_not.2 hbound), if_pos hbound]
      rfl
    · rw [if_pos hbound, if_neg hbound]
      rfl
  · rw [if_pos hln, if_neg hln]
    rfl

/-! ## Names of networks -/

theorem networkFault?_of_error {given : String} {fault : ConfigFault}
    (h : Network.parse given = .error fault) : networkFault? given = some (.config fault) := by
  unfold Network.parse at h
  unfold networkFault?
  split at h
  all_goals cases h
  simp_all

theorem networkFault?_of_ok {given : String} {network : Network}
    (h : Network.parse given = .ok network) : networkFault? given = none := by
  unfold Network.parse at h
  unfold networkFault?
  split at h
  all_goals simp_all

theorem setNetwork_eq (given : String) :
    choices.settings.setNetwork given = unlessFault (networkFault? given)
      { choices with network := (Network.parse given).toOption }.settings := by
  unfold setNetwork
  cases hparse : Network.parse given with
  | error fault => rw [networkFault?_of_error hparse]; rfl
  | ok network => rw [networkFault?_of_ok hparse]; rfl

end Settings

namespace Config

open Settings

/-! ## What a configuration promises -/

/-- A configuration that a client can work with. -/
structure IsUsable (c : Config) : Prop where
  speaksHttp : c.apiUrl.scheme = "http" ∨ c.apiUrl.scheme = "https"
  noCapital : ∀ ch ∈ c.bolt11Prefix.toList, ch.isUpper = false
  isLightning : "ln".toList <+: c.bolt11Prefix.toList
  floor_pos : 0 < c.backoffFloor.nanoseconds
  floor_le_ceiling : c.backoffFloor.nanoseconds ≤ c.backoffCeiling.nanoseconds
  /-- After any failures and open connections: the delay that is due, for which the next failure
      waits. -/
  delay_mem : ∀ moves, let b := (Backoff.between c.backoffFloor c.backoffCeiling).run moves
    b.onFailure.1 = b.current ∧ c.backoffFloor.nanoseconds ≤ b.current.nanoseconds ∧
      b.current.nanoseconds ≤ c.backoffCeiling.nanoseconds

/-- A configuration as it is chosen, with a default for each setting that is not. -/
structure Follows (c : Config) (choices : Choices) : Prop where
  apiUrl_eq : Url.parse (choices.apiUrl.getD "http://localhost:8080") = .ok c.apiUrl
  network_eq : c.network = choices.network.getD .mainnet
  bolt11Prefix_eq : c.bolt11Prefix =
    (choices.bolt11Prefix.map asciiLower).getD c.network.bolt11Prefix
  storageDir_eq : c.storageDir = choices.storageDir.getD ".btry"
  bounds_eq : (c.backoffFloor, c.backoffCeiling) =
    choices.backoff.getD (.ofParts 1 0, .ofParts 60 0)

end Config

namespace Settings

theorem parse_defaultApiUrl : Url.parse "http://localhost:8080" = .ok defaultApiUrl := by
  decide +kernel

theorem exists_of_urlFault? {given : String} (h : urlFault? given = none) :
    ∃ u, Url.parse given = .ok u ∧ (u.scheme = "http" ∨ u.scheme = "https") := by
  unfold urlFault? at h
  split at h
  · cases h
  · next u hparse =>
    refine ⟨u, hparse, by_contra fun hother => ?_⟩
    rw [if_neg hother] at h
    cases h

theorem startFault?_eq_none_iff {start : String} :
    startFault? start = none ↔ "ln".toList <+: start.toList := by
  unfold startFault?
  split <;> simp_all

theorem boundsFault?_eq_none_iff {bounds : Duration × Duration} :
    boundsFault? bounds = none ↔
      0 < bounds.1.nanoseconds ∧ bounds.1.nanoseconds ≤ bounds.2.nanoseconds := by
  unfold boundsFault?
  split <;> simp_all

end Settings

namespace Choices

open Settings

variable {choices : Choices}

theorem isUpper_start : ∀ ch ∈ choices.start.toList, ch.isUpper = false := by
  intro ch hch
  rw [← asciiLower_getD_start, toList_asciiLower] at hch
  obtain ⟨original, -, rfl⟩ := List.mem_map.1 hch
  exact Char.isUpper_toLower_eq_false original

theorem apiUrl_config (h : choices.apiUrl.bind urlFault? = none) :
    Url.parse (choices.apiUrl.getD "http://localhost:8080") = .ok choices.config.apiUrl ∧
      (choices.config.apiUrl.scheme = "http" ∨ choices.config.apiUrl.scheme = "https") := by
  unfold config settings
  cases hchosen : choices.apiUrl with
  | none => exact ⟨parse_defaultApiUrl, .inl rfl⟩
  | some given =>
    rw [hchosen] at h
    obtain ⟨u, hparse, hhttp⟩ := exists_of_urlFault? h
    rw [Option.bind_some, hparse]
    exact ⟨hparse, hhttp⟩

/-- **Choices without a fault make a usable configuration that follows them.** -/
theorem config_isUsable (hurl : choices.apiUrl.bind urlFault? = none)
    (hstart : startFault? choices.start = none) (hbounds : boundsFault? choices.bounds = none) :
    choices.config.IsUsable ∧ choices.config.Follows choices := by
  obtain ⟨hparse, hhttp⟩ := apiUrl_config hurl
  obtain ⟨hpos, hle⟩ := boundsFault?_eq_none_iff.1 hbounds
  exact ⟨⟨hhttp, isUpper_start, startFault?_eq_none_iff.1 hstart, hpos, hle,
    fun moves => ⟨rfl, Backoff.current_run_mem hle moves⟩⟩, ⟨hparse, rfl, rfl, rfl, rfl⟩⟩

theorem urlFault?_foldl {calls : List SettingCall} (hcalls : calls.findSome? callFault? = none)
    (h : choices.apiUrl.bind urlFault? = none) :
    (calls.foldl next choices).apiUrl.bind urlFault? = none := by
  induction calls generalizing choices with
  | nil => exact h
  | cons call calls ih =>
    rw [List.findSome?_eq_none_iff, List.forall_mem_cons, ← List.findSome?_eq_none_iff] at hcalls
    refine ih hcalls.2 ?_
    cases call with
    | apiUrl given => exact hcalls.1
    | network network => exact h
    | bolt11Prefix given => exact h
    | storageDir given => exact h
    | backoff floor ceiling => exact h

theorem findSome?_map_toList {α β γ : Type} (g : β → Option γ) (f : α → β) (value : Option α) :
    (value.map f).toList.findSome? g = value.bind fun a => g (f a) := by
  cases value with
  | none => rfl
  | some a => simp

theorem callFault?_calls (choices : Choices) :
    choices.calls.findSome? callFault? = choices.apiUrl.bind urlFault? := by
  simp only [calls, List.findSome?_append, findSome?_map_toList, callFault?, Option.bind_fun_none,
    Option.or_none]

end Choices

namespace Config

open Settings

/-- The configuration after calls of the builder. -/
def ofCalls (calls : List SettingCall) : Except Error Config := do
  (← Settings.ofCalls calls).build

theorem ofCalls_eq (calls : List SettingCall) :
    ofCalls calls = unlessFault
      (earliestFault [calls.findSome? callFault?, startFault? (Choices.ofCalls calls).start,
        boundsFault? (Choices.ofCalls calls).bounds]) (Choices.ofCalls calls).config := by
  rw [ofCalls, Settings.ofCalls_eq]
  refine (unlessFault_bind build (build_eq _)).trans ?_
  simp only [earliestFault_cons, earliestFault_nil, Option.or_none]

/-! ## Named variables -/

/-- What a variable says: its value without the blanks around it, unless it is all blank. -/
def said? (lookup : String → Option String) (key : String) : Option String :=
  (lookup key).bind fun value => if IsBlanks value then none else some (trim value)

theorem valueOf_eq (lookup : String → Option String) (key : String) :
    valueOf lookup key = said? lookup key := by
  unfold valueOf said?
  cases lookup key with
  | none => rfl
  | some value =>
    have hempty : (!(trim value).isEmpty) = true ↔ ¬ IsBlanks value := by
      rw [Bool.not_eq_true', ← Bool.not_eq_true, String.isEmpty_iff, trim_eq_empty_iff]
    rw [Option.map_some, Option.filter_some, Option.bind_some]
    by_cases h : IsBlanks value
    · rw [if_neg (fun hleft => hempty.1 hleft h), if_pos h]
    · rw [if_pos (hempty.2 h), if_neg h]

end Config

/-- What named variables choose. The bounds of the delay have no variable. -/
def Choices.ofLookup (lookup : String → Option String) : Choices :=
  ⟨Config.said? lookup "BTRY_API_URL",
    (Config.said? lookup "BTRY_NETWORK").bind fun given => (Network.parse given).toOption,
    Config.said? lookup "BTRY_BOLT11_PREFIX", Config.said? lookup "BTRY_STORAGE_DIR", none⟩

namespace Config

open Settings

variable (lookup : String → Option String)

theorem setIfGiven_eq {α : Type} {set : Settings → α → Except Error Settings} {value : Option α}
    {s after : Settings} {fault? : α → Option Error}
    (hset : ∀ v, value = some v → set s v = unlessFault (fault? v) after)
    (hstays : value = none → s = after) :
    setIfGiven set value s = unlessFault (value.bind fault?) after := by
  cases value with
  | none => exact congrArg _ (hstays rfl)
  | some v => exact hset v rfl

theorem setRest_eq (url? : Option String) (network? : Option Network)
    (start? folder? : Option String) :
    (do
      let s ← setIfGiven (fun s v => .ok (s.setBolt11Prefix v)) start?
        (⟨url?, network?, none, none, none⟩ : Choices).settings
      setIfGiven (fun s v => .ok (s.setStorageDir v)) folder? s) =
    unlessFault none (⟨url?, network?, start?, folder?, none⟩ : Choices).settings := by
  cases start? <;> cases folder? <;> rfl

/-- The fault of the URL comes before that of the network. -/
theorem settingsOf_eq :
    settingsOf lookup = unlessFault
      (((said? lookup "BTRY_API_URL").bind urlFault?).or
        ((said? lookup "BTRY_NETWORK").bind networkFault?)) (Choices.ofLookup lookup).settings := by
  have hurl : setIfGiven setApiUrl (said? lookup "BTRY_API_URL") .empty =
      unlessFault ((said? lookup "BTRY_API_URL").bind urlFault?)
        (⟨said? lookup "BTRY_API_URL", none, none, none, none⟩ : Choices).settings :=
    setIfGiven_eq (fun given h => h ▸ setApiUrl_eq .empty given) fun h => by rw [h]; rfl
  have hnetwork : setIfGiven setNetwork (said? lookup "BTRY_NETWORK")
      (⟨said? lookup "BTRY_API_URL", none, none, none, none⟩ : Choices).settings =
      unlessFault ((said? lookup "BTRY_NETWORK").bind networkFault?)
        (⟨said? lookup "BTRY_API_URL", (Choices.ofLookup lookup).network, none, none, none⟩ :
          Choices).settings :=
    setIfGiven_eq
      (fun given h => by rw [Choices.ofLookup, h]; exact setNetwork_eq ⟨_, _, _, _, _⟩ given)
      fun h => by rw [Choices.ofLookup, h]; rfl
  simp only [settingsOf, valueOf_eq, apiUrlKey, networkKey, bolt11PrefixKey, storageDirKey]
  rw [hurl]
  refine unlessFault_bind _ ?_
  rw [hnetwork]
  conv_rhs => rw [← ((said? lookup "BTRY_NETWORK").bind networkFault?).or_none]
  refine unlessFault_bind _ ?_
  exact setRest_eq ..

/-- **`ofLookup` gives the configuration of the variables, or the first fault.** -/
theorem ofLookup_eq :
    ofLookup lookup = unlessFault
      (earliestFault [(said? lookup "BTRY_API_URL").bind urlFault?,
        (said? lookup "BTRY_NETWORK").bind networkFault?,
        startFault? (Choices.ofLookup lookup).start,
        boundsFault? (Choices.ofLookup lookup).bounds]) (Choices.ofLookup lookup).config := by
  rw [ofLookup, settingsOf_eq]
  refine (unlessFault_bind build (build_eq _)).trans ?_
  simp only [earliestFault_cons, earliestFault_nil, Option.or_none, Option.or_assoc]

/-- **`ofCalls` and `ofLookup` give a usable configuration or the first fault** (`IsUsable`,
    `Follows`, `earliestFault`): of the builder that of the first wrong URL, then of the start of
    invoices, then of the bounds; of named variables that of the URL, the network, the start and the
    bounds. Named variables do what the builder does with the trimmed values. -/
theorem usable_or_first_fault :
    (∀ calls, let choices := Choices.ofCalls calls
      (∀ c, ofCalls calls = .ok c → c.IsUsable ∧ c.Follows choices) ∧
      ∀ e, ofCalls calls = .error e ↔
        earliestFault [calls.findSome? callFault?, startFault? choices.start,
          boundsFault? choices.bounds] = some e) ∧
    ∀ lookup, let choices := Choices.ofLookup lookup
      (∀ c, ofLookup lookup = .ok c → c.IsUsable ∧ c.Follows choices) ∧
      ((said? lookup "BTRY_NETWORK").bind networkFault? = none →
        ofLookup lookup = ofCalls choices.calls) ∧
      ∀ e, ofLookup lookup = .error e ↔
        earliestFault [(said? lookup "BTRY_API_URL").bind urlFault?,
          (said? lookup "BTRY_NETWORK").bind networkFault?, startFault? choices.start,
          boundsFault? choices.bounds] = some e := by
  refine ⟨fun calls => ⟨fun c hc => ?_, fun e => ?_⟩,
    fun lookup => ⟨fun c hc => ?_, fun hnetwork => ?_, fun e => ?_⟩⟩
  · rw [ofCalls_eq, unlessFault_eq_ok_iff] at hc
    obtain ⟨hnone, rfl⟩ := hc
    simp only [earliestFault_cons, earliestFault_nil, Option.or_eq_none_iff] at hnone
    obtain ⟨hcalls, hstart, hbounds, -⟩ := hnone
    exact Choices.config_isUsable (Choices.urlFault?_foldl hcalls rfl) hstart hbounds
  · rw [ofCalls_eq, unlessFault_eq_error_iff]
  · rw [ofLookup_eq, unlessFault_eq_ok_iff] at hc
    obtain ⟨hnone, rfl⟩ := hc
    simp only [earliestFault_cons, earliestFault_nil, Option.or_eq_none_iff] at hnone
    obtain ⟨hurl, -, hstart, hbounds, -⟩ := hnone
    exact Choices.config_isUsable hurl hstart hbounds
  · rw [ofLookup_eq, ofCalls_eq, Choices.callFault?_calls, Choices.ofCalls_calls, hnetwork]
    simp only [earliestFault_cons, Option.none_or]
    rfl
  · rw [ofLookup_eq, unlessFault_eq_error_iff]

end Config
end LightningLottery
