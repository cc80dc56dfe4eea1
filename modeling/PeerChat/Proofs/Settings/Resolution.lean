import PeerChat.Program.Client
import PeerChat.Proofs.Schedule.Cadence
import PeerChat.Proofs.Settings.File
import PeerChat.Proofs.Text.Trim

/-!
Where the settings of a program come from. Each setting was given by hand, or is in the file, or has its default; what
comes of this is used if it is fit, and otherwise the first thing that is wrong is told.

* `fault?_of_fit`, `fault?_of_unfit`, `fit_or_unfit`: which settings are fit, and what keeps others from being used;
* `resolve_eq_ok_iff`, `resolve_eq_error_iff`: what comes of looking for settings;
* `settings_resolve`: all of it, with the sizes of files, files as settings given by hand, and the timers.
-/

namespace PeerChat.Settings

variable {s : Settings} {fault : Fault} {disk : Disk} {path : Option String} {o given : Overrides}

/-! ### Fitness -/

/-- Settings that can be used: an address that is not blank, no time of zero, and files of some size. -/
structure Fit (s : Settings) : Prop where
  serverUrl : Text.trim s.serverUrl ≠ ""
  messagesMs : s.messagesMs ≠ 0
  rosterMs : s.rosterMs ≠ 0
  transfersMs : s.transfersMs ≠ 0
  livenessMs : s.livenessMs ≠ 0
  requestTimeoutMs : s.requestTimeoutMs ≠ 0
  maxOfferBytes : s.maxOfferBytes ≠ 0

/-- The times, in the order in which they are looked at. -/
def times (s : Settings) : List (Period × UInt64) := [(.messages, s.messagesMs), (.roster, s.rosterMs),
  (.transfers, s.transfersMs), (.liveness, s.livenessMs), (.requestTimeout, s.requestTimeoutMs)]

/-- The first thing that keeps settings from being used. -/
inductive Unfit (s : Settings) : Fault → Prop
  | emptyServerUrl : Text.trim s.serverUrl = "" → Unfit s .emptyServerUrl
  | zeroPeriod {before after : List (Period × UInt64)} {period : Period} : Text.trim s.serverUrl ≠ "" →
    times s = before ++ (period, 0) :: after → (∀ time ∈ before, time.2 ≠ 0) → Unfit s (.zeroPeriod period)
  | zeroOfferLimit : Text.trim s.serverUrl ≠ "" → (∀ time ∈ times s, time.2 ≠ 0) → s.maxOfferBytes = 0 →
    Unfit s .zeroOfferLimit

lemma find?_zero : Period.all.find? (·.value s == 0) = ((times s).find? (·.2 == 0)).map (·.1) := by
  have htimes : times s = Period.all.map fun period => (period, period.value s) := rfl
  have hvalue : (fun time : Period × UInt64 => time.2 == 0) ∘ (fun period => (period, period.value s)) =
      fun period => period.value s == 0 := rfl
  rw [htimes, List.find?_map, Option.map_map, hvalue]
  exact Option.map_id'.symm

lemma isAllBlank_of_trim_ne (h : Text.trim s.serverUrl ≠ "") : Text.isAllBlank s.serverUrl = false :=
  Bool.eq_false_iff.2 fun hblank => h ((Text.isAllBlank_eq_true_iff _).1 hblank)

lemma find?_zero_eq_none (h : ∀ time ∈ times s, time.2 ≠ 0) : Period.all.find? (·.value s == 0) = none := by
  have hnone : (times s).find? (·.2 == 0) = none := List.find?_eq_none.2 fun time htime => by simpa using h time htime
  rw [find?_zero, hnone, Option.map_none]

lemma fault?_of_fit (h : Fit s) : s.fault? = none := by
  have htimes : ∀ time ∈ times s, time.2 ≠ 0 := by
    simp only [times, List.forall_mem_cons]
    exact ⟨h.messagesMs, h.rosterMs, h.transfersMs, h.livenessMs, h.requestTimeoutMs, nofun⟩
  rw [fault?, isAllBlank_of_trim_ne h.serverUrl, find?_zero_eq_none htimes]
  exact if_neg h.maxOfferBytes

lemma fault?_of_unfit (h : Unfit s fault) : s.fault? = some fault := by
  cases h with
  | emptyServerUrl hurl => rw [fault?, if_pos ((Text.isAllBlank_eq_true_iff _).2 hurl)]
  | @zeroPeriod before after period hurl htimes hbefore =>
    have hfind : (times s).find? (·.2 == 0) = some (period, 0) :=
      List.find?_eq_some_iff_append.2 ⟨rfl, before, after, htimes, by simpa using hbefore⟩
    rw [fault?, isAllBlank_of_trim_ne hurl, find?_zero, hfind]
    rfl
  | zeroOfferLimit hurl htimes hoffer =>
    rw [fault?, isAllBlank_of_trim_ne hurl, find?_zero_eq_none htimes]
    exact if_pos hoffer

lemma fit_or_unfit (s : Settings) : Fit s ∨ ∃ fault, Unfit s fault := by
  by_cases hurl : Text.trim s.serverUrl = ""
  · exact Or.inr ⟨_, .emptyServerUrl hurl⟩
  · cases hfind : (times s).find? (·.2 == 0) with
    | some time =>
      obtain ⟨hzero, before, after, htimes, hbefore⟩ := List.find?_eq_some_iff_append.1 hfind
      obtain ⟨period, value⟩ := time
      obtain rfl : value = 0 := by simpa using hzero
      exact Or.inr ⟨_, .zeroPeriod hurl htimes (by simpa using hbefore)⟩
    | none =>
      have htimes : ∀ time ∈ times s, time.2 ≠ 0 := by simpa using hfind
      by_cases hoffer : s.maxOfferBytes = 0
      · exact Or.inr ⟨_, .zeroOfferLimit hurl htimes hoffer⟩
      · simp only [times, List.forall_mem_cons] at htimes
        obtain ⟨hmessages, hroster, htransfers, hliveness, htimeout, -⟩ := htimes
        exact Or.inl ⟨hurl, hmessages, hroster, htransfers, hliveness, htimeout, hoffer⟩

/-! ### Sources -/

/-- Settings given by hand, with others behind them that count where nothing is given. -/
def Overrides.or (o given : Overrides) : Overrides where
  serverUrl := o.serverUrl.or given.serverUrl
  messagesMs := o.messagesMs.or given.messagesMs
  rosterMs := o.rosterMs.or given.rosterMs
  transfersMs := o.transfersMs.or given.transfersMs
  livenessMs := o.livenessMs.or given.livenessMs
  requestTimeoutMs := o.requestTimeoutMs.or given.requestTimeoutMs
  maxOfferBytes := o.maxOfferBytes.or given.maxOfferBytes

/-- Each setting as it was given by hand, or else as the file gives it, or else as it is by default. -/
def merged (o given : Overrides) : Settings where
  serverUrl := (o.serverUrl.or given.serverUrl).getD "http://127.0.0.1:8080"
  messagesMs := (o.messagesMs.or given.messagesMs).getD 2000
  rosterMs := (o.rosterMs.or given.rosterMs).getD 3000
  transfersMs := (o.transfersMs.or given.transfersMs).getD 3000
  livenessMs := (o.livenessMs.or given.livenessMs).getD 5000
  requestTimeoutMs := (o.requestTimeoutMs.or given.requestTimeoutMs).getD 4000
  maxOfferBytes := (o.maxOfferBytes.or given.maxOfferBytes).getD 10485760

/-- What the file of a program gives, if it has one. -/
inductive Found (disk : Disk) : Option String → Overrides → Prop
  | nothing : Found disk none .none
  | file {path : String} {given : Overrides} : Holds disk path given → Found disk (some path) given

/-- Why there are no settings: something is wrong with the file, or else with what comes of it. -/
inductive Refused (disk : Disk) (o : Overrides) : Option String → Fault → Prop
  | file {path : String} {fault : Fault} : Unreadable disk path fault → Refused disk o (some path) fault
  | settings {path : Option String} {given : Overrides} {fault : Fault} : Found disk path given →
    Unfit (merged o given) fault → Refused disk o path fault

lemma getD_or {α : Type} (first second : Option α) (default : α) :
    (first.or second).getD default = first.getD (second.getD default) := by
  cases first <;> rfl

lemma merged_eq (o given : Overrides) : merged o given = o.apply (given.apply default) := by
  simp only [merged, getD_or]
  rfl

lemma merged_or (o given : Overrides) : merged (o.or given) .none = merged o given := by
  simp [merged, Overrides.or, Overrides.none]

/-! ### Settings of a program -/

/-- What is found, with the defaults, makes way for what was given by hand and is looked at then. -/
lemma resolve_of_base {base : Settings} (h : path.elim (.ok default) (load disk) = .ok base) :
    resolve disk path o = (o.apply base).fault?.elim (.ok (o.apply base)) .error := by
  unfold resolve
  cases path with
  | none =>
    obtain rfl := Except.ok.inj h
    dsimp only [bind, Except.bind]
    cases (o.apply default).fault? <;> rfl
  | some path =>
    rw [Option.elim_some] at h
    simp only [h, bind, Except.bind]
    cases (o.apply base).fault? <;> rfl

lemma resolve_of_found (h : Found disk path given) :
    resolve disk path o = (merged o given).fault?.elim (.ok (merged o given)) .error := by
  rw [merged_eq]
  refine resolve_of_base ?_
  cases h with
  | nothing => rfl
  | file hholds => exact load_of_holds hholds

lemma resolve_of_refused (h : Refused disk o path fault) : resolve disk path o = .error fault := by
  cases h with
  | file hfault =>
    unfold resolve
    simp only [load_of_unreadable hfault]
    rfl
  | settings hfound hunfit => rw [resolve_of_found hfound, fault?_of_unfit hunfit, Option.elim_some]

lemma resolve_of_fit (hfound : Found disk path given) (hfit : Fit (merged o given)) :
    resolve disk path o = .ok (merged o given) := by
  rw [resolve_of_found hfound, fault?_of_fit hfit, Option.elim_none]

lemma fit_or_refused (disk : Disk) (path : Option String) (o : Overrides) :
    (∃ given, Found disk path given ∧ Fit (merged o given)) ∨ ∃ fault, Refused disk o path fault := by
  have hfound : (∃ given, Found disk path given) ∨ ∃ fault, Refused disk o path fault := by
    cases path with
    | none => exact Or.inl ⟨_, .nothing⟩
    | some path =>
      rcases holds_or_unreadable disk path with ⟨given, hholds⟩ | ⟨fault, hfault⟩
      · exact Or.inl ⟨given, .file hholds⟩
      · exact Or.inr ⟨fault, .file hfault⟩
  rcases hfound with ⟨given, hfound⟩ | hrefused
  · rcases fit_or_unfit (merged o given) with hfit | ⟨fault, hunfit⟩
    · exact Or.inl ⟨given, hfound, hfit⟩
    · exact Or.inr ⟨fault, .settings hfound hunfit⟩
  · exact Or.inr hrefused

/-- Settings come out exactly if all that is found is fit, and they are what is found. -/
theorem resolve_eq_ok_iff :
    resolve disk path o = .ok s ↔ ∃ given, Found disk path given ∧ s = merged o given ∧ Fit s := by
  constructor
  · intro h
    rcases fit_or_refused disk path o with ⟨given, hfound, hfit⟩ | ⟨fault, hrefused⟩
    · obtain rfl : s = merged o given := Except.ok.inj (h.symm.trans (resolve_of_fit hfound hfit))
      exact ⟨given, hfound, rfl, hfit⟩
    · exact nomatch h.symm.trans (resolve_of_refused hrefused)
  · rintro ⟨given, hfound, rfl, hfit⟩
    exact resolve_of_fit hfound hfit

/-- There are no settings exactly for the first thing that is wrong. -/
theorem resolve_eq_error_iff : resolve disk path o = .error fault ↔ Refused disk o path fault := by
  refine ⟨fun h => ?_, resolve_of_refused⟩
  rcases fit_or_refused disk path o with ⟨given, hfound, hfit⟩ | ⟨other, hrefused⟩
  · exact nomatch h.symm.trans (resolve_of_fit hfound hfit)
  · exact Except.error.inj (h.symm.trans (resolve_of_refused hrefused)) ▸ hrefused

/-- A file that can be read does what the settings in it would do behind those given by hand. -/
theorem resolve_or (h : Found disk path given) : resolve disk path o = resolve disk none (o.or given) := by
  rw [resolve_of_found h, resolve_of_found .nothing, merged_or]

/-- A file is told to be too large exactly if it is over the limit, whatever is in it. -/
theorem resolve_eq_tooLarge_iff {file name : String} {bytes : ByteArray} {size limit : Nat}
    (hfind : disk.find file = .ok (.file bytes)) :
    resolve disk (some file) o = .error (.tooLarge name size limit) ↔
      65536 < bytes.size ∧ name = file ∧ size = bytes.size ∧ limit = 65536 := by
  rw [resolve_eq_error_iff]
  constructor
  · intro hrefused
    cases hrefused with
    | file hfault =>
      cases hfault with
      | tooLarge hfound hlarge =>
        cases hfind.symm.trans hfound
        exact ⟨hlarge, rfl, rfl, rfl⟩
    | settings _ hunfit => exact nomatch hunfit
  · rintro ⟨hlarge, rfl, rfl, rfl⟩
    exact .file (.tooLarge hfind hlarge)

lemma positive_of_fit (h : Fit s) : s.periods.Positive := by
  have hpos {n : UInt64} (hn : n ≠ 0) : 0 < n.toNat := Nat.pos_of_ne_zero fun h => hn (UInt64.toNat_inj.1 h)
  exact ⟨hpos h.messagesMs, hpos h.rosterMs, hpos h.transfersMs, hpos h.livenessMs⟩

/-- What comes of looking for the settings of a program. -/
structure Resolved (disk : Disk) (path : Option String) (o : Overrides) : Prop where
  /-- Settings come out exactly if all that is found is fit, and they are what is found. -/
  ok_iff (s : Settings) : resolve disk path o = .ok s ↔ ∃ given, Found disk path given ∧ s = merged o given ∧ Fit s
  /-- Otherwise the first thing that is wrong is told. -/
  error_iff (fault : Fault) : resolve disk path o = .error fault ↔ Refused disk o path fault
  /-- A file is told to be too large exactly if it is over the limit, whatever is in it. -/
  tooLarge_iff (file : String) (bytes : ByteArray) : path = some file → disk.find file = .ok (.file bytes) →
    ∀ name size limit, resolve disk path o = .error (.tooLarge name size limit) ↔
      65536 < bytes.size ∧ name = file ∧ size = bytes.size ∧ limit = 65536
  /-- No settings come from a file over the limit, not even from one that has grown since its size was told. -/
  bounded (file : String) (told : Nat) (bytes : ByteArray) (s : Settings) : ofFile file told (.ok bytes) = .ok s →
    bytes.size ≤ 65536
  /-- A file that can be read does what the settings in it would do behind those given by hand; so a bad value in it
  does no harm where a good one was given by hand. -/
  byHand (given : Overrides) : Found disk path given → resolve disk path o = resolve disk none (o.or given)
  /-- No timer has a period of zero, and requests have some time. -/
  timers (s : Settings) : resolve disk path o = .ok s → s.requestTimeoutMs ≠ 0 ∧
    ∀ (service : Service) (disk' : Disk), (Program.Client.setting s service disk').periods.Positive

/-- **Settings come from where they should, and only fit ones come out.** -/
theorem settings_resolve (disk : Disk) (path : Option String) (o : Overrides) : Resolved disk path o where
  ok_iff _ := resolve_eq_ok_iff
  error_iff _ := resolve_eq_error_iff
  tooLarge_iff file bytes hpath hfind name size limit := by
    rw [hpath]
    exact resolve_eq_tooLarge_iff hfind
  bounded _ _ _ _ := size_le_of_ofFile
  byHand _ := resolve_or
  timers s h := by
    obtain ⟨_, -, -, hfit⟩ := resolve_eq_ok_iff.1 h
    exact ⟨hfit.requestTimeoutMs, fun _ _ => positive_of_fit hfit⟩

-- a time of zero in the file does no harm where another was given by hand
example :
    let disk := Disk.ofEntries [("c", .file "\x7b\"messages_ms\":0,\"roster_ms\":7\x7d".toUTF8)]
    resolve disk (some "c") .none = .error (.zeroPeriod .messages) ∧
      resolve disk (some "c") { Overrides.none with messagesMs := some 5 } =
        .ok { Settings.default with messagesMs := 5, rosterMs := 7 } := by
  decide +kernel

end PeerChat.Settings
