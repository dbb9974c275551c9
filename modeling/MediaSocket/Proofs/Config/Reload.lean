import MediaSocket.Config.Toml
import MediaSocket.Proofs.Address.Text
import MediaSocket.Proofs.Toml.Document

/-! Settings that are written as a document and read from it again. -/

namespace MediaSocket.Config

open Toml (Entries Setting)

variable {c : Config}

/-! ### The lines of a document -/

def textSetting (key s : String) : Setting := ⟨key, textValue s, .string s⟩

def wordSetting (key : String) (n : UInt64) : Setting :=
  ⟨key, Text.decimal n.toNat, .integer n.toNat⟩

def codes (ps : List Srtp.Profile) : Toml.Value := .array (ps.map fun p => .integer p.code.toNat)

def profilesSetting (ps : List Srtp.Profile) : Setting :=
  ⟨"protection_profiles", profilesValue ps, codes ps⟩

def settings (c : Config) : List Setting :=
  [textSetting "bind_ip" c.bindIp.text,
    wordSetting "queue_depth" c.queueDepth,
    wordSetting "tick_interval_ms" c.tickIntervalMs,
    wordSetting "recv_buffer_size" c.recvBufferSize,
    textSetting "association_id_width" (nameOf widthNames c.idWidth),
    textSetting "srtp_policy" (nameOf policyNames c.srtpPolicy),
    profilesSetting c.profiles] ++
    (c.icePassword.map (textSetting "ice_password")).toList ++
    (c.software.map (textSetting "software")).toList ++
    (c.idleTimeoutSecs.map (wordSetting "idle_timeout_secs")).toList

/-- All numbers are in the range of TOML integers. -/
structure FitsToml (c : Config) : Prop where
  queueDepth : c.queueDepth.toNat < 2 ^ 63
  tickIntervalMs : c.tickIntervalMs.toNat < 2 ^ 63
  recvBufferSize : c.recvBufferSize.toNat < 2 ^ 63
  idleTimeoutSecs : ∀ n ∈ c.idleTimeoutSecs, n.toNat < 2 ^ 63

theorem nodup_keys (c : Config) : (c.settings.map Setting.key).Nodup := by
  obtain ⟨_, _, _, _, _, _, _, icePassword, software, idleTimeoutSecs⟩ := c
  cases icePassword <;> cases software <;> cases idleTimeoutSecs <;>
    simp [settings, textSetting, wordSetting, profilesSetting]

def keys : List String :=
  ["bind_ip", "queue_depth", "tick_interval_ms", "recv_buffer_size", "association_id_width",
   "srtp_policy", "protection_profiles", "ice_password", "software", "idle_timeout_secs"]

theorem bare_of_mem_keys : ∀ key ∈ keys, Toml.BareKey key := by
  simp [keys, Toml.BareKey, Toml.isBare]

theorem valid_textSetting {key : String} (hkey : key ∈ keys) (s : String) :
    (textSetting key s).Valid := ⟨bare_of_mem_keys key hkey, Toml.reads_string _ s⟩

theorem valid_wordSetting {key : String} (hkey : key ∈ keys) {n : UInt64}
    (hn : n.toNat < 2 ^ 63) : (wordSetting key n).Valid :=
  ⟨bare_of_mem_keys key hkey, Toml.reads_decimal _ hn⟩

theorem valid_profilesSetting (ps : List Srtp.Profile) : (profilesSetting ps).Valid := by
  refine ⟨bare_of_mem_keys _ (by simp [keys, profilesSetting]), Toml.reads_array fun p _ => ?_⟩
  exact Toml.reads_decimal _ (Nat.lt_trans p.code.toNat_lt (by decide))

theorem valid_settings (h : c.FitsToml) : ∀ s ∈ c.settings, s.Valid := by
  intro s hs
  rw [settings, List.mem_append, List.mem_append, List.mem_append] at hs
  obtain ((hs | hs) | hs) | hs := hs
  · simp only [List.mem_cons, List.not_mem_nil, or_false] at hs
    obtain rfl | rfl | rfl | rfl | rfl | rfl | rfl := hs
    · exact valid_textSetting (by simp [keys]) _
    · exact valid_wordSetting (by simp [keys]) h.queueDepth
    · exact valid_wordSetting (by simp [keys]) h.tickIntervalMs
    · exact valid_wordSetting (by simp [keys]) h.recvBufferSize
    · exact valid_textSetting (by simp [keys]) _
    · exact valid_textSetting (by simp [keys]) _
    · exact valid_profilesSetting c.profiles
  · obtain ⟨p, -, rfl⟩ := Option.map_eq_some_iff.1 (Option.mem_toList.1 hs)
    exact valid_textSetting (by simp [keys]) p
  · obtain ⟨s, -, rfl⟩ := Option.map_eq_some_iff.1 (Option.mem_toList.1 hs)
    exact valid_textSetting (by simp [keys]) s
  · obtain ⟨n, hn, rfl⟩ := Option.map_eq_some_iff.1 (Option.mem_toList.1 hs)
    exact valid_wordSetting (by simp [keys]) (h.idleTimeoutSecs n hn)

theorem wordValue_of_fits {n : UInt64} (h : n.toNat < 2 ^ 63) :
    wordValue n = .ok (Text.decimal n.toNat) := if_pos h

theorem wordValue_of_not_fits {n : UInt64} (h : ¬n.toNat < 2 ^ 63) :
    wordValue n = .error (.config "out-of-range value for u64 type") := if_neg h

theorem flatMap_lines (c : Config) :
    c.settings.flatMap Setting.line =
      line "bind_ip" (textValue c.bindIp.text) ++
        line "queue_depth" (Text.decimal c.queueDepth.toNat) ++
        line "tick_interval_ms" (Text.decimal c.tickIntervalMs.toNat) ++
        line "recv_buffer_size" (Text.decimal c.recvBufferSize.toNat) ++
        line "association_id_width" (textValue (nameOf widthNames c.idWidth)) ++
        line "srtp_policy" (textValue (nameOf policyNames c.srtpPolicy)) ++
        line "protection_profiles" (profilesValue c.profiles) ++
        lineIf "ice_password" (c.icePassword.map textValue) ++
        lineIf "software" (c.software.map textValue) ++
        lineIf "idle_timeout_secs" (c.idleTimeoutSecs.map fun n => Text.decimal n.toNat) := by
  have htext (key : String) (o : Option String) :
      (o.map (textSetting key)).toList.flatMap Setting.line = lineIf key (o.map textValue) := by
    cases o with
    | none => rfl
    | some s => exact List.append_nil _
  have hword (key : String) (o : Option UInt64) :
      (o.map (wordSetting key)).toList.flatMap Setting.line =
        lineIf key (o.map fun n => Text.decimal n.toNat) := by
    cases o with
    | none => rfl
    | some n => exact List.append_nil _
  rw [settings, List.flatMap_append, List.flatMap_append, List.flatMap_append, htext, htext, hword]
  simp only [List.flatMap_cons, List.flatMap_nil, List.append_nil, List.append_assoc]
  rfl

theorem toToml_of_fits (h : c.FitsToml) :
    c.toToml = .ok (String.ofList (c.settings.flatMap Setting.line)) := by
  rw [toToml, wordValue_of_fits h.queueDepth, wordValue_of_fits h.tickIntervalMs,
    wordValue_of_fits h.recvBufferSize, flatMap_lines]
  cases hidle : c.idleTimeoutSecs with
  | none => rfl
  | some n =>
    simp only [wordValue_of_fits (h.idleTimeoutSecs n hidle)]
    rfl

theorem toToml_of_not_fits (h : ¬c.FitsToml) :
    c.toToml = .error (.config "out-of-range value for u64 type") := by
  rw [toToml]
  by_cases hqueue : c.queueDepth.toNat < 2 ^ 63
  case neg =>
    rw [wordValue_of_not_fits hqueue]
    rfl
  by_cases htick : c.tickIntervalMs.toNat < 2 ^ 63
  case neg =>
    rw [wordValue_of_fits hqueue, wordValue_of_not_fits htick]
    rfl
  by_cases hbuffer : c.recvBufferSize.toNat < 2 ^ 63
  case neg =>
    rw [wordValue_of_fits hqueue, wordValue_of_fits htick, wordValue_of_not_fits hbuffer]
    rfl
  rw [wordValue_of_fits hqueue, wordValue_of_fits htick, wordValue_of_fits hbuffer]
  cases hidle : c.idleTimeoutSecs with
  | none => exact absurd ⟨hqueue, htick, hbuffer, fun n hn => by rw [hidle] at hn; cases hn⟩ h
  | some n =>
    have hn : ¬n.toNat < 2 ^ 63 := fun hn =>
      h ⟨hqueue, htick, hbuffer, fun m hm => by rw [hidle] at hm; cases hm; exact hn⟩
    simp only [wordValue_of_not_fits hn]
    rfl

/-! ### The settings in a document -/

def entries (c : Config) : Entries := c.settings.map fun s => (s.key, s.value)

/-- The settings with every profile known by its code. -/
def coded (c : Config) : Config := { c with profiles := c.profiles.map fun p => .ofCode p.code }

theorem setting_of_mem {α : Type} {s : Setting} (hs : s ∈ c.settings)
    (read : Toml.Value → Option α) (absent : α) :
    setting c.entries s.key read absent = read s.value := by
  have hnodup : (c.entries.map Prod.fst).Nodup := by
    rw [entries, List.map_map]
    exact c.nodup_keys
  have hfind : Table.find s.key c.entries = some s.value :=
    Table.find_of_mem hnodup (List.mem_map_of_mem (f := fun s => (s.key, s.value)) hs)
  rw [setting, hfind]

theorem setting_of_not_mem {α : Type} {key : String} (hkey : key ∉ c.settings.map Setting.key)
    (read : Toml.Value → Option α) (absent : α) :
    setting c.entries key read absent = some absent := by
  have hfind : Table.find key c.entries = none := by
    refine Toml.find_eq_none ?_
    rwa [entries, List.map_map]
  rw [setting, hfind]

theorem asWord_integer (n : UInt64) : asWord (.integer n.toNat) = some n := by
  have hn : asNumber 18446744073709551616 (.integer n.toNat) = some n.toNat :=
    if_pos ⟨Int.natCast_nonneg _, n.toNat_lt⟩
  rw [asWord, hn, Option.map_some, UInt64.ofNat_toNat]

theorem asProfiles_codes (ps : List Srtp.Profile) :
    asProfiles (codes ps) = some (ps.map fun p => .ofCode p.code) := by
  rw [codes, asProfiles]
  induction ps with
  | nil => rfl
  | cons p ps ih =>
    have hcode : asNumber 65536 (.integer p.code.toNat) = some p.code.toNat :=
      if_pos ⟨Int.natCast_nonneg _, p.code.toNat_lt⟩
    rw [List.map_cons, List.mapM_cons, ih, hcode]
    simp only [Option.map_some, UInt16.ofNat_toNat]
    rfl

theorem asChoice_width (w : IdWidth) :
    asChoice widthNames (.string (nameOf widthNames w)) = some w := by
  cases w <;> rfl

theorem asChoice_policy (p : Srtp.Policy) :
    asChoice policyNames (.string (nameOf policyNames p)) = some p := by
  cases p <;> rfl

theorem setting_word {key : String} {n : UInt64} (hs : wordSetting key n ∈ c.settings)
    (absent : UInt64) : setting c.entries key asWord absent = some n :=
  (setting_of_mem hs _ absent).trans (asWord_integer n)

/-- A setting that may be left out is not found, or found as it is. -/
theorem setting_option {α : Type} (f : α → Setting) {key : String} {o : Option α}
    {read : Toml.Value → Option (Option α)} (hnone : o = none → key ∉ c.settings.map Setting.key)
    (hsome : ∀ a, o = some a → f a ∈ c.settings) (hkey : ∀ a, (f a).key = key)
    (hread : ∀ a, read (f a).value = some (some a)) :
    setting c.entries key read none = some o := by
  cases o with
  | none => exact setting_of_not_mem (hnone rfl) read none
  | some a => rw [← hkey a, setting_of_mem (hsome a rfl), hread]

theorem ofEntries?_entries (c : Config) : ofEntries? c.entries = some c.coded := by
  have hbind (absent : Ip) :
      setting c.entries "bind_ip" (fun v => (asText v).bind Ip.ofText?) absent = some c.bindIp := by
    have hs : textSetting "bind_ip" c.bindIp.text ∈ c.settings := by simp [settings]
    exact (setting_of_mem hs _ absent).trans c.bindIp.ofText?_text
  have hqueue := @setting_word c "queue_depth" c.queueDepth (by simp [settings])
  have htick := @setting_word c "tick_interval_ms" c.tickIntervalMs (by simp [settings])
  have hbuffer := @setting_word c "recv_buffer_size" c.recvBufferSize (by simp [settings])
  have hwidth (absent : IdWidth) :
      setting c.entries "association_id_width" (asChoice widthNames) absent = some c.idWidth := by
    have hs : textSetting "association_id_width" (nameOf widthNames c.idWidth) ∈ c.settings := by
      simp [settings]
    exact (setting_of_mem hs _ absent).trans (asChoice_width c.idWidth)
  have hpolicy (absent : Srtp.Policy) :
      setting c.entries "srtp_policy" (asChoice policyNames) absent = some c.srtpPolicy := by
    have hs : textSetting "srtp_policy" (nameOf policyNames c.srtpPolicy) ∈ c.settings := by
      simp [settings]
    exact (setting_of_mem hs _ absent).trans (asChoice_policy c.srtpPolicy)
  have hprofiles (absent : List Srtp.Profile) :
      setting c.entries "protection_profiles" asProfiles absent =
        some (c.profiles.map fun p => .ofCode p.code) := by
    have hs : profilesSetting c.profiles ∈ c.settings := by simp [settings]
    exact (setting_of_mem hs _ absent).trans (asProfiles_codes c.profiles)
  have hpassword :
      setting c.entries "ice_password" (fun v => (asText v).map some) none = some c.icePassword := by
    refine setting_option (textSetting "ice_password") (fun hnone => ?_) (fun p hp => ?_)
      (fun _ => rfl) fun _ => rfl
    · simp [settings, textSetting, wordSetting, profilesSetting, hnone]
    · simp [settings, hp]
  have hsoftware :
      setting c.entries "software" (fun v => (asText v).map some) none = some c.software := by
    refine setting_option (textSetting "software") (fun hnone => ?_) (fun s hs => ?_)
      (fun _ => rfl) fun _ => rfl
    · simp [settings, textSetting, wordSetting, profilesSetting, hnone]
    · simp [settings, hs]
  have hidle : setting c.entries "idle_timeout_secs" (fun v => (asWord v).map some) none =
      some c.idleTimeoutSecs := by
    refine setting_option (wordSetting "idle_timeout_secs") (fun hnone => ?_) (fun n hn => ?_)
      (fun _ => rfl) fun n => ?_
    · simp [settings, textSetting, wordSetting, profilesSetting, hnone]
    · simp [settings, hn]
    · rw [wordSetting, asWord_integer, Option.map_some]
  rw [ofEntries?]
  simp only [Option.bind_eq_bind, hbind, hqueue, htick, hbuffer, hwidth, hpolicy, hprofiles,
    hpassword, hsoftware, hidle, Option.bind_some, Option.pure_def]
  rfl

theorem ofToml_settings (h : c.FitsToml) :
    ofToml (String.ofList (c.settings.flatMap Setting.line)) = c.validate.map fun _ => c.coded := by
  have hread := Toml.ofText?_settings (valid_settings h) c.nodup_keys
  rw [ofToml, hread, Option.bind_some, ← entries, ofEntries?_entries]
  rfl

/-! ### Saving and loading -/

theorem ofCode_eq_unknown_iff (n : UInt16) :
    Srtp.Profile.ofCode n = .unknown n ↔ n ∉ [1, 2, 7, 8] := by
  rw [Srtp.Profile.ofCode]
  split_ifs with h1 h2 h7 h8
  · simp [h1]
  · simp [h2]
  · simp [h7]
  · simp [h8]
  · simp [h1, h2, h7, h8]

theorem coded_eq_iff (c : Config) :
    c.coded = c ↔ ∀ n, .unknown n ∈ c.profiles → n ∉ [1, 2, 7, 8] := by
  have hprofiles : c.coded = c ↔
      c.profiles.map (fun p => Srtp.Profile.ofCode p.code) = c.profiles.map id := by
    rw [List.map_id]
    exact ⟨congrArg Config.profiles, fun h => by rw [coded, h]⟩
  rw [hprofiles, List.map_inj_left]
  constructor
  · exact fun h n hn => (ofCode_eq_unknown_iff n).1 (h _ hn)
  · intro h p hp
    cases p with
    | unknown n => exact (ofCode_eq_unknown_iff n).2 (h n hp)
    | _ => rfl

/-- A document is written if all numbers fit. What is read from it are the settings, or the fault
that they have; only a profile that hides its name changes. -/
theorem toml_reloads (c : Config) :
    ((∃ text, c.toToml = .ok text) ↔ c.FitsToml) ∧
      (∀ text, c.toToml = .ok text → ofToml text = c.validate.map fun _ => c.coded) ∧
      (c.coded = c ↔ ∀ n, .unknown n ∈ c.profiles → n ∉ [1, 2, 7, 8]) := by
  by_cases hfits : c.FitsToml
  · have hwritten := toToml_of_fits hfits
    refine ⟨⟨fun _ => hfits, fun _ => ⟨_, hwritten⟩⟩, fun text htext => ?_, c.coded_eq_iff⟩
    rw [hwritten] at htext
    cases htext
    exact ofToml_settings hfits
  · have hrefused := toToml_of_not_fits hfits
    refine ⟨⟨fun ⟨text, htext⟩ => ?_, fun h => absurd h hfits⟩, fun text htext => ?_,
      c.coded_eq_iff⟩
    all_goals
      rw [hrefused] at htext
      cases htext

theorem toml_reloads_quotes :
    ∃ text, ({ icePassword := some "'\"\"\"\\\n\t\r and more than 22", profiles := [.unknown 7] } :
        Config).toToml = .ok text ∧
      ofToml text = .ok { icePassword := some "'\"\"\"\\\n\t\r and more than 22",
                          profiles := [.aeadAes128Gcm] } := by
  obtain ⟨hsaves, hloads, -⟩ := toml_reloads
    { icePassword := some "'\"\"\"\\\n\t\r and more than 22", profiles := [.unknown 7] }
  obtain ⟨text, htext⟩ := hsaves.2 ⟨by decide, by decide, by decide, nofun⟩
  exact ⟨text, htext, hloads text htext⟩

end MediaSocket.Config
