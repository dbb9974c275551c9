import MediaSocket.Config

/-! The settings that validation accepts are those in their ranges. -/

namespace MediaSocket.Config

variable {c : Config}

/-- Every setting is in its range. -/
structure InRange (c : Config) : Prop where
  queueDepth : 0 < c.queueDepth.toNat
  tickInterval : 0 < c.tickIntervalMs.toNat
  recvBufferSize : 20 ≤ c.recvBufferSize.toNat ∧ c.recvBufferSize.toNat ≤ 65535
  icePassword : ∀ password ∈ c.icePassword, 22 ≤ password.length ∧ password.length ≤ 256
  software : ∀ software ∈ c.software, software.utf8ByteSize ≤ 763
  idleTimeout : ∀ seconds ∈ c.idleTimeoutSecs, 0 < seconds.toNat

theorem toNat_pos_iff {n : UInt64} : 0 < n.toNat ↔ n ≠ 0 := by
  rw [← UInt64.pos_iff_ne_zero, UInt64.lt_iff_toNat_lt]
  rfl

theorem buffer_iff {n : UInt64} :
    ¬(n < 20 ∨ 65535 < n) ↔ 20 ≤ n.toNat ∧ n.toNat ≤ 65535 := by
  rw [not_or, UInt64.lt_iff_toNat_lt, UInt64.lt_iff_toNat_lt, Nat.not_lt, Nat.not_lt]
  rfl

theorem filter_not_eq_none_iff {text : Option String} {fits : String → Bool} :
    (text.filter fun t => !fits t) = none ↔ ∀ t ∈ text, fits t = true := by
  simp [Option.filter_eq_none_iff]

theorem passwordFits_iff {password : String} :
    Stun.passwordFits password = true ↔ 22 ≤ password.length ∧ password.length ≤ 256 := by
  rw [Stun.passwordFits, Bool.and_eq_true, decide_eq_true_iff, decide_eq_true_iff]

theorem softwareFits_iff {software : String} :
    Stun.softwareFits software = true ↔ software.utf8ByteSize ≤ 763 :=
  decide_eq_true_iff

theorem icePassword_iff :
    (c.icePassword.filter fun p => !Stun.passwordFits p) = none ↔
      ∀ password ∈ c.icePassword, 22 ≤ password.length ∧ password.length ≤ 256 :=
  filter_not_eq_none_iff.trans (forall₂_congr fun _ _ => passwordFits_iff)

theorem software_iff :
    (c.software.filter fun s => !Stun.softwareFits s) = none ↔
      ∀ software ∈ c.software, software.utf8ByteSize ≤ 763 :=
  filter_not_eq_none_iff.trans (forall₂_congr fun _ _ => softwareFits_iff)

theorem idleTimeout_iff :
    ¬c.idleTimeoutSecs = some 0 ↔ ∀ seconds ∈ c.idleTimeoutSecs, 0 < seconds.toNat := by
  constructor
  · intro h seconds hseconds
    refine toNat_pos_iff.2 fun hzero => h ?_
    rw [← hzero]
    exact hseconds
  · intro h hzero
    exact Nat.lt_irrefl 0 (h 0 hzero)

theorem fault?_eq_none_iff : c.fault? = none ↔ c.InRange := by
  constructor
  · intro h
    rw [fault?] at h
    split at h
    · cases h
    rename_i hdepth
    split at h
    · cases h
    rename_i htick
    split at h
    · cases h
    rename_i hbuffer
    split at h
    · cases h
    rename_i hpassword
    split at h
    · cases h
    rename_i hsoftware
    split at h
    · cases h
    rename_i hidle
    exact ⟨toNat_pos_iff.2 hdepth, toNat_pos_iff.2 htick, buffer_iff.1 hbuffer,
      icePassword_iff.1 hpassword, software_iff.1 hsoftware, idleTimeout_iff.1 hidle⟩
  · intro h
    rw [fault?, if_neg (toNat_pos_iff.1 h.queueDepth), if_neg (toNat_pos_iff.1 h.tickInterval),
      if_neg (buffer_iff.2 h.recvBufferSize), icePassword_iff.2 h.icePassword]
    dsimp only
    rw [software_iff.2 h.software]
    exact if_neg (idleTimeout_iff.2 h.idleTimeout)

/-- What a fault says about the settings. -/
def Fault.Holds (c : Config) : Fault → Prop
  | .queueDepth => c.queueDepth = 0
  | .tickInterval => c.tickIntervalMs = 0
  | .recvBufferSize size =>
    size = c.recvBufferSize ∧ ¬(20 ≤ c.recvBufferSize.toNat ∧ c.recvBufferSize.toNat ≤ 65535)
  | .icePassword length =>
    ∃ password ∈ c.icePassword, password.length = length ∧ ¬(22 ≤ length ∧ length ≤ 256)
  | .software length => ∃ software ∈ c.software, software.utf8ByteSize = length ∧ 763 < length
  | .idleTimeout => c.idleTimeoutSecs = some 0

/-- A fault names a setting that is outside its range, and the value that it has. -/
theorem holds_of_fault? {fault : Fault} (h : c.fault? = some fault) : fault.Holds c := by
  rw [fault?] at h
  split at h
  · cases h
    assumption
  split at h
  · cases h
    assumption
  split at h
  · rename_i hbuffer
    cases h
    exact ⟨rfl, fun hrange => buffer_iff.2 hrange hbuffer⟩
  split at h
  · rename_i password hpassword
    cases h
    obtain ⟨hgiven, hunfit⟩ := Option.filter_eq_some_iff.1 hpassword
    refine ⟨password, hgiven, rfl, fun hrange => ?_⟩
    rw [passwordFits_iff.2 hrange] at hunfit
    exact Bool.false_ne_true hunfit
  split at h
  · rename_i software hsoftware
    cases h
    obtain ⟨hgiven, hunfit⟩ := Option.filter_eq_some_iff.1 hsoftware
    refine ⟨software, hgiven, rfl, Nat.lt_of_not_le fun hrange => ?_⟩
    rw [softwareFits_iff.2 hrange] at hunfit
    exact Bool.false_ne_true hunfit
  split at h
  · cases h
    assumption
  · cases h

theorem validate_eq_ok_iff : c.validate = .ok () ↔ c.InRange := by
  rw [← fault?_eq_none_iff, validate]
  cases c.fault? with
  | none => exact ⟨fun _ => rfl, fun _ => rfl⟩
  | some fault => exact ⟨nofun, nofun⟩

end MediaSocket.Config
