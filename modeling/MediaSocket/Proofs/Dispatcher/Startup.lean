import MediaSocket.Proofs.Dispatcher.Phases
import MediaSocket.Proofs.Stun.Responder

/-! Starting up. Nothing but validation refuses settings, and what it accepts can be listened with,
unless the queue is deeper than any queue can be: validation has a least depth and no greatest one. -/

namespace MediaSocket.Dispatcher

variable {c : Config} {made : Dispatcher} {generated : String} {e : Error}

/-- The responder refuses nothing that validation accepts. -/
theorem responderFor_of_inRange (h : c.InRange) (generated : String) :
    responderFor c generated = .ok ⟨c.icePassword.getD generated, c.software⟩ := by
  have hpassword : ∀ password ∈ c.icePassword,
      Stun.Responder.withPassword password = .ok ⟨password, none⟩ := by
    intro password hgiven
    have hfits := Config.passwordFits_iff.2 (h.icePassword password hgiven)
    exact Stun.Responder.withPassword_eq_ok_iff.2 ⟨hfits, rfl⟩
  have hsoftware : ∀ software ∈ c.software, ∀ r : Stun.Responder,
      r.withSoftware software = .ok { r with software := some software } := by
    intro software hgiven r
    have hfits := Config.softwareFits_iff.2 (h.software software hgiven)
    exact Stun.Responder.withSoftware_eq_ok_iff.2 ⟨hfits, rfl⟩
  cases hp : c.icePassword with
  | none =>
    cases hs : c.software with
    | none =>
      simp only [responderFor, hp, hs]
      rfl
    | some software =>
      simp only [responderFor, hp, hs, bind, Except.bind, hsoftware software hs]
      rfl
  | some password =>
    cases hs : c.software with
    | none =>
      simp only [responderFor, hp, hs, hpassword password hp]
      rfl
    | some software =>
      simp only [responderFor, hp, hs, bind, Except.bind, hpassword password hp,
        Except.mapError, hsoftware software hs]
      rfl

theorem new_of_valid (h : c.validate = .ok ()) (generated : String) :
    Dispatcher.new c generated =
      .ok ⟨c, ⟨c.icePassword.getD generated, c.software⟩, .empty c.idWidth, .idle, none⟩ := by
  have hresponder := responderFor_of_inRange (Config.validate_eq_ok_iff.1 h) generated
  simp only [Dispatcher.new, h, hresponder, bind, Except.bind]
  rfl

theorem new_of_invalid (h : c.validate = .error e) (generated : String) :
    Dispatcher.new c generated = .error e := by
  simp only [Dispatcher.new, h, bind, Except.bind]

theorem listen_of_new (hnew : Dispatcher.new c generated = .ok made) {net : Network}
    {port free : UInt16} {held : Bool} (hbound : made.CanBind net port free held) :
    made.listen net port free held =
      if c.queueDepth.toNat ≤ queueLimit then .started (made.started port free) else .crashed := by
  obtain ⟨hvalid, responder, rfl⟩ := new_eq_ok hnew
  rw [listen_of_bound hbound rfl]
  exact if_congr (canRun_iff hvalid) rfl rfl

/-- A dispatcher is made exactly with settings that validation accepts, which are those in their ranges;
with others it fails with what validation says. On a port that can be bound it then gets to run exactly
if a queue can be as deep as the settings ask, and else crashes. -/
theorem valid_starts_iff (c : Config) (generated : String) :
    ((∃ made, Dispatcher.new c generated = .ok made) ↔ c.validate = .ok ()) ∧
    (∀ e, Dispatcher.new c generated = .error e ↔ c.validate = .error e) ∧
    (c.validate = .ok () ↔ c.InRange) ∧
    ∀ made, Dispatcher.new c generated = .ok made → ∀ net port free held,
      made.CanBind net port free held →
      ((∃ after, made.listen net port free held = .started after ∧ after.phase = .running) ↔
        c.queueDepth.toNat ≤ queueLimit) ∧
      (made.listen net port free held = .crashed ↔ queueLimit < c.queueDepth.toNat) := by
  refine ⟨?_, ?_, Config.validate_eq_ok_iff, ?_⟩
  · constructor
    · rintro ⟨made, hnew⟩
      exact (new_eq_ok hnew).1
    · intro h
      exact ⟨_, new_of_valid h generated⟩
  · intro e
    constructor
    · intro hnew
      cases hvalid : c.validate with
      | error fault =>
        rw [new_of_invalid hvalid] at hnew
        cases hnew
        rfl
      | ok u =>
        rw [new_of_valid hvalid] at hnew
        cases hnew
    · exact fun h => new_of_invalid h generated
  · intro made hnew net port free held hbound
    have hlisten := listen_of_new hnew hbound
    by_cases hdepth : c.queueDepth.toNat ≤ queueLimit
    · rw [if_pos hdepth] at hlisten
      rw [hlisten]
      exact ⟨iff_of_true ⟨_, rfl, rfl⟩ hdepth, iff_of_false nofun (Nat.not_lt.2 hdepth)⟩
    · rw [if_neg hdepth] at hlisten
      rw [hlisten]
      have hnever : ¬∃ after, Listening.crashed = .started after ∧ after.phase = .running := by
        rintro ⟨after, hstarted, -⟩
        cases hstarted
      exact ⟨iff_of_false hnever hdepth, iff_of_true rfl (Nat.not_le.1 hdepth)⟩

/-- The default settings with a password and a SOFTWARE text. -/
theorem valid_starts_iff_given :
    let c : Config := { icePassword := some "0123456789abcdefghijkl", software := some "relay" }
    ∃ made, Dispatcher.new c "" = .ok made ∧
      made.responder = ⟨"0123456789abcdefghijkl", some "relay"⟩ ∧
      ∃ after, made.listen .connected 4000 0 false = .started after ∧ after.phase = .running := by
  intro c
  obtain ⟨-, -, -, hlisten⟩ := valid_starts_iff c ""
  have hvalid : c.validate = .ok () := by decide
  have hnew := new_of_valid hvalid ""
  refine ⟨_, hnew, rfl, ?_⟩
  exact (hlisten _ hnew .connected 4000 0 false ⟨rfl, rfl⟩).1.2 (by decide)

example : queueLimit = (2 ^ 64 - 1) >>> 3 := by decide

/-- A queue for more datagrams than a queue can hold is accepted, and cannot be made. -/
theorem deep_queue_crashes :
    let c : Config := { queueDepth := 2305843009213693952 }
    c.validate = .ok () ∧ ∃ made, Dispatcher.new c "0123456789abcdefghijkl" = .ok made ∧
      made.CanBind .connected 0 4000 false ∧
      made.listen .connected 0 4000 false = .crashed := by
  intro c
  have hvalid : c.validate = .ok () := by decide
  exact ⟨hvalid, _, new_of_valid hvalid _, ⟨rfl, rfl⟩, rfl⟩

end MediaSocket.Dispatcher
