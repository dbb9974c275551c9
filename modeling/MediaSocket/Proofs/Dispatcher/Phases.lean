import MediaSocket.Proofs.Config.Validation
import MediaSocket.Proofs.Dispatcher.Send

/-! The phases of a dispatcher, seen between two calls. It listens once at most and stops for good: the
socket is there while it runs and only then, nobody is known before, and nothing happens afterwards. -/

namespace MediaSocket

/-- How the phase may differ before and after a call. -/
inductive Phase.Moves : Phase → Phase → Prop
  | stay (phase : Phase) : Moves phase phase
  | start : Moves .idle .running
  | finish : Moves .running .stopped
  | withdraw : Moves .idle .stopped

namespace Dispatcher

variable {c : Config} {d made : Dispatcher} {net : Network} {port free : UInt16} {held : Bool}

/-- The address that `listen` binds. -/
def bindAddress (d : Dispatcher) (port free : UInt16) : Address :=
  .mk d.config.bindIp (if port = 0 then free else port)

/-- The socket can be bound. -/
structure CanBind (d : Dispatcher) (net : Network) (port free : UInt16) (held : Bool) : Prop where
  binds : net.binds (d.bindAddress port free) = true
  vacant : held = false

/-- The dispatcher after a `listen` that succeeds. -/
def started (d : Dispatcher) (port free : UInt16) : Dispatcher :=
  { d with phase := .running, socket := some (d.bindAddress port free) }

/-- What may come of `listen`. -/
inductive Listens (d : Dispatcher) (net : Network) (port free : UInt16) (held : Bool) :
    Listening → Prop
  | already (h : d.phase ≠ .idle) : Listens d net port free held (.refused .alreadyListening)
  | unbound {reason : String} (idle : d.phase = .idle) (h : ¬d.CanBind net port free held) :
      Listens d net port free held (.refused (.bind port reason))
  | crashed (idle : d.phase = .idle) (bound : d.CanBind net port free held)
      (h : canRun d.config = false) : Listens d net port free held .crashed
  | started (idle : d.phase = .idle) (bound : d.CanBind net port free held)
      (h : canRun d.config = true) : Listens d net port free held (.started (d.started port free))

/-! ### Listening -/

theorem listens (d : Dispatcher) (net : Network) (port free : UInt16) (held : Bool) :
    Listens d net port free held (d.listen net port free held) := by
  rw [listen]
  split
  · rename_i hphase
    exact .already hphase
  · rename_i hphase
    have hidle : d.phase = .idle := Decidable.not_not.1 hphase
    change Listens d net port free held
      (if (!net.binds (d.bindAddress port free)) = true then _ else _)
    split
    · rename_i hbinds
      exact .unbound hidle fun hbound => by simp [hbound.binds] at hbinds
    · rename_i hbinds
      have hbinds : net.binds (d.bindAddress port free) = true := by simpa using hbinds
      split
      · rename_i hheld
        exact .unbound hidle fun hbound => by simp [hbound.vacant] at hheld
      · rename_i hheld
        have hbound : d.CanBind net port free held := ⟨hbinds, by simpa using hheld⟩
        split
        · rename_i hrun
          exact .crashed hidle hbound (by simpa using hrun)
        · rename_i hrun
          exact .started hidle hbound (by simpa using hrun)

theorem listen_of_ne_idle (h : d.phase ≠ .idle) (net : Network) (port free : UInt16) (held : Bool) :
    d.listen net port free held = .refused .alreadyListening := if_pos h

theorem listen_of_unbound (h : ¬d.CanBind net port free held) (hidle : d.phase = .idle) :
    ∃ reason, d.listen net port free held = .refused (.bind port reason) := by
  have hlistens := listens d net port free held
  generalize d.listen net port free held = outcome at hlistens ⊢
  cases hlistens with
  | already hphase => exact absurd hidle hphase
  | unbound => exact ⟨_, rfl⟩
  | crashed _ hbound => exact absurd hbound h
  | started _ hbound => exact absurd hbound h

theorem listen_of_bound (h : d.CanBind net port free held) (hidle : d.phase = .idle) :
    d.listen net port free held =
      if canRun d.config = true then .started (d.started port free) else .crashed := by
  have hlistens := listens d net port free held
  generalize d.listen net port free held = outcome at hlistens ⊢
  cases hlistens with
  | already hphase => exact absurd hidle hphase
  | unbound _ hunbound => exact absurd h hunbound
  | crashed _ _ hrun => rw [if_neg (by simp [hrun])]
  | started _ _ hrun => rw [if_pos hrun]

theorem eq_started {after : Dispatcher} (h : d.listen net port free held = .started after) :
    d.phase = .idle ∧ after = d.started port free := by
  have hlistens := listens d net port free held
  rw [h] at hlistens
  cases hlistens with
  | started hidle => exact ⟨hidle, rfl⟩

theorem serve_listen_eq (d : Dispatcher) (net : Network) (port free : UInt16) (held : Bool) :
    d.serve net (.listen port free held) = d ∨
      d.phase = .idle ∧ d.serve net (.listen port free held) = d.started port free := by
  rw [serve]
  cases houtcome : d.listen net port free held with
  | started after =>
    obtain ⟨hidle, rfl⟩ := eq_started houtcome
    exact .inr ⟨hidle, rfl⟩
  | refused e => exact .inl rfl
  | crashed => exact .inl rfl

theorem take_of_not_started (h : ∀ after, d.listen net port free held ≠ .started after) :
    d.take (.request net (.listen port free held)) = d := by
  rw [take, serve]
  cases houtcome : d.listen net port free held with
  | started after => exact absurd houtcome (h after)
  | refused e => rfl
  | crashed => rfl

/-- Settings in their ranges can be run with, unless the queue is too deep. -/
theorem canRun_iff (h : c.validate = .ok ()) :
    canRun c = true ↔ c.queueDepth.toNat ≤ queueLimit := by
  obtain ⟨hdepth, htick, -⟩ := Config.validate_eq_ok_iff.1 h
  rw [canRun, decide_eq_true hdepth, decide_eq_true htick, Bool.true_and, Bool.and_true,
    decide_eq_true_iff]

/-! ### Every call -/

/-- What every dispatcher made with the settings `c` satisfies between two calls. -/
structure Sound (c : Config) (d : Dispatcher) : Prop where
  config : d.config = c
  complete : d.phase ≠ .draining
  socket_iff : d.socket.isSome = true ↔ d.phase = .running
  unused : d.phase = .idle → d.registry = .empty c.idWidth

theorem Sound.socket_eq_none (h : d.Sound c) (hphase : d.phase ≠ .running) : d.socket = none :=
  Option.not_isSome_iff_eq_none.1 fun hsome => hphase (h.socket_iff.1 hsome)

theorem new_eq_ok {generated : String} (h : Dispatcher.new c generated = .ok made) :
    c.validate = .ok () ∧ ∃ responder, made = ⟨c, responder, .empty c.idWidth, .idle, none⟩ := by
  rw [Dispatcher.new] at h
  cases hvalid : c.validate with
  | error e =>
    rw [hvalid] at h
    cases h
  | ok u =>
    cases hresponder : responderFor c generated with
    | error e =>
      rw [hvalid, hresponder] at h
      cases h
    | ok responder =>
      rw [hvalid, hresponder] at h
      cases h
      exact ⟨rfl, responder, rfl⟩

theorem sound_new {generated : String} (h : Dispatcher.new c generated = .ok made) :
    made.Sound c := by
  obtain ⟨-, responder, rfl⟩ := new_eq_ok h
  exact ⟨rfl, nofun, by simp, fun _ => rfl⟩

/-- What a dispatcher may become in a turn. Only one that runs gets to know other peers or other keys. -/
inductive Becomes (d : Dispatcher) : Dispatcher → Prop
  | same : Becomes d d
  | registry {r : Registry} (running : d.phase = .running) : Becomes d { d with registry := r }
  | started {port free : UInt16} (idle : d.phase = .idle) : Becomes d (d.started port free)
  | stopped : Becomes d d.stop

theorem Sound.becomes (h : d.Sound c) (turn : Turn) : d.Becomes (d.take turn) := by
  have hrunning : ∀ {bound}, d.socket = some bound → d.phase = .running := by
    intro bound hsocket
    exact h.socket_iff.1 (by rw [hsocket]; rfl)
  cases turn with
  | maintenance maxIdle now =>
    rw [take]
    split
    · rename_i hphase
      cases maxIdle with
      | none => exact .same
      | some maxIdle => exact .registry hphase
    · exact .same
  | request net q =>
    rw [take]
    cases q with
    | listen port free held =>
      obtain heq | ⟨hidle, heq⟩ := serve_listen_eq d net port free held
      · rw [heq]
        exact .same
      · rw [heq]
        exact .started hidle
    | stop => exact .stopped
    | send id record => exact .same
    | sendWithKeys id record keys =>
      rw [serve]
      obtain ⟨e, hrefused⟩ | ⟨bound, address, haddressed⟩ := refused_or_addressed d id record
      · rw [hrefused.sendWithKeys_eq]
        exact .same
      · rw [haddressed.sendWithKeys_eq]
        exact .registry (hrunning haddressed.listening)
    | receive source datagram now =>
      rw [serve, receive]
      split
      · exact .same
      · rename_i hsocket
        exact .registry (hrunning hsocket)

theorem Becomes.sound {after : Dispatcher} (becomes : d.Becomes after) (h : d.Sound c) :
    after.Sound c := by
  cases becomes with
  | same => exact h
  | registry hrunning =>
    exact ⟨h.config, h.complete, h.socket_iff, fun hidle => nomatch hrunning.symm.trans hidle⟩
  | started => exact ⟨h.config, nofun, by simp [Dispatcher.started], nofun⟩
  | stopped => exact ⟨h.config, nofun, by simp [stop], nofun⟩

theorem Becomes.moves {after : Dispatcher} (becomes : d.Becomes after) (h : d.Sound c) :
    d.phase.Moves after.phase := by
  cases becomes with
  | same => exact .stay _
  | registry => exact .stay _
  | started hidle =>
    rw [hidle]
    exact .start
  | stopped =>
    change d.phase.Moves .stopped
    cases hphase : d.phase with
    | idle => exact .withdraw
    | running => exact .finish
    | draining => exact absurd hphase h.complete
    | stopped => exact .stay _

/-! ### Runs -/

theorem takeAll_concat (d : Dispatcher) (turns : List Turn) (turn : Turn) :
    d.takeAll (turns ++ [turn]) = (d.takeAll turns).take turn := List.foldl_concat ..

theorem Sound.takeAll (h : d.Sound c) (turns : List Turn) : (d.takeAll turns).Sound c := by
  induction turns using List.reverseRecOn with
  | nil => exact h
  | append_singleton turns turn ih =>
    rw [takeAll_concat]
    exact (ih.becomes turn).sound ih

/-- A dispatcher that has listened has done so for good. -/
theorem Sound.phase_takeAll_ne_idle (h : d.Sound c) (hphase : d.phase ≠ .idle) (turns : List Turn) :
    (d.takeAll turns).phase ≠ .idle := by
  induction turns using List.reverseRecOn with
  | nil => exact hphase
  | append_singleton turns turn ih =>
    rw [takeAll_concat]
    have hsound := h.takeAll turns
    have hmoves := (hsound.becomes turn).moves hsound
    intro hidle
    rw [hidle] at hmoves
    generalize (d.takeAll turns).phase = before at ih hmoves
    cases hmoves
    exact ih rfl

theorem Sound.take_stopped (h : d.Sound c) (hphase : d.phase = .stopped) (turn : Turn) :
    d.take turn = d := by
  have hbecomes := h.becomes turn
  generalize d.take turn = after at hbecomes ⊢
  cases hbecomes with
  | same => rfl
  | registry hrunning => exact nomatch hphase.symm.trans hrunning
  | started hidle => exact nomatch hphase.symm.trans hidle
  | stopped =>
    have hsocket : d.socket = none := h.socket_eq_none (by rw [hphase]; exact nofun)
    rw [stop, ← hphase, ← hsocket]

theorem Sound.takeAll_stopped (h : d.Sound c) (hphase : d.phase = .stopped) (turns : List Turn) :
    d.takeAll turns = d := by
  induction turns using List.reverseRecOn with
  | nil => rfl
  | append_singleton turns turn ih => rw [takeAll_concat, ih, h.take_stopped hphase]

/-- A send finds no socket exactly if the dispatcher has been stopped and everything else is in order:
before it listens there is nobody to send to. -/
theorem Sound.send_eq_notListening_iff (h : d.Sound c) (net : Network) (id : AssociationId)
    (record : Bytes) :
    d.send net id record = .error .notListening ↔
      d.phase = .stopped ∧ PacketClass.of record = .dtls ∧ d.registry.contains id = true := by
  rw [send_eq_error_iff]
  constructor
  · rintro (hrefused | ⟨-, hunsent⟩)
    · cases hrefused with
      | notListening hdtls hregistered hsocket =>
        have hknown : d.registry.contains id = true := by
          obtain ⟨p, hp, -⟩ := Option.map_eq_some_iff.1 hregistered
          exact Option.isSome_iff_exists.2 ⟨p, hp⟩
        refine ⟨?_, hdtls, hknown⟩
        cases hphase : d.phase with
        | idle =>
          rw [h.unused hphase] at hknown
          exact nomatch hknown
        | running =>
          have hsome := h.socket_iff.2 hphase
          rw [hsocket] at hsome
          exact nomatch hsome
        | draining => exact absurd hphase h.complete
        | stopped => rfl
    · exact nomatch hunsent
  · rintro ⟨hphase, hdtls, hknown⟩
    obtain ⟨p, hp⟩ := Option.isSome_iff_exists.1 hknown
    have hregistered : d.registry.addressOf? id = some p.address := Option.map_eq_some_iff.2 ⟨p, hp, rfl⟩
    exact .inl (.notListening hdtls hregistered (h.socket_eq_none (by rw [hphase]; exact nofun)))

/-- What is so between two calls of a dispatcher that was made with the settings `c`. -/
structure Orderly (c : Config) (d : Dispatcher) : Prop where
  /-- The phase goes from idle over running to stopped, or from idle to stopped. -/
  moves : ∀ turn, d.phase.Moves (d.take turn).phase
  complete : d.phase ≠ .draining
  socket_iff : d.socket.isSome = true ↔ d.phase = .running
  unused : d.phase = .idle → d.registry = .empty c.idWidth
  /-- Who listens late is refused, and nothing changes. -/
  refuses : d.phase ≠ .idle → ∀ net port free held,
    d.listen net port free held = .refused .alreadyListening ∧
      d.take (.request net (.listen port free held)) = d
  /-- Without a socket nothing changes either, and `listen` may be called again. -/
  fails : d.phase = .idle → ∀ net port free held, ¬d.CanBind net port free held →
    (∃ reason, d.listen net port free held = .refused (.bind port reason)) ∧
      d.take (.request net (.listen port free held)) = d
  starts : d.phase = .idle → ∀ net port free held, d.CanBind net port free held →
    d.listen net port free held =
      if c.queueDepth.toNat ≤ queueLimit then .started (d.started port free) else .crashed
  once : ∀ {net port free held after}, d.listen net port free held = .started after →
    ∀ later net port free held,
      (after.takeAll later).listen net port free held = .refused .alreadyListening
  stops : d.stop.phase = .stopped ∧ d.stop.registry = d.registry ∧
    ∀ later, d.stop.takeAll later = d.stop
  rests : d.phase = .stopped →
    (∀ later, d.takeAll later = d) ∧
      ∀ net now source datagram, d.receive net now source datagram = (d, [])
  notListening_iff : ∀ net id record,
    d.send net id record = .error .notListening ↔
      d.phase = .stopped ∧ PacketClass.of record = .dtls ∧ d.registry.contains id = true
  withKeys : ∀ net id record keys,
    (d.sendWithKeys net id record keys).2 = .error .notListening ↔
      d.phase = .stopped ∧ PacketClass.of record = .dtls ∧ d.registry.contains id = true

/-- Whatever is asked of a dispatcher, in whatever order: it is idle at first, then it runs, then it is
stopped, and each phase keeps its promises. -/
theorem phases_in_order {generated : String} (hnew : Dispatcher.new c generated = .ok made)
    (turns : List Turn) : made.phase = .idle ∧ (made.takeAll turns).Orderly c := by
  obtain ⟨hvalid, responder, hmade⟩ := new_eq_ok hnew
  refine ⟨by rw [hmade], ?_⟩
  have h : (made.takeAll turns).Sound c := (sound_new hnew).takeAll turns
  generalize made.takeAll turns = d at h
  have hstop : d.stop.Sound c := Becomes.stopped.sound h
  exact
    { moves := fun turn => (h.becomes turn).moves h
      complete := h.complete
      socket_iff := h.socket_iff
      unused := h.unused
      refuses := by
        intro hphase net port free held
        have hrefused := listen_of_ne_idle hphase net port free held
        exact ⟨hrefused, take_of_not_started fun after => by rw [hrefused]; exact nofun⟩
      fails := by
        intro hidle net port free held hunbound
        obtain ⟨reason, hrefused⟩ := listen_of_unbound hunbound hidle
        exact ⟨⟨reason, hrefused⟩,
          take_of_not_started fun after => by rw [hrefused]; exact nofun⟩
      starts := by
        intro hidle net port free held hbound
        rw [listen_of_bound hbound hidle, h.config]
        exact if_congr (canRun_iff hvalid) rfl rfl
      once := by
        intro net port free held after hstarted later net' port' free' held'
        obtain ⟨hidle, rfl⟩ := eq_started hstarted
        have hsound : (d.started port free).Sound c := (Becomes.started hidle).sound h
        exact listen_of_ne_idle (hsound.phase_takeAll_ne_idle nofun later) ..
      stops := ⟨rfl, rfl, hstop.takeAll_stopped rfl⟩
      rests := by
        intro hphase
        refine ⟨h.takeAll_stopped hphase, fun net now source datagram => ?_⟩
        rw [receive, h.socket_eq_none (by rw [hphase]; exact nofun)]
      notListening_iff := h.send_eq_notListening_iff
      withKeys := by
        intro net id record keys
        rw [sendWithKeys_snd]
        exact h.send_eq_notListening_iff net id record }

/-- The port is held at first; a second call finds another one. A peer that has been seen is still known
after the dispatcher has stopped, but cannot be reached. -/
theorem phases_in_order_stopped :
    let net := Network.connected
    let peer : Address := .v4 .loopback 5000
    ∃ made, Dispatcher.new { bindIp := .v4 .loopback } "0123456789abcdefghijkl" = .ok made ∧
      let d := made.takeAll
        [.request net (.listen 4000 0 true), .request net (.listen 0 4000 false),
          .request net (.receive peer [2] 0), .request net .stop]
      let id := d.registry.resolve peer
      made.phase = .idle ∧ d.phase = .stopped ∧ d.registry.contains id = true ∧
        d.send net id [22] = .error .notListening ∧ ∀ later, d.takeAll later = d := by
  intro net peer
  have hnew : Dispatcher.new { bindIp := .v4 .loopback } "0123456789abcdefghijkl" =
      .ok ⟨{ bindIp := .v4 .loopback }, ⟨"0123456789abcdefghijkl", none⟩, .empty .wide, .idle, none⟩ :=
    rfl
  refine ⟨_, hnew, ?_⟩
  intro d id
  obtain ⟨hidle, h⟩ : _ ∧ d.Orderly _ := phases_in_order hnew _
  have hphase : d.phase = .stopped := rfl
  have hget : d.registry.get? id = some ⟨peer, none, 0, 0⟩ := by
    change ((Registry.empty .wide).register peer 0).get? ((Registry.empty .wide).resolve peer) = _
    rw [Registry.get?_register, if_pos rfl, Registry.get?_empty]
    rfl
  clear_value id d
  have hknown : d.registry.contains id = true := Option.isSome_iff_exists.2 ⟨_, hget⟩
  exact ⟨hidle, hphase, hknown, (h.notListening_iff net id [22]).2 ⟨hphase, by decide, hknown⟩,
    (h.rests hphase).1⟩

end Dispatcher

end MediaSocket
