import MediaSocket.Dispatcher.Lifecycle
import Mathlib.Tactic.Tauto

/-! A stopped dispatcher has no task that runs, unless a caller of `stop` gave up waiting for one: the next
`stop` finds no tasks to wait for. Its socket is closed once no send that had found it is under way. -/

namespace MediaSocket.Dispatcher.Lifecycle

variable {s t u : Lifecycle} {c : Call} {e : Event} {next : Option Call}

/-- Nothing has been started. -/
structure Unused (s : Lifecycle) : Prop where
  flag : s.flag = false
  progress : ∀ d, s.progress d = .absent
  uncollected : s.uncollected = []
  published : s.published = false

/-- Nothing is left to be done to stop, but tasks that know that they are to end may be running. -/
structure Spent (s : Lifecycle) : Prop where
  flag : ∀ d, s.progress d = .running → s.flag = true
  uncollected : s.uncollected = []
  published : s.published = false

/-- What is so while nobody holds the lock. -/
structure Rests (s : Lifecycle) : Prop where
  idle : s.phase = .idle → s.Unused
  stopped : s.phase = .stopped → s.Spent

/-- What is so while a call is about to take its next step, if it holds the lock. -/
def Stage (s : Lifecycle) : Call → Prop
  | .inspect | .leave => s.Rests
  | .bind | .spawn => s.phase = .idle ∧ s.Unused
  | .publish | .enter => s.phase = .idle
  | .signal => s.phase = .draining
  | .collect => s.phase = .draining ∧ s.flag = true
  | .await _ | .unpublish => s.phase = .draining ∧ s.flag = true ∧ s.uncollected = []
  | .exit => s.phase = .draining ∧ s.Spent
  | _ => True

theorem Unused.spent (h : s.Unused) : s.Spent := by
  refine ⟨fun d hd => ?_, h.uncollected, h.published⟩
  exact nomatch (h.progress d).symm.trans hd

theorem Spent.withPhase (h : s.Spent) (phase : Phase) (calls : List Call) :
    Spent { s with phase, calls } := ⟨h.flag, h.uncollected, h.published⟩

theorem Rests.withCalls (h : s.Rests) (calls : List Call) : Rests { s with calls } := by
  refine ⟨fun hidle => ?_, fun hstopped => (h.stopped hstopped).withPhase ..⟩
  obtain ⟨hflag, hprogress, huncollected, hpublished⟩ := h.idle hidle
  exact ⟨hflag, hprogress, huncollected, hpublished⟩

theorem Stage.withCalls (h : s.Stage c) (calls : List Call) : Stage { s with calls } c := by
  cases c with
  | inspect | leave => exact Rests.withCalls h calls
  | bind | spawn =>
    obtain ⟨hphase, hflag, hprogress, huncollected, hpublished⟩ := h
    exact ⟨hphase, hflag, hprogress, huncollected, hpublished⟩
  | exit =>
    obtain ⟨hphase, hspent⟩ := h
    exact ⟨hphase, hspent.withPhase ..⟩
  | _ => exact h

theorem stage_of_not_locked (s : Lifecycle) (h : c.isLocked = false) : s.Stage c := by
  cases c with
  | listen | stop | send | write => trivial
  | _ => exact nomatch h

/-- What is so of every dispatcher. -/
structure Sound (s : Lifecycle) : Prop where
  exclusive : s.calls.countP Call.isLocked ≤ 1
  stages : ∀ c ∈ s.calls, s.Stage c
  rests : s.isLocked = false → s.Rests

/-! ### A step of one call -/

/-- A call that holds the lock hands it on to its next step, or leaves everything in order. -/
theorem Act.of_locked (act : Act s c next t) (hlocked : c.isLocked = true) (hstage : s.Stage c) :
    (∀ c' ∈ next, c'.isLocked = true ∧ t.Stage c') ∧ (next = none → t.Rests) := by
  cases act with
  | listen | stop | send | write => exact nomatch hlocked
  | inspect =>
    split
    · rename_i hidle
      exact ⟨by rintro _ ⟨⟩; exact ⟨rfl, hidle, hstage.idle hidle⟩, nofun⟩
    · exact ⟨nofun, fun _ => hstage⟩
  | bind => exact ⟨by rintro _ ⟨⟩; exact ⟨rfl, hstage⟩, nofun⟩
  | bindFails =>
    obtain ⟨hidle, hunused⟩ := hstage
    exact ⟨nofun, fun _ => ⟨fun _ => hunused, fun hstopped => nomatch hidle.symm.trans hstopped⟩⟩
  | spawn => exact ⟨by rintro _ ⟨⟩; exact ⟨rfl, hstage.1⟩, nofun⟩
  | publish => exact ⟨by rintro _ ⟨⟩; exact ⟨rfl, hstage⟩, nofun⟩
  | enter => exact ⟨nofun, fun _ => ⟨nofun, nofun⟩⟩
  | leave =>
    split
    · rename_i hphase
      refine ⟨nofun, fun _ => ⟨nofun, fun _ => ?_⟩⟩
      obtain hidle | hstopped := hphase
      · exact (hstage.idle hidle).spent.withPhase ..
      · exact (hstage.stopped hstopped).withPhase ..
    · exact ⟨by rintro _ ⟨⟩; exact ⟨rfl, rfl⟩, nofun⟩
  | signal => exact ⟨by rintro _ ⟨⟩; exact ⟨rfl, hstage, rfl⟩, nofun⟩
  | collect => exact ⟨by rintro _ ⟨⟩; exact ⟨rfl, hstage.1, hstage.2, rfl⟩, nofun⟩
  | await => exact ⟨by rintro _ ⟨⟩; exact ⟨rfl, hstage⟩, nofun⟩
  | awaited => exact ⟨by rintro _ ⟨⟩; exact ⟨rfl, hstage⟩, nofun⟩
  | unpublish =>
    obtain ⟨hphase, hflag, huncollected⟩ := hstage
    exact ⟨by rintro _ ⟨⟩; exact ⟨rfl, hphase, fun _ _ => hflag, huncollected, rfl⟩, nofun⟩
  | exit => exact ⟨nofun, fun _ => ⟨nofun, fun _ => hstage.2.withPhase ..⟩⟩

/-- A call that does not hold the lock changes nothing. It may take the lock if nobody holds it. -/
theorem Act.of_not_locked (act : Act s c next t) (hlocked : c.isLocked = false) :
    t = s ∧ ((∀ c' ∈ next, c'.isLocked = false) ∨
      s.isLocked = false ∧ ∀ c' ∈ next, c' = .inspect ∨ c' = .leave) := by
  cases act with
  | listen hfree => exact ⟨rfl, .inr ⟨hfree, by rintro _ ⟨⟩; exact .inl rfl⟩⟩
  | stop hfree => exact ⟨rfl, .inr ⟨hfree, by rintro _ ⟨⟩; exact .inr rfl⟩⟩
  | send =>
    refine ⟨rfl, .inl ?_⟩
    split
    · rintro _ ⟨⟩
      rfl
    · exact nofun
  | write => exact ⟨rfl, .inl nofun⟩
  | _ => exact nomatch hlocked

/-! ### Every event -/

theorem sound_fresh : fresh.Sound :=
  ⟨Nat.zero_le _, nofun, fun _ => ⟨fun _ => ⟨rfl, fun _ => rfl, rfl, rfl⟩, nofun⟩⟩

theorem isLocked_eq_false_iff : s.isLocked = false ↔ s.calls.countP Call.isLocked = 0 := by
  rw [isLocked, List.any_eq_false, List.countP_eq_zero]

theorem isLocked_of_mem (hc : c ∈ s.calls) (hlocked : c.isLocked = true) : s.isLocked = true :=
  List.any_eq_true.2 ⟨c, hc, hlocked⟩

theorem Sound.begin (h : s.Sound) (hbegins : c.Begins) : Sound { s with calls := s.calls ++ [c] } := by
  have hfree : c.isLocked = false := by
    cases c with
    | listen | stop | send => rfl
    | _ => exact hbegins.elim
  refine ⟨?_, ?_, ?_⟩
  · simpa [List.countP_append, hfree] using h.exclusive
  · intro c' hc'
    refine Stage.withCalls ?_ _
    rcases List.mem_append.1 hc' with hc' | hc'
    · exact h.stages c' hc'
    · rw [List.mem_singleton.1 hc']
      exact stage_of_not_locked s hfree
  · intro hlock
    rw [isLocked_eq_false_iff] at hlock
    refine (h.rests (isLocked_eq_false_iff.2 ?_)).withCalls _
    simpa [List.countP_append, hfree] using hlock

section

variable {front back : List Call}

theorem mem_replaced {c' : Call} (hc' : c' ∈ front ++ next.toList ++ back) :
    c' ∈ next ∨ c' ∈ front ++ c :: back := by
  simp only [List.mem_append, List.mem_cons, Option.mem_toList] at hc' ⊢
  tauto

theorem countP_toList_le_one (next : Option Call) : next.toList.countP Call.isLocked ≤ 1 := by
  cases next with
  | none => exact Nat.zero_le _
  | some c => exact List.countP_le_length

/-- Nobody else holds the lock while a call that holds it goes on. -/
theorem Sound.act_locked (h : s.Sound) (hcalls : s.calls = front ++ c :: back)
    (hlocked : c.isLocked = true) (act : Act s c next t) :
    Sound { t with calls := front ++ next.toList ++ back } := by
  have hexclusive := h.exclusive
  rw [hcalls] at hexclusive
  obtain ⟨hnext, hleaves⟩ := act.of_locked hlocked (h.stages c (by simp [hcalls]))
  have hnobody : front.countP Call.isLocked = 0 ∧ back.countP Call.isLocked = 0 := by
    simp only [List.countP_append, List.countP_cons, hlocked, if_true] at hexclusive
    omega
  refine ⟨?_, ?_, ?_⟩
  · have hone := countP_toList_le_one next
    simp only [List.countP_append]
    omega
  · intro c' hc'
    refine Stage.withCalls ?_ _
    cases hlocked' : c'.isLocked with
    | false => exact stage_of_not_locked t hlocked'
    | true =>
      simp only [List.mem_append, Option.mem_toList] at hc'
      obtain (hc' | hc') | hc' := hc'
      · exact absurd hlocked' (List.countP_eq_zero.1 hnobody.1 c' hc')
      · exact (hnext c' hc').2
      · exact absurd hlocked' (List.countP_eq_zero.1 hnobody.2 c' hc')
  · intro hlock
    refine (hleaves ?_).withCalls _
    cases next with
    | none => rfl
    | some c' =>
      rw [isLocked_of_mem (c := c') (by simp) (hnext c' rfl).1] at hlock
      exact nomatch hlock

/-- A call that does not hold the lock either leaves it alone or takes it while nobody holds it. -/
theorem Sound.act_not_locked (h : s.Sound) (hcalls : s.calls = front ++ c :: back)
    (hlocked : c.isLocked = false) (act : Act s c next t) :
    Sound { t with calls := front ++ next.toList ++ back } := by
  have hexclusive := h.exclusive
  have hfree : s.isLocked = false ↔ (front ++ c :: back).countP Call.isLocked = 0 := by
    rw [isLocked_eq_false_iff, hcalls]
  rw [hcalls] at hexclusive
  simp only [List.countP_append, List.countP_cons, hlocked, Bool.false_eq_true, if_false,
    Nat.add_zero] at hexclusive hfree
  obtain ⟨rfl, hnext | ⟨hunlocked, hnext⟩⟩ := act.of_not_locked hlocked
  · have hnone : next.toList.countP Call.isLocked = 0 := by
      rw [List.countP_eq_zero]
      intro c' hc'
      exact Bool.eq_false_iff.1 (hnext c' (Option.mem_toList.1 hc'))
    refine ⟨?_, ?_, ?_⟩
    · simp only [List.countP_append]
      omega
    · intro c' hc'
      refine Stage.withCalls ?_ _
      obtain hc' | hc' := mem_replaced (c := c) hc'
      · exact stage_of_not_locked t (hnext c' hc')
      · exact h.stages c' (hcalls ▸ hc')
    · intro hlock
      rw [isLocked_eq_false_iff] at hlock
      simp only [List.countP_append] at hlock
      exact (h.rests (hfree.2 (by omega))).withCalls _
  · have hrests := h.rests hunlocked
    have hnobody := hfree.1 hunlocked
    refine ⟨?_, ?_, fun _ => hrests.withCalls _⟩
    · have hone := countP_toList_le_one next
      simp only [List.countP_append]
      omega
    · intro c' hc'
      refine Stage.withCalls ?_ _
      obtain hc' | hc' := mem_replaced (c := c) hc'
      · obtain rfl | rfl := hnext c' hc'
        · exact hrests
        · exact hrests
      · exact h.stages c' (hcalls ▸ hc')

/-- Whoever gives up `stop` leaves a dispatcher that is still being stopped. -/
theorem Sound.giveUp (h : s.Sound) (hcalls : s.calls = front ++ c :: back) (hc : c.CanGiveUp) :
    Sound { s with calls := front ++ back } := by
  have hexclusive := h.exclusive
  have hstage := h.stages c (by simp [hcalls])
  have hothers : ∀ c' ∈ front ++ back, c' ∈ s.calls := by
    intro c' hc'
    rw [hcalls]
    simp only [List.mem_append, List.mem_cons] at hc' ⊢
    tauto
  refine ⟨?_, fun c' hc' => (h.stages c' (hothers c' hc')).withCalls _, ?_⟩
  · rw [hcalls] at hexclusive
    simp only [List.countP_append, List.countP_cons] at hexclusive ⊢
    omega
  · intro hlock
    rw [isLocked_eq_false_iff] at hlock
    refine Rests.withCalls ?_ _
    cases c with
    | stop =>
      refine h.rests (isLocked_eq_false_iff.2 ?_)
      rw [hcalls]
      simpa [List.countP_append, Call.isLocked] using hlock
    | await ds =>
      obtain ⟨hphase, -⟩ := hstage
      refine ⟨fun hidle => ?_, fun hstopped => ?_⟩
      · exact nomatch hphase.symm.trans hidle
      · exact nomatch hphase.symm.trans hstopped
    | _ => exact hc.elim

end

/-- A task that ends has been started, and changes nothing else. -/
theorem Sound.ends {d : Duty} (h : s.Sound) (hrunning : s.progress d = .running)
    (hflag : s.flag = true) :
    Sound { s with progress := fun d' => if d' = d then .ended else s.progress d' } := by
  have hused : ¬s.Unused := fun hunused => nomatch hrunning.symm.trans (hunused.progress d)
  have hrests : s.Rests →
      Rests { s with progress := fun d' => if d' = d then .ended else s.progress d' } := by
    intro hrests
    refine ⟨fun hidle => absurd (hrests.idle hidle) hused, fun hstopped => ?_⟩
    obtain ⟨-, huncollected, hpublished⟩ := hrests.stopped hstopped
    exact ⟨fun _ _ => hflag, huncollected, hpublished⟩
  refine ⟨h.exclusive, fun c hc => ?_, fun hlock => hrests (h.rests hlock)⟩
  have hstage := h.stages c hc
  cases c with
  | inspect | leave => exact hrests hstage
  | bind | spawn => exact absurd hstage.2 hused
  | exit =>
    obtain ⟨hphase, -, huncollected, hpublished⟩ := hstage
    exact ⟨hphase, fun _ _ => hflag, huncollected, hpublished⟩
  | _ => exact hstage

theorem Sound.step (h : s.Sound) (step : Step s e t) : t.Sound := by
  cases step with
  | begin hbegins => exact h.begin hbegins
  | @act _ front back c next hcalls act =>
    cases hlocked : c.isLocked with
    | true => exact h.act_locked hcalls hlocked act
    | false => exact h.act_not_locked hcalls hlocked act
  | giveUp hcalls hc => exact h.giveUp hcalls hc
  | ends hrunning hflag => exact h.ends hrunning hflag

theorem Sound.of_runs (h : s.Sound) (runs : Runs s t) : t.Sound := by
  induction runs with
  | refl => exact h
  | tail _ step ih =>
    obtain ⟨e, step⟩ := step
    exact ih.step step

theorem RunsPatiently.runs (runs : RunsPatiently s t) : Runs s t := by
  refine Relation.ReflTransGen.mono ?_ s t runs
  rintro s t ⟨e, step, -⟩
  exact ⟨e, step⟩

/-! ### A stopped dispatcher -/

theorem Sound.spent (h : s.Sound) (hstopped : s.phase = .stopped) : s.Spent := by
  cases hlock : s.isLocked with
  | false => exact (h.rests hlock).stopped hstopped
  | true =>
    obtain ⟨c, hc, hlocked⟩ := List.any_eq_true.1 hlock
    have hstage := h.stages c hc
    cases c with
    | inspect | leave => exact hstage.stopped hstopped
    | bind | spawn | collect | await | unpublish | exit =>
      exact nomatch hstage.1.symm.trans hstopped
    | publish | enter | signal =>
      have hphase : s.phase = _ := hstage
      exact nomatch hphase.symm.trans hstopped
    | listen | stop | send | write => exact nomatch hlocked

/-- Besides the tasks, only a send that found the socket in time still has it. -/
theorem Sound.socketHeld_iff (h : s.Sound) (hstopped : s.phase = .stopped) :
    s.SocketHeld ↔ s.Active ∨ .write ∈ s.calls := by
  rw [SocketHeld, (h.spent hstopped).published]
  constructor
  · rintro (hpublished | hactive | ⟨c, hc, hholds⟩)
    · exact nomatch hpublished
    · exact .inl hactive
    · cases c with
      | write => exact .inr hc
      | spawn => exact nomatch (h.stages _ hc).1.symm.trans hstopped
      | publish =>
        have hphase : s.phase = .idle := h.stages _ hc
        exact nomatch hphase.symm.trans hstopped
      | _ => exact nomatch hholds
  · rintro (hactive | hwrite)
    · exact .inr (.inl hactive)
    · exact .inr (.inr ⟨.write, hwrite, rfl⟩)

/-- In a stopped dispatcher no call starts anything or finds the socket. -/
theorem Act.of_stopped (act : Act s c next t) (hstage : s.Stage c) (hstopped : s.phase = .stopped)
    (hpublished : s.published = false) : t.phase = .stopped ∧ next.toList.count .write = 0 := by
  cases act with
  | listen | stop | write => exact ⟨hstopped, rfl⟩
  | inspect => exact ⟨hstopped, by rw [hstopped]; rfl⟩
  | leave => exact ⟨if_pos (.inr hstopped), by rw [hstopped]; rfl⟩
  | exit => exact ⟨rfl, rfl⟩
  | send => exact ⟨hstopped, by rw [hpublished]; rfl⟩
  | bind | bindFails | spawn | collect | await | awaited | unpublish =>
    exact nomatch hstage.1.symm.trans hstopped
  | publish | enter | signal =>
    have hphase : s.phase = _ := hstage
    exact nomatch hphase.symm.trans hstopped

/-- A stopped dispatcher stays so, and no other send gets hold of its socket. -/
theorem Sound.stopped_step (h : s.Sound) (hstopped : s.phase = .stopped) (step : Step s e t) :
    t.phase = .stopped ∧ t.calls.count .write ≤ s.calls.count .write := by
  cases step with
  | @begin c hbegins =>
    refine ⟨hstopped, ?_⟩
    have hother : c ≠ .write := by
      rintro rfl
      exact hbegins.elim
    simp [List.count_append, hother]
  | @act _ front back c next hcalls act =>
    have hstage := h.stages c (by simp [hcalls])
    obtain ⟨hphase, hnone⟩ := act.of_stopped hstage hstopped (h.spent hstopped).published
    refine ⟨hphase, ?_⟩
    rw [hcalls]
    simp only [List.count_append, List.count_cons]
    omega
  | @giveUp front back c hcalls hc =>
    refine ⟨hstopped, ?_⟩
    rw [hcalls]
    simp only [List.count_append, List.count_cons]
    omega
  | ends => exact ⟨hstopped, Nat.le_refl _⟩

theorem Sound.stopped_of_runs (h : s.Sound) (hstopped : s.phase = .stopped) (runs : Runs s t) :
    t.phase = .stopped ∧ t.calls.count .write ≤ s.calls.count .write := by
  induction runs with
  | refl => exact ⟨hstopped, Nat.le_refl _⟩
  | tail runs step ih =>
    obtain ⟨e, step⟩ := step
    obtain ⟨hphase, hcount⟩ := (h.of_runs runs).stopped_step ih.1 step
    exact ⟨hphase, Nat.le_trans hcount ih.2⟩

/-! ### Tasks that nobody waits for -/

/-- Whoever stops the dispatcher will wait for each task that is running, or does so already. -/
def Attended (s : Lifecycle) : Prop :=
  ∀ d, s.progress d = .running → d ∈ s.uncollected ∨ ∃ ds, .await ds ∈ s.calls ∧ d ∈ ds

/-- A step of a call keeps a task attended; `elsewhere` says that another call waits for it. -/
theorem Act.attends {d : Duty} (act : Act s c next t) (elsewhere : Prop)
    (hrunning : t.progress d = .running)
    (h : s.progress d = .running →
      d ∈ s.uncollected ∨ (∃ ds, .await ds = c ∧ d ∈ ds) ∨ elsewhere) :
    d ∈ t.uncollected ∨ (∃ ds, .await ds ∈ next ∧ d ∈ ds) ∨ elsewhere := by
  cases act with
  | spawn => cases d <;> simp
  | collect =>
    obtain hd | ⟨ds, hc, -⟩ | helse := h hrunning
    · exact .inr (.inl ⟨_, rfl, hd⟩)
    · exact nomatch hc
    · exact .inr (.inr helse)
  | @await d' ds' hended =>
    obtain hd | ⟨ds, hc, hd⟩ | helse := h hrunning
    · exact .inl hd
    · cases hc
      rcases List.mem_cons.1 hd with rfl | hd
      · exact nomatch hended.symm.trans hrunning
      · exact .inr (.inl ⟨ds', rfl, hd⟩)
    · exact .inr (.inr helse)
  | awaited =>
    obtain hd | ⟨ds, hc, hd⟩ | helse := h hrunning
    · exact .inl hd
    · cases hc
      exact nomatch hd
    · exact .inr (.inr helse)
  | _ =>
    obtain hd | ⟨ds, hc, -⟩ | helse := h hrunning
    · exact .inl hd
    · exact nomatch hc
    · exact .inr (.inr helse)

theorem attended_fresh : fresh.Attended := nofun

theorem Attended.step (h : s.Attended) (step : Step s e t) (hpatient : ¬e.Deserts s) :
    t.Attended := by
  intro d hrunning
  cases step with
  | begin =>
    obtain hd | ⟨ds, hawait, hd⟩ := h d hrunning
    · exact .inl hd
    · exact .inr ⟨ds, List.mem_append_left _ hawait, hd⟩
  | @act _ front back c next hcalls act =>
    have hbefore : s.progress d = .running → d ∈ s.uncollected ∨
        (∃ ds, .await ds = c ∧ d ∈ ds) ∨ ∃ ds, .await ds ∈ front ++ back ∧ d ∈ ds := by
      intro hrunning
      obtain hd | ⟨ds, hawait, hd⟩ := h d hrunning
      · exact .inl hd
      · rw [hcalls, List.mem_append, List.mem_cons] at hawait
        obtain hfront | hc | hback := hawait
        · exact .inr (.inr ⟨ds, List.mem_append_left _ hfront, hd⟩)
        · exact .inr (.inl ⟨ds, hc, hd⟩)
        · exact .inr (.inr ⟨ds, List.mem_append_right _ hback, hd⟩)
    obtain hd | ⟨ds, hnext, hd⟩ | ⟨ds, hother, hd⟩ := act.attends _ hrunning hbefore
    · exact .inl hd
    · exact .inr ⟨ds, by simp [Option.mem_def.1 hnext], hd⟩
    · refine .inr ⟨ds, ?_, hd⟩
      simp only [List.mem_append] at hother ⊢
      tauto
  | @giveUp front back c hcalls hc =>
    obtain hd | ⟨ds, hawait, hd⟩ := h d hrunning
    · exact .inl hd
    · rw [hcalls] at hawait
      refine .inr ⟨ds, ?_, hd⟩
      rcases List.mem_append.1 hawait with hawait | hawait
      · exact List.mem_append_left _ hawait
      · rcases List.mem_cons.1 hawait with rfl | hawait
        · exact absurd ⟨d, hd, hrunning⟩ hpatient
        · exact List.mem_append_right _ hawait
  | @ends d' hrunning' hflag =>
    have hother : d ≠ d' := by
      rintro rfl
      simp at hrunning
    exact h d (by simpa [hother] using hrunning)

theorem not_active_of_attended (h : s.Sound) (hattended : s.Attended)
    (hstopped : s.phase = .stopped) : ¬s.Active := by
  rintro ⟨d, hrunning⟩
  obtain hd | ⟨ds, hawait, -⟩ := hattended d hrunning
  · rw [(h.spent hstopped).uncollected] at hd
    exact nomatch hd
  · exact nomatch (h.stages _ hawait).1.symm.trans hstopped

theorem attended_of_runs (runs : RunsPatiently fresh s) : s.Attended := by
  induction runs with
  | refl => exact attended_fresh
  | tail _ step ih =>
    obtain ⟨e, step, hpatient⟩ := step
    exact ih.step step hpatient

theorem Step.act_last (calls : List Call) (hcalls : s.calls = calls ++ [c])
    (act : Act s c next t) : Step s (.act c) { t with calls := calls ++ next.toList } := by
  have step := Step.act hcalls act
  rwa [List.append_nil] at step

/-- A `stop` that finds no tasks to wait for gets through without waiting. -/
theorem runs_stop (progress : Duty → Progress) (published : Bool) {calls : List Call}
    (hfree : calls.any Call.isLocked = false) :
    RunsPatiently ⟨.draining, true, progress, [], published, calls⟩
      ⟨.stopped, true, progress, [], false, calls⟩ := by
  have hlock : (calls ++ [Call.stop]).any Call.isLocked = false := by
    rw [List.any_append, hfree]
    rfl
  have runs : RunsPatiently ⟨.draining, true, progress, [], published, calls⟩
      ⟨.stopped, true, progress, [], false, calls ++ []⟩ :=
    .head ⟨.begin .stop, .begin trivial, id⟩ <|
      .head ⟨.act .stop, .act_last _ rfl (.stop hlock), id⟩ <|
      .head ⟨.act .leave, .act_last _ rfl .leave, id⟩ <|
      .head ⟨.act .signal, .act_last _ rfl .signal, id⟩ <|
      .head ⟨.act .collect, .act_last _ rfl .collect, id⟩ <|
      .head ⟨.act (.await []), .act_last _ rfl .awaited, id⟩ <|
      .head ⟨.act .unpublish, .act_last _ rfl .unpublish, id⟩ <|
      .head ⟨.act .exit, .act_last _ rfl .exit, id⟩ .refl
  rwa [List.append_nil] at runs

/-- A task that was deserted may still run when the next `stop` says that it is done. -/
theorem Sound.deserted (h : s.Sound) (step : Step s e t) (hdeserts : e.Deserts s) :
    ∃ u, RunsPatiently t u ∧ u.phase = .stopped ∧ u.Active := by
  cases step with
  | begin | act | ends => exact hdeserts.elim
  | @giveUp front back c hcalls hc =>
    cases c with
    | await ds =>
      obtain ⟨d, hd, hrunning⟩ := hdeserts
      obtain ⟨phase, flag, progress, uncollected, published, calls⟩ := s
      change calls = _ at hcalls
      obtain ⟨rfl, rfl, rfl⟩ : phase = .draining ∧ flag = true ∧ uncollected = [] :=
        h.stages (.await ds) (by simp [hcalls])
      have hexclusive := h.exclusive
      have hfree : (front ++ back).any Call.isLocked = false := by
        rw [hcalls] at hexclusive
        rw [List.any_eq_false, ← List.countP_eq_zero]
        simp only [List.countP_append, List.countP_cons, Call.isLocked, if_true] at hexclusive ⊢
        omega
      exact ⟨_, runs_stop progress published hfree, rfl, d, hrunning⟩
    | stop => exact hdeserts.elim
    | _ => exact hc.elim

/-- As long as no caller of `stop` gives up while a task that it waits for is running, no task of a
stopped dispatcher runs; once one does, a task may. Besides the tasks only sends hold the socket of a
stopped dispatcher, and only those that had found it before; a task that runs has been told to end. -/
theorem stopped_drained_iff (runs : RunsPatiently fresh s) (step : Step s e t) :
    ((∀ u, RunsPatiently t u → u.phase = .stopped → ¬u.Active) ↔ ¬e.Deserts s) ∧
      ∀ u, Runs t u → u.phase = .stopped →
        (u.SocketHeld ↔ u.Active ∨ .write ∈ u.calls) ∧ (u.Active → u.flag = true) ∧
        ∀ v, Runs u v → v.phase = .stopped ∧ v.calls.count .write ≤ u.calls.count .write := by
  have hs : s.Sound := sound_fresh.of_runs runs.runs
  have ht : t.Sound := hs.step step
  refine ⟨⟨?_, ?_⟩, ?_⟩
  · intro hdrained hdeserts
    obtain ⟨u, later, hstopped, hactive⟩ := hs.deserted step hdeserts
    exact hdrained u later hstopped hactive
  · intro hpatient u later hstopped
    have hattended : u.Attended :=
      attended_of_runs ((Relation.ReflTransGen.tail runs ⟨e, step, hpatient⟩).trans later)
    exact not_active_of_attended (ht.of_runs later.runs) hattended hstopped
  · intro u later hstopped
    have hu : u.Sound := ht.of_runs later
    refine ⟨hu.socketHeld_iff hstopped, ?_, fun v afterwards => hu.stopped_of_runs hstopped afterwards⟩
    rintro ⟨d, hrunning⟩
    exact (hu.spent hstopped).flag d hrunning

/-- Both tasks are running, and `stop` waits for them. -/
def waiting : Lifecycle :=
  ⟨.draining, true, fun _ => .running, [], true, [.await [.receiving, .dispatching]]⟩

theorem runs_waiting : RunsPatiently fresh waiting :=
  .head ⟨.begin .listen, .begin trivial, id⟩ <|
    .head ⟨.act .listen, .act_last [] rfl (.listen rfl), id⟩ <|
    .head ⟨.act .inspect, .act_last [] rfl .inspect, id⟩ <|
    .head ⟨.act .bind, .act_last [] rfl .bind, id⟩ <|
    .head ⟨.act .spawn, .act_last [] rfl .spawn, id⟩ <|
    .head ⟨.act .publish, .act_last [] rfl .publish, id⟩ <|
    .head ⟨.act .enter, .act_last [] rfl .enter, id⟩ <|
    .head ⟨.begin .stop, .begin trivial, id⟩ <|
    .head ⟨.act .stop, .act_last [] rfl (.stop rfl), id⟩ <|
    .head ⟨.act .leave, .act_last [] rfl .leave, id⟩ <|
    .head ⟨.act .signal, .act_last [] rfl .signal, id⟩ <|
    .head ⟨.act .collect, .act_last [] rfl .collect, id⟩ .refl

/-- While `stop` waits, a task that ends does no harm; a caller that gives up does. -/
theorem stopped_drained_iff_waiting :
    RunsPatiently fresh waiting ∧
      (∃ t, Step waiting (.ends .receiving) t ∧
        ∀ u, RunsPatiently t u → u.phase = .stopped → ¬u.Active) ∧
      ∃ t, Step waiting (.giveUp (.await [.receiving, .dispatching])) t ∧
        ¬∀ u, RunsPatiently t u → u.phase = .stopped → ¬u.Active := by
  have hends : Step waiting (.ends .receiving) _ := .ends rfl rfl
  have hgives : Step waiting (.giveUp (.await [.receiving, .dispatching])) _ :=
    @Step.giveUp waiting [] [] _ rfl trivial
  refine ⟨runs_waiting, ⟨_, hends, ?_⟩, ⟨_, hgives, ?_⟩⟩
  · exact (stopped_drained_iff runs_waiting hends).1.2 id
  · intro hdrained
    exact (stopped_drained_iff runs_waiting hgives).1.1 hdrained ⟨.receiving, by decide, rfl⟩

/-- A caller gives up `stop` while both tasks are running, and the next `stop` returns at once. Or a send
has found the socket when `stop` begins, and has not written when it returns. -/
theorem stopped_not_drained :
    (∃ s, Trace fresh
      [.begin .listen, .act .listen, .act .inspect, .act .bind, .act .spawn, .act .publish,
        .act .enter, .begin .stop, .act .stop, .act .leave, .act .signal, .act .collect,
        .giveUp (.await [.receiving, .dispatching]), .begin .stop, .act .stop, .act .leave,
        .act .signal, .act .collect, .act (.await []), .act .unpublish, .act .exit] s ∧
      s.phase = .stopped ∧ s.calls = [] ∧ (∀ d, s.progress d = .running) ∧ s.SocketHeld) ∧
    ∃ s, Trace fresh
      [.begin .listen, .act .listen, .act .inspect, .act .bind, .act .spawn, .act .publish,
        .act .enter, .begin .send, .act .send, .begin .stop, .act .stop, .act .leave, .act .signal,
        .act .collect, .ends .receiving, .ends .dispatching,
        .act (.await [.receiving, .dispatching]), .act (.await [.dispatching]), .act (.await []),
        .act .unpublish, .act .exit] s ∧
      s.phase = .stopped ∧ s.calls = [.write] ∧ ¬s.Active ∧ s.SocketHeld := by
  constructor
  · refine ⟨_, .cons (.begin trivial) <| .cons (.act_last [] rfl (.listen rfl)) <|
      .cons (.act_last [] rfl .inspect) <| .cons (.act_last [] rfl .bind) <|
      .cons (.act_last [] rfl .spawn) <| .cons (.act_last [] rfl .publish) <|
      .cons (.act_last [] rfl .enter) <| .cons (.begin trivial) <|
      .cons (.act_last [] rfl (.stop rfl)) <| .cons (.act_last [] rfl .leave) <|
      .cons (.act_last [] rfl .signal) <| .cons (.act_last [] rfl .collect) <|
      .cons (@Step.giveUp waiting [] [] _ rfl trivial) <| .cons (.begin trivial) <|
      .cons (.act_last [] rfl (.stop rfl)) <| .cons (.act_last [] rfl .leave) <|
      .cons (.act_last [] rfl .signal) <| .cons (.act_last [] rfl .collect) <|
      .cons (.act_last [] rfl .awaited) <| .cons (.act_last [] rfl .unpublish) <|
      .cons (.act_last [] rfl .exit) .nil, rfl, rfl, fun _ => rfl, .inr (.inl ⟨.receiving, rfl⟩)⟩
  · refine ⟨_, .cons (.begin trivial) <| .cons (.act_last [] rfl (.listen rfl)) <|
      .cons (.act_last [] rfl .inspect) <| .cons (.act_last [] rfl .bind) <|
      .cons (.act_last [] rfl .spawn) <| .cons (.act_last [] rfl .publish) <|
      .cons (.act_last [] rfl .enter) <| .cons (.begin trivial) <|
      .cons (.act_last [] rfl .send) <| .cons (.begin trivial) <|
      .cons (.act_last [.write] rfl (.stop rfl)) <| .cons (.act_last [.write] rfl .leave) <|
      .cons (.act_last [.write] rfl .signal) <| .cons (.act_last [.write] rfl .collect) <|
      .cons (.ends rfl rfl) <| .cons (.ends rfl rfl) <|
      .cons (.act_last [.write] rfl (.await rfl)) <| .cons (.act_last [.write] rfl (.await rfl)) <|
      .cons (.act_last [.write] rfl .awaited) <| .cons (.act_last [.write] rfl .unpublish) <|
      .cons (.act_last [.write] rfl .exit) .nil, rfl, rfl, ?_, .inr (.inr ⟨.write, by simp, rfl⟩)⟩
    rintro ⟨d, hrunning⟩
    cases d <;> exact nomatch hrunning

end MediaSocket.Dispatcher.Lifecycle
